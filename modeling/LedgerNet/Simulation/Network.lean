import LedgerNet.Client

/-!
Whole networks of simulated nodes, and the clients that talk to them.
-/
namespace LedgerNet.Simulation

/-- The account number of the first simulated node; the others follow on. -/
def firstAccount : Nat := 3

def endpoints (name : String) (count : Nat) : List Endpoint :=
  (List.range count).map fun i => .inProcess s!"{name}-{i}"

def register (services : List (Endpoint × Service)) (net : LocalNet) : LocalNet :=
  services.foldl (fun net (e, service) => net.register e.text e.text service) net

def consensusNet (nodes : List (Faults × Chance)) : LocalNet :=
  register (((endpoints "node" nodes.length).zip nodes).zipIdx.map fun ((e, faults, chance), i) =>
    (e, .consensusNode ⟨s!"node-{i}", faults, chance⟩)) {}

/-- A network with `count` simulated nodes in it, which take the places of nodes at the same endpoints. -/
def withNodes (count : Nat) (network : EndpointMap EntityId) : EndpointMap EntityId :=
  (endpoints "node" count).zipIdx.foldl (fun network (e, i) =>
    network.insert e (EntityId.ofNum (UInt64.ofNat (firstAccount + i)))) network

/-- A client of simulated consensus nodes, beside whatever nodes its settings name. -/
def consensusClient (config : Config) (nodes : List (Faults × Chance)) : Except ClientError Client :=
  Client.build { config := { config with network := withNodes nodes.length config.network } } (consensusNet nodes)

def mirrorNet (mirror : Mirror) (count : Nat) : LocalNet :=
  register ((endpoints "mirror" count).map fun e => (e, .mirror mirror)) {}

def mirrorClient (config : Config) (mirror : Mirror) (count : Nat) : Except ClientError Client :=
  Client.build { config := { config with mirrors := (endpoints "mirror" count).map Endpoint.text } }
    (mirrorNet mirror count)

end LedgerNet.Simulation
