import LedgerNet.Endpoint

/-!
Maps from endpoints, kept in the order of their keys.
-/
namespace LedgerNet

/-- What stands at each endpoint, in the order of endpoints. -/
abbrev EndpointMap (α : Type) := List (Endpoint × α)

namespace EndpointMap

variable {α : Type}

/-- Puts a value at an endpoint, in the place of the one that was there. -/
def insert (e : Endpoint) (a : α) : EndpointMap α → EndpointMap α
  | [] => [(e, a)]
  | (e', a') :: rest =>
    match Endpoint.order e e' with
    | .lt => (e, a) :: (e', a') :: rest
    | .eq => (e, a) :: rest
    | .gt => (e', a') :: insert e a rest

/-- The map of some pairs, the last of those with one endpoint winning. -/
def ofPairs (pairs : List (Endpoint × α)) : EndpointMap α :=
  pairs.foldl (fun map pair => insert pair.1 pair.2 map) []

def get? (map : EndpointMap α) (e : Endpoint) : Option α := map.lookup e

end EndpointMap

end LedgerNet
