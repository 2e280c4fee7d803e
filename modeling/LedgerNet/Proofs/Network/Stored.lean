import LedgerNet.Network.AddressBook
import LedgerNet.Proofs.Endpoint.Order
import LedgerNet.Proofs.Endpoint.Stored
import LedgerNet.Proofs.Wire.Fields

/-! A client's settings and an address book, once accepted, are read back as they were from what is stored of them. -/
namespace LedgerNet

/-- A network that can be stored as a map: its endpoints have texts, and none stands twice. -/
structure EndpointMap.Storable (network : EndpointMap AccountId) : Prop where
  sorted : network.Sorted
  spelled : ∀ p ∈ network, p.1.Spelled

namespace Config

theorem bits32_tree (w : UInt32) : bits32 (Json.Value.int w.toNat).tree = .ok w := by
  simp [bits32, Json.word32_tree, Except.map]

theorem bits64_tree (w : UInt64) : bits64 (Json.Value.int w.toNat).tree = .ok w := by
  simp [bits64, Json.word64_tree, Except.map]

theorem count_tree (w : UInt64) : count (Json.Value.int w.toNat).tree = .ok w := by
  have hsize : Json.size (Json.Value.int w.toNat).tree = .ok w.toNat :=
    Json.natural_tree "usize" (Nat.le_of_lt_succ w.toNat_lt) (Nat.le_refl _)
  simp [count, hsize, Except.map]

theorem networkReading_tree {network : EndpointMap AccountId} (h : network.Storable) :
    networkReading (Json.Value.obj (network.map fun (e, id) => (e.stored, id.toJson))).tree = .ok network := by
  have hentries : Json.entries Endpoint.ofStored EntityId.reading
      (Json.Value.obj (network.map fun (e, id) => (e.stored, id.toJson))).tree = .ok network :=
    Json.entries_tree (fun p hp => Endpoint.ofStored_stored (h.spelled p hp)) (fun p _ => p.2.reading_toJson)
  simp only [networkReading, hentries, Except.map, h.sorted.ofPairs_eq]

theorem storable_of_networkReading {t : Json.Tree} {network : EndpointMap AccountId}
    (h : networkReading t = .ok network) : network.Storable := by
  obtain ⟨pairs, hpairs, rfl⟩ := Json.map_ok h
  refine ⟨EndpointMap.ofPairs_sorted pairs, fun p hp => ?_⟩
  obtain ⟨s, hs⟩ := Json.entries_ok hpairs p (EndpointMap.mem_of_mem_ofPairs pairs p hp)
  exact Endpoint.spelled_of_ofStored hs

/-- Settings are read back from what is stored of them if their network can be stored. -/
theorem reading_toJson {c : Config} (h : c.network.Storable) : layout.read c.toJson.tree = .ok c := by
  have hmirrors : Json.sequence Json.string (Json.Value.arr (c.mirrors.map .str)).tree = .ok c.mirrors :=
    Json.sequence_tree fun s _ => Json.string_tree s
  have hoffered : Json.optional count (.ofOption _ c.maxNodesPerRequest : Json.Value).tree = .ok c.maxNodesPerRequest :=
    Json.optional_ofOption (fun _ h => by cases h) count_tree
  have hvisits : Json.optional count (.ofOption _ c.maxNodeVisits : Json.Value).tree = .ok c.maxNodeVisits :=
    Json.optional_ofOption (fun _ h => by cases h) count_tree
  have hfailures : Json.optional bits32 (.ofOption _ c.maxNodeFailures : Json.Value).tree = .ok c.maxNodeFailures :=
    Json.optional_ofOption (fun _ h => by cases h) bits32_tree
  refine Json.Layout.read_fills (by decide) (.member (Json.Field.read_defaulted (networkReading_tree h)) ?_)
  refine .member (Json.Field.read_defaulted hmirrors) ?_
  refine .member (Json.Field.read_defaulted (v := c.transportSecurity) rfl) ?_
  refine .member (Json.Field.read_defaulted (v := c.verifyCertificates) rfl) ?_
  refine .member (Json.Field.read_defaulted (bits32_tree c.maxAttempts)) ?_
  refine .member (Json.Field.read_defaulted (bits64_tree c.minBackoffMs)) ?_
  refine .member (Json.Field.read_defaulted (bits64_tree c.maxBackoffMs)) ?_
  refine .member (Json.Field.read_defaulted (bits64_tree c.minNodeBackoffMs)) ?_
  refine .member (Json.Field.read_defaulted (bits64_tree c.maxNodeBackoffMs)) ?_
  refine .member (Json.Field.read_defaulted (bits64_tree c.attemptTimeoutMs)) ?_
  refine .member (Json.Field.read_defaulted (bits64_tree c.requestTimeoutMs)) ?_
  refine .member (Json.Field.read_defaulted (bits64_tree c.closeTimeoutMs)) ?_
  refine .member (Json.Field.read_defaulted hoffered) ?_
  refine .member (Json.Field.read_defaulted hvisits) ?_
  refine .member (Json.Field.read_defaulted hfailures) ?_
  refine .member (Json.Field.read_defaulted (bits32_tree c.streamMaxAttempts)) ?_
  exact .member (Json.Field.read_defaulted (bits64_tree c.streamMaxBackoffMs)) (.done rfl)

/-- The first field reads a network that can be stored, and the others leave it. -/
theorem keeps_storable : ∀ field ∈ layout.fields, field.Keeps fun c : Config => c.network.Storable := by
  simp only [layout, List.forall_mem_cons, List.not_mem_nil, false_implies, implies_true, and_true]
  and_intros
  · exact Json.Field.keeps_defaulted fun _ _ hread _ _ => storable_of_networkReading hread
  all_goals exact Json.Field.keeps_defaulted fun _ _ _ _ h => h

theorem ofText_compact {c : Config} (h : c.network.Storable) (hvalid : c.validate = .ok ()) :
    ofText c.toJson.compact = .ok c := by
  simp only [ofText, ofSymbols, Json.readSymbols_compact, reading_toJson h, Except.mapError, bind, Except.bind, hvalid]
  rfl

/-- Settings that were accepted can be stored, and are accepted again. -/
theorem accepted_of_ofText {text : String} {c : Config} (h : ofText text = .ok c) :
    c.network.Storable ∧ c.validate = .ok () := by
  obtain ⟨c', hread, h⟩ := Json.bind_ok h
  obtain ⟨_, hvalid, h⟩ := Json.bind_ok h
  cases h
  obtain ⟨t, ht⟩ := Json.readSymbols_ok (Json.mapError_ok hread)
  have hblank : layout.blank.network.Storable := ⟨List.Pairwise.nil, fun _ hp => nomatch hp⟩
  exact ⟨Json.Layout.read_keeps (P := fun c => c.network.Storable) hblank keeps_storable ht, hvalid⟩

end Config

namespace AddressBookEntry

/-- An entry of which each endpoint has a text. -/
def Spelled (e : AddressBookEntry) : Prop := ∀ endpoint ∈ e.endpoints, endpoint.Spelled

theorem reading_toJson {e : AddressBookEntry} (h : e.Spelled) : reading e.toJson.tree = .ok e := by
  obtain ⟨account, endpoints, hash, description⟩ := e
  have hendpoints := Json.sequence_tree fun endpoint he => Endpoint.reading_toJson (h endpoint he)
  refine Json.Layout.read_fills (by decide) (.member (Json.Field.read_required account.reading_toJson)
    (.member (Json.Field.read_required hendpoints) ?_))
  cases hash with
  | none => exact .leftOut rfl (.member (Json.Field.read_defaulted (Json.string_tree description)) (.done rfl))
  | some s =>
    have hread := Json.optional_tree (t := (Json.Value.str s).tree) (fun h => by cases h) (Json.string_tree s)
    exact .member (Json.Field.read_defaulted hread)
      (.member (Json.Field.read_defaulted (Json.string_tree description)) (.done rfl))

theorem spelled_of_reading {t : Json.Tree} {e : AddressBookEntry} (h : reading t = .ok e) : e.Spelled := by
  have hblank : layout.blank.Spelled := fun _ he => nomatch he
  refine Json.Layout.read_keeps (P := Spelled) hblank ?_ h
  simp only [layout, List.forall_mem_cons, List.not_mem_nil, false_implies, implies_true, and_true]
  and_intros
  · exact Json.Field.keeps_required fun _ _ _ _ h => h
  · refine Json.Field.keeps_required fun _ _ hread _ _ endpoint he => ?_
    obtain ⟨_, ht⟩ := Json.sequence_ok hread endpoint he
    exact Endpoint.spelled_of_reading ht
  · exact Json.Field.keeps_defaulted fun _ _ _ _ h => h
  · exact Json.Field.keeps_defaulted fun _ _ _ _ h => h

end AddressBookEntry

namespace AddressBook

theorem reading_toJson {b : AddressBook} (h : ∀ e ∈ b.nodes, e.Spelled) : layout.read b.toJson.tree = .ok b := by
  have hnodes := Json.sequence_tree fun e he => AddressBookEntry.reading_toJson (h e he)
  exact Json.Layout.read_fills (by decide) (.member (Json.Field.read_required hnodes) (.done rfl))

theorem ofText_pretty {b : AddressBook} (h : ∀ e ∈ b.nodes, e.Spelled) : ofText b.toJson.pretty = .ok b := by
  simp only [ofText, ofSymbols, Json.readSymbols_pretty, reading_toJson h, Except.mapError]

theorem spelled_of_ofText {text : String} {b : AddressBook} (h : ofText text = .ok b) : ∀ e ∈ b.nodes, e.Spelled := by
  obtain ⟨t, ht⟩ := Json.readSymbols_ok (Json.mapError_ok h)
  have hblank : ∀ e ∈ layout.blank.nodes, e.Spelled := fun _ he => nomatch he
  refine Json.Layout.read_keeps (P := fun b => ∀ e ∈ b.nodes, e.Spelled) hblank ?_ ht
  simp only [layout, List.forall_mem_cons, List.not_mem_nil, false_implies, implies_true, and_true]
  refine Json.Field.keeps_required fun _ _ hread _ _ e he => ?_
  obtain ⟨_, ht⟩ := Json.sequence_ok hread e he
  exact AddressBookEntry.spelled_of_reading ht

end AddressBook

/-- What is stored of accepted settings, and of an accepted address book, is accepted and is what it was. -/
theorem stored_reads_back :
    (∀ text c, Config.ofText text = .ok c → Config.ofText c.toJson.compact = .ok c) ∧
    ∀ text b, AddressBook.ofText text = .ok b → AddressBook.ofText b.toJson.pretty = .ok b := by
  refine ⟨fun text c h => ?_, fun text b h => AddressBook.ofText_pretty (AddressBook.spelled_of_ofText h)⟩
  obtain ⟨hnetwork, hvalid⟩ := Config.accepted_of_ofText h
  exact Config.ofText_compact hnetwork hvalid

/-- A demand for TLS, a name with a colon and a quote in it and the largest limit are read back, and so are an entry
without endpoints and with an empty hash, and another one of the same account. -/
theorem corners_read_back :
    let c : Config := {
      network := [(.remote "h" tlsPort true, ⟨0, 0, 3⟩), (.inProcess "a:\"b", ⟨0, 0, 4⟩)]
      maxNodeVisits := some 0xFFFFFFFFFFFFFFFF }
    let b : AddressBook := ⟨[⟨⟨0, 0, 3⟩, [], some "", ""⟩, ⟨⟨0, 0, 3⟩, [.remote "h" 1 false], none, ""⟩]⟩
    Config.ofText c.toJson.compact = .ok c ∧ AddressBook.ofText b.toJson.pretty = .ok b := by
  intro c b
  have hc : Config.ofText "\x7b\"max_node_visits\": 18446744073709551615, \"network\":
      \x7b\"in-process:a:\\\"b\": \"0.0.4\", \"tls://h:50212\": \"0.0.3\"\x7d\x7d" = .ok c :=
    Json.ok_of_toOption (by decide +kernel)
  have hb : AddressBook.ofText "\x7b\"nodes\": [
      \x7b\"node_account_id\": \"0.0.3\", \"endpoints\": [], \"certificate_hash\": \"\"\x7d,
      \x7b\"endpoints\": [\"h:1\"], \"node_account_id\": \"0.0.3\"\x7d]\x7d" = .ok b :=
    Json.ok_of_toOption (by decide +kernel)
  exact ⟨stored_reads_back.1 _ c hc, stored_reads_back.2 _ b hb⟩

end LedgerNet
