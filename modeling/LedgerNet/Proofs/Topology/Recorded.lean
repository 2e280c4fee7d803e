import Mathlib
import LedgerNet.Proofs.Topology.Suited

/-!
What a topology has on record of each account: the last entry that an address book gave for it, with the last
certificate hash that any gave. Nodes come and go, and whenever one is there it has what is on record.
-/
namespace LedgerNet

namespace AddressBookEntry

/-- The certificate hash of an entry that has one. -/
def knownHash? (e : AddressBookEntry) : Option String := e.certificateHash.filter (!·.isEmpty)

/-- An entry as it is taken on record beside what was known before. -/
def merge (known : Option AddressBookEntry) (e : AddressBookEntry) : AddressBookEntry :=
  match known with
  | some previous => e.inherit previous
  | none => e

/-- What is on record once some entries for one account came in, one after the other: the last of them, with the last
hash that any of them had. -/
def recorded (entries : List AddressBookEntry) : Option AddressBookEntry :=
  entries.getLast?.map fun last =>
    { last with certificateHash := (entries.filterMap knownHash?).getLast?.or last.certificateHash }

theorem knownHash_some {e : AddressBookEntry} {hash : String} (h : e.knownHash? = some hash) :
    e.certificateHash = some hash := (Option.filter_eq_some_iff.mp h).1

theorem with_known {e : AddressBookEntry} {hash : String} (h : e.knownHash? = some hash) :
    { e with certificateHash := some hash } = e := by
  rw [← knownHash_some h]

theorem inherit_eq (e previous : AddressBookEntry) : e.inherit previous =
    { e with certificateHash := (e.knownHash?.or previous.knownHash?).or e.certificateHash } := by
  have hhas (e : AddressBookEntry) : e.hasHash = e.knownHash?.isSome := by
    cases hc : e.certificateHash <;> simp [hasHash, knownHash?, hc]
  rw [inherit, hhas, hhas]
  cases he : e.knownHash? with
  | some hash => simp [with_known he]
  | none =>
    cases hp : previous.knownHash? with
    | some hash => simp [knownHash_some hp]
    | none => simp

/-- A hash that an entry on record has is the last that came in. -/
theorem knownHash_recorded (entries : List AddressBookEntry) :
    (recorded entries).bind knownHash? = (entries.filterMap knownHash?).getLast? := by
  induction entries using List.reverseRecOn with
  | nil => rfl
  | append_singleton earlier last _ =>
    simp only [recorded, List.getLast?_concat, Option.map_some, Option.bind_some]
    cases hlast : ((earlier ++ [last]).filterMap knownHash?).getLast? with
    | some hash =>
      obtain ⟨e, -, he⟩ := List.mem_filterMap.mp (List.mem_of_getLast? hlast)
      have hcertificate := knownHash_some he
      simpa [knownHash?, hcertificate] using he
    | none =>
      have hnone := List.filterMap_eq_nil_iff.mp (List.getLast?_eq_none_iff.mp hlast) last (by simp)
      simpa [knownHash?] using hnone

theorem recorded_concat (earlier : List AddressBookEntry) (e : AddressBookEntry) :
    recorded (earlier ++ [e]) = some (merge (recorded earlier) e) := by
  have hlast : recorded (earlier ++ [e]) = some { e with
      certificateHash := (e.knownHash?.or ((recorded earlier).bind knownHash?)).or e.certificateHash } := by
    rw [knownHash_recorded, recorded, List.getLast?_concat, List.filterMap_append]
    cases he : e.knownHash? with
    | some hash => simp [he]
    | none => simp [he]
  rw [hlast]
  cases recorded earlier with
  | some previous => simp only [merge, inherit_eq, Option.bind_some]
  | none =>
    cases he : e.knownHash? with
    | some hash => simp [merge, with_known he]
    | none => simp [merge]

theorem foldl_merge (earlier entries : List AddressBookEntry) :
    entries.foldl (fun known e => some (merge known e)) (recorded earlier) = recorded (earlier ++ entries) := by
  induction entries generalizing earlier with
  | nil => rw [List.append_nil]; rfl
  | cons e rest ih =>
    rw [List.foldl_cons, ← recorded_concat, ih, List.append_assoc]
    rfl

/-- Beside an entry that is on record already, others go on record one by one. -/
theorem recorded_cons (first : AddressBookEntry) (entries : List AddressBookEntry) :
    recorded (first :: entries) = some (entries.foldl (fun known e => e.inherit known) first) := by
  induction entries using List.reverseRecOn with
  | nil => exact recorded_concat [] first
  | append_singleton earlier last ih =>
    rw [← List.cons_append, recorded_concat, ih, List.foldl_concat]
    rfl

/-- Entries that come in once more change nothing. -/
theorem recorded_again (earlier entries : List AddressBookEntry) :
    recorded (earlier ++ entries ++ entries) = recorded (earlier ++ entries) := by
  have hlast {α : Type} (a b : List α) : (a ++ b ++ b).getLast? = (a ++ b).getLast? := by
    simp only [List.getLast?_append, ← Option.or_assoc, Option.or_self]
  simp only [recorded, List.filterMap_append, hlast]

end AddressBookEntry

namespace Topology
open AddressBookEntry

/-- The count that an operation asks to be offered. -/
def Op.count? : {κ : Type} → Op κ → Option (Option Nat)
  | _, .maxNodes count => some count
  | _, _ => none

/-- The entries of the address book that an operation applies. -/
def Op.entries : {κ : Type} → Op κ → List AddressBookEntry
  | _, .book fetched => fetched.nodes
  | _, _ => []

/-- How many identities are to be offered after some operations: as many as was last said. -/
def countInForce {κ : Type} (o : TopologyOptions) (history : History κ) : Option Nat :=
  (history.findSome? fun move => move.2.count?).getD o.maxNodes

/-- The entries that the address books of a history give for an account, in the order in which they came. -/
def supplied (history : History AccountId) (id : AccountId) : List AddressBookEntry :=
  (history.reverse.flatMap fun move => move.2.entries).filter (·.account == id)

section Told

variable {κ : Type} [DecidableEq κ] [Identity κ]

/-- A topology keeps what it was told until it is told otherwise. -/
theorem told (op : Op κ) (net : LocalNet) (t : Topology κ) :
    (op.after net t).maxNodes = op.count?.getD t.maxNodes ∧ (op.entries = [] → (op.after net t).book = t.book) := by
  cases op with
  | replace network => simp [Op.after, replace_eq, enter_all, Op.count?]
  | security secure =>
    by_cases hm : t.secure = secure <;> simp [Op.after, switchSecurity, hm, moveAll, Op.count?]
  | verify wanted =>
    by_cases hm : t.verify = wanted <;> simp [Op.after, switchVerify, hm, moveAll, Op.count?]
  | lease id =>
    simp only [Op.after, Topology.lease]
    split <;> exact ⟨rfl, fun _ => rfl⟩
  | leaseNext =>
    simp only [Op.after, leaseNext]
    split
    · exact ⟨rfl, fun _ => rfl⟩
    · split <;> exact ⟨rfl, fun _ => rfl⟩
  | fail endpoint =>
    simp only [Op.after, markFailure]
    split
    · exact ⟨rfl, fun _ => rfl⟩
    · split <;> exact ⟨rfl, fun _ => rfl⟩
  | book fetched =>
    refine ⟨rfl, fun h => ?_⟩
    have hnone : fetched.nodes = [] := h
    simp [Op.after, applyBook, hnone]
  | succeed | clear | maxNodes | ledger => exact ⟨rfl, fun _ => rfl⟩

theorem maxNodes_after (o : TopologyOptions) (history : History κ) :
    ((empty o).after history).maxNodes = countInForce o history := by
  induction history with
  | nil => rfl
  | cons move past ih =>
    obtain ⟨net, op⟩ := move
    rw [after, (told op net _).1, ih, countInForce, countInForce, List.findSome?_cons]
    cases op.count? <;> rfl

variable {t t' : Topology κ}

/-- Every node has what is on record of its identity. -/
def Noted (t : Topology κ) : Prop := ∀ n ∈ t.nodes, n.entry = t.entryOf? n.id

omit [Identity κ] in
/-- Every node goes on with what it had, or begins with what is on record. -/
theorem Noted.of_pairs (h : t.Noted) (hb : t'.book = t.book)
    (hp : ∀ p ∈ t'.nodes.map fun n => (n.id, n.entry),
      p ∈ (t.nodes.map fun n => (n.id, n.entry)) ∨ p.2 = t.entryOf? p.1) : t'.Noted := by
  intro n hn
  have hsame : t'.entryOf? n.id = t.entryOf? n.id := by rw [entryOf?, entryOf?, hb]
  rw [hsame]
  rcases hp _ (List.mem_map_of_mem hn) with hold | hnew
  · obtain ⟨m, hm, heq⟩ := List.mem_map.mp hold
    obtain ⟨hid, hentry⟩ := Prod.mk.injEq .. ▸ heq
    rw [← hid, ← hentry]
    exact h m hm
  · exact hnew

omit [Identity κ] in
theorem Noted.of_same (h : t.Noted) (hb : t'.book = t.book)
    (hp : (t'.nodes.map fun n => (n.id, n.entry)) = t.nodes.map fun n => (n.id, n.entry)) : t'.Noted :=
  h.of_pairs hb fun _ hmem => .inl (hp ▸ hmem)

omit [Identity κ] in
theorem Noted.leases (h : t.Noted) (hs : t.Settled) {net net' : LocalNet} (hl : Leases t net t' net') : t'.Noted := by
  cases hl with
  | same turn eq channels =>
    subst eq
    exact h
  | opens turn n mem idle eq channels =>
    subst eq
    exact h.of_same rfl (hs.map_replace _ mem rfl rfl)

omit [Identity κ] in
theorem Noted.fails (h : t.Noted) {net net' : LocalNet} {retired : List ChannelId} (hf : Fails t net retired t' net') :
    t'.Noted := by
  cases hf with
  | unknown eq none same =>
    subst eq
    exact h
  | benched before after n health nodes few eq none same =>
    subst eq
    exact h.of_same rfl (by simp [nodes])
  | removed before after n nodes eq channel same =>
    subst eq
    refine h.of_pairs rfl fun p hp => .inl ?_
    have hsub : (before ++ after).Sublist t.nodes := nodes ▸ (List.sublist_cons_self n after).append_left before
    exact (hsub.map _).subset hp

theorem Noted.after_op (h : t.Noted) (hs : t.Settled) (op : Op κ) (net : LocalNet) : (op.after net t).Noted := by
  have hb := (told op net t).2
  cases op with
  | replace network =>
    refine h.of_pairs (hb rfl) ?_
    simp only [Op.after, replace_eq, enter_all, List.map_append, List.mem_append]
    rintro p (hkept | hnew)
    · exact .inl ((List.filter_sublist.map _).subset hkept)
    · obtain ⟨n, hn, rfl⟩ := List.mem_map.mp hnew
      obtain ⟨⟨pair, seq⟩, -, rfl⟩ := List.mem_map.mp hn
      exact .inr rfl
  | security secure =>
    refine h.of_same (hb rfl) ?_
    by_cases hm : t.secure = secure <;> simp [Op.after, switchSecurity, hm, moveAll, Node.moved]
  | verify wanted =>
    refine h.of_same (hb rfl) ?_
    by_cases hm : t.verify = wanted <;> simp [Op.after, switchVerify, hm, moveAll, Node.moved]
  | lease id => exact h.leases hs (hs.leases id net)
  | leaseNext => exact h.leases hs (hs.leases_next net)
  | succeed endpoint => exact h.of_same rfl (map_updateAt _ (by intro n; rfl) _ _)
  | fail endpoint => exact h.fails (Topology.fails t endpoint net)
  | clear => exact fun n hn => (List.not_mem_nil hn).elim
  | maxNodes count => exact h
  | ledger known => exact h
  | book fetched =>
    rename_i decides _
    obtain rfl : decides = instDecidableEqEntityId := Subsingleton.elim _ _
    intro n hn
    obtain ⟨m, hm, rfl⟩ := List.mem_map.mp hn
    exact entry_recorded _ (h m hm)

theorem noted_after (o : TopologyOptions) (history : History κ) : ((empty o).after history).Noted := by
  have hnew : (empty o : Topology κ).Settled ∧ (empty o : Topology κ).Noted :=
    ⟨settled_after o [], fun _ hn => (List.not_mem_nil hn).elim⟩
  have hstep (t : Topology κ) (op : Op κ) (net : LocalNet) (h : t.Settled ∧ t.Noted) :
      (op.after net t).Settled ∧ (op.after net t).Noted :=
    ⟨h.1.after_op op net, h.2.after_op h.1 op net⟩
  exact (after_induction hstep hnew history).2

end Told

variable {book : List (AccountId × AddressBookEntry)} {id : AccountId}

theorem lookup_recordEntry (e : AddressBookEntry) : (recordEntry book e).lookup id =
    if id = e.account then some (merge (book.lookup id) e) else book.lookup id := by
  rw [recordEntry, lookup_putEntry]
  split
  · rename_i h
    subst h
    rfl
  · rfl

/-- Of an account there is on record what its own entries make of it. -/
theorem lookup_record (entries : List AddressBookEntry) : (entries.foldl recordEntry book).lookup id =
    (entries.filter (·.account == id)).foldl (fun known e => some (merge known e)) (book.lookup id) := by
  induction entries generalizing book with
  | nil => rfl
  | cons e rest ih =>
    rw [List.foldl_cons, ih, lookup_recordEntry]
    by_cases h : id = e.account
    · simp [h]
    · simp [h, Ne.symm h]

theorem recordEntry_cons (id : AccountId) (known e : AddressBookEntry) (rest : List (AccountId × AddressBookEntry)) :
    recordEntry ((id, known) :: rest) e =
      if e.account = id then (id, e.inherit known) :: rest else (id, known) :: recordEntry rest e := by
  by_cases h : e.account = id
  · subst h
    simp [recordEntry, putEntry]
  · have hother : (id == e.account) = false := beq_eq_false_iff_ne.mpr (Ne.symm h)
    simp [recordEntry, putEntry, List.lookup_cons, h, hother, beq_eq_false_iff_ne.mpr h]

/-- Entries go on record each in the place of its account. -/
theorem record_cons (id : AccountId) (known : AddressBookEntry) (rest : List (AccountId × AddressBookEntry))
    (entries : List AddressBookEntry) : entries.foldl recordEntry ((id, known) :: rest) =
      (id, (entries.filter (·.account == id)).foldl (fun known e => e.inherit known) known) ::
        (entries.filter (·.account != id)).foldl recordEntry rest := by
  induction entries generalizing known rest with
  | nil => rfl
  | cons e later ih =>
    rw [List.foldl_cons, recordEntry_cons]
    split
    · rename_i h
      simp [ih, h]
    · rename_i h
      simp [ih, h]

/-- Entries that are recorded once more leave the record as it is. -/
theorem record_again : ∀ (entries : List AddressBookEntry) (book : List (AccountId × AddressBookEntry)),
    entries.foldl recordEntry (entries.foldl recordEntry book) = entries.foldl recordEntry book
  | entries, (id, known) :: rest => by
    have hone := recorded_again [known] (entries.filter (·.account == id))
    rw [List.singleton_append, List.cons_append, recorded_cons, recorded_cons, List.foldl_append] at hone
    rw [record_cons, record_cons, Option.some.inj hone, record_again (entries.filter (·.account != id)) rest]
  | [], [] => rfl
  | e :: later, [] => by
    have hone := recorded_again [] (e :: later.filter (·.account == e.account))
    rw [List.nil_append, List.cons_append, recorded_cons, recorded_cons, List.foldl_append] at hone
    have hbegin : (e :: later).foldl recordEntry [] = later.foldl recordEntry [(e.account, e)] := rfl
    have hself : (e :: later).filter (·.account == e.account) = e :: later.filter (·.account == e.account) := by simp
    have hothers : (e :: later).filter (·.account != e.account) = later.filter (·.account != e.account) := by simp
    rw [hbegin, record_cons, record_cons, hself, hothers, Option.some.inj hone,
      record_again (later.filter (·.account != e.account)) []]
termination_by entries book => (book.length, entries.length)
decreasing_by
  · exact Prod.Lex.left _ _ (Nat.lt_succ_self _)
  · exact Prod.Lex.right _ (Nat.lt_succ_of_le (List.length_filter_le _ _))

theorem book_op (op : Op AccountId) (net : LocalNet) (t : Topology AccountId) :
    (op.after net t).book = op.entries.foldl recordEntry t.book := by
  have hkeeps := (told op net t).2
  cases op with
  | book fetched => rfl
  | _ => exact hkeeps rfl

theorem supplied_cons (move : LocalNet × Op AccountId) (past : History AccountId) :
    supplied (move :: past) id = supplied past id ++ move.2.entries.filter (·.account == id) := by
  simp [supplied]

theorem entry_after (o : TopologyOptions) (history : History AccountId) :
    entryOf? ((empty o).after history) id = recorded (supplied history id) := by
  induction history with
  | nil => rfl
  | cons move past ih =>
    rw [entryOf?] at ih ⊢
    rw [after, book_op, lookup_record, ih, foldl_merge, supplied_cons]

/-- Whatever was done to a topology, of each account the last entry that came in is on record, with the last hash that
any came in with; every node of the account has that entry; and a book changes nothing of an account that it does not
name. -/
theorem records_last (o : TopologyOptions) (history : History AccountId) :
    let t := (empty o).after history
    (∀ id, t.entryOf? id = recorded (supplied history id)) ∧
    (∀ n ∈ t.nodes, n.entry = recorded (supplied history n.id)) ∧
    ∀ (fetched : AddressBook) (net : LocalNet) (id : AccountId), (∀ e ∈ fetched.nodes, e.account ≠ id) →
      entryOf? ((Op.book fetched).after net t) id = t.entryOf? id := by
  intro t
  refine ⟨fun id => entry_after o history, ?_, ?_⟩
  · intro n hn
    rw [noted_after o history n hn, entry_after]
  · intro fetched net id habsent
    have hnone : fetched.nodes.filter (·.account == id) = [] := by simpa using habsent
    rw [entryOf?, book_op, lookup_record]
    change (fetched.nodes.filter (·.account == id)).foldl _ _ = _
    rw [hnone]
    rfl

end Topology

end LedgerNet
