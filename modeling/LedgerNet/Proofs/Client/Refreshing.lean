import LedgerNet.Proofs.Client.Tame
import LedgerNet.Proofs.Topology.Running

/-!
A refresh from its beginning to its end, when nothing else runs. It brings what its book names; the guard against a
book that would wipe the topology looks at the entries of the book, not at the network that is made of them.
-/
namespace LedgerNet

/-- A book that has entries, and none of them an endpoint. -/
def AddressBook.Hollow (b : AddressBook) : Prop := b.nodes ≠ [] ∧ ∀ e ∈ b.nodes, e.endpoints = []

theorem AddressBook.networkEndpoints_eq_nil {e : AddressBookEntry} : networkEndpoints e = [] ↔ e.endpoints = [] := by
  unfold networkEndpoints
  dsimp only
  split
  · rfl
  · rename_i h
    constructor
    · intro hmap
      rw [List.map_eq_nil_iff.mp hmap] at h
      exact absurd rfl h
    · intro hnil
      rw [hnil] at h
      exact absurd rfl h

/-- The network of a book is empty exactly if no entry has an endpoint. -/
theorem AddressBook.toNetwork_eq_nil {b : AddressBook} : b.toNetwork = [] ↔ ∀ e ∈ b.nodes, e.endpoints = [] := by
  rw [toNetwork, EndpointMap.ofPairs_eq_nil, List.flatMap_eq_nil_iff]
  simp only [List.map_eq_nil_iff, networkEndpoints_eq_nil]

namespace RefreshStep

variable {w w' : World} {phase phase' : RefreshPhase}

/-- No step of a refresh takes the last node but the one that takes a hollow book. -/
theorem nil_iff (h : RefreshStep w phase phase' w') (hn : w.consensus.nodes ≠ []) :
    w'.consensus.nodes = [] ↔ (∃ ends, phase = .fetching ends) ∧ ∃ book, w.fetched = .book book ∧ book.Hollow := by
  cases h with
  | begins => simp [hn]
  | breaks hf ht => simp [ht.same.1, hn, hf]
  | fails why hf ht => simp [ht.same.1, hn, hf]
  | refuses book hf hnil ht => simp [ht.same.1, hn, hf, AddressBook.Hollow, hnil]
  | takes book hf hne hreplace =>
    have hnil := Topology.replace_nil_iff w.consensus book.toNetwork w.now
    rw [hreplace, AddressBook.toNetwork_eq_nil] at hnil
    simp [hnil, hf, AddressBook.Hollow, hne]
  | applies hr happly ht =>
    cases happly
    simp [ht.same.1, hr.same.1, hn]
  | rests => simp [hn]

/-- A step that ends a refresh in an error leaves the topology as it is. -/
theorem error {e : ClientError} (h : RefreshStep w phase (.finished (some (.error e))) w') :
    w'.consensus = w.consensus := by
  cases h with
  | fails why _ ht => exact ht.same.1
  | refuses book _ _ ht => exact ht.same.1
  | rests => rfl

/-- A fetch ends a refresh or goes on to its close. -/
theorem fetched {ends : Instant} (h : RefreshStep w (.fetching ends) phase' w') :
    (∃ result, phase' = .finished result) ∨ ∃ c change book, phase' = .closing c change book := by
  cases h with
  | breaks => exact .inl ⟨_, rfl⟩
  | fails => exact .inl ⟨_, rfl⟩
  | refuses => exact .inl ⟨_, rfl⟩
  | takes => exact .inr ⟨_, _, _, rfl⟩

/-- The close ends a refresh well, and takes no node. -/
theorem closed {c : Closing} {change : NetworkChange} {book : AddressBook}
    (h : RefreshStep w (.closing c change book) phase' w') :
    phase' = .finished (some (.ok change)) ∧ (w'.consensus.nodes = [] ↔ w.consensus.nodes = []) := by
  cases h with
  | applies hr happly ht =>
    cases happly
    exact ⟨rfl, by simp [ht.same.1, hr.same.1]⟩

end RefreshStep

namespace RefreshRun

/-- The next step of a refresh, taken once its wait is over. -/
def turn (run : RefreshRun) (w : World) : RefreshRun × World :=
  run.step { w with net := { w.net with now := max w.now (run.waiting.instant?.getD 0) } }

/-- A turn is a step from the world at that time. -/
theorem turn_cases (run : RefreshRun) (w : World) : RefreshStep
    { w with net := { w.net with now := max w.now (run.waiting.instant?.getD 0) } }
    run.phase (run.turn w).1.phase (run.turn w).2 :=
  run.step_cases _

theorem turn_nil_iff (run : RefreshRun) {w : World} (hn : w.consensus.nodes ≠ []) :
    (run.turn w).2.consensus.nodes = [] ↔
      (∃ ends, run.phase = .fetching ends) ∧ ∃ book, w.fetched = .book book ∧ book.Hollow :=
  (run.turn_cases w).nil_iff hn

/-- A refresh that begins goes on to its fetch. -/
theorem turn_beginning (background : Bool) (w : World) :
    ∃ ends, ((RefreshRun.mk background .beginning).turn w).1.phase = .fetching ends ∧
      ((RefreshRun.mk background .beginning).turn w).2.fetched = w.fetched ∧
      ((RefreshRun.mk background .beginning).turn w).2.consensus = w.consensus := ⟨_, rfl, rfl, rfl⟩

end RefreshRun

namespace System

variable {β : Type}

/-- Nothing runs beside the caller. -/
structure Idle (s : System) : Prop where
  jobs : s.jobs = []
  queue : s.queue = []
  triggered : s.world.triggered = 0

theorem Idle.follow {s : System} (h : s.Idle) {w : World} (hw : w.triggered = 0) :
    s.follow w = { s with world := w } := by
  have hsame : { w with triggered := 0 } = w := by rw [← hw]
  simp [System.follow, hw, hsame, spawnRefreshes, wakeCancelled, h.jobs]

theorem run_step {o : Operation β} {s : System} (ho : o.answer? = none) (hover : o.waiting.isOver s.world.now = true)
    (n : Nat) : run (n + 1) o s = run n (o.step s.world).1 (s.follow (o.step s.world).2) := by
  have hne : ∀ b, o = .finished b → False := by
    rintro b rfl
    cases ho
  rw [run, if_pos hover]
  exact hne

/-- The system when its clock has been moved on. -/
def waited (s : System) (t : Instant) : System :=
  { s with world := { s.world with net := { s.world.net with now := max s.world.now t } } }

/-- When nothing else runs, the clock moves on to what the caller waits for. -/
theorem Idle.advance {s : System} (h : s.Idle) (t : Instant) : s.advance (.time t) = some (s.waited t) := by
  simp [System.advance, waited, timers, Waiting.instant?, h.jobs, h.queue, Nat.max_comm t]

/-- When nothing else runs, an operation is taken up again as soon as its wait is over. -/
theorem Idle.run_resume {o : Operation β} {s : System} (h : s.Idle) (ho : o.answer? = none)
    (hwait : o.waiting ≠ .forever) {fuel : Nat} (hfuel : 2 ≤ fuel) :
    ∃ left, fuel ≤ left + 2 ∧ run fuel o s =
      run left (Operation.resume (o, s.world)).1 (s.follow (Operation.resume (o, s.world)).2) := by
  obtain ⟨n, rfl⟩ := Nat.exists_eq_add_of_le' hfuel
  by_cases hover : o.waiting.isOver s.world.now = true
  -- The clock is past the wait already, and the step taken now is the one that would be taken after it.
  · have hnow : max s.world.now (o.waiting.instant?.getD 0) = s.world.now := by
      cases hw : o.waiting with
      | nothing => exact Nat.max_eq_left (Nat.zero_le _)
      | time t =>
        rw [hw] at hover
        exact Nat.max_eq_left (of_decide_eq_true hover)
      | forever => exact absurd hw hwait
    refine ⟨n + 1, by omega, ?_⟩
    rw [run_step ho hover, Operation.resume]
    dsimp only
    rw [hnow]
    rfl
  · cases hw : o.waiting with
    | nothing => exact absurd (by rw [hw]; rfl) hover
    | forever => exact absurd hw hwait
    | time t =>
      have hne : ∀ b, o = .finished b → False := by
        rintro b rfl
        cases ho
      have hwaited : run (n + 2) o s = run (n + 1) o (s.waited t) := by
        rw [run, if_neg hover]
        · simp only [h.queue, hw, h.advance]
        · exact hne
      have hover' : o.waiting.isOver (s.waited t).world.now = true := by
        rw [hw]
        exact decide_eq_true (Nat.le_max_right _ _)
      refine ⟨n, Nat.le_refl _, ?_⟩
      rw [hwaited, run_step ho hover', Operation.resume, hw]
      rfl

variable (answer : Option (Except ClientError NetworkChange) → β)

/-- A refresh that the caller of an idle system waits for takes one turn after the other. -/
theorem Idle.run_turn {s : System} (h : s.Idle) {run : RefreshRun} (hf : run.isFinished = false) {fuel : Nat}
    (hfuel : 2 ≤ fuel) :
    Idle { s with world := (run.turn s.world).2 } ∧
    ∃ left, fuel ≤ left + 2 ∧ System.run fuel (.refresh run answer) s =
      System.run left (.refresh (run.turn s.world).1 answer) { s with world := (run.turn s.world).2 } := by
  have ht : (run.turn s.world).2.triggered = 0 := (run.turn_cases s.world).same.2.2.trans h.triggered
  have hwaiting : (Operation.refresh run answer).waiting = run.waiting := by simp [Operation.waiting, hf]
  have hresume : Operation.resume (.refresh run answer, s.world) =
      (.refresh (run.turn s.world).1 answer, (run.turn s.world).2) := by
    rw [Operation.resume, hwaiting]
    cases hp : run.phase with
    | finished result => simp [RefreshRun.isFinished, hp] at hf
    | _ => simp only [Operation.step, hp]; rfl
  have hwait : run.waiting ≠ .forever := by
    cases hp : run.phase with
    | finished result => simp [RefreshRun.isFinished, hp] at hf
    | _ => simp [RefreshRun.waiting, hp]
  obtain ⟨left, hleft, heq⟩ := h.run_resume (o := .refresh run answer) rfl (hwaiting ▸ hwait) hfuel
  rw [hresume, h.follow ht] at heq
  exact ⟨⟨h.jobs, h.queue, ht⟩, left, hleft, heq⟩

theorem Idle.run_finished {s : System} (h : s.Idle) {run : RefreshRun}
    {result : Option (Except ClientError NetworkChange)} (hp : run.phase = .finished result) {fuel : Nat}
    (hfuel : 2 ≤ fuel) : System.run fuel (.refresh run answer) s = (.finished (answer result), s) := by
  obtain ⟨n, rfl⟩ := Nat.exists_eq_add_of_le' hfuel
  have hfinished : run.isFinished = true := by simp [RefreshRun.isFinished, hp]
  rw [run_step rfl (by simp [Operation.waiting, hfinished, Waiting.isOver])]
  simp only [Operation.step, hp, h.follow h.triggered]
  rfl

/-- From its fetch on, a refresh of an idle system comes to its end. -/
theorem Idle.run_fetching {s : System} (h : s.Idle) (hn : s.world.consensus.nodes ≠ []) {run : RefreshRun}
    {ends : Instant} (hp : run.phase = .fetching ends) {fuel : Nat} (hfuel : 6 ≤ fuel) :
    ∃ result w', System.run fuel (.refresh run answer) s = (.finished (answer result), { s with world := w' }) ∧
      (w'.consensus.nodes = [] ↔ ∃ book, s.world.fetched = .book book ∧ book.Hollow) ∧
      ∀ e, result = some (.error e) → w'.consensus = s.world.consensus := by
  have hfetch : 2 ≤ fuel := by omega
  have hopen : run.isFinished = false := by simp [RefreshRun.isFinished, hp]
  obtain ⟨hidle, left, hleft, hturn⟩ := h.run_turn answer hopen hfetch
  have hnext : 2 ≤ left := by omega
  have hnil : (run.turn s.world).2.consensus.nodes = [] ↔ ∃ book, s.world.fetched = .book book ∧ book.Hollow :=
    (run.turn_nil_iff hn).trans ⟨fun h => h.2, fun h => ⟨⟨ends, hp⟩, h⟩⟩
  rw [hturn]
  rcases (hp ▸ run.turn_cases s.world).fetched with ⟨result, hresult⟩ | ⟨c, change, book, hclosing⟩
  · refine ⟨result, _, hidle.run_finished answer hresult hnext, hnil, ?_⟩
    rintro e rfl
    exact (hresult ▸ run.turn_cases s.world).error
  · have hopen' : (run.turn s.world).1.isFinished = false := by simp [RefreshRun.isFinished, hclosing]
    obtain ⟨hidle', last, hlast, hturn'⟩ := hidle.run_turn answer hopen' hnext
    have hend : 2 ≤ last := by omega
    obtain ⟨hresult, hsame⟩ := (hclosing ▸ RefreshRun.turn_cases _ (run.turn s.world).2).closed
    rw [hturn']
    refine ⟨_, _, hidle'.run_finished answer hresult hend, hsame.trans hnil, ?_⟩
    intro e he
    cases he

/-- A refresh that the caller of a system waits for. -/
def refresh (s : System) : Option (Option (Except ClientError NetworkChange)) × System :=
  s.carryOut fun w => (.refresh { background := false } id, w)

/-- A refresh of an idle system first takes the turn that leads to its fetch. -/
theorem Idle.refresh_begun {s : System} (h : s.Idle) :
    Idle { s with world := ((RefreshRun.mk false .beginning).turn s.world).2 } ∧ ∃ fuel, 6 ≤ fuel ∧ ∀ result s',
      System.run fuel (.refresh ((RefreshRun.mk false .beginning).turn s.world).1 id)
        { s with world := ((RefreshRun.mk false .beginning).turn s.world).2 } = (.finished result, s') →
      s.refresh = (some result, s') := by
  -- Of the limit only this bound matters: two steps for each turn, and two for the answer.
  obtain ⟨fuel, hfuel, hlimit⟩ : ∃ fuel, 8 ≤ fuel ∧ stepLimit = fuel := ⟨stepLimit, by decide, rfl⟩
  have hbegin : 2 ≤ fuel := by omega
  have hopen : (RefreshRun.mk false .beginning).isFinished = false := rfl
  obtain ⟨hidle, left, hleft, hturn⟩ := h.run_turn id hopen hbegin
  refine ⟨hidle, left, by omega, fun result s' hend => ?_⟩
  rw [System.refresh, carryOut, hlimit]
  dsimp only
  rw [h.follow h.triggered, hturn, hend]
  rfl

/-- A refresh of an idle system comes to its end. -/
theorem Idle.refresh_ends {s : System} (h : s.Idle) (hn : s.world.consensus.nodes ≠ []) :
    ∃ result w', s.refresh = (some result, { s with world := w' }) ∧
      (w'.consensus.nodes = [] ↔ ∃ book, s.world.fetched = .book book ∧ book.Hollow) ∧
      ∀ e, result = some (.error e) → w'.consensus = s.world.consensus := by
  obtain ⟨hidle, fuel, hfuel, hrefresh⟩ := h.refresh_begun
  obtain ⟨ends, hphase, hfetched, hsame⟩ := RefreshRun.turn_beginning false s.world
  rw [← hsame] at hn
  obtain ⟨result, w', hend, hnil, herror⟩ := hidle.run_fetching id hn hphase hfuel
  exact ⟨result, w', hrefresh _ _ hend, hfetched ▸ hnil, fun e he => (herror e he).trans hsame⟩

/-- A refresh of an idle system that has nodes comes to its end and leaves it some exactly if it is not given a hollow
book, and with an error it leaves the topology as it was. Whatever else runs, each step of each refresh takes the last
node only with a hollow book, and none that ends it in an error changes anything. -/
theorem refresh_keeps_nodes_iff {s : System} (h : s.Idle) (hn : s.world.consensus.nodes ≠ []) :
    (∃ result w', s.refresh = (some result, { s with world := w' }) ∧
      (w'.consensus.nodes ≠ [] ↔ ∀ book, s.world.fetched = .book book → ¬ book.Hollow) ∧
      ∀ e, result = some (.error e) → w'.consensus = s.world.consensus) ∧
    ∀ (run : RefreshRun) (w : World),
      (w.consensus.nodes ≠ [] → ((run.step w).2.consensus.nodes = [] ↔
        (∃ ends, run.phase = .fetching ends) ∧ ∃ book, w.fetched = .book book ∧ book.Hollow)) ∧
      ∀ e, (run.step w).1.phase = .finished (some (.error e)) → (run.step w).2.consensus = w.consensus := by
  obtain ⟨result, w', hend, hnil, herror⟩ := h.refresh_ends hn
  refine ⟨⟨result, w', hend, ?_, herror⟩, fun run w => ⟨(run.step_cases w).nil_iff, ?_⟩⟩
  · rw [Ne, hnil, not_exists]
    simp only [not_and]
  · intro e he
    exact (he ▸ run.step_cases w).error

/-- An idle system with one node, whose source of address books answers with the book. -/
def offered (book : AddressBook) : System where
  world := {
    net := {}
    consensus := (Topology.empty {}).after [({}, .replace [(.remote "n" plainPort false, ⟨0, 0, 3⟩)])]
    mirror := Topology.empty {}
    source := some { answers := [.book book] } }

theorem offered_idle (book : AddressBook) : (offered book).Idle := ⟨rfl, rfl, rfl⟩

theorem offered_nodes (book : AddressBook) : (offered book).world.consensus.nodes ≠ [] := by
  rw [Ne, ← List.map_eq_nil_iff (f := (·.endpoint))]
  have hends : (offered book).world.consensus.nodes.map (·.endpoint) = [.remote "n" plainPort false] := by cbv
  simp [hends]

/-- One entry without endpoints does no harm beside another that has one. -/
theorem refresh_keeps_nodes_partlyHollow :
    let s := offered { nodes := [{ account := ⟨0, 0, 5⟩, endpoints := [] },
      { account := ⟨0, 0, 6⟩, endpoints := [.remote "new" plainPort false] }] }
    s.Idle ∧ s.world.consensus.nodes ≠ [] ∧
      ∃ result w', s.refresh = (some result, { s with world := w' }) ∧ w'.consensus.nodes ≠ [] := by
  intro s
  have hidle : s.Idle := offered_idle _
  have hn : s.world.consensus.nodes ≠ [] := offered_nodes _
  obtain ⟨⟨result, w', hend, hkeeps, -⟩, -⟩ := refresh_keeps_nodes_iff hidle hn
  refine ⟨hidle, hn, result, w', hend, hkeeps.mpr ?_⟩
  rintro book hf ⟨-, hollow⟩
  cases hf
  simp at hollow

/-- A book of entries without endpoints wipes the topology, and is not refused. -/
theorem refresh_wipes_nodes :
    let s := offered { nodes := [{ account := ⟨0, 0, 5⟩, endpoints := [] }] }
    s.Idle ∧ s.world.consensus.nodes ≠ [] ∧
      ∃ result w', s.refresh = (some result, { s with world := w' }) ∧ w'.consensus.nodes = [] ∧
        ∀ e, result ≠ some (.error e) := by
  intro s
  have hidle : s.Idle := offered_idle _
  have hn : s.world.consensus.nodes ≠ [] := offered_nodes _
  obtain ⟨result, w', hend, hnil, herror⟩ := hidle.refresh_ends hn
  have hwiped : w'.consensus.nodes = [] := hnil.mpr ⟨_, rfl, by simp, by simp⟩
  refine ⟨hidle, hn, result, w', hend, hwiped, fun e he => hn ?_⟩
  rw [← herror e he]
  exact hwiped

end System

end LedgerNet
