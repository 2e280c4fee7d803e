import LedgerNet.Proofs.Client.Scene

/-!
What the close of a client settles. It forgets all nodes, and nothing that was under way can do without one: what
goes on afterwards opens no channel and sends nothing. Only a refresh of the address book can still bring nodes
back, when it takes a book with an endpoint in it.
-/
namespace LedgerNet

/-- Subscriptions can be closed without closing the client, and mirrors have nothing to do with them. -/
theorem World.unsubscribeAll_same (w : World) :
    w.unsubscribeAll.closed = w.closed ∧ w.unsubscribeAll.mirror = w.mirror := by
  have hfold (ids : List SubscriptionId) (w : World) :
      (ids.foldl unsubscribe w).closed = w.closed ∧ (ids.foldl unsubscribe w).mirror = w.mirror := by
    induction ids generalizing w with
    | nil => exact ⟨rfl, rfl⟩
    | cons id rest ih => exact ih _
  exact hfold w.live w

namespace ClientCall
open World

/-- A closed client refuses every call that could start something. -/
theorem begin_closed {w : World} (h : w.closed = true) (call : ClientCall) :
    (call.begin w).1 = [] ∧ w.Tame (call.begin w).2 := by
  cases call with
  | setBook book =>
    refine ⟨rfl, rfl, ?_, fun hnil => hnil, fun _ _ => w.net.unused_report _⟩
    intro hnil
    simp [begin, Topology.applyBook, hnil]
  | setMaxNodes count => exact ⟨rfl, rfl, fun hnil => hnil, fun hnil => hnil, fun _ _ => .refl _⟩
  | unsubscribe id => exact ⟨rfl, .of_net rfl rfl rfl (.refl _)⟩
  | _ =>
    simp only [begin, h, if_true, true_and]
    exact .refl w

/-- An open client is closed by nothing but a close, which goes on to clear the mirrors. -/
theorem begin_open {w : World} (h : w.closed = false) (call : ClientCall) :
    (call.begin w).2.closed = false ∨ ∃ a ∈ (call.begin w).1, a.clearsMirror = true := by
  cases call with
  | close ownsRuntime =>
    simp only [begin, h, Bool.false_eq_true, if_false]
    exact .inr ⟨_, List.mem_singleton_self _, rfl⟩
  | setBook book => exact .inl h
  | setMaxNodes count => exact .inl h
  | unsubscribe id => exact .inl h
  | execute request policy => simp only [begin, h, Bool.false_eq_true, if_false]; exact .inl h
  | refresh =>
    simp only [begin, h, Bool.false_eq_true, if_false]
    split
    · exact .inl h
    · exact .inl h
  | setNetwork network => simp only [begin, h, Bool.false_eq_true, if_false]; exact .inl h
  | setMirrors mirrors =>
    simp only [begin, h, Bool.false_eq_true, if_false]
    split
    · exact .inl h
    · exact .inl h
  | setSecurity secure =>
    simp only [begin, h, Bool.false_eq_true, if_false, begun, Slot.setSecurity]
    split
    · exact .inl h
    · exact .inl h
  | setVerify verify =>
    simp only [begin, h, Bool.false_eq_true, if_false, begun, Slot.setVerify]
    split
    · exact .inl h
    · exact .inl h
  | subscribe query codec handlers => simp only [begin, h, Bool.false_eq_true, if_false]; exact .inl h

end ClientCall

namespace Activity
open World

theorem step_tame (a : Activity) (w : World) (h : ∀ book, a.book? w = some book → book.toNetwork = []) :
    w.Tame (a.step w).2 := by
  cases a with
  | operation o => exact o.step_tame w h
  | task t => exact t.step_tame w h

theorem refresh_world {β : Type} (run : RefreshRun) (answer : Option (Except ClientError NetworkChange) → β)
    (w : World) : ((Operation.refresh run answer).step w).2 = (run.step w).2 := by
  simp only [Operation.step]
  split
  · rename_i result hp
    simp only [RefreshRun.step, hp]
  · rfl

/-- No step closes a client or opens it again, and none brings mirrors where there were none. -/
theorem step_mirror (a : Activity) (w : World) :
    (a.step w).2.closed = w.closed ∧ (w.mirror.nodes = [] → (a.step w).2.mirror.nodes = []) := by
  have hrefresh (run : RefreshRun) : (run.step w).2.closed = w.closed ∧
      (w.mirror.nodes = [] → (run.step w).2.mirror.nodes = []) :=
    ⟨(run.step_mirror w).1, fun hnil => (run.step_mirror w).2 ▸ hnil⟩
  cases a with
  | operation o =>
    by_cases hb : o.book? w = none
    · have ht := o.step_tame w (by simp [hb])
      exact ⟨ht.closed, ht.mirror⟩
    · cases o with
      | refresh run answer =>
        simp only [step, refresh_world]
        exact hrefresh run
      | _ => exact absurd rfl hb
  | task t =>
    cases t with
    | refresh run => exact hrefresh run
    | drive d => exact ⟨(d.step_tame w).closed, (d.step_tame w).mirror⟩

/-- The step that clears the mirrors does. -/
theorem step_clear {a : Activity} (h : a.clearsMirror = true) (w : World) :
    (a.step w).2.mirror = w.mirror.clear.2 := by
  unfold clearsMirror at h
  split at h
  · rfl
  · cases h

theorem step_book {a : Activity} {w : World} {book : AddressBook} (hb : a.book? w = some book)
    (hn : book.toNetwork ≠ []) : (a.step w).2.consensus.nodes ≠ [] := by
  cases a with
  | operation o =>
    cases o with
    | refresh run answer =>
      simp only [step, refresh_world]
      exact RefreshRun.step_book hb hn
    | _ => cases hb
  | task t =>
    cases t with
    | refresh run => exact RefreshRun.step_book hb hn
    | drive d => cases hb

end Activity

namespace Scene
open World

/-- Neither topology holds a node. -/
def IsEmpty (s : Scene) : Prop := s.world.consensus.nodes = [] ∧ s.world.mirror.nodes = []

/-- The client is closed, and its close has returned. -/
def IsTornDown (s : Scene) : Prop := s.world.closed = true ∧ ∀ a ∈ s.activities, a.tearsDown = false

instance (s : Scene) : Decidable s.IsTornDown := inferInstanceAs (Decidable (_ ∧ _))

/-- Whether the next move lets a refresh take a book with an endpoint in it. -/
def Refills (s : Scene) (move : Move) : Prop :=
  ∃ place a book, move = .go place ∧ s.activities[place]? = some a ∧
    (a.waiting s.world).isOver s.world.now = true ∧ a.book? s.world = some book ∧ book.toNetwork ≠ []

/-- From a scene on, whatever moves are made, there is no node, no channel is opened and nothing is sent. -/
structure Final (s : Scene) (later : List Move) : Prop where
  empty : ∀ past, past <:+ later → (s.after past).IsEmpty
  unused : ∀ move past, move :: past <:+ later → move.isOutside = false →
    (s.after past).world.net.Unused (s.after (move :: past)).world.net

/-- A client stays closed. -/
theorem make_closed {s : Scene} (h : s.world.closed = true) (move : Move) :
    (s.make move).world.closed = true := by
  cases move with
  | call call => exact (call.begin_closed h).2.closed.trans h
  | go place =>
    rcases s.make_go place with heq | ⟨a, -, -, heq⟩
    · rwa [heq]
    · rw [heq]
      exact (a.step_mirror s.world).1.trans h
  | outside o => exact h

theorem after_closed {s : Scene} (h : s.world.closed = true) (moves : List Move) :
    (s.after moves).world.closed = true := by
  induction moves with
  | nil => exact h
  | cons move past ih => exact make_closed ih move

/-- What a move does to a closed client, unless it lets a refresh take a book. -/
theorem make_tame {s : Scene} (hclosed : s.world.closed = true) {move : Move} (hm : move.isOutside = false)
    (hr : ¬ s.Refills move) : s.world.Tame (s.make move).world := by
  cases move with
  | call call => exact (call.begin_closed hclosed).2.trans (.of_net rfl rfl rfl (.refl _))
  | go place =>
    rcases s.make_go place with heq | ⟨a, ha, hover, heq⟩
    · rw [heq]
      exact .refl _
    · rw [heq]
      refine (a.step_tame s.world ?_).trans (.of_net rfl rfl rfl (.refl _))
      intro book hb
      by_cases hn : book.toNetwork = []
      · exact hn
      · exact absurd ⟨place, a, book, rfl, ha, hover, hb, hn⟩ hr
  | outside o => cases hm

/-- Without a refill no move brings nodes back to a closed client. -/
theorem make_consensus {s : Scene} (hclosed : s.world.closed = true) {move : Move} (hr : ¬ s.Refills move)
    (hnil : s.world.consensus.nodes = []) : (s.make move).world.consensus.nodes = [] := by
  cases hm : move.isOutside with
  | false => exact (make_tame hclosed hm hr).consensus hnil
  | true =>
    cases move with
    | outside o => exact hnil
    | _ => cases hm

theorem after_consensus {s : Scene} (hclosed : s.world.closed = true) {moves : List Move}
    (hr : ∀ move past, move :: past <:+ moves → ¬ (s.after past).Refills move)
    (hnil : s.world.consensus.nodes = []) : (s.after moves).world.consensus.nodes = [] := by
  induction moves with
  | nil => exact hnil
  | cons move past ih =>
    have hrpast : ∀ move past', move :: past' <:+ past → ¬ (s.after past').Refills move :=
      fun move past' h => hr move past' (h.trans (List.suffix_cons _ _))
    exact make_consensus (after_closed hclosed past) (hr move past (List.suffix_refl _)) (ih hrpast)

/-- A refill leaves nodes. -/
theorem make_refill {s : Scene} {move : Move} (hr : s.Refills move) : (s.make move).world.consensus.nodes ≠ [] := by
  obtain ⟨place, a, book, rfl, ha, hover, hb, hn⟩ := hr
  simp only [make, ha, hover, if_true]
  exact Activity.step_book hb hn

/-- Mirrors of a closed client are gone, or about to go. -/
def ClearsMirrors (s : Scene) : Prop :=
  s.world.closed = true → s.world.mirror.nodes = [] ∨ ∃ a ∈ s.activities, a.clearsMirror = true

theorem ClearsMirrors.make {s : Scene} (h : s.ClearsMirrors) (move : Move) : (s.make move).ClearsMirrors := by
  intro hclosed
  cases move with
  | call call =>
    cases hwas : s.world.closed with
    | true =>
      rcases h hwas with hnil | ⟨a, ha, hc⟩
      · exact .inl ((call.begin_closed hwas).2.mirror hnil)
      · exact .inr ⟨a, List.mem_append_left _ (List.mem_append_left _ ha), hc⟩
    | false =>
      rcases call.begin_open hwas with hopen | ⟨a, ha, hc⟩
      · have : (call.begin s.world).2.closed = true := hclosed
        rw [hopen] at this
        cases this
      · exact .inr ⟨a, List.mem_append_left _ (List.mem_append_right _ ha), hc⟩
  | go place =>
    rcases s.make_go place with heq | ⟨a, ha, -, heq⟩
    · rw [heq] at hclosed ⊢
      exact h hclosed
    · rw [heq] at hclosed ⊢
      have hwas : s.world.closed = true := (a.step_mirror s.world).1 ▸ hclosed
      rcases h hwas with hnil | ⟨b, hb, hc⟩
      · exact .inl ((a.step_mirror s.world).2 hnil)
      · by_cases hac : a.clearsMirror = true
        · exact .inl (congrArg (·.nodes) (Activity.step_clear hac s.world))
        · obtain ⟨i, hi⟩ := List.mem_iff_getElem?.mp hb
          have hne : place ≠ i := by
            rintro rfl
            rw [ha] at hi
            cases hi
            exact hac hc
          refine .inr ⟨b, List.mem_append_left _ (List.mem_iff_getElem?.mpr ⟨i, ?_⟩), hc⟩
          rw [List.getElem?_set_ne hne]
          exact hi
  | outside o => exact h hclosed

theorem IsTornDown.mirror {s : Scene} (h : s.IsTornDown) (hc : s.ClearsMirrors) : s.world.mirror.nodes = [] := by
  rcases hc h.1 with hnil | ⟨a, ha, hclears⟩
  · exact hnil
  · have ht := h.2 a ha
    unfold Activity.clearsMirror at hclears
    split at hclears
    · cases ht
    · cases hclears

theorem ClearsMirrors.after {s : Scene} (h : s.ClearsMirrors) (moves : List Move) : (s.after moves).ClearsMirrors := by
  induction moves with
  | nil => exact h
  | cons move past ih => exact ih.make move

/-- No move brings mirrors back to a closed client, not even one that lets a refresh take a book. -/
theorem make_mirror {s : Scene} (hclosed : s.world.closed = true) (hnil : s.world.mirror.nodes = []) (move : Move) :
    (s.make move).world.mirror.nodes = [] := by
  cases move with
  | call call => exact (call.begin_closed hclosed).2.mirror hnil
  | go place =>
    rcases s.make_go place with heq | ⟨a, -, -, heq⟩
    · rwa [heq]
    · rw [heq]
      exact (a.step_mirror s.world).2 hnil
  | outside o => exact hnil

theorem after_mirror {s : Scene} (hclosed : s.world.closed = true) (hnil : s.world.mirror.nodes = [])
    (moves : List Move) : (s.after moves).world.mirror.nodes = [] := by
  induction moves with
  | nil => exact hnil
  | cons move past ih => exact make_mirror (after_closed hclosed past) ih move

/-- For a closed client all is over when it has no nodes and no refresh will bring it any. -/
theorem final_iff {s : Scene} (hclosed : s.world.closed = true) (later : List Move) :
    s.Final later ↔ s.IsEmpty ∧ ∀ move past, move :: past <:+ later → ¬ (s.after past).Refills move := by
  constructor
  · intro hf
    refine ⟨hf.empty [] (List.nil_suffix), ?_⟩
    intro move past hp hr
    exact make_refill hr (hf.empty (move :: past) hp).1
  · rintro ⟨⟨hc, hm⟩, hr⟩
    have hempty : ∀ past, past <:+ later → (s.after past).IsEmpty := by
      intro past hp
      exact ⟨after_consensus hclosed (fun move earlier h => hr move earlier (h.trans hp)) hc,
        after_mirror hclosed hm past⟩
    refine ⟨hempty, ?_⟩
    intro move past hp hinside
    have he := hempty past ((List.suffix_cons _ _).trans hp)
    exact (make_tame (after_closed hclosed past) hinside (hr move past hp)).unused he.1 he.2

/-- The close itself forgets all consensus nodes. -/
theorem make_close {s : Scene} (hopen : s.world.closed = false) (ownsRuntime : Bool) :
    (s.make (.call (.close ownsRuntime))).world.closed = true ∧
      (s.make (.call (.close ownsRuntime))).world.consensus.nodes = [] := by
  simp only [make, ClientCall.begin, hopen, Bool.false_eq_true, if_false]
  exact ⟨(unsubscribeAll_same { s.world with closed := true }).1, rfl⟩

/-- Once the close of an open client has returned, nothing more comes of the client, whatever was under way: exactly
when by then there are no consensus nodes and no refresh takes a book with an endpoint in it later on. There are no
consensus nodes if no refresh took such a book since the close began. -/
theorem close_final_iff (s : Scene) (hopen : s.world.closed = false) (ownsRuntime : Bool) (since later : List Move)
    (hdown : (s.after (since ++ [.call (.close ownsRuntime)])).IsTornDown) :
    ((s.after (since ++ [.call (.close ownsRuntime)])).Final later ↔
      (s.after (since ++ [.call (.close ownsRuntime)])).world.consensus.nodes = [] ∧
        ∀ move past, move :: past <:+ later →
          ¬ (s.after (past ++ since ++ [.call (.close ownsRuntime)])).Refills move) ∧
    ((∀ move past, move :: past <:+ since → ¬ (s.after (past ++ [.call (.close ownsRuntime)])).Refills move) →
      (s.after (since ++ [.call (.close ownsRuntime)])).world.consensus.nodes = []) := by
  have hclears : s.ClearsMirrors := by
    intro hclosed
    rw [hopen] at hclosed
    cases hclosed
  have hmirror := hdown.mirror (hclears.after _)
  constructor
  · rw [final_iff hdown.1 later]
    simp only [IsEmpty, hmirror, and_true, List.append_assoc, after_append s _ (since ++ _)]
  · intro hr
    obtain ⟨hclosed, hnil⟩ := make_close hopen ownsRuntime
    simp only [after_append s _ [_]] at hr ⊢
    exact after_consensus hclosed hr hnil

/-- A client without nodes, while its refresh waits for the source to answer. -/
def fetching (answer : BookAnswer) : Scene :=
  after ⟨{ net := {}, consensus := .empty {}, mirror := .empty {}, source := some ⟨[answer], 0⟩ }, []⟩
    [.go 0, .call .refresh]

/-- The same when the client has been closed in the meantime. -/
def closedFetching (answer : BookAnswer) : Scene := (fetching answer).after ([.go 1, .go 1] ++ [.call (.close true)])

theorem close_final_failing_source :
    (fetching (.fail "down")).world.closed = false ∧ (closedFetching (.fail "down")).IsTornDown ∧
      (closedFetching (.fail "down")).Final [.go 0] := by
  have hopen : (fetching (.fail "down")).world.closed = false := by rfl
  have hdown : (closedFetching (.fail "down")).IsTornDown := by decide_cbv
  have hiff := (close_final_iff (fetching (.fail "down")) hopen true [.go 1, .go 1] [.go 0] hdown).1
  refine ⟨hopen, hdown, hiff.mpr ⟨by rfl, ?_⟩⟩
  rintro move past hp ⟨place, a, book, rfl, ha, -, hb, -⟩
  obtain ⟨heq, hnil⟩ : Move.go place = .go 0 ∧ past = [] := by simpa [List.suffix_cons_iff] using hp
  cases heq
  subst hnil
  cases ha
  cases hb

def lateBook : AddressBook := ⟨[{ account := ⟨0, 0, 3⟩, endpoints := [.remote "h" plainPort false] }]⟩

/-- A refresh that waits while its client is closed brings nodes back when its book comes. -/
theorem close_not_always_final :
    ¬ ∀ (s : Scene) (ownsRuntime : Bool) (since later : List Move), s.world.closed = false →
      (s.after (since ++ [.call (.close ownsRuntime)])).IsTornDown →
        (s.after (since ++ [.call (.close ownsRuntime)])).Final later := by
  intro h
  have hdown : (closedFetching (.book lateBook)).IsTornDown := by decide_cbv
  have hfinal : (closedFetching (.book lateBook)).Final [.go 0] :=
    h (fetching (.book lateBook)) true [.go 1, .go 1] [.go 0] (by rfl) hdown
  have hnil : ((closedFetching (.book lateBook)).after [.go 0]).world.consensus.nodes = [] :=
    (hfinal.empty [.go 0] (List.suffix_refl _)).1
  have hone : ((closedFetching (.book lateBook)).after [.go 0]).world.consensus.nodes.length = 1 := by cbv
  rw [hnil] at hone
  cases hone

end Scene

end LedgerNet
