import LedgerNet.Network.Refresh

/-!
What a step of a refresh can do: by phases, with the answer of the source where one is taken, and the world it leads to.
-/
namespace LedgerNet

/-- What the source of address books answers next. Where there is none, a fetch breaks down. -/
def World.fetched (w : World) : BookAnswer := (w.source.map (·.take.1)).getD .breakdown

/-- Between two worlds at most an event was reported, and a refresh in the background has ended or not. -/
inductive World.Tells (w : World) : World → Prop where
  | nothing (refreshing : Bool) : Tells w { w with refreshing }
  | event (event : Event) (refreshing : Bool) : Tells w { w.report event with refreshing }

theorem World.Tells.same {w w' : World} (h : w.Tells w') :
    w'.consensus = w.consensus ∧ w'.mirror = w.mirror ∧ w'.closed = w.closed ∧ w'.triggered = w.triggered := by
  cases h <;> exact ⟨rfl, rfl, rfl, rfl⟩

theorem World.Tells.channels {w w' : World} (h : w.Tells w') : w'.net.channels = w.net.channels := by
  cases h <;> rfl

theorem World.Tells.source {w w' : World} (h : w.Tells w') : w'.source = w.source := by
  cases h <;> rfl

/-- The steps of a refresh from a world, by the phases that they lead from and to. -/
inductive RefreshStep (w : World) : RefreshPhase → RefreshPhase → World → Prop where
  | begins (ends : Instant) :
    RefreshStep w .beginning (.fetching ends) { w with net := w.net.note "address-book" .fetched }
  | breaks {ends : Instant} {source : Option BookSource} {w' : World} : w.fetched = .breakdown →
    World.Tells { w with source } w' → RefreshStep w (.fetching ends) (.finished none) w'
  | fails {ends : Instant} {source : Option BookSource} {w' : World} (why : String) : w.fetched = .fail why →
    World.Tells { w with source } w' →
    RefreshStep w (.fetching ends) (.finished (some (.error (.addressBook why)))) w'
  | refuses {ends : Instant} {source : Option BookSource} {w' : World} (book : AddressBook) :
    w.fetched = .book book → book.nodes = [] → World.Tells { w with source } w' →
    RefreshStep w (.fetching ends) (.finished (some (.error (.addressBook "fetched address book is empty")))) w'
  | takes {ends : Instant} {source : Option BookSource} {change : NetworkChange} {retired : List ChannelId}
    {consensus : Topology AccountId} {c : Closing} {net : LocalNet} (book : AddressBook) :
    w.fetched = .book book → book.nodes ≠ [] →
    w.consensus.replaceNetwork book.toNetwork w.now = (change, retired, consensus) →
    w.net.beginClose retired consensus.closeTimeout = (c, net) →
    RefreshStep w (.fetching ends) (.closing c change book) { w with source, consensus, net }
  | applies {c : Closing} {change : NetworkChange} {book : AddressBook} {reported w' : World}
    {consensus : Topology AccountId} {net : LocalNet} :
    World.Tells { w with net := w.net.endClose c } reported →
    reported.consensus.applyBook book reported.net = (consensus, net) →
    World.Tells { reported with consensus, net } w' →
    RefreshStep w (.closing c change book) (.finished (some (.ok change))) w'
  | rests {result : Option (Except ClientError NetworkChange)} : RefreshStep w (.finished result) (.finished result) w

/-- No step of a refresh touches the mirrors, closes the client or sets off another refresh. -/
theorem RefreshStep.same {w w' : World} {phase phase' : RefreshPhase} (h : RefreshStep w phase phase' w') :
    w'.mirror = w.mirror ∧ w'.closed = w.closed ∧ w'.triggered = w.triggered := by
  cases h with
  | begins | takes | rests => exact ⟨rfl, rfl, rfl⟩
  | breaks _ ht => exact ht.same.2
  | fails why _ ht => exact ht.same.2
  | refuses book _ _ ht => exact ht.same.2
  | applies hr _ ht =>
    obtain ⟨-, hmirror, hclosed, htriggered⟩ := ht.same
    obtain ⟨-, hmirror', hclosed', htriggered'⟩ := hr.same
    exact ⟨hmirror.trans hmirror', hclosed.trans hclosed', htriggered.trans htriggered'⟩

namespace RefreshRun

theorem finish_tells (run : RefreshRun) (result : Option (Except ClientError NetworkChange)) (w : World) :
    w.Tells (run.finish result w).2 := by
  unfold finish
  dsimp only
  split
  · split
    · exact .event _ _
    · exact .event _ _
    · exact .nothing _
  · exact .nothing _

theorem reportChange_tells (w : World) (change : NetworkChange) : w.Tells (reportChange w change) := by
  unfold reportChange
  split
  · exact .nothing _
  · exact .event _ _

theorem step_cases (run : RefreshRun) (w : World) :
    RefreshStep w run.phase (run.step w).1.phase (run.step w).2 := by
  obtain ⟨background, phase⟩ := run
  cases phase with
  | beginning => exact .begins _
  | finished result => exact .rests
  | closing c change book => exact .applies (reportChange_tells _ change) rfl (finish_tells _ _ _)
  | fetching ends =>
    simp only [step, take]
    cases hs : w.source with
    | none =>
      have hf : w.fetched = .breakdown := by rw [World.fetched, hs]; rfl
      exact .breaks hf (finish_tells _ none w)
    | some source =>
      have hf : w.fetched = source.take.1 := by rw [World.fetched, hs]; rfl
      dsimp only
      generalize source.take = taken at hf ⊢
      obtain ⟨answer, source⟩ := taken
      cases answer with
      | breakdown => exact .breaks hf (finish_tells _ none _)
      | fail why => exact .fails why hf (finish_tells _ _ _)
      | book book =>
        dsimp only
        split
        · rename_i hnil
          exact .refuses book hf (List.isEmpty_iff.mp hnil) (finish_tells _ _ _)
        · rename_i hne
          exact .takes book hf (fun hnil => hne (List.isEmpty_iff.mpr hnil)) rfl rfl

end RefreshRun

end LedgerNet
