import LedgerNet.Proofs.Client.Refreshing
import LedgerNet.Proofs.Topology.Difference
import LedgerNet.Proofs.Topology.Recorded

/-!
A refresh that is given the same address book as the one before. The network of the book is in place by then, and its
entries are on record, so that no node comes or goes and none changes.
-/
namespace LedgerNet

/-- A topology to which a book says nothing new. -/
structure Topology.Follows (t : Topology AccountId) (book : AddressBook) : Prop where
  network : t.Installed book.toNetwork
  record : book.nodes.foldl recordEntry t.book = t.book
  entries : ∀ n ∈ t.nodes, (t.book.lookup n.id).or n.entry = n.entry

namespace Topology

variable {t : Topology AccountId} {book : AddressBook}

/-- Once the network of a book is in place and its entries are on record, the book says nothing new. -/
theorem follows_applied (t : Topology AccountId) (book : AddressBook) (now : Instant) (net : LocalNet) :
    ((t.replaceNetwork book.toNetwork now).2.2.applyBook book net).1.Follows book := by
  have hinstalled := t.replace_installed book.toNetwork now
  generalize (t.replaceNetwork book.toNetwork now).2.2 = placed at hinstalled ⊢
  have hsites : (placed.applyBook book net).1.sites = placed.sites := by
    simp [applyBook, sites, Function.comp_def]
  refine ⟨fun e id => hsites ▸ hinstalled e id, record_again book.nodes placed.book, ?_⟩
  have hown {α : Type} (a b : Option α) : a.or (a.or b) = a.or b := by rw [← Option.or_assoc, Option.or_self]
  intro n hn
  obtain ⟨m, -, rfl⟩ := List.mem_map.mp hn
  exact hown _ _

theorem Follows.applied (h : t.Follows book) (net : LocalNet) : (t.applyBook book net).1 = t := by
  have hnodes : t.nodes.map (fun n => { n with entry := (t.book.lookup n.id).or n.entry }) = t.nodes := by
    refine (List.map_congr_left fun n hn => ?_).trans t.nodes.map_id
    rw [h.entries n hn]
    rfl
  simp only [applyBook, h.record, hnodes]

end Topology

namespace World

variable {w w' : World} {book : AddressBook} {change : NetworkChange}

/-- What it makes of a world to take a book: the network of the book is put in place, the channels that this retires are
closed, and the book is applied. -/
inductive Takes (w : World) (book : AddressBook) (change : NetworkChange) (w' : World) : Prop
  | takes (now : Instant) (retired : List ChannelId) (placed : Topology AccountId) (net net' : LocalNet)
    (replaces : w.consensus.replaceNetwork book.toNetwork now = (change, retired, placed))
    (same : w.net.SameChannels net)
    (closes : w'.net.channels = (retired.foldl LocalNet.closeChannel net).channels)
    (applies : w'.consensus = (placed.applyBook book net').1)

theorem Takes.follows (h : w.Takes book change w') : w'.consensus.Follows book := by
  obtain ⟨now, retired, placed, net, net', hreplace, -, -, happly⟩ := h
  have hfollows := w.consensus.follows_applied book now net'
  rw [hreplace] at hfollows
  exact happly ▸ hfollows

/-- It makes nothing of a world whose topology follows the book. -/
theorem Takes.again (h : w.Takes book change w') (hn : w.consensus.Follows book) :
    change = ⟨0, 0, w.consensus.nodes.length⟩ ∧ w'.consensus = w.consensus ∧ w'.net.channels = w.net.channels := by
  obtain ⟨now, retired, placed, net, net', hreplace, hsame, hclose, happly⟩ := h
  rw [hn.network.replace] at hreplace
  cases hreplace
  exact ⟨rfl, happly.trans (hn.applied net'), hclose.trans hsame.channels⟩

end World

namespace RefreshStep

variable {w w' : World} {phase' : RefreshPhase} {book : AddressBook}

/-- A book that has entries is taken. -/
theorem taken {ends : Instant} (h : RefreshStep w (.fetching ends) phase' w') (hf : w.fetched = .book book)
    (hne : book.nodes ≠ []) :
    ∃ c change retired, w.consensus.replaceNetwork book.toNetwork w.now = (change, retired, w'.consensus) ∧
      phase' = .closing c change book ∧ w'.net.channels = (retired.foldl LocalNet.closeChannel w.net).channels := by
  cases h with
  | breaks hbreaks => cases hf.symm.trans hbreaks
  | fails why hfails => cases hf.symm.trans hfails
  | refuses other hother hnil =>
    cases hf.symm.trans hother
    exact absurd hnil hne
  | takes other hother hsome hreplace hclose =>
    cases hf.symm.trans hother
    cases hclose
    exact ⟨_, _, _, hreplace, rfl, rfl⟩

/-- The last step of a refresh applies its book. -/
theorem applied {c : Closing} {change : NetworkChange} (h : RefreshStep w (.closing c change book) phase' w') :
    phase' = .finished (some (.ok change)) ∧ w'.consensus = (w.consensus.applyBook book w.net).1 ∧
      w'.net.channels = w.net.channels := by
  cases h with
  | applies hr happly ht =>
    cases happly
    refine ⟨rfl, ?_, ?_⟩
    · rw [ht.same.1]
      dsimp only
      rw [hr.same.1]
      rfl
    · rw [ht.channels]
      have happlied := LocalNet.same_endClose w.net c
      exact hr.channels.trans happlied.channels

/-- No step of a refresh changes a topology to which its book says nothing new. -/
theorem again {phase : RefreshPhase} (h : RefreshStep w phase phase' w') (hn : w.consensus.Follows book)
    (hf : w.fetched = .book book) (hne : book.nodes ≠ [])
    (hphase : ∀ c change other, phase = .closing c change other → other = book) :
    w'.consensus = w.consensus ∧ w'.net.channels = w.net.channels ∧
      ∀ ends, phase = .fetching ends → ∃ c, phase' = .closing c ⟨0, 0, w.consensus.nodes.length⟩ book := by
  cases phase with
  | beginning =>
    cases h with
    | begins => exact ⟨rfl, rfl, by simp⟩
  | fetching ends =>
    obtain ⟨c, change, retired, hreplace, hclosing, hchannels⟩ := h.taken hf hne
    rw [hn.network.replace] at hreplace
    obtain ⟨rfl, rfl, hsame⟩ : _ ∧ _ ∧ w.consensus = w'.consensus := by simpa using hreplace
    exact ⟨hsame.symm, hchannels, fun _ _ => ⟨c, hclosing⟩⟩
  | closing c change other =>
    obtain rfl := hphase c change other rfl
    obtain ⟨-, happlied, hchannels⟩ := h.applied
    exact ⟨happlied.trans (hn.applied w.net), hchannels, by simp⟩
  | finished result =>
    cases h with
    | rests => exact ⟨rfl, rfl, by simp⟩

end RefreshStep

namespace RefreshRun

/-- The fetch of a refresh takes one answer of the source. -/
theorem source_fetching {run : RefreshRun} {ends : Instant} (hp : run.phase = .fetching ends) (w : World) :
    (run.step w).2.source = w.source.map (·.take.2) := by
  have hstep : run.step w = run.take w := by simp only [step, hp]
  rw [hstep, take]
  cases hs : w.source with
  | none => exact (run.finish_tells none w).source.trans hs
  | some source =>
    dsimp only
    split
    · exact (run.finish_tells _ _).source
    · exact (run.finish_tells _ _).source
    · split
      · exact (run.finish_tells _ _).source
      · rfl

theorem source_closing {run : RefreshRun} {c : Closing} {change : NetworkChange} {book : AddressBook}
    (hp : run.phase = .closing c change book) (w : World) : (run.step w).2.source = w.source := by
  simp only [step, hp]
  exact (run.finish_tells _ _).source.trans (reportChange_tells _ change).source

end RefreshRun

namespace System

variable {β : Type} (answer : Option (Except ClientError NetworkChange) → β) {book : AddressBook}

/-- A refresh of an idle system ends with the turn that applies its book. -/
theorem Idle.run_closing {s : System} (h : s.Idle) {run : RefreshRun} {c : Closing} {change : NetworkChange}
    (hp : run.phase = .closing c change book) {fuel : Nat} (hfuel : 4 ≤ fuel) :
    ∃ net w, System.run fuel (.refresh run answer) s =
        (.finished (answer (some (.ok change))), { s with world := w }) ∧ Idle { s with world := w } ∧
      w.source = s.world.source ∧ w.consensus = (s.world.consensus.applyBook book net).1 ∧
      w.net.channels = s.world.net.channels := by
  have hopen : run.isFinished = false := by simp [RefreshRun.isFinished, hp]
  have hturn : 2 ≤ fuel := by omega
  obtain ⟨hidle, left, hleft, hrun⟩ := h.run_turn answer hopen hturn
  obtain ⟨hfinished, happlied, hchannels⟩ := (hp ▸ run.turn_cases s.world).applied
  have hend : 2 ≤ left := by omega
  rw [hrun]
  exact ⟨_, _, hidle.run_finished answer hfinished hend, hidle, RefreshRun.source_closing hp _, happlied, hchannels⟩

/-- From its fetch on, a refresh of an idle system takes the book that it is given. -/
theorem Idle.run_taking {s : System} (h : s.Idle) (hf : s.world.fetched = .book book) (hne : book.nodes ≠ [])
    {run : RefreshRun} {ends : Instant} (hp : run.phase = .fetching ends) {fuel : Nat} (hfuel : 6 ≤ fuel) :
    ∃ change w, System.run fuel (.refresh run answer) s =
        (.finished (answer (some (.ok change))), { s with world := w }) ∧ Idle { s with world := w } ∧
      w.source = s.world.source.map (·.take.2) ∧ s.world.Takes book change w := by
  have hopen : run.isFinished = false := by simp [RefreshRun.isFinished, hp]
  have hturn : 2 ≤ fuel := by omega
  obtain ⟨hidle, left, hleft, hrun⟩ := h.run_turn answer hopen hturn
  obtain ⟨c, change, retired, hreplace, hclosing, hclose⟩ := (hp ▸ run.turn_cases s.world).taken hf hne
  have hend : 4 ≤ left := by omega
  obtain ⟨net, w, hrun', hidle', hsource, happlied, hsame⟩ := hidle.run_closing answer hclosing hend
  refine ⟨change, w, hrun.trans hrun', hidle', hsource.trans (RefreshRun.source_fetching hp _), ?_⟩
  refine .takes _ retired _ _ net hreplace ?_ (hsame.trans hclose) happlied
  exact ⟨rfl, rfl⟩

/-- A refresh of an idle system takes the book that it is given, and one answer of the source. -/
theorem Idle.refresh_book {s : System} (h : s.Idle) (hf : s.world.fetched = .book book) (hne : book.nodes ≠ []) :
    ∃ change w, s.refresh = (some (some (.ok change)), { s with world := w }) ∧ Idle { s with world := w } ∧
      w.source = s.world.source.map (·.take.2) ∧ s.world.Takes book change w := by
  obtain ⟨hidle, fuel, hfuel, hrefresh⟩ := h.refresh_begun
  obtain ⟨ends, hphase, hfetched, -⟩ := RefreshRun.turn_beginning false s.world
  obtain ⟨change, w, hend, hidle', hsource, htakes⟩ := hidle.run_taking id (hfetched.trans hf) hne hphase hfuel
  -- The turn before the fetch has left the topology and the channels as they were.
  obtain ⟨now, retired, placed, net, net', hreplace, ⟨hchannels, hslow⟩, hclose, happly⟩ := htakes
  refine ⟨change, w, hrefresh _ _ hend, hidle', hsource, ?_⟩
  exact .takes now retired placed net net' hreplace ⟨hchannels, hslow⟩ hclose happly

/-- A refresh that is given the same book as the one before leaves everything as it is: nothing comes or goes, no
channel is closed, and the topology is the same in all that it holds. Whatever else runs, each step of each such refresh
leaves it so. -/
theorem refresh_again {s : System} (h : s.Idle) {book : AddressBook} (hf : s.world.fetched = .book book)
    (hne : book.nodes ≠ []) :
    ∃ change w, s.refresh = (some (some (.ok change)), { s with world := w }) ∧ Idle { s with world := w } ∧
      w.source = s.world.source.map (·.take.2) ∧
      (∀ s' : System, s'.Idle → s'.world.consensus = w.consensus → s'.world.fetched = .book book →
        ∃ w', s'.refresh = (some (some (.ok ⟨0, 0, w.consensus.nodes.length⟩)), { s' with world := w' }) ∧
          w'.consensus = w.consensus ∧ w'.net.channels = s'.world.net.channels) ∧
      ∀ (run : RefreshRun) (w' : World), w'.consensus = w.consensus → w'.fetched = .book book →
        (∀ c change other, run.phase = .closing c change other → other = book) →
        (run.step w').2.consensus = w.consensus ∧ (run.step w').2.net.channels = w'.net.channels ∧
          ∀ ends, run.phase = .fetching ends →
            ∃ c, (run.step w').1.phase = .closing c ⟨0, 0, w.consensus.nodes.length⟩ book := by
  obtain ⟨change, w, hrefresh, hidle, hsource, htakes⟩ := h.refresh_book hf hne
  have hfollows := htakes.follows
  refine ⟨change, w, hrefresh, hidle, hsource, ?_, ?_⟩
  · intro s' h' hsame hf'
    rw [← hsame] at hfollows ⊢
    obtain ⟨change', w', hrefresh', -, -, htakes'⟩ := h'.refresh_book hf' hne
    obtain ⟨rfl, hagain⟩ := htakes'.again hfollows
    exact ⟨w', hrefresh', hagain⟩
  · intro run w' hsame hf' hphase
    rw [← hsame] at hfollows ⊢
    exact (run.step_cases w').again hfollows hf' hne hphase

/-- A book that names an account twice, with a hash and then without, and wants two accounts at one endpoint. -/
def repeating : AddressBook where
  nodes := [
    { account := ⟨0, 0, 5⟩, endpoints := [.remote "a" plainPort false, .remote "a" 9000 false],
      certificateHash := some "beef" },
    { account := ⟨0, 0, 6⟩, endpoints := [.remote "a" tlsPort true] },
    { account := ⟨0, 0, 5⟩, endpoints := [.remote "b" 9000 true] }]

/-- That book is taken twice from a source that goes on with it, to no effect the second time. -/
theorem refresh_again_repeating :
    (offered repeating).Idle ∧ (offered repeating).world.fetched = .book repeating ∧ repeating.nodes ≠ [] ∧
      ∃ change s s', (offered repeating).refresh = (some (some (.ok change)), s) ∧
        s.refresh = (some (some (.ok ⟨0, 0, s.world.consensus.nodes.length⟩)), s') ∧
        s'.world.consensus = s.world.consensus ∧ s'.world.net.channels = s.world.net.channels := by
  have hidle : (offered repeating).Idle := offered_idle repeating
  have hf : (offered repeating).world.fetched = .book repeating := rfl
  have hne : repeating.nodes ≠ [] := List.cons_ne_nil _ _
  obtain ⟨change, w, hrefresh, hidle', hsource, hagain, -⟩ := refresh_again hidle hf hne
  have hf' : w.fetched = .book repeating := by
    rw [World.fetched, hsource]
    rfl
  obtain ⟨w', hrefresh', hsame, hchannels⟩ := hagain { offered repeating with world := w } hidle' rfl hf'
  exact ⟨hidle, hf, hne, change, _, _, hrefresh, hrefresh', hsame, hchannels⟩

end System

end LedgerNet
