import LedgerNet.Proofs.Transport.Silence

/-!
The table of channels: channels are opened at its end, and only ever change by being closed.
-/
namespace LedgerNet.LocalNet

def isClosed (net : LocalNet) (id : ChannelId) : Bool := net.channels[id]?.any (·.closed)

/-- How often a channel was told to close. -/
def timesClosed (net : LocalNet) (id : ChannelId) : Nat := (net.channels[id]?.map (·.closes)).getD 0

/-- Channels were neither opened nor closed between two states of a network. -/
structure SameChannels (net net' : LocalNet) : Prop where
  channels : net'.channels = net.channels
  slow : net'.slowToClose = net.slowToClose

theorem SameChannels.refl (net : LocalNet) : SameChannels net net := ⟨rfl, rfl⟩

theorem SameChannels.trans {a b c : LocalNet} (hab : SameChannels a b) (hbc : SameChannels b c) : SameChannels a c :=
  ⟨hbc.channels.trans hab.channels, hbc.slow.trans hab.slow⟩

theorem same_report (net : LocalNet) (event : Event) : SameChannels net (net.report event) := ⟨rfl, rfl⟩

theorem same_endClose (net : LocalNet) (closing : Closing) : SameChannels net (net.endClose closing) :=
  foldl_keeps .refl .trans (fun net _ => same_report net _) _ net

/-- Channels were at most opened between two states of a network. -/
structure Opens (net net' : LocalNet) (opened : List Channel) : Prop where
  channels : net'.channels = net.channels ++ opened
  fresh : ∀ c ∈ opened, c.closed = false ∧ c.closes = 0
  slow : net'.slowToClose = net.slowToClose

theorem SameChannels.opens {net net' : LocalNet} (h : SameChannels net net') : Opens net net' [] :=
  ⟨h.channels.trans (List.append_nil _).symm, fun _ hc => (List.not_mem_nil hc).elim, h.slow⟩

theorem Opens.openedCount {net net' : LocalNet} {opened : List Channel} (h : Opens net net' opened) :
    net'.openedCount = net.openedCount + opened.length := by
  simp only [LocalNet.openedCount, h.channels, List.length_append]

/-- A channel stands in the table as it did, or it was not there before. -/
theorem Opens.stands {net net' : LocalNet} {opened : List Channel} (h : Opens net net' opened) (id : ChannelId) :
    net'.channels[id]? = net.channels[id]? ∨
      net.channels[id]? = none ∧ ∃ c ∈ opened, net'.channels[id]? = some c := by
  rw [h.channels]
  rcases Nat.lt_or_ge id net.channels.length with hlt | hge
  · exact .inl (List.getElem?_append_left hlt)
  · rw [List.getElem?_append_right hge, List.getElem?_eq_none hge]
    cases ho : opened[id - net.channels.length]? with
    | none => exact .inl rfl
    | some c => exact .inr ⟨rfl, c, List.mem_of_getElem? ho, rfl⟩

theorem Opens.isClosed {net net' : LocalNet} {opened : List Channel} (h : Opens net net' opened) (id : ChannelId) :
    net'.isClosed id = net.isClosed id := by
  unfold LocalNet.isClosed
  rcases h.stands id with hsame | ⟨hnew, c, hc, hthere⟩
  · rw [hsame]
  · rw [hnew, hthere]
    exact (h.fresh c hc).1

theorem Opens.timesClosed {net net' : LocalNet} {opened : List Channel} (h : Opens net net' opened) (id : ChannelId) :
    net'.timesClosed id = net.timesClosed id := by
  unfold LocalNet.timesClosed
  rcases h.stands id with hsame | ⟨hnew, c, hc, hthere⟩
  · rw [hsame]
  · rw [hnew, hthere]
    exact (h.fresh c hc).2

/-- A channel is opened, or it is refused. -/
theorem openChannel_cases (net : LocalNet) (endpoint : Endpoint) (options : ChannelOptions) :
    (∃ status net', net.openChannel endpoint options = (.error status, net') ∧ SameChannels net net') ∨
    ∃ net', net.openChannel endpoint options = (.ok net.openedCount, net') ∧
      Opens net net' [{ endpoint, options }] := by
  unfold openChannel
  split
  · exact .inl ⟨_, _, rfl, ⟨rfl, rfl⟩⟩
  · exact .inr ⟨_, rfl, ⟨rfl, by simp, rfl⟩⟩

/-- Channels of the one table stand in the other, as they were opened. -/
def Keeps (net net' : LocalNet) : Prop :=
  ∀ (id : ChannelId) (c : Channel), net.channels[id]? = some c →
    ∃ c' : Channel, net'.channels[id]? = some c' ∧ c'.endpoint = c.endpoint ∧ c'.options = c.options

theorem Keeps.refl (net : LocalNet) : Keeps net net := fun _ c hc => ⟨c, hc, rfl, rfl⟩

theorem Keeps.trans {a b c : LocalNet} (hab : Keeps a b) (hbc : Keeps b c) : Keeps a c := by
  intro id x hx
  obtain ⟨y, hy, he, ho⟩ := hab id x hx
  obtain ⟨z, hz, he', ho'⟩ := hbc id y hy
  exact ⟨z, hz, he'.trans he, ho'.trans ho⟩

theorem Opens.keeps {net net' : LocalNet} {opened : List Channel} (h : Opens net net' opened) : Keeps net net' := by
  intro id c hc
  refine ⟨c, ?_, rfl, rfl⟩
  have hlt : id < net.channels.length := (List.getElem?_eq_some_iff.mp hc).1
  rw [h.channels, List.getElem?_append_left hlt, hc]

theorem keeps_closeChannel (net : LocalNet) (id : ChannelId) : Keeps net (net.closeChannel id) := by
  intro id' c hc
  simp only [closeChannel, List.getElem?_modify, hc]
  split
  · exact ⟨_, rfl, rfl, rfl⟩
  · exact ⟨_, rfl, rfl, rfl⟩

theorem keeps_closeAll (net : LocalNet) (ids : List ChannelId) : Keeps net (ids.foldl closeChannel net) :=
  foldl_keeps .refl .trans keeps_closeChannel ids net

/-- A channel that closes at once is closed with those that were. -/
theorem isClosed_closeChannel {net : LocalNet} (h : net.slowToClose = []) (id id' : ChannelId) :
    (net.closeChannel id).isClosed id' = true ↔ net.isClosed id' = true ∨ id' < net.openedCount ∧ id' = id := by
  have hslow : net.closesSlowly id = false := by simp [closesSlowly, h]
  simp only [closeChannel, hslow, Bool.not_false, Bool.or_true, isClosed, List.getElem?_modify, LocalNet.openedCount]
  cases hc : net.channels[id']? with
  | none =>
    have hge : net.channels.length ≤ id' := List.getElem?_eq_none_iff.mp hc
    simp [Nat.not_lt.mpr hge]
  | some c =>
    have hlt : id' < net.channels.length := (List.getElem?_eq_some_iff.mp hc).1
    by_cases he : id = id'
    · simp [he, hlt]
    · simp [he, Ne.symm he]

theorem closeChannel_openedCount (net : LocalNet) (id : ChannelId) :
    (net.closeChannel id).openedCount = net.openedCount := List.length_modify ..

theorem closeChannel_slow (net : LocalNet) (id : ChannelId) : (net.closeChannel id).slowToClose = net.slowToClose := rfl

theorem closeAll_slow (net : LocalNet) (ids : List ChannelId) :
    (ids.foldl closeChannel net).slowToClose = net.slowToClose :=
  foldl_keeps (R := fun a b => b.slowToClose = a.slowToClose) (fun _ => rfl) (fun hab hbc => hbc.trans hab)
    closeChannel_slow ids net

theorem closeAll_openedCount (net : LocalNet) (ids : List ChannelId) :
    (ids.foldl closeChannel net).openedCount = net.openedCount :=
  foldl_keeps (R := fun a b => b.openedCount = a.openedCount) (fun _ => rfl) (fun hab hbc => hbc.trans hab)
    closeChannel_openedCount ids net

theorem isClosed_closeAll {net : LocalNet} (h : net.slowToClose = []) (ids : List ChannelId) (id : ChannelId) :
    (ids.foldl closeChannel net).isClosed id = true ↔ net.isClosed id = true ∨ id < net.openedCount ∧ id ∈ ids := by
  induction ids generalizing net with
  | nil => simp
  | cons first rest ih =>
    rw [List.foldl_cons, ih ((net.closeChannel_slow first).trans h), isClosed_closeChannel h, closeChannel_openedCount,
      List.mem_cons, and_or_left, or_assoc]

/-- Each time that a channel is told to close counts, also when it is closed. -/
theorem timesClosed_closeChannel (net : LocalNet) {id' : ChannelId} (h : id' < net.openedCount) (id : ChannelId) :
    (net.closeChannel id).timesClosed id' = net.timesClosed id' + [id].count id' := by
  have hlt : id' < net.channels.length := h
  by_cases he : id = id'
  · simp [timesClosed, closeChannel, hlt, he]
  · simp [timesClosed, closeChannel, hlt, he]

theorem timesClosed_closeAll (net : LocalNet) {id : ChannelId} (h : id < net.openedCount) (ids : List ChannelId) :
    (ids.foldl closeChannel net).timesClosed id = net.timesClosed id + ids.count id := by
  induction ids generalizing net with
  | nil => rfl
  | cons first rest ih =>
    have hopened : id < (net.closeChannel first).openedCount := (closeChannel_openedCount net first).symm ▸ h
    rw [List.foldl_cons, ih _ hopened, timesClosed_closeChannel net h, Nat.add_assoc, ← List.count_append]
    rfl

/-- The count of closed channels, as the table has them one after the other. -/
theorem closedCount_eq (net : LocalNet) : net.closedCount = (List.range net.openedCount).countP net.isClosed := by
  change (net.channels.filter (·.closed)).length =
    (List.range net.channels.length).countP fun id => net.channels[id]?.any (·.closed)
  rw [← List.countP_eq_length_filter]
  induction net.channels with
  | nil => rfl
  | cons c rest ih =>
    rw [List.length_cons, List.range_succ_eq_map, List.countP_cons, List.countP_cons, List.countP_map, ih]
    rfl

end LedgerNet.LocalNet
