import LedgerNet.Proofs.Subscription.Following

/-!
A subscription whose streams break is handed what one unbroken stream would give it. The items it has received are
always the first of those that its query asks for, and each new stream is asked for all the others.
-/
namespace LedgerNet.Following

open Simulation Text Wire

variable {f : Following} {n : Nat} {got items rest : List TopicResponse}

/-- The drive waits for the next element of a stream of some items with `tail` behind them. -/
structure Receives (f : Following) (n : Nat) (got items : List TopicResponse) (tail : List (Except Status String))
    (staysOpen : Bool) : Prop where
  stands : f.Stands n got
  phase : ∃ mirror now interval metered, (f.drive n).phase =
    .receiving mirror ((⟨elements items ++ tail, interval, staysOpen, metered⟩ : Stream).pull now)

/-- The drive pauses, and will ask for another stream. -/
structure Pauses (f : Following) (n : Nat) (got : List TopicResponse) : Prop where
  stands : f.Stands n got
  pausing : (f.drive n).IsPausing

/-- A stream that fails in a way that is worth a reconnect, while there is one left. -/
theorem Pauses.of_failed (h : f.Stands n got) {d : Drive} {mirror : Endpoint} {status : Status} {w : World}
    (hstep : (f.drive n).step (f.before n) = d.endStream mirror (.failed status) w)
    (hd : Drive.Keeps (f.drive n) d) (hw : w.subscriptions = (f.before n).subscriptions)
    (ha : f.handlers.accepts status = true) (hb : (f.drive n).attempt < f.query.attemptBudget) :
    f.Pauses (n + 1) got ∧ (f.drive (n + 1)).attempt = (f.drive n).attempt := by
  have hhandlers : d.handlers = f.handlers := hd.handlers.trans h.handlers
  have hquery : d.query = f.query := hd.query.trans h.query
  obtain ⟨⟨hk, hs⟩, hp⟩ :=
    Drive.endStream_failed (d := d) (by rwa [hhandlers]) (by rwa [hquery, hd.attempt]) mirror w
  rw [← hstep] at hk hs hp
  have hc : (f.drive (n + 1)).isConnecting = false := by
    rcases hp with ⟨ends, hp⟩ | ⟨_, _, _, _, hp, _⟩
    · simp [Drive.isConnecting, drive_succ, hp]
    · simp [Drive.isConnecting, drive_succ, hp]
  have hkeeps := hd.trans hk
  exact ⟨⟨h.quiet ⟨hkeeps, hs.trans hw⟩ hc, hp⟩, hkeeps.attempt⟩

/-- A step that takes an item: either the limit is met with it, or the stream goes on. -/
theorem Receives.item {r : TopicResponse} {tail : List (Except Status String)} {staysOpen : Bool}
    (h : f.Receives n got (r :: items) tail staysOpen) (hgoing : ∀ n, f.handlers.stopsAt n = false) :
    f.Leads n (n + 1) ∧
      ((0 < f.query.limit.toNat ∧ f.query.limit.toNat ≤ got.length + 1 ∧ f.Done (n + 1) (got ++ [r])) ∨
        (f.Receives (n + 1) (got ++ [r]) items tail staysOpen ∧
          (f.drive (n + 1)).attempt = (f.drive n).attempt)) := by
  obtain ⟨hs, mirror, now, interval, metered, hphase⟩ := h
  refine ⟨.one (by simp [Drive.waiting, hphase, elements, Stream.pull]), ?_⟩
  have hcancelled := hs.hears_before.not_cancelled
  let stream : Stream := ⟨elements items ++ tail, interval, staysOpen, metered⟩
  let w : World := { f.before n with net := (f.before n).net.sent stream (.ok (encodeResponse r)) }
  have hstep : (f.drive n).step (f.before n) = (f.drive n).accept mirror r stream w := by
    simp only [Drive.step, hphase, elements, List.map_cons, List.cons_append, Stream.pull, hcancelled,
      Bool.false_eq_true, if_false, Drive.receive, hs.codec, MirrorCodec.json, decode_encodeResponse]
    rfl
  have hw : w.Hears (f.drive n).id ((ChunkBuffer.messages got).map .next) := hs.hears_before.congr rfl
  obtain ⟨d', w', hk, hears, haccept⟩ := Drive.accept_open hw (by rwa [hs.handlers]) mirror r stream
  have htaken := ChunkBuffer.acceptAll_append ⟨[]⟩ got r
  have hmessages : ChunkBuffer.messages (got ++ [r]) =
      ChunkBuffer.messages got ++ ((f.drive n).chunks.accept r).2.toList := by
    rw [ChunkBuffer.messages, htaken, hs.chunks]
    rfl
  rw [← List.map_append, ← hmessages] at hears
  have hquery : d'.query = f.query := hk.query.trans hs.query
  have hreceived : d'.received = got.length + 1 := hk.received.trans (congrArg (· + 1) hs.received)
  by_cases hmet : d'.limitMet = true
  · left
    rw [if_pos hmet] at haccept
    have hlimit : 0 < f.query.limit.toNat ∧ f.query.limit.toNat ≤ got.length + 1 := by
      simpa [Drive.limitMet, hquery, hreceived] using hmet
    have hend := Drive.endStream_completed (d := d') (hk.id ▸ hears) mirror
    rw [← haccept, ← hstep, Drive.farewell, hk.id.trans hs.id, hk.handlers.trans hs.handlers] at hend
    exact ⟨hlimit.1, hlimit.2, hend⟩
  · right
    rw [if_neg hmet, ← hstep] at haccept
    have hdrive : f.drive (n + 1) = { d' with phase := .receiving mirror (stream.pull w'.now) } :=
      congrArg Prod.fst haccept
    have hworld : (f.after (n + 1)).2 = w' := congrArg Prod.snd haccept
    have hkept : Drive.Keeps d' (f.drive (n + 1)) := hdrive ▸ ⟨rfl, rfl, rfl, rfl, rfl, rfl, rfl, rfl⟩
    have hgot : Drive.Keeps ((f.drive n).holding (got ++ [r])) (f.drive (n + 1)) := by
      refine Drive.Keeps.trans ?_ (hk.trans hkept)
      refine ⟨rfl, rfl, rfl, rfl, ?_, ?_, ?_, rfl⟩
      · rw [Drive.holding, htaken, ← hs.chunks]
      · rw [Drive.holding, List.length_append, ← hs.received]
        rfl
      · rw [Drive.holding, List.getLast?_append]
        rfl
    have hstands : f.Stands (n + 1) (got ++ [r]) := by
      refine hs.succ hgot (by rw [hdrive]; rfl) ?_
      rw [hworld]
      exact hs.id ▸ hears
    exact ⟨⟨hstands, mirror, w'.now, interval, metered, by rw [hdrive]⟩, hgot.attempt⟩

/-- With no more items than a limit allows, none is left when the limit is met. -/
theorem nil_of_met {r : TopicResponse}
    (hlimit : 0 < f.query.limit.toNat → (got ++ r :: rest).length ≤ f.query.limit.toNat)
    (hpos : 0 < f.query.limit.toNat) (hmet : f.query.limit.toNat ≤ got.length + 1) : rest = [] := by
  have hlen := hlimit hpos
  rw [List.length_append, List.length_cons] at hlen
  exact List.length_eq_zero_iff.mp (by omega)

/-- So many steps of the drive take an item each. -/
def Takes (f : Following) (n count : Nat) : Prop :=
  ∀ k < count, ∃ got r items tail staysOpen, f.Receives (n + k) got (r :: items) tail staysOpen

theorem Takes.leads {count : Nat} (h : f.Takes n count) : f.Leads n (n + count) := by
  refine ⟨Nat.le_add_right n count, ?_⟩
  intro k hk hlt
  obtain ⟨got, r, items, tail, staysOpen, -, mirror, now, interval, metered, hp⟩ := h (k - n) (by omega)
  rw [Nat.add_sub_cancel' hk] at hp
  simp [Drive.waiting, hp, elements, Stream.pull]

theorem Takes.cons {count : Nat} {r : TopicResponse} {tail : List (Except Status String)} {staysOpen : Bool}
    (hfirst : f.Receives n got (r :: items) tail staysOpen) (h : f.Takes (n + 1) count) : f.Takes n (count + 1) := by
  intro k hk
  cases k with
  | zero => exact ⟨got, r, items, tail, staysOpen, hfirst⟩
  | succ k =>
    rw [Nat.add_comm k 1, ← Nat.add_assoc]
    exact h k (Nat.lt_of_succ_lt_succ hk)

/-- The drive takes the items of a stream one by one. A limit is met with the last of them, or not yet. -/
theorem Receives.through {tail : List (Except Status String)} {staysOpen : Bool}
    (h : f.Receives n got items tail staysOpen) (hgoing : ∀ n, f.handlers.stopsAt n = false)
    (hlimit : 0 < f.query.limit.toNat → (got ++ items).length ≤ f.query.limit.toNat) :
    f.Takes n items.length ∧
      ((0 < f.query.limit.toNat ∧ f.query.limit.toNat ≤ (got ++ items).length ∧
          f.Done (n + items.length) (got ++ items)) ∨
        (f.Receives (n + items.length) (got ++ items) [] tail staysOpen ∧
          (f.drive (n + items.length)).attempt = (f.drive n).attempt)) := by
  induction items generalizing n got with
  | nil =>
    rw [List.append_nil]
    exact ⟨fun k hk => absurd hk (Nat.not_lt_zero k), .inr ⟨h, rfl⟩⟩
  | cons r items ih =>
    have htakes (hrest : f.Takes (n + 1) items.length) : f.Takes n (items.length + 1) := .cons h hrest
    have hplace : n + (items.length + 1) = n + 1 + items.length := by omega
    rw [List.length_cons, hplace]
    obtain ⟨-, ⟨hpos, hmet, hdone⟩ | ⟨hnext, hattempt⟩⟩ := h.item hgoing
    · have hnil := nil_of_met hlimit hpos hmet
      subst hnil
      refine ⟨htakes fun k hk => absurd hk (Nat.not_lt_zero k), .inl ⟨hpos, ?_, hdone⟩⟩
      simpa using hmet
    · have hrest := ih hnext (by rwa [List.append_assoc])
      rw [List.append_assoc, hattempt] at hrest
      exact ⟨htakes hrest.1, hrest.2⟩

/-- A stream that has given all its items ends, and all is done. -/
theorem Receives.ended (h : f.Receives n got [] [] false) : f.Leads n (n + 1) ∧ f.Done (n + 1) got := by
  obtain ⟨hs, mirror, now, interval, metered, hphase⟩ := h
  have hstep : (f.drive n).step (f.before n) = (f.drive n).endStream mirror .completed (f.before n) := by
    simp only [Drive.step, hphase, elements, List.map_nil, List.append_nil, Stream.pull,
      hs.hears_before.not_cancelled, Bool.false_eq_true, if_false]
  exact ⟨.one (by simp [Drive.waiting, hphase, elements, Stream.pull]), hs.done (.inl ⟨mirror, hstep⟩)⟩

/-- A stream fails, while there is a reconnect left. -/
theorem Receives.broken {status : Status} {more : List (Except Status String)} {staysOpen : Bool}
    (h : f.Receives n got [] (.error status :: more) staysOpen) (ha : f.handlers.accepts status = true)
    (hb : (f.drive n).attempt < f.query.attemptBudget) :
    f.Leads n (n + 1) ∧ f.Pauses (n + 1) got ∧ (f.drive (n + 1)).attempt = (f.drive n).attempt := by
  obtain ⟨hs, mirror, now, interval, metered, hphase⟩ := h
  let stream : Stream := ⟨more, interval, staysOpen, metered⟩
  let w : World := { f.before n with net := (f.before n).net.sent stream (.error status) }
  have hstep : (f.drive n).step (f.before n) = (f.drive n).endStream mirror (.failed status) w := by
    simp only [Drive.step, hphase, elements, List.map_nil, List.nil_append, Stream.pull,
      hs.hears_before.not_cancelled, Bool.false_eq_true, if_false, Drive.receive]
    rfl
  exact ⟨.one (by simp [Drive.waiting, hphase, elements, Stream.pull]),
    Pauses.of_failed (w := w) hs hstep (.refl _) rfl ha hb⟩

/-- A stream that gives all its items and ends. -/
theorem Receives.whole (h : f.Receives n got items [] false) (hgoing : ∀ n, f.handlers.stopsAt n = false)
    (hlimit : 0 < f.query.limit.toNat → (got ++ items).length ≤ f.query.limit.toNat) :
    ∃ m, f.Leads n m ∧ f.Done m (got ++ items) := by
  obtain ⟨htakes, ⟨-, -, hdone⟩ | ⟨hlast, -⟩⟩ := h.through hgoing hlimit
  · exact ⟨_, htakes.leads, hdone⟩
  · obtain ⟨hone, hdone⟩ := hlast.ended
    exact ⟨_, htakes.leads.trans hone, hdone⟩

/-- A stream that fails behind some items, while there is a reconnect left. -/
theorem Receives.cut {status : Status} {more : List (Except Status String)} {staysOpen : Bool}
    (h : f.Receives n got items (.error status :: more) staysOpen) (hgoing : ∀ n, f.handlers.stopsAt n = false)
    (ha : f.handlers.accepts status = true) (hb : (f.drive n).attempt < f.query.attemptBudget)
    (hlimit : 0 < f.query.limit.toNat → (got ++ (items ++ rest)).length ≤ f.query.limit.toNat) :
    ∃ m, f.Leads n m ∧ (f.Done m (got ++ (items ++ rest)) ∨
      (f.Pauses m (got ++ items) ∧ (f.drive m).attempt = (f.drive n).attempt)) := by
  have hfits (hpos : 0 < f.query.limit.toNat) : (got ++ items).length + rest.length ≤ f.query.limit.toNat := by
    rw [← List.length_append, List.append_assoc]
    exact hlimit hpos
  obtain ⟨htakes, ⟨hpos, hmet, hdone⟩ | ⟨hlast, hattempt⟩⟩ :=
    h.through hgoing fun hpos => Nat.le_of_add_right_le (hfits hpos)
  · have hnil : rest = [] := List.length_eq_zero_iff.mp (by have hle := hfits hpos; omega)
    subst hnil
    exact ⟨_, htakes.leads, .inl (by rwa [List.append_nil])⟩
  · obtain ⟨hone, hpauses, hm⟩ := hlast.broken ha (by rwa [hattempt])
    exact ⟨_, htakes.leads.trans hone, .inr ⟨hpauses, hm.trans hattempt⟩⟩

/-- At the end of a pause the drive asks for a stream, one attempt later. -/
theorem Stands.wakes {ends : Instant} (h : f.Stands n got) (hp : (f.drive n).phase = .pausing ends) :
    f.Leads n (n + 1) ∧ f.Stands (n + 1) got ∧ (f.drive (n + 1)).phase = .connecting ∧
      (f.drive (n + 1)).attempt = (f.drive n).attempt + 1 := by
  have hstep : f.after (n + 1) =
      ({ f.drive n with attempt := (f.drive n).attempt + 1, phase := .connecting }, f.before n) := by
    rw [after_succ]
    simp only [Drive.step, hp, h.hears_before.not_cancelled, Bool.false_eq_true, if_false]
  have hdrive : f.drive (n + 1) = { f.drive n with attempt := (f.drive n).attempt + 1, phase := .connecting } :=
    congrArg Prod.fst hstep
  have hc : (f.drive n).isConnecting = false := by simp [Drive.isConnecting, hp]
  refine ⟨.one (by simp [Drive.waiting, hp]), ⟨?_, ?_, ?_, ?_, ?_, ?_, ?_, ?_, ?_⟩, ?_, ?_⟩
  · exact hdrive ▸ h.id
  · exact hdrive ▸ h.codec
  · exact hdrive ▸ h.handlers
  · exact hdrive ▸ h.query
  · exact hdrive ▸ h.chunks
  · exact hdrive ▸ h.received
  · exact hdrive ▸ h.last
  · rw [connects_succ, h.connects, hdrive, hc]
    rfl
  · rw [hstep]
    exact h.id ▸ h.hears_before
  · rw [hdrive]
  · rw [hdrive]

/-- A pause ends, also when the mirror is benched first. -/
theorem Pauses.leads (h : f.Pauses n got) (hb : (f.drive n).attempt < f.query.attemptBudget) :
    ∃ m, f.Leads n m ∧ (∀ k, n ≤ k → k < m → (f.drive k).IsPausing) ∧ f.Stands m got ∧
      (f.drive m).phase = .connecting ∧ (f.drive m).attempt = (f.drive n).attempt + 1 := by
  rcases h.pausing with ⟨ends, hp⟩ | ⟨mirror, health, closing, status, hp, ha⟩
  · obtain ⟨hleads, hnext⟩ := h.stands.wakes hp
    refine ⟨n + 1, hleads, ?_, hnext⟩
    intro k hk hlt
    obtain rfl : k = n := by omega
    exact h.pausing
  · have hstep : (f.drive n).step (f.before n) = (f.drive n).retry status
        (({ f.before n with net := (f.before n).net.endClose closing }).report
          (.nodeUnhealthy mirror health.backoff.millis health.failures)) := by
      simp only [Drive.step, hp]
    obtain ⟨⟨hk, hs⟩, ends, hends⟩ := Drive.retry_accepted (d := f.drive n) ha (by rwa [h.stands.query])
      (({ f.before n with net := (f.before n).net.endClose closing }).report
        (.nodeUnhealthy mirror health.backoff.millis health.failures))
    rw [← hstep] at hk hs hends
    have hstands := h.stands.quiet ⟨hk, hs⟩ (by simp [Drive.isConnecting, drive_succ, hends])
    obtain ⟨hleads, hnext, hconnecting, hattempt⟩ := hstands.wakes hends
    have hone : f.Leads n (n + 1) := .one (by simp [Drive.waiting, hp])
    refine ⟨n + 2, hone.trans hleads, ?_, hnext, hconnecting, hattempt.trans (congrArg (· + 1) hk.attempt)⟩
    intro k hk hlt
    obtain rfl | rfl : k = n ∨ k = n + 1 := by omega
    · exact h.pausing
    · exact .inl ⟨ends, hends⟩

/-- From a step on, a stream runs its course: then all is done, or it broke and there is a pause before the next. -/
def RunsOut (f : Following) (broken : Option StreamBreak) (n : Nat) (items : List TopicResponse) : Prop :=
  ∃ m, f.Leads n m ∧ (f.Done m items ∨ (broken.isSome = true ∧ (f.drive m).attempt = (f.drive n).attempt ∧
    ∃ got rest, items = got ++ rest ∧ f.Pauses m got))

theorem RunsOut.of_step {broken : Option StreamBreak} (h : f.RunsOut broken (n + 1) items)
    (hone : (f.drive n).waiting ≠ .forever) (ha : (f.drive (n + 1)).attempt = (f.drive n).attempt) :
    f.RunsOut broken n items := by
  obtain ⟨m, hleads, hend⟩ := h
  exact ⟨m, (Leads.one hone).trans hleads, ha ▸ hend⟩

/-- The drive turns to the stream that has come. -/
theorem Stands.pulls {mirror : Endpoint} {stream : Stream} (h : f.Stands n got)
    (hp : (f.drive n).phase = .opening mirror (some (.ok stream))) :
    (f.drive n).waiting ≠ .forever ∧ (f.drive (n + 1)).attempt = (f.drive n).attempt ∧ f.Stands (n + 1) got ∧
      (f.drive (n + 1)).phase = .receiving mirror (stream.pull (f.before n).now) := by
  have hstep : (f.drive n).step (f.before n) = (f.drive n).pull mirror stream (f.before n) := by
    simp only [Drive.step, hp, h.hears_before.not_cancelled, Bool.false_eq_true, if_false]
  have hdrive : f.drive (n + 1) = ((f.drive n).pull mirror stream (f.before n)).1 := congrArg Prod.fst hstep
  refine ⟨by simp [Drive.waiting, hp], hdrive ▸ rfl, ?_, hdrive ▸ rfl⟩
  refine h.quiet ?_ (hdrive ▸ rfl)
  rw [hstep]
  exact ⟨⟨rfl, rfl, rfl, rfl, rfl, rfl, rfl, rfl⟩, rfl⟩

/-- What comes of a mirror's answer. -/
theorem Stands.opening {log : List TopicResponse} {q : MirrorQuery} {broken : Option StreamBreak} {mirror : Endpoint}
    {ticket : StreamTicket} (h : f.Stands n got) (hp : (f.drive n).phase = .opening mirror ticket)
    (hanswers : Answers log q broken ticket) (hasked : Mirror.asked log q = rest)
    (hgoing : ∀ n, f.handlers.stopsAt n = false)
    (haccepts : ∀ b ∈ broken, f.handlers.accepts b.status = true ∧ (f.drive n).attempt < f.query.attemptBudget)
    (hlimit : 0 < f.query.limit.toNat → (got ++ rest).length ≤ f.query.limit.toNat) :
    f.RunsOut broken n (got ++ rest) := by
  cases hanswers with
  | whole interval metered =>
    obtain ⟨hone, ha, hs, hphase⟩ := h.pulls hp
    have hreceives : f.Receives (n + 1) got rest [] false :=
      ⟨hs, mirror, _, interval, metered, by rw [hphase, hasked, List.append_nil]⟩
    obtain ⟨m, hleads, hdone⟩ := hreceives.whole hgoing hlimit
    exact ⟨m, (Leads.one hone).trans hleads, .inl hdone⟩
  | refused status =>
    obtain ⟨ha, hb⟩ := haccepts _ rfl
    have hstep : (f.drive n).step (f.before n) = (f.drive n).endStream mirror (.failed status) (f.before n) := by
      simp only [Drive.step, hp, h.hears_before.not_cancelled, Bool.false_eq_true, if_false]
    obtain ⟨hpauses, hattempt⟩ := Pauses.of_failed h hstep (.refl _) rfl ha hb
    exact ⟨n + 1, .one (by simp [Drive.waiting, hp]), .inr ⟨rfl, hattempt, got, rest, rfl, hpauses⟩⟩
  | cut count status more interval staysOpen metered =>
    obtain ⟨ha, hb⟩ := haccepts _ rfl
    obtain ⟨hone, hattempt, hs, hphase⟩ := h.pulls hp
    have hreceives : f.Receives (n + 1) got (rest.take count) (.error status :: more) staysOpen :=
      ⟨hs, mirror, _, interval, metered, by rw [hphase, hasked]⟩
    have hsplit (hpos : 0 < f.query.limit.toNat) :
        (got ++ (rest.take count ++ rest.drop count)).length ≤ f.query.limit.toNat := by
      rw [List.take_append_drop]
      exact hlimit hpos
    obtain ⟨m, hleads, hend⟩ := hreceives.cut hgoing ha (by rwa [hattempt]) hsplit
    rw [List.take_append_drop] at hend
    refine RunsOut.of_step ⟨m, hleads, hend.imp_right ?_⟩ hone hattempt
    rintro ⟨hpauses, hm⟩
    exact ⟨rfl, hm, got ++ rest.take count, rest.drop count, by rw [List.append_assoc, List.take_append_drop], hpauses⟩

theorem openStream_report (net : LocalNet) (event : Event) (id : ChannelId) (method payload : String) :
    ((net.report event).openStream id method payload).1 = (net.openStream id method payload).1 := by
  have hreach : (net.report event).reach id = net.reach id := rfl
  unfold LocalNet.openStream
  rw [hreach]
  split
  · rfl
  · split
    · rfl
    · rfl
    · split <;> rfl
    · rfl

/-- The drive sees an instant to go on from where there is one. -/
theorem Stands.has_next (h : f.Stands n got) (hnext : HasNext got) : (f.drive n).hasNextInstant = true := by
  rw [Drive.hasNextInstant, h.last]
  cases hlast : got.getLast? with
  | none => rfl
  | some r => exact hnext r hlast

/-- A drive that has met its limit completes. -/
theorem Stands.completes (h : f.Stands n got) (hp : (f.drive n).phase = .connecting)
    (hresume : f.query.resume (got.getLast?.map (·.timestamp)) got.length = none) :
    f.after (n + 1) = (f.drive n).complete (f.before n) ∧ f.Leads n (n + 1) ∧ f.Done (n + 1) got := by
  have hstep : (f.drive n).step (f.before n) = (f.drive n).complete (f.before n) := by
    simp only [Drive.step, hp, Drive.connect, h.query, h.last, h.received, hresume]
  exact ⟨hstep, .one (by simp [Drive.waiting, hp]), h.done (.inr hstep)⟩

/-- The drive asks the mirror whose turn it is for what its query goes on with. -/
theorem Stands.asks {next : TopicQuery} {lease : Lease String} {mirror : Topology String} {net : LocalNet}
    {id : ChannelId} (h : f.Stands n got) (hp : (f.drive n).phase = .connecting) (hlast : HasNext got)
    (hresume : f.query.resume (got.getLast?.map (·.timestamp)) got.length = some next)
    (turn : (f.before n).mirror.leaseNext (f.before n).net = (some lease, mirror, net))
    (channel : lease.channel = .ok id) : ∃ event, (f.drive (n + 1)).phase =
        .opening lease.endpoint ((net.report event).openStream id subscribeMethod (encodeQuery next)).1 ∧
      (f.after (n + 1)).2 =
        { f.before n with
          mirror, net := ((net.report event).openStream id subscribeMethod (encodeQuery next)).2 } ∧
      (f.drive (n + 1)).attempt = (f.drive n).attempt ∧ f.Leads n (n + 1) ∧ f.Stands (n + 1) got := by
  have hnext : (f.drive n).query.resume (f.drive n).last (f.drive n).received = some next := by
    rw [h.query, h.last, h.received, hresume]
  have hpayload : (f.drive n).codec.encodeQuery next = .ok (encodeQuery next) := by rw [h.codec]; rfl
  obtain ⟨event, hopens⟩ := Drive.connect_reached hnext (h.has_next hlast) turn channel hpayload
    h.hears_before.not_cancelled
  have hconnect : (f.drive n).step (f.before n) = (f.drive n).connect (f.before n) := by
    simp only [Drive.step, hp]
  have hstep := hconnect.trans hopens
  have hdrive := congrArg Prod.fst hstep
  have hattempt : (f.drive (n + 1)).attempt = (f.drive n).attempt := by rw [drive_succ, hdrive]
  refine ⟨event, congrArg Drive.phase hdrive, congrArg Prod.snd hstep, hattempt, .one (by simp [Drive.waiting, hp]), ?_⟩
  refine h.quiet ?_ (by rw [drive_succ, hdrive]; rfl)
  rw [hstep]
  exact ⟨⟨rfl, rfl, rfl, rfl, rfl, rfl, rfl, rfl⟩, rfl⟩

/-- What comes of asking for a stream. -/
theorem Stands.connecting {log : List TopicResponse} (hlog : IsLedgerLog log) {broken : Option StreamBreak}
    (h : f.Stands n got) (hp : (f.drive n).phase = .connecting)
    (hserves : ∀ payload, (f.drive n).payload? = some payload → (f.before n).Serves log payload broken)
    (hall : Mirror.asked log (.ofQuery f.query) = got ++ rest) (hgoing : ∀ n, f.handlers.stopsAt n = false)
    (haccepts : ∀ b ∈ broken, f.handlers.accepts b.status = true ∧ (f.drive n).attempt < f.query.attemptBudget) :
    f.RunsOut broken n (got ++ rest) := by
  have hlast : HasNext got := by
    refine hlog.hasNext fun r hr => (Mirror.asked_sublist log (.ofQuery f.query)).subset ?_
    rw [hall]
    exact List.mem_append_left _ hr
  cases hresume : f.query.resume (got.getLast?.map (·.timestamp)) got.length with
  | none =>
    have hnil := TopicQuery.resume_none hall hresume
    subst hnil
    obtain ⟨-, hone, hdone⟩ := h.completes hp hresume
    rw [List.append_nil]
    exact ⟨n + 1, hone, .inl hdone⟩
  | some next =>
    have hlimit (hpos : 0 < f.query.limit.toNat) : (got ++ rest).length ≤ f.query.limit.toNat :=
      hall ▸ Mirror.length_asked log (q := .ofQuery f.query) hpos
    have hone : (f.drive n).waiting ≠ .forever := by simp [Drive.waiting, hp]
    have hnext : (f.drive n).query.resume (f.drive n).last (f.drive n).received = some next := by
      rw [h.query, h.last, h.received, hresume]
    have hpayload : (f.drive n).payload? = some (encodeQuery next) := by
      simp [Drive.payload?, hnext, h.codec, MirrorCodec.json, Except.toOption]
    cases hserves (encodeQuery next) hpayload with
    | unreachable turn channel breaks =>
      rename_i lease mirror net status
      obtain ⟨ha, hb⟩ := haccepts _ breaks
      have hconnect : (f.drive n).step (f.before n) = (f.drive n).connect (f.before n) := by
        simp only [Drive.step, hp]
      have hstep := hconnect.trans (Drive.connect_unreachable hnext (h.has_next hlast) turn channel)
      obtain ⟨hpauses, hattempt⟩ :=
        Pauses.of_failed h hstep ⟨rfl, rfl, rfl, rfl, rfl, rfl, rfl, rfl⟩ rfl ha hb
      exact ⟨n + 1, .one hone, .inr ⟨by rw [breaks]; rfl, hattempt, got, rest, rfl, hpauses⟩⟩
    | reached turn channel answers =>
      obtain ⟨event, hphase, -, hattempt, -, hstands⟩ := h.asks hp hlast hresume turn channel
      refine RunsOut.of_step ?_ hone hattempt
      refine hstands.opening hphase ?_ (TopicQuery.asked_resume hlog.inOrder hall hlast hresume) hgoing
        (by rwa [hattempt]) hlimit
      rw [openStream_report]
      exact answers _ (decode_encodeQuery next)

/-- Asking for one stream after the other, the drive comes to its end. The induction is on the breaks to come. -/
theorem Stands.reaches_end {log : List TopicResponse} (hlog : IsLedgerLog log) {breaks : List StreamBreak}
    (hserved : f.Served log breaks) (hbudget : breaks.length ≤ f.query.attemptBudget)
    (haccepts : ∀ b ∈ breaks, f.handlers.accepts b.status = true) (hgoing : ∀ n, f.handlers.stopsAt n = false)
    (h : f.Stands n got) (hp : (f.drive n).phase = .connecting)
    (hall : Mirror.asked log (.ofQuery f.query) = got ++ rest) :
    ∃ m, f.Leads n m ∧ f.Done m (got ++ rest) := by
  induction hleft : breaks.length - (f.drive n).attempt using Nat.strongRecOn generalizing n got rest with
  | ind left ih =>
    have hc : (f.drive n).isConnecting = true := by simp [Drive.isConnecting, hp]
    have hconnects : f.connects n = (f.drive n).attempt := by
      rw [h.connects, hc]
      rfl
    have hworth : ∀ b ∈ breaks[f.connects n]?, f.handlers.accepts b.status = true ∧
        (f.drive n).attempt < f.query.attemptBudget := by
      intro b hb
      obtain ⟨hlt, hget⟩ := List.getElem?_eq_some_iff.mp hb
      rw [hconnects] at hlt
      exact ⟨haccepts b (hget ▸ List.getElem_mem _), Nat.lt_of_lt_of_le hlt hbudget⟩
    obtain ⟨m, hleads, hdone | ⟨hsome, hattempt, got', rest', hitems, hpauses⟩⟩ :=
      h.connecting hlog hp (hserved n · hc) hall hgoing hworth
    · exact ⟨m, hleads, hdone⟩
    · obtain ⟨b, hb⟩ := Option.isSome_iff_exists.mp hsome
      have hlt : (f.drive n).attempt < breaks.length := hconnects ▸ (List.getElem?_eq_some_iff.mp hb).1
      obtain ⟨k, hnext, -, hstands, hconnecting, hmore⟩ := hpauses.leads (hattempt ▸ (hworth b hb).2)
      rw [hitems] at hall ⊢
      obtain ⟨j, hrest, hdone⟩ :=
        ih (breaks.length - (f.drive k).attempt) (by omega) hstands hconnecting hall rfl
      exact ⟨j, (hleads.trans hnext).trans hrest, hdone⟩

/-- Whatever breaks its streams, a subscription that nobody cancels is handed the messages of one unbroken stream, in
order, each of them once, and then its completion. -/
theorem lossless (f : Following) {log : List TopicResponse} (hlog : IsLedgerLog log) {breaks : List StreamBreak}
    (hserved : f.Served log breaks) (hbudget : breaks.length ≤ f.query.attemptBudget)
    (haccepts : ∀ b ∈ breaks, f.handlers.accepts b.status = true) (hgoing : ∀ n, f.handlers.stopsAt n = false) :
    ∃ n, (∀ m < n, (f.drive m).waiting ≠ .forever) ∧ ∀ m ≥ n, (f.drive m).isFinished = true ∧
      f.heard m = (ChunkBuffer.messages (Mirror.asked log (.ofQuery f.query))).map .next ++
        if f.handlers.hearsCompletion then [.complete] else [] := by
  have hall : Mirror.asked log (.ofQuery f.query) = [] ++ Mirror.asked log (.ofQuery f.query) := rfl
  obtain ⟨n, hleads, hdone⟩ := f.stands_start.reaches_end hlog hserved hbudget haccepts hgoing rfl hall
  exact ⟨n, fun m hm => hleads.2 m (Nat.zero_le m) hm, fun m hm => hdone.told hm⟩

/-- A message in two chunks. -/
def twoChunks : List TopicResponse :=
  [⟨⟨1, 0⟩, 1, [], [1], some ⟨"0.0.2@1.0", 1, 2⟩⟩, ⟨⟨2, 0⟩, 2, [], [2], some ⟨"0.0.2@1.0", 2, 2⟩⟩]

/-- A world with a simulated mirror of the two chunks, which will break some streams behind the first item. -/
def mirrorWorld (breaksLeft : Nat) : World where
  net := { services := [⟨"in-process:m", "m", .mirror ⟨twoChunks, 1, breaksLeft, 0⟩⟩] }
  consensus := .empty {}
  mirror := (Topology.empty {}).enter 0 (.inProcess "m", "m")

/-- A subscription whose first stream breaks between the two chunks. -/
def betweenChunks : Following where
  handlers := {}
  query := { topic := ⟨0, 0, 7⟩ }
  world := mirrorWorld 1
  meddle n w := { mirrorWorld (if n = 0 then 1 else 0) with subscriptions := w.subscriptions }
  undisturbed _ _ := rfl

theorem mirrorWorld_serves {breaksLeft : Nat} {payload : String} {broken : Option StreamBreak}
    (hb : ∀ q, decodeQuery (Symbol.ofString payload) = .ok q →
      (⟨twoChunks, 1, breaksLeft, 0⟩ : Mirror).breaks? q = broken) (subscriptions : List Subscription) :
    ({ mirrorWorld breaksLeft with subscriptions } : World).Serves twoChunks payload broken := by
  have hturn : (mirrorWorld breaksLeft).mirror.leaseNext (mirrorWorld breaksLeft).net =
    (some ⟨"m", .inProcess "m", .fresh {} 0, .ok 0⟩, _, _) := rfl
  refine .reached hturn rfl ?_
  intro q hq
  rw [LocalNet.openStream_mirror ⟨twoChunks, 1, breaksLeft, 0⟩ rfl rfl, ← hb q hq]
  exact Mirror.answers ⟨twoChunks, 1, breaksLeft, 0⟩ hq

theorem betweenChunks_served : betweenChunks.Served twoChunks [.cut 1 (Mirror.cut 0)] := by
  intro n payload hc hpayload
  cases n with
  | zero =>
    refine mirrorWorld_serves ?_ _
    intro q hq
    cases hpayload
    rw [decode_encodeQuery] at hq
    cases hq
    rfl
  | succ n =>
    have hpos : 0 < betweenChunks.connects (n + 1) := by
      rw [connects, List.countP_pos_iff]
      exact ⟨0, by simp, rfl⟩
    have hnone : [StreamBreak.cut 1 (Mirror.cut 0)][betweenChunks.connects (n + 1)]? = none := by
      rw [List.getElem?_eq_none_iff]
      exact hpos
    rw [hnone]
    exact mirrorWorld_serves (fun q _ => by simp [Mirror.breaks?]) _

theorem twoChunks_log : IsLedgerLog twoChunks := ⟨by decide, by decide, by decide⟩

theorem lossless_between_chunks :
    IsLedgerLog twoChunks ∧ betweenChunks.Served twoChunks [.cut 1 (Mirror.cut 0)] ∧
      1 ≤ betweenChunks.query.attemptBudget ∧ betweenChunks.handlers.accepts (Mirror.cut 0) = true ∧
      ∃ n, ∀ m ≥ n, betweenChunks.heard m = [.next ⟨⟨2, 0⟩, 2, [], [1, 2], 2, some "0.0.2@1.0"⟩, .complete] := by
  have hbudget : 1 ≤ betweenChunks.query.attemptBudget := by decide
  have haccepts : betweenChunks.handlers.accepts (Mirror.cut 0) = true := by decide_cbv
  refine ⟨twoChunks_log, betweenChunks_served, hbudget, haccepts, ?_⟩
  obtain ⟨n, _, hend⟩ := betweenChunks.lossless twoChunks_log betweenChunks_served hbudget
    (by simpa [StreamBreak.status] using haccepts) (fun _ => rfl)
  refine ⟨n, fun m hm => ?_⟩
  rw [(hend m hm).2]
  have hmessages : ChunkBuffer.messages (Mirror.asked twoChunks (.ofQuery betweenChunks.query)) =
      [⟨⟨2, 0⟩, 2, [], [1, 2], 2, some "0.0.2@1.0"⟩] := by
    decide_cbv
  rw [hmessages]
  rfl

end LedgerNet.Following
