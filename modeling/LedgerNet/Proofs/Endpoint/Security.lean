import LedgerNet.Endpoint

/-! What a switch of transport security keeps of an address, and which addresses it merges. -/
namespace LedgerNet.Endpoint

/-- An address already under a mode of security is left as it is. -/
theorem withSecurity_idem (e : Endpoint) (secure : Bool) :
    (e.withSecurity secure).withSecurity secure = e.withSecurity secure := by
  cases e with
  | inProcess name => cases secure <;> rfl
  | remote host port forced =>
    cases secure with
    | true =>
      by_cases hp : port = plainPort
      · subst port; rfl
      · simp [withSecurity, toSecure, hp]
    | false =>
      by_cases hp : port = tlsPort
      · subst port; rfl
      · simp [withSecurity, toInsecure, hp]

/-- Plain traffic leaves every address as it is but those on the TLS consensus port. -/
theorem toInsecure_eq_self {e : Endpoint} : e.toInsecure = e ↔ e.port? ≠ some tlsPort := by
  cases e with
  | inProcess name => simp [toInsecure, port?]
  | remote host port secure =>
    by_cases hp : port = tlsPort
    · subst hp
      simp [toInsecure, port?, plainPort, tlsPort]
    · simp [toInsecure, port?, hp]

/-- Under plain traffic no address stands on the TLS consensus port. -/
theorem port_of_toInsecure {host : String} {port : UInt16} {forced : Bool}
    (h : (remote host port forced).toInsecure = remote host port forced) : port ≠ tlsPort := by
  rintro rfl
  injection h with _ hport _
  contradiction

/-- Under TLS no address stands on the plain consensus port. -/
theorem port_of_toSecure {host : String} {port : UInt16} {forced : Bool}
    (h : (remote host port forced).toSecure = remote host port forced) : port ≠ plainPort := by
  rintro rfl
  injection h with _ hport _
  contradiction

/-- The move to TLS keeps addresses apart. -/
theorem toSecure_inj {a b : Endpoint} (ha : a.toInsecure = a) (hb : b.toInsecure = b)
    (h : a.toSecure = b.toSecure) : a = b := by
  cases a with
  | inProcess n =>
    cases b with
    | inProcess n' => exact h
    | remote host port forced => cases h
  | remote host port forced =>
    cases b with
    | inProcess n => cases h
    | remote host' port' forced' =>
      have hport := port_of_toInsecure ha
      have hport' := port_of_toInsecure hb
      simp only [toSecure, remote.injEq] at h
      obtain ⟨rfl, hp, rfl⟩ := h
      have : port = port' := by
        split at hp <;> split at hp <;> simp_all
      rw [this]

/-- Two addresses on the TLS consensus port of one host, of which one demands TLS and the other does not. -/
def Twins (a b : Endpoint) : Prop :=
  ∃ host forced, a = .remote host tlsPort forced ∧ b = .remote host tlsPort (!forced)

theorem Twins.ne {a b : Endpoint} (h : Twins a b) : a ≠ b := by
  obtain ⟨host, forced, rfl, rfl⟩ := h
  simp

/-- The move to plain traffic merges twins, and nothing else. -/
theorem toInsecure_eq {a b : Endpoint} (ha : a.toSecure = a) (hb : b.toSecure = b) :
    a.toInsecure = b.toInsecure ↔ a = b ∨ Twins a b := by
  constructor
  · intro h
    cases a with
    | inProcess n =>
      cases b with
      | inProcess n' => exact .inl h
      | remote host port forced => simp only [toInsecure] at h; split at h <;> cases h
    | remote host port forced =>
      cases b with
      | inProcess n => simp only [toInsecure] at h; split at h <;> cases h
      | remote host' port' forced' =>
        have hport := port_of_toSecure ha
        have hport' := port_of_toSecure hb
        simp only [toInsecure] at h
        split at h <;> split at h <;> simp only [remote.injEq] at h
        · rename_i hp hp'
          obtain ⟨rfl, -, -⟩ := h
          subst hp hp'
          by_cases hf : forced = forced'
          · exact .inl (by rw [hf])
          · exact .inr ⟨host, forced, rfl, by rw [Bool.eq_not.mpr (Ne.symm hf)]⟩
        · exact absurd h.2.1.symm hport'
        · exact absurd h.2.1 hport
        · obtain ⟨rfl, rfl, rfl⟩ := h
          exact .inl rfl
  · rintro (rfl | ⟨host, forced, rfl, rfl⟩)
    · rfl
    · simp [toInsecure]

/-- Whether an address demands TLS on a port that moves with the mode of security. -/
def insists : Endpoint → Bool
  | .remote _ port secure => secure && (port == plainPort || port == tlsPort)
  | .inProcess _ => false

/-- The address without such a demand. -/
def lapsed (e : Endpoint) : Endpoint :=
  match e with
  | .remote host port secure => .remote host port (secure && !insists (.remote host port secure))
  | .inProcess name => .inProcess name

theorem insists_lapsed (e : Endpoint) : e.lapsed.insists = false := by
  cases e with
  | inProcess name => rfl
  | remote host port forced => cases forced <;> simp [lapsed, insists]

theorem lapsed_eq_iff {e : Endpoint} : e.lapsed = e ↔ e.insists = false := by
  constructor
  · intro h
    rw [← h]
    exact e.insists_lapsed
  · intro h
    cases e with
    | inProcess name => rfl
    | remote host port forced => simp [lapsed, h]

/-- A switch to the other mode of security and back lets a demand on a consensus port lapse, and does nothing else. -/
theorem switched_back {e : Endpoint} {secure : Bool} (h : e.withSecurity secure = e) :
    (e.withSecurity (!secure)).withSecurity secure = e.lapsed := by
  cases e with
  | inProcess name => cases secure <;> rfl
  | remote host port forced =>
    cases secure with
    | true =>
      have hport := port_of_toSecure h
      by_cases hp : port = tlsPort
      · subst hp
        cases forced <;> rfl
      · simp [withSecurity, toSecure, toInsecure, lapsed, insists, hp, hport]
    | false =>
      have hport := port_of_toInsecure h
      by_cases hp : port = plainPort
      · subst hp
        cases forced <;> rfl
      · simp [withSecurity, toSecure, toInsecure, lapsed, insists, hp, hport]

/-- Traffic that used TLS still does, except under plain traffic where TLS was demanded on a consensus port. -/
theorem isSecure_lapsed {e : Endpoint} {secure : Bool} (h : e.withSecurity secure = e) :
    e.lapsed.isSecure = (e.isSecure && (secure || !e.insists)) := by
  cases e with
  | inProcess name => rfl
  | remote host port forced =>
    cases secure with
    | true =>
      have hport := port_of_toSecure h
      by_cases hp : port = tlsPort
      · subst hp
        cases forced <;> rfl
      · simp [isSecure, lapsed, insists, beq_eq_false_iff_ne.mpr hp, beq_eq_false_iff_ne.mpr hport]
    | false =>
      have hport := port_of_toInsecure h
      by_cases hp : port = plainPort
      · subst hp
        cases forced <;> rfl
      · simp [isSecure, lapsed, insists, beq_eq_false_iff_ne.mpr hp, beq_eq_false_iff_ne.mpr hport]

end LedgerNet.Endpoint
