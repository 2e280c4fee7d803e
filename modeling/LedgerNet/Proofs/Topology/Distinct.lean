import LedgerNet.Proofs.Topology.Replace

/-!
When no two nodes share an endpoint. Every operation keeps endpoints apart but one: a switch to plain traffic moves
an address with a demand for TLS and its twin without one to the same place, and merges neither.
-/
namespace LedgerNet.Topology

variable {κ : Type}

/-- Two nodes stand on the TLS consensus port of one host, and only one of them demands TLS. -/
def HasTwins (t : Topology κ) : Prop := ∃ a ∈ t.endpoints, ∃ b ∈ t.endpoints, Endpoint.Twins a b

variable [DecidableEq κ] [Identity κ]

omit [Identity κ] in
/-- A switch of security moves every endpoint and renumbers nothing. -/
theorem switched {t : Topology κ} {secure : Bool} (h : t.secure ≠ secure) (net : LocalNet) [Identity κ] :
    ((Op.security secure).after net t).endpoints = t.endpoints.map (·.withSecurity secure) ∧
    ((Op.security secure).after net t).seqs = t.seqs ∧
    ((Op.security secure).after net t).nextSeq = t.nextSeq ∧
    ((Op.security secure).after net t).secure = secure := by
  simp [Op.after, switchSecurity, h, moveAll, endpoints, seqs, Node.moved]

theorem security_same {t : Topology κ} {secure : Bool} (h : t.secure = secure) (net : LocalNet) :
    (Op.security secure).after net t = t := by
  simp [Op.after, switchSecurity, h]

theorem Settled.security {t : Topology κ} (h : t.Settled) (secure : Bool) (net : LocalNet) :
    ((Op.security secure).after net t).Settled := by
  by_cases hm : t.secure = secure
  · rw [security_same hm]
    exact h
  · obtain ⟨he, hs, hn, hsec⟩ := switched hm net
    refine ⟨?_, hs ▸ h.ordered, ?_⟩
    · intro e hmem
      rw [he] at hmem
      obtain ⟨e', -, rfl⟩ := List.mem_map.mp hmem
      rw [hsec]
      exact e'.withSecurity_idem secure
    · rw [hs, hn]
      exact h.bound

theorem Within.verify (t : Topology κ) (wanted : Bool) (net : LocalNet) :
    Within ((Op.verify wanted).after net t) t := by
  by_cases hm : t.verify = wanted
  · have : (Op.verify wanted).after net t = t := by simp [Op.after, switchVerify, hm]
    rw [this]
    exact .refl t
  · simp only [Op.after, switchVerify, hm, if_false]
    exact .of_map rfl (by intro n; rfl) (by intro n; rfl) rfl rfl

/-- All operations but a replacement and a switch of security let nodes stay where they are, or go. -/
theorem Settled.op_cases {t : Topology κ} (h : t.Settled) (op : Op κ) (net : LocalNet) :
    (∃ network, op = .replace network) ∨ (∃ secure, op = .security secure) ∨ Within (op.after net t) t := by
  cases op with
  | replace network => exact .inl ⟨network, rfl⟩
  | security secure => exact .inr (.inl ⟨secure, rfl⟩)
  | verify wanted => exact .inr (.inr (.verify t wanted net))
  | lease id => exact .inr (.inr (h.lease id net))
  | leaseNext => exact .inr (.inr (h.lease_next net))
  | succeed endpoint => exact .inr (.inr (.of_update (by intro n; rfl) (by intro n; rfl) endpoint))
  | fail endpoint => exact .inr (.inr (.mark_failure t endpoint net))
  | clear => exact .inr (.inr ⟨List.nil_sublist _, List.nil_sublist _, rfl, rfl⟩)
  | maxNodes count => exact .inr (.inr ⟨.refl _, .refl _, rfl, rfl⟩)
  | ledger known => exact .inr (.inr ⟨.refl _, .refl _, rfl, rfl⟩)
  | book fetched => exact .inr (.inr (.of_map rfl (by intro n; rfl) (by intro n; rfl) rfl rfl))

theorem Settled.after_op {t : Topology κ} (h : t.Settled) (op : Op κ) (net : LocalNet) :
    (op.after net t).Settled := by
  rcases h.op_cases op net with ⟨network, rfl⟩ | ⟨secure, rfl⟩ | hw
  · exact h.replace_network network net.now
  · exact h.security secure net
  · exact hw.settled h

theorem settled_after (o : TopologyOptions) (history : History κ) : ((empty o).after history).Settled :=
  after_induction (P := Settled) (fun _ op net h => h.after_op op net)
    ⟨fun _ he => (List.not_mem_nil he).elim, .nil, fun _ hs => (List.not_mem_nil hs).elim⟩ history

omit [DecidableEq κ] [Identity κ] in
/-- Under plain traffic there are no twins. -/
theorem Settled.secure_of_twins {t : Topology κ} (h : t.Settled) (ht : t.HasTwins) : t.secure = true := by
  obtain ⟨a, ha, b, -, host, forced, rfl, -⟩ := ht
  by_cases hs : t.secure = true
  · exact hs
  · have hp := h.placed _ ha
    rw [Bool.eq_false_iff.mpr hs] at hp
    exact absurd rfl (Endpoint.port_of_toInsecure hp)

theorem Settled.to_secure {t : Topology κ} (h : t.Settled) (hd : t.Distinct) (net : LocalNet) :
    ((Op.security true).after net t).Distinct := by
  by_cases hm : t.secure = true
  · rw [security_same hm]
    exact hd
  · rw [Distinct, (switched hm net).1]
    refine List.Nodup.map_on ?_ hd
    intro a ha b hb he
    have hp := h.placed
    rw [Bool.eq_false_iff.mpr hm] at hp
    exact Endpoint.toSecure_inj (hp a ha) (hp b hb) he

theorem Settled.to_insecure {t : Topology κ} (h : t.Settled) (hd : t.Distinct) (ht : ¬ t.HasTwins)
    (net : LocalNet) : ((Op.security false).after net t).Distinct := by
  by_cases hm : t.secure = false
  · rw [security_same hm]
    exact hd
  · rw [Distinct, (switched hm net).1]
    refine List.Nodup.map_on ?_ hd
    intro a ha b hb he
    have hp := h.placed
    rw [(Bool.not_eq_false _).mp hm] at hp
    rcases (Endpoint.toInsecure_eq (hp a ha) (hp b hb)).mp he with he | htwins
    · exact he
    · exact absurd ⟨a, ha, b, hb, htwins⟩ ht

/-- Twins end up at one endpoint. -/
theorem Settled.merged {t : Topology κ} (h : t.Settled) (ht : t.HasTwins) (net : LocalNet) :
    ¬ ((Op.security false).after net t).Distinct := by
  have hp := h.placed
  rw [h.secure_of_twins ht] at hp
  have hm : t.secure ≠ false := by simp [h.secure_of_twins ht]
  rw [Distinct, (switched hm net).1]
  intro hd
  obtain ⟨a, ha, b, hb, htwins⟩ := ht
  have he := (Endpoint.toInsecure_eq (hp a ha) (hp b hb)).mpr (.inr htwins)
  exact htwins.ne (List.inj_on_of_nodup_map hd ha hb he)

theorem Settled.distinct_op {t : Topology κ} (h : t.Settled) (hd : t.Distinct) (op : Op κ) (net : LocalNet)
    (ht : op = .security false → ¬ t.HasTwins) : (op.after net t).Distinct := by
  rcases h.op_cases op net with ⟨network, rfl⟩ | ⟨secure, rfl⟩ | hw
  · exact hd.replace_network network net.now
  · cases secure with
    | true => exact h.to_secure hd net
    | false => exact h.to_insecure hd (ht rfl) net
  · exact hw.distinct hd

/-- Endpoints are distinct all along a history exactly when no switch to plain traffic in it meets twins. -/
theorem distinct_throughout_iff (o : TopologyOptions) (history : History κ) :
    (∀ past, past <:+ history → ((empty o).after past).Distinct) ↔
      ∀ net past, (net, .security false) :: past <:+ history → ¬ ((empty o).after past).HasTwins := by
  constructor
  · intro hd net past hp ht
    exact (settled_after o past).merged ht net (hd _ hp)
  · intro ht past hp
    induction past with
    | nil => exact List.nodup_nil
    | cons move past ih =>
      obtain ⟨net, op⟩ := move
      have hd := ih ((List.suffix_cons _ _).trans hp)
      refine (settled_after o past).distinct_op hd op net ?_
      rintro rfl
      exact ht net past hp

/-- Twins as they can be set, and the switch that merges them. -/
def mergingSwitch : History AccountId :=
  [({}, .security false),
    ({}, .replace [(.remote "h" tlsPort true, ⟨0, 0, 3⟩), (.remote "h" tlsPort false, ⟨0, 0, 4⟩)])]

theorem not_always_distinct :
    ¬ ∀ (o : TopologyOptions) (history : History AccountId), ((empty o).after history).Distinct := by
  intro h
  have hends : ((empty { secure := true }).after mergingSwitch).endpoints =
      [.remote "h" plainPort false, .remote "h" plainPort false] := by cbv
  have hd := h { secure := true } mergingSwitch
  rw [Distinct, hends] at hd
  exact (List.nodup_cons.mp hd).1 List.mem_cons_self

end LedgerNet.Topology
