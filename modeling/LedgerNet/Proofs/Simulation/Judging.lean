import LedgerNet.Proofs.Request.Framing
import LedgerNet.Simulation.Services

/-!
A simulated node accepts exactly the payloads that are signed envelopes, and so it accepts what a client sends it. They
have nothing in common but the text between them.
-/
namespace LedgerNet.Simulation.ConsensusNode

open Text

variable {body : Bytes} {pair : Wire.SignaturePair} {payload : List Symbol}

/-- A pair names a key and holds a signature of some bytes by it, each of them in hexadecimal. -/
def Signs (pair : Wire.SignaturePair) (body : Bytes) : Prop :=
  ∃ key signature : Bytes, pair.publicKey.toLower = Hex.encode key ∧ pair.signature.toLower = Hex.encode signature ∧
    Ed25519.verify key body signature = true

/-- An envelope with a body in hexadecimal, and with signatures, all of them of that body. -/
def Signed (payload : List Symbol) : Prop :=
  ∃ (envelope : Wire.Envelope) (body : Bytes), Wire.Envelope.decode payload = .ok envelope ∧
    envelope.body.toLower = Hex.encode body ∧ envelope.signatures ≠ [] ∧ ∀ pair ∈ envelope.signatures, Signs pair body

theorem pairHolds_iff : pairHolds body pair = true ↔ Signs pair body := by
  unfold pairHolds
  constructor
  · intro h
    split at h
    · rename_i key signature hkey hsignature
      exact ⟨key, signature, Hex.decode?_iff.mp hkey, Hex.decode?_iff.mp hsignature, h⟩
    · cases h
  · rintro ⟨key, signature, hkey, hsignature, hverify⟩
    simpa only [Hex.decode?_iff.mpr hkey, Hex.decode?_iff.mpr hsignature] using hverify

theorem judge_ok_iff : judge payload = .ok ↔ Signed payload := by
  unfold judge
  constructor
  · intro h
    split at h
    · cases h
    · rename_i envelope henvelope
      split at h
      · cases h
      · rename_i body hbody
        split at h
        · rename_i hholds
          obtain ⟨hsome, hall⟩ := Bool.and_eq_true_iff.mp hholds
          refine ⟨envelope, body, henvelope, Hex.decode?_iff.mp hbody, ?_, ?_⟩
          · simpa using hsome
          · intro pair hpair
            exact pairHolds_iff.mp (List.all_eq_true.mp hall pair hpair)
        · cases h
  · rintro ⟨envelope, body, henvelope, hbody, hsome, hsigns⟩
    have hall : envelope.signatures.all (pairHolds body) = true :=
      List.all_eq_true.mpr fun pair hpair => pairHolds_iff.mpr (hsigns pair hpair)
    simp [henvelope, Hex.decode?_iff.mpr hbody, hsome, hall]

/-- The envelope of a transaction is signed if the signatures of its signers hold. -/
theorem signed_payload {t : Transaction} {node : AccountId} (hsigners : t.signers ≠ [])
    (hverify : ∀ s ∈ t.signers, Ed25519.verify s.publicKey (t.signedBytes node) (s.sign (t.signedBytes node)) = true) :
    Signed (Utf8.decode (Utf8.encode (t.payload node))) := by
  refine ⟨t.envelope node, t.signedBytes node, ?_, Hex.toLower_encode _, ?_, ?_⟩
  · rw [Utf8.decode_encode]
    exact Wire.Envelope.decode_encode _
  · exact fun hnil => hsigners (List.map_eq_nil_iff.mp hnil)
  · intro pair hpair
    obtain ⟨s, hs, rfl⟩ := List.mem_map.mp hpair
    exact ⟨s.publicKey, s.sign (t.signedBytes node), Hex.toLower_encode _, Hex.toLower_encode _, hverify s hs⟩

/-- Whatever its body, a transaction that some keys have signed is accepted by every node that it is encoded for; and
what a node accepts is a signed envelope, whoever has made it. -/
theorem accepts_signed (seeds : List Bytes) (body : Bytes) (nodeIds : Option (List AccountId)) (node : AccountId)
    (hseeds : seeds ≠ [])
    (hverify : ∀ seed ∈ seeds, Ed25519.verify (Ed25519.publicKey seed) (node.toBytes ++ body)
      (Ed25519.sign seed (node.toBytes ++ body)) = true) :
    (∃ payload, Transaction.encode ⟨body, seeds.map Signer.ofSeed, nodeIds⟩ node = .ok payload ∧
      judge (Utf8.decode (Utf8.encode payload)) = .ok) ∧
    ∀ payload : Bytes, judge (Utf8.decode payload) = .ok ↔ Signed (Utf8.decode payload) := by
  refine ⟨⟨Transaction.payload ⟨body, seeds.map Signer.ofSeed, nodeIds⟩ node, ?_, ?_⟩, fun _ => judge_ok_iff⟩
  · have hsome : ¬ (seeds.map Signer.ofSeed).isEmpty = true := by simpa using hseeds
    exact if_neg hsome
  · refine judge_ok_iff.mpr (signed_payload ?_ ?_)
    · exact fun hnil => hseeds (List.map_eq_nil_iff.mp hnil)
    · intro s hs
      obtain ⟨seed, hseed, rfl⟩ := List.mem_map.mp hs
      exact hverify seed hseed

def someSeed : Bytes := List.replicate 32 0x33

set_option maxRecDepth 100000 in
theorem accepts_signed_someSeed : [someSeed] ≠ [] ∧
    (∀ seed ∈ [someSeed], Ed25519.verify (Ed25519.publicKey seed) (EntityId.toBytes ⟨0, 0, 3⟩ ++ [1, 2])
      (Ed25519.sign seed (EntityId.toBytes ⟨0, 0, 3⟩ ++ [1, 2])) = true) ∧
    ∃ payload, Transaction.encode ⟨[1, 2], [Signer.ofSeed someSeed], none⟩ ⟨0, 0, 3⟩ = .ok payload ∧
      judge (Utf8.decode (Utf8.encode payload)) = .ok := by
  have hsome : [someSeed] ≠ [] := List.cons_ne_nil _ _
  have hverify : ∀ seed ∈ [someSeed], Ed25519.verify (Ed25519.publicKey seed) (EntityId.toBytes ⟨0, 0, 3⟩ ++ [1, 2])
      (Ed25519.sign seed (EntityId.toBytes ⟨0, 0, 3⟩ ++ [1, 2])) = true := by
    decide +kernel
  exact ⟨hsome, hverify, (accepts_signed [someSeed] [1, 2] none ⟨0, 0, 3⟩ hsome hverify).1⟩

end LedgerNet.Simulation.ConsensusNode
