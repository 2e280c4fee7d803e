import Mathlib
import LedgerNet.Proofs.Request.Sending
import LedgerNet.Proofs.Text.Hex
import LedgerNet.Proofs.Wire.Consensus

/-!
How a transaction is framed. The bytes that are signed begin with the account of the node, so that they are good for
that node only. Whatever is sent on a channel is framed for the node that the channel was leased for, and a submission
that succeeds tells what was sent last.
-/
namespace LedgerNet

open Text

/-- The number that bytes stand for, the most significant first. -/
def bigEndian (bytes : Bytes) : Nat := bytes.foldl (fun n b => n * 256 + b.toNat) 0

theorem bigEndian_append (high low : Bytes) :
    bigEndian (high ++ low) = bigEndian high * 256 ^ low.length + bigEndian low := by
  have hfrom (n : Nat) : low.foldl (fun n b => n * 256 + b.toNat) n = n * 256 ^ low.length + bigEndian low := by
    unfold bigEndian
    induction low generalizing n with
    | nil => simp
    | cons b rest ih =>
      rw [List.foldl_cons, List.foldl_cons, ih, ih (0 * 256 + b.toNat), List.length_cons]
      ring
  rw [bigEndian, List.foldl_append, hfrom]
  rfl

namespace EntityId

theorem length_wordBytes (w : UInt64) : (wordBytes w).length = 8 := rfl

theorem bigEndian_wordBytes (w : UInt64) : bigEndian (wordBytes w) = w.toNat := by
  have hw : w.toNat < 18446744073709551616 := w.toNat_lt
  simp only [bigEndian, wordBytes, List.map_cons, List.map_nil, List.foldl_cons, List.foldl_nil, UInt8.toNat_ofNat',
    Nat.pow_eq]
  omega

theorem length_toBytes (id : EntityId) : id.toBytes.length = 24 := rfl

theorem bigEndian_toBytes (id : EntityId) :
    bigEndian id.toBytes = id.shard.toNat * 2 ^ 128 + id.realm.toNat * 2 ^ 64 + id.num.toNat := by
  simp only [toBytes, bigEndian_append, bigEndian_wordBytes, length_wordBytes]
  ring

theorem wordBytes_inj {w w' : UInt64} (h : wordBytes w = wordBytes w') : w = w' := by
  have hnumber : w.toNat = w'.toNat := by rw [← bigEndian_wordBytes w, h, bigEndian_wordBytes]
  exact UInt64.toNat_inj.mp hnumber

theorem toBytes_inj {id id' : EntityId} (h : id.toBytes = id'.toBytes) : id = id' := by
  obtain ⟨hfront, hnum⟩ := List.append_inj' h rfl
  obtain ⟨hshard, hrealm⟩ := List.append_inj' hfront rfl
  obtain ⟨shard, realm, num⟩ := id
  obtain ⟨shard', realm', num'⟩ := id'
  obtain rfl : shard = shard' := wordBytes_inj hshard
  obtain rfl : realm = realm' := wordBytes_inj hrealm
  obtain rfl : num = num' := wordBytes_inj hnum
  rfl

end EntityId

namespace Transaction

/-- What is signed for a node says for which node, and which transaction. -/
theorem signedBytes_inj {t t' : Transaction} {node node' : AccountId} (h : t.signedBytes node = t'.signedBytes node') :
    node = node' ∧ t.body = t'.body := by
  obtain ⟨hnode, hbody⟩ := List.append_inj h rfl
  exact ⟨EntityId.toBytes_inj hnode, hbody⟩

/-- Only what is signed is encoded. -/
theorem encode_ok {t : Transaction} {node : AccountId} {payload : String} (h : t.encode node = .ok payload) :
    t.signers ≠ [] ∧ payload = t.payload node := by
  unfold encode at h
  split at h
  · cases h
  · rename_i hsigners
    exact ⟨by simpa using hsigners, (Except.ok.inj h).symm⟩

/-- A text is the envelope of a transaction for a node: it names the node, its body is the node's account as 24 bytes
and then the transaction's own, and every signer has signed those bytes. -/
def Frames (t : Transaction) (node : AccountId) (payload : String) : Prop :=
  ∃ e, Wire.Envelope.decode (Utf8.decode (Utf8.encode payload)) = .ok e ∧ e.node = node ∧
    ∃ account signed : Bytes, account.length = 24 ∧
      bigEndian account = node.shard.toNat * 2 ^ 128 + node.realm.toNat * 2 ^ 64 + node.num.toNat ∧
      signed = account ++ t.body ∧ e.body = Hex.encode signed ∧
      e.signatures = t.signers.map fun s => ⟨Hex.encode s.publicKey, Hex.encode (s.sign signed)⟩

theorem payload_frames (t : Transaction) (node : AccountId) : t.Frames node (t.payload node) := by
  refine ⟨t.envelope node, ?_, rfl, node.toBytes, t.signedBytes node, node.length_toBytes, node.bigEndian_toBytes, rfl,
    rfl, rfl⟩
  rw [Utf8.decode_encode]
  exact Wire.Envelope.decode_encode _

/-- Whatever a submission sends, over any retries and failovers, is framed for the node that its channel was leased
for, and a submission that succeeds reports that node and the hash of what it sent last. What is signed for one node and
transaction is never what is signed for another. -/
theorem submissions_framed (t : Transaction) (policy : RetryPolicy) (refreshes : Bool) (w : World)
    (meddle : Nat → World → World) (n : Nat) :
    let c : Course Submitted := ⟨t.request, policy, refreshes, w, meddle⟩
    (∀ k, RequestRun.Reaches (c.run k) (c.before k) (c.after (k + 1)) ((c.run k).sent? (c.before k))) ∧
    (∀ s ∈ c.sent n, t.signers ≠ [] ∧ t.Frames s.node s.payload) ∧
    (∀ ex, (c.run n).phase = .finished (.ok ex) → ∃ s, (c.sent n).getLast? = some s ∧
      ex.value.hash = Hex.encode (Sha2.sha384 (Utf8.encode s.payload)) ∧ ex.value.node = s.node ∧ ex.node = s.node) ∧
    ∀ (t' : Transaction) (node node' : AccountId), t.signedBytes node = t'.signedBytes node' →
      node = node' ∧ t.body = t'.body := by
  intro c
  refine ⟨fun k => RequestRun.step_reaches _ _, ?_, ?_, fun t' node node' => signedBytes_inj⟩
  · intro s hs
    obtain ⟨hsigners, hpayload⟩ := encode_ok (Course.sent_encoded hs)
    exact ⟨hsigners, hpayload ▸ t.payload_frames s.node⟩
  · intro ex hp
    have hlast := c.lastSent n
    simp only [Course.LastSent, hp] at hlast
    obtain ⟨s, response, hlast, hnode, hvalue⟩ := hlast
    obtain ⟨-, hpayload⟩ := encode_ok (Course.sent_encoded (List.mem_of_getLast? hlast))
    have hexecuted : ex.value = ⟨s.node, t.hash s.node⟩ := (Except.ok.inj hvalue).symm
    refine ⟨s, hlast, ?_, ?_, hnode⟩
    · rw [hexecuted, hpayload]
      rfl
    · rw [hexecuted]

/-- A transaction for two nodes, of which the first is not there. -/
def failingOver : Course Submitted where
  request := request ⟨[1, 2], [⟨[7], fun bytes => bytes⟩], some [⟨0, 0, 3⟩, ⟨0, 0, 4⟩]⟩
  policy := {}
  refreshes := false
  world := {
    net := { services := [⟨"in-process:m", "m", .answering ⟨[], ⟨.text "\x7b\"status\":\"OK\"\x7d", 0⟩, none⟩⟩] }
    consensus := ((Topology.empty {}).enter 0 (.inProcess "n", ⟨0, 0, 3⟩)).enter 0 (.inProcess "m", ⟨0, 0, 4⟩)
    mirror := .empty {} }
  meddle _ w := w

/-- It is framed once for each node, and the second frame is the one that is reported. -/
theorem submissions_framed_failing_over :
    (failingOver.sent 5).map (·.node) = [⟨0, 0, 3⟩, ⟨0, 0, 4⟩] ∧
    ∃ ex s, (failingOver.run 5).phase = .finished (.ok ex) ∧ (failingOver.sent 5).getLast? = some s ∧
      ex.value.hash = Hex.encode (Sha2.sha384 (Utf8.encode s.payload)) ∧ ex.value.node = s.node := by
  have hnodes : (failingOver.sent 5).map (·.node) = [⟨0, 0, 3⟩, ⟨0, 0, 4⟩] := by decide +kernel
  have hends : ((failingOver.run 5).result?.bind (·.toOption)).isSome = true := by decide +kernel
  obtain ⟨ex, hphase⟩ : ∃ ex, (failingOver.run 5).phase = .finished (.ok ex) := by
    unfold RequestRun.result? at hends
    split at hends
    · rename_i result hp
      cases result with
      | error e => cases hends
      | ok ex => exact ⟨ex, hp⟩
    · cases hends
  obtain ⟨-, -, hreport, -⟩ := submissions_framed _ failingOver.policy failingOver.refreshes failingOver.world
    failingOver.meddle 5
  obtain ⟨s, hlast, hhash, hnode, -⟩ := hreport ex hphase
  exact ⟨hnodes, ex, s, hphase, hlast, hhash, hnode⟩

end Transaction

end LedgerNet
