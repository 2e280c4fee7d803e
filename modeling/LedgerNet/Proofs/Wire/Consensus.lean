import LedgerNet.Proofs.Wire.Mirror
import LedgerNet.Wire.Consensus

/-!
A consensus node reads the envelope that was sent. With it, whatever the client and the nodes say to each other
arrives as it was sent, although it travels as bytes.
-/
namespace LedgerNet.Wire

open Text

theorem SignaturePair.reading_toJson (p : SignaturePair) : layout.read p.toJson.tree = .ok p :=
  Json.Layout.read_fills (by decide)
    (.member (Json.Field.read_required (Json.string_tree p.publicKey))
      (.member (Json.Field.read_required (Json.string_tree p.signature)) (.done rfl)))

namespace Envelope

theorem reading_toJson (e : Envelope) : layout.read e.toJson.tree = .ok e := by
  have hsignatures := Json.sequence_tree fun p (_ : p ∈ e.signatures) => p.reading_toJson
  exact Json.Layout.read_fills (by decide)
    (.member (Json.Field.read_required e.node.reading_toJson)
      (.member (Json.Field.read_required (Json.string_tree e.body))
        (.member (Json.Field.read_required hsignatures) (.done rfl))))

/-- A node reads every envelope that is sent as it was. -/
theorem decode_encode (e : Envelope) : decode (Symbol.ofString e.encode) = .ok e := by
  rw [decode, Wire.decode, encode, Json.readSymbols_compact, reading_toJson]
  rfl

end Envelope

/-- What is sent is what arrives: every item of a stream, every query with its topic, its times and its limit, and
every envelope. Each is written as JSON, sent as bytes of UTF-8 and read back. -/
theorem arrives_as_sent :
    (∀ r : TopicResponse, decodeResponse (Utf8.decode (Utf8.encode (encodeResponse r))) = .ok r) ∧
    (∀ q : TopicQuery,
      decodeQuery (Utf8.decode (Utf8.encode (encodeQuery q))) = .ok ⟨q.topic, q.start, q.stop, q.limit⟩) ∧
    ∀ e : Envelope, Envelope.decode (Utf8.decode (Utf8.encode e.encode)) = .ok e := by
  simp only [Utf8.decode_encode]
  exact ⟨decode_encodeResponse, decode_encodeQuery, Envelope.decode_encode⟩

end LedgerNet.Wire
