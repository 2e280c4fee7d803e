import LedgerNet.Proofs.Text.Hex
import LedgerNet.Proofs.Wire.Fields
import LedgerNet.Wire.Mirror

/-! A mirror reads the query that was sent, and a client the item. -/
namespace LedgerNet.Wire

open Text

theorem MirrorItem.reading_toJson (i : MirrorItem) : layout.read i.toJson.tree = .ok i := by
  obtain ⟨timestamp, sequence, hash, message, chunk⟩ := i
  refine Json.Layout.read_fills (by decide)
    (.member (Json.Field.read_required timestamp.reading_toJson)
      (.member (Json.Field.read_required (Json.word64_tree sequence))
        (.member (Json.Field.read_required (Json.string_tree hash))
          (.member (Json.Field.read_required (Json.string_tree message)) ?_))))
  cases chunk with
  | none => exact .leftOut rfl (.done (by simp [layout]))
  | some c =>
    have hread := Json.optional_tree (t := c.toJson.tree) (fun h => by cases h) c.reading_toJson
    exact .member (Json.Field.read_defaulted hread) (.done (by simp))

/-- Every item that a mirror sends is read as it was. -/
theorem decode_encodeResponse (r : TopicResponse) : decodeResponseText (encodeResponse r) = .ok r := by
  have hitem : decode MirrorItem.layout.read (Symbol.ofString (encodeResponse r)) = .ok (MirrorItem.ofResponse r) := by
    rw [decode, encodeResponse, Json.readSymbols_compact, MirrorItem.reading_toJson]
    rfl
  simp only [decodeResponseText, decodeResponse, hitem, bind, Except.bind, MirrorItem.toResponse,
    MirrorItem.ofResponse, bytesField, Hex.decode_encode]
  rfl

/-- A time that may be left out is read from its member, if there is one. -/
theorem MirrorQuery.fills_time {name : String} {set : Option Timestamp → MirrorQuery → MirrorQuery}
    {fields : List (Json.Field MirrorQuery)} {rest : List (String × Json.Value)} {query last : MirrorQuery}
    (t : Option Timestamp) (hset : set none query = query) (h : Json.Layout.Fills fields rest (set t query) last) :
    Json.Layout.Fills (.defaulted name (Json.optional Timestamp.reading) set :: fields) (member name t ++ rest)
      query last := by
  cases t with
  | none => exact .leftOut rfl (hset ▸ h)
  | some t =>
    have hread := Json.optional_tree (t := t.toJson.tree) (fun h => by cases h) t.reading_toJson
    exact .member (Json.Field.read_defaulted hread) h

theorem MirrorQuery.reading_toJson (q : MirrorQuery) : layout.read q.toJson.tree = .ok q := by
  rw [toJson, List.append_assoc, List.append_assoc]
  refine Json.Layout.read_fills (by decide) (.member (Json.Field.read_required q.topic.reading_toJson) ?_)
  refine fills_time q.start rfl (fills_time q.stop rfl ?_)
  exact .member (Json.Field.read_defaulted (Json.word64_tree q.limit)) (.done (by simp))

/-- A mirror reads every query that is sent as it was. -/
theorem decode_encodeQuery (q : TopicQuery) :
    decodeQuery (Symbol.ofString (encodeQuery q)) = .ok (MirrorQuery.ofQuery q) := by
  rw [decodeQuery, decode, encodeQuery, Json.readSymbols_compact, MirrorQuery.reading_toJson]
  rfl

end LedgerNet.Wire
