import LedgerNet.EntityId
import LedgerNet.Proofs.Json.Record
import LedgerNet.Proofs.Text.Split
import LedgerNet.Subscription.Message

/-! Names of entities, timestamps and places of chunks are read back from what was written of them. -/
namespace LedgerNet

open Text

namespace EntityId

theorem text_toList (id : EntityId) : id.text.toList = Nat.toDigits 10 id.shard.toNat ++
    '.' :: (Nat.toDigits 10 id.realm.toNat ++ '.' :: Nat.toDigits 10 id.num.toNat) := by
  have hs (n : Nat) : (toString n).toList = Nat.toDigits 10 n := Nat.toList_repr
  simp only [text, String.toList_append, hs, List.append_assoc]
  rfl

theorem part_toDigits (w : UInt64) : part? (Nat.toDigits 10 w.toNat) = some w := by
  have hread : Natural.read? Natural.max64 (Nat.toDigits 10 w.toNat) = some w.toNat :=
    Natural.read_toDigits (Nat.le_of_lt_succ w.toNat_lt)
  simp [part?, hread]

theorem parse_text (id : EntityId) : parse? id.text = some id := by
  have hdot (n : Nat) : '.' ∉ Nat.toDigits 10 n := fun h => absurd (Natural.digit_of_mem h) (by decide)
  rw [parse?, text_toList, pieces_append (hdot _), pieces_append (hdot _), pieces_of_not_mem (hdot _)]
  simp only [part_toDigits]
  rfl

theorem reading_toJson (id : EntityId) : reading id.toJson.tree = .ok id :=
  Json.textual_tree (by rw [parse_text])

end EntityId

namespace Timestamp

theorem reading_toJson (t : Timestamp) : reading t.toJson.tree = .ok t :=
  Json.Layout.read_fills (by decide)
    (.member (Json.Field.read_required (Json.integer64_tree t.seconds))
      (.member (Json.Field.read_required (Json.word32_tree t.nanos)) (.done (by simp))))

end Timestamp

namespace ChunkInfo

theorem reading_toJson (c : ChunkInfo) : layout.read c.toJson.tree = .ok c :=
  Json.Layout.read_fills (by decide)
    (.member (Json.Field.read_required (Json.string_tree c.transactionId))
      (.member (Json.Field.read_required (Json.word32_tree c.number))
        (.member (Json.Field.read_required (Json.word32_tree c.total)) (.done (by simp)))))

end ChunkInfo

end LedgerNet
