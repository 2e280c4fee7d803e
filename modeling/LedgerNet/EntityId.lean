import LedgerNet.Json.Typed
import LedgerNet.Json.Value
import LedgerNet.Text.Split

/-!
Accounts, topics and nodes of the ledger are all named by a triple `shard.realm.num`.
-/
namespace LedgerNet

open Text

structure EntityId where
  shard : UInt64
  realm : UInt64
  num : UInt64
deriving DecidableEq, Repr, Inhabited

namespace EntityId

def ofNum (num : UInt64) : EntityId := ⟨0, 0, num⟩

def wordBytes (w : UInt64) : Bytes :=
  [7, 6, 5, 4, 3, 2, 1, 0].map fun place => UInt8.ofNat (w.toNat / Nat.pow 256 place)

def toBytes (id : EntityId) : Bytes := wordBytes id.shard ++ wordBytes id.realm ++ wordBytes id.num

def text (id : EntityId) : String :=
  s!"{id.shard.toNat}.{id.realm.toNat}.{id.num.toNat}"

instance : ToString EntityId := ⟨text⟩

def part? (cs : List Char) : Option UInt64 :=
  (Natural.read? Natural.max64 cs).map UInt64.ofNat

def parse? (s : String) : Option EntityId :=
  match pieces '.' s.toList with
  | [shard, realm, num] => do return ⟨← part? shard, ← part? realm, ← part? num⟩
  | _ => none

def complaint (s : String) : String := s!"invalid entity id `{s}`, expected shard.realm.num"

def order (a b : EntityId) : Ordering :=
  (compare a.shard.toNat b.shard.toNat).then
    ((compare a.realm.toNat b.realm.toNat).then (compare a.num.toNat b.num.toNat))

def reading : Json.Reading EntityId :=
  Json.textual fun s =>
    match parse? s with
    | some id => .ok id
    | none => .error (complaint s)

def toJson (id : EntityId) : Json.Value := .str id.text

def fields (id : EntityId) : List (String × Nat) :=
  [("shard", id.shard.toNat), ("realm", id.realm.toNat), ("num", id.num.toNat)]

end EntityId

/-- The account through which a consensus node is paid, and by which it is known. -/
abbrev AccountId := EntityId

abbrev TopicId := EntityId

end LedgerNet
