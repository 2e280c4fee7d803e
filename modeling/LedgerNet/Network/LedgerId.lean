import LedgerNet.ClientError

/-!
The ledgers a client can talk to.
-/
namespace LedgerNet

inductive LedgerId where
  | mainnet
  | testnet
  | previewnet
  | local
deriving DecidableEq, Repr

namespace LedgerId

def name : LedgerId → String
  | .mainnet => "mainnet"
  | .testnet => "testnet"
  | .previewnet => "previewnet"
  | .local => "local"

def named : List (String × LedgerId) :=
  [.mainnet, .testnet, .previewnet, .local].map fun l => (l.name, l)

/-- Reads a name in either case of ASCII letters. -/
def parse (s : String) : Except ClientError LedgerId :=
  let lower := s.map Char.toLower
  match named.lookup lower with
  | some l => .ok l
  | none => .error (.config s!"unknown ledger `{lower}`")

def reading : Json.Reading LedgerId := Json.variant named

end LedgerId

end LedgerNet
