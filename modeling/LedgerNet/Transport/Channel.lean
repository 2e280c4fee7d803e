import LedgerNet.Network.AddressBook

/-!
How a channel to a node is secured.
-/
namespace LedgerNet

structure ChannelOptions where
  tls : Bool := false
  verify : Bool := false
  hash : Option String := none
deriving DecidableEq, Repr, Inhabited

/-- Whether a peer that presents a certificate is to be trusted. With checking off, or with no hash on record,
there is nothing to check. -/
def ChannelOptions.accepts (options : ChannelOptions) (certificate : Text.Bytes) : Bool :=
  !options.verify || match options.hash with
    | some expected => expected.isEmpty || certificateHash certificate == expected.map Char.toLower
    | none => true

/-- A channel, by the order in which it was opened. -/
abbrev ChannelId := Nat

structure Channel where
  endpoint : Endpoint
  options : ChannelOptions
  closed : Bool := false
  /-- How often it was told to close. -/
  closes : Nat := 0
deriving DecidableEq, Repr, Inhabited

end LedgerNet
