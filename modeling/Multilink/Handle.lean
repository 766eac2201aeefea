import Multilink.Text.Numeral
/-!
# Peer handles

A peer is named everywhere by its handle, a number that its store never gives out twice.
-/

namespace Multilink

/-- The name of a peer in the store that added it. -/
structure Handle where
  /-- The number itself. -/
  raw : UInt32
  deriving DecidableEq, Repr

/-- The handle as text: a hash and its number. -/
def Handle.text (h : Handle) : String :=
  "#" ++ Numeral.decimal h.raw.toNat

end Multilink
