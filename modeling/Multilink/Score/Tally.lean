/-!
# Tallies

Counts of 32 bits that stay at their largest value instead of wrapping.
-/

namespace Multilink

/-- A count that stops at 2^32 - 1. -/
abbrev Tally := UInt32

namespace Tally

/-- The largest count. -/
def top : Tally := 0xFFFFFFFF

/-- The sum, or the largest count. -/
def plus (a b : Tally) : Tally :=
  if a.toNat + b.toNat < 0x100000000 then a + b else top

/-- One more, unless the count is the largest. -/
def succ (a : Tally) : Tally :=
  plus a 1

theorem toNat_plus (a b : Tally) : (plus a b).toNat = min (a.toNat + b.toNat) 0xFFFFFFFF := by
  unfold plus
  split
  · next h => rw [UInt32.toNat_add, Nat.mod_eq_of_lt h]; omega
  · next h => show 0xFFFFFFFF = _; omega

end Tally

end Multilink
