/-!
# Time

Times are microseconds in 64 bits; sums and products of them stop at the largest value, differences
at zero. Durations are counted in microseconds without a bound, and clamped where they meet a time.
-/

namespace Multilink

/-- Microseconds since the node started. -/
abbrev Micros := UInt64

namespace Micros

/-- The largest time. -/
def top : Micros := 0xFFFFFFFFFFFFFFFF

/-- A duration as a time, or the largest time. -/
def ofNat (n : Nat) : Micros :=
  if n < 0x10000000000000000 then UInt64.ofNat n else top

/-- The sum, or the largest time. -/
def plus (a b : Micros) : Micros :=
  ofNat (a.toNat + b.toNat)

/-- The difference, or zero. -/
def minus (a b : Micros) : Micros :=
  ofNat (a.toNat - b.toNat)

/-- Twice the time, or the largest time. -/
def twice (a : Micros) : Micros :=
  ofNat (a.toNat * 2)

theorem toNat_ofNat (n : Nat) : (ofNat n).toNat = min n 0xFFFFFFFFFFFFFFFF := by
  unfold ofNat
  split
  · next h => rw [UInt64.toNat_ofNat', Nat.mod_eq_of_lt h]; omega
  · next h => show 0xFFFFFFFFFFFFFFFF = _; omega

theorem toNat_plus (a b : Micros) : (plus a b).toNat = min (a.toNat + b.toNat) 0xFFFFFFFFFFFFFFFF :=
  toNat_ofNat _

theorem toNat_minus (a b : Micros) : (minus a b).toNat = a.toNat - b.toNat := by
  have := a.toNat_lt
  rw [minus, toNat_ofNat]
  omega

theorem toNat_twice (a : Micros) : (twice a).toNat = min (a.toNat * 2) 0xFFFFFFFFFFFFFFFF :=
  toNat_ofNat _

end Micros

end Multilink
