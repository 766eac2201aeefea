import Multilink.Score.Number
/-!
# Failure history

The failure rates of the last ten scorings, kept in ten slots that are filled and then overwritten
in turn. Averages add the slots up in slot order, beginning with the first slot and not with zero:
both matter for floats, whose sums depend on the order and whose zeros have a sign.
-/

namespace Multilink

/-- The most recent failure rates. -/
structure History (R : Type) where
  /-- The rates that are kept, in slot order. -/
  slots : List R := []
  /-- The slot that the next rate goes into. -/
  next : Nat := 0

namespace History

variable {R : Type}

/-- How many rates are kept. -/
def capacity : Nat := 10

/-- The number of rates recorded, at most `capacity`. -/
def size (h : History R) : Nat :=
  h.slots.length

/-- Puts a rate into the next slot. -/
def push (h : History R) (rate : R) : History R :=
  { slots := if h.next < h.slots.length then h.slots.set h.next rate else h.slots ++ [rate]
    next := (h.next + 1) % capacity }

/-- The rate recorded `k` scorings ago, where 0 is the most recent. -/
def recent? (h : History R) (k : Nat) : Option R :=
  if k < h.size then h.slots[(h.next + capacity - 1 - k) % capacity]? else none

/-- The mean of the rates, zero if there are none. -/
def average [ScoreNumber R] (h : History R) : R :=
  match h.slots with
  | [] => ScoreNumber.ofNat 0
  | first :: rest => rest.foldl (· + ·) first / ScoreNumber.ofNat h.size

end History

end Multilink
