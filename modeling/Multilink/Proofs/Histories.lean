import Mathlib.Data.List.Rotate
import Multilink.Score.History
/-!
# Histories are queues

The slots of a history, read around from the next one, are the last rates that were recorded, the
oldest first (`History.Recorded`). A push takes the oldest out, once there are as many as are kept, and
puts the new one at the end, whether it has to wrap around or not.
-/

namespace Multilink

namespace History

variable {R : Type} {h : History R} {rates : List R} {rate : R} {k : Nat}

/-- The last of the rates, as many as are kept. -/
def retained (rates : List R) : List R :=
  rates.drop (rates.length - capacity)

theorem length_retained (rates : List R) : (retained rates).length = min rates.length capacity := by
  rw [retained, List.length_drop]
  omega

theorem retained_of_lt (h : rates.length < capacity) : retained rates = rates := by
  rw [retained, Nat.sub_eq_zero_of_le (Nat.le_of_lt h), List.drop_zero]

theorem retained_snoc_of_lt (h : rates.length < capacity) (rate : R) :
    retained (rates ++ [rate]) = retained rates ++ [rate] := by
  rw [retained_of_lt h, retained, List.length_append, List.length_singleton,
    Nat.sub_eq_zero_of_le h, List.drop_zero]

theorem retained_snoc_of_le (h : capacity ≤ rates.length) (rate : R) :
    retained (rates ++ [rate]) = (retained rates).tail ++ [rate] := by
  rw [retained, retained, List.tail_drop, List.length_append, List.length_singleton,
    List.drop_append_of_le_length (by unfold capacity at *; omega), Nat.sub_add_comm h]

/-- These rates have been recorded in turn. -/
structure Recorded (h : History R) (rates : List R) : Prop where
  next : h.next = rates.length % capacity
  slots : h.slots.rotate h.next = retained rates

theorem recorded_empty : ({} : History R).Recorded [] :=
  ⟨rfl, rfl⟩

theorem Recorded.size (hr : h.Recorded rates) : h.size = min rates.length capacity := by
  rw [← length_retained, ← hr.slots, List.length_rotate, History.size]

/-- A slot is overwritten, and the rates are read from behind it on. -/
theorem rotate_set {l : List R} {i : Nat} (hi : i < l.length) (a : R) :
    (l.set i a).rotate (i + 1) = (l.rotate i).tail ++ [a] := by
  have hset : l.set i a = (l.take i ++ [a]) ++ l.drop (i + 1) := by
    rw [List.set_eq_take_append_cons_drop, if_pos hi, List.append_assoc, List.singleton_append]
  have hlength : (l.take i ++ [a]).length = i + 1 := by
    rw [List.length_append, List.length_take_of_le (Nat.le_of_lt hi), List.length_singleton]
  rw [hset, ← hlength, List.rotate_append_length_eq, hlength,
    List.rotate_eq_drop_append_take (Nat.le_of_lt hi), List.drop_eq_getElem_cons hi,
    List.cons_append, List.tail_cons, List.append_assoc]

/-- Before the slots are all taken, they hold the rates as they are. -/
theorem Recorded.slots_of_lt (hr : h.Recorded rates) (hlt : rates.length < capacity) :
    h.slots = rates := by
  have hslots := hr.slots
  have hlength : h.slots.length = h.next := by
    rw [hr.next, Nat.mod_eq_of_lt hlt]
    exact hr.size.trans (Nat.min_eq_left (Nat.le_of_lt hlt))
  rwa [← hlength, List.rotate_length, retained_of_lt hlt] at hslots

theorem Recorded.length_of_le (hr : h.Recorded rates) (hle : capacity ≤ rates.length) :
    h.slots.length = capacity :=
  hr.size.trans (Nat.min_eq_right hle)

theorem Recorded.push (hr : h.Recorded rates) (rate : R) :
    (h.push rate).Recorded (rates ++ [rate]) := by
  have hmod : (h.next + 1) % capacity = (rates ++ [rate]).length % capacity := by
    rw [hr.next, List.length_append, List.length_singleton, Nat.mod_add_mod]
  refine ⟨hmod, ?_⟩
  show (if h.next < h.slots.length then _ else _ : List R).rotate ((h.next + 1) % capacity) = _
  have hnext := hr.next
  by_cases hlt : rates.length < capacity
  · have hslots := hr.slots_of_lt hlt
    rw [Nat.mod_eq_of_lt hlt] at hnext
    rw [if_neg (by rw [hslots, hnext]; exact Nat.lt_irrefl _), hslots,
      retained_snoc_of_lt hlt, retained_of_lt hlt, hmod]
    have hlength : (rates ++ [rate]).length ≤ capacity := by
      rw [List.length_append, List.length_singleton]
      exact hlt
    obtain hlength | hlength := Nat.lt_or_eq_of_le hlength
    · rw [Nat.mod_eq_of_lt hlength, List.rotate_length]
    · rw [hlength, Nat.mod_self, List.rotate_zero]
  · have hle := Nat.le_of_not_lt hlt
    have hlength := hr.length_of_le hle
    have hfull : h.next < h.slots.length := by
      rw [hlength, hnext]
      exact Nat.mod_lt _ (by decide)
    have hwrap := List.rotate_mod (h.slots.set h.next rate) (h.next + 1)
    rw [List.length_set, hlength] at hwrap
    rw [if_pos hfull, hwrap, rotate_set hfull, hr.slots, retained_snoc_of_le hle]

/-- The rates are found by how long ago they were recorded. -/
theorem Recorded.recent? (hr : h.Recorded rates) (hk : k < capacity) :
    h.recent? k = rates.reverse[k]? := by
  have hsize := hr.size
  have hnext := hr.next
  unfold History.recent?
  by_cases hlt : rates.length < capacity
  · rw [Nat.mod_eq_of_lt hlt] at hnext
    rw [Nat.min_eq_left (Nat.le_of_lt hlt)] at hsize
    rw [hsize, hnext, hr.slots_of_lt hlt]
    split
    · next hsome =>
      have hplace : (rates.length + capacity - 1 - k) % capacity = rates.length - 1 - k := by
        unfold capacity at *
        omega
      rw [hplace, List.getElem?_reverse hsome]
    · next hnone =>
      rw [List.getElem?_eq_none (by rw [List.length_reverse]; exact Nat.le_of_not_lt hnone)]
  · have hle := Nat.le_of_not_lt hlt
    have hlength := hr.length_of_le hle
    have hsome : k < rates.length := Nat.lt_of_lt_of_le hk hle
    have hturned : h.slots[(capacity - 1 - k + h.next) % capacity]? =
        (retained rates)[capacity - 1 - k]? := by
      rw [← hr.slots, List.getElem?_rotate (by rw [hlength]; unfold capacity; omega), hlength]
    rw [if_pos (by rw [hsize, Nat.min_eq_right hle]; exact hk), List.getElem?_reverse hsome,
      show h.next + capacity - 1 - k = capacity - 1 - k + h.next by unfold capacity at *; omega,
      hturned, retained, List.getElem?_drop,
      show rates.length - capacity + (capacity - 1 - k) = rates.length - 1 - k by
        unfold capacity at *; omega]

/-! ## Averages -/

/-- The mean of rates, added up in this order. -/
def mean [ScoreNumber R] : List R → R
  | [] => ScoreNumber.ofNat 0
  | first :: rest =>
    rest.foldl (· + ·) first / ScoreNumber.ofNat (rest.length + 1)

theorem average_eq [ScoreNumber R] (h : History R) : h.average = mean h.slots := by
  unfold History.average mean History.size
  cases h.slots <;> rfl

/-- The average is the mean of the rates that are kept, read around from one of them. -/
theorem Recorded.average [ScoreNumber R] (hr : h.Recorded rates) :
    ∃ kept, kept.IsRotated (retained rates) ∧ h.average = mean kept :=
  ⟨h.slots, ⟨h.next, hr.slots⟩, h.average_eq⟩

end History

end Multilink
