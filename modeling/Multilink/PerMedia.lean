import Multilink.Media
/-!
# One value a medium

A table with one entry for each of the seven media.
-/

namespace Multilink

/-- One value for each medium. -/
structure PerMedia (α : Type) where
  /-- The value for short-range radio. -/
  radioShort : α
  /-- The value for mesh radio. -/
  radioMesh : α
  /-- The value for long-range radio. -/
  radioLong : α
  /-- The value for the cellular modem. -/
  cellular : α
  /-- The value for the I2C bus. -/
  busI2c : α
  /-- The value for the CAN bus. -/
  busCan : α
  /-- The value for the serial line. -/
  busTtl : α

namespace PerMedia

variable {α : Type}

/-- The table of a function. -/
def ofFn (f : Media → α) : PerMedia α :=
  ⟨f .radioShort, f .radioMesh, f .radioLong, f .cellular, f .busI2c, f .busCan, f .busTtl⟩

/-- The entry for a medium. -/
def get (t : PerMedia α) : Media → α
  | .radioShort => t.radioShort
  | .radioMesh => t.radioMesh
  | .radioLong => t.radioLong
  | .cellular => t.cellular
  | .busI2c => t.busI2c
  | .busCan => t.busCan
  | .busTtl => t.busTtl

/-- Replaces the entry for a medium. -/
def set (t : PerMedia α) (m : Media) (a : α) : PerMedia α :=
  match m with
  | .radioShort => { t with radioShort := a }
  | .radioMesh => { t with radioMesh := a }
  | .radioLong => { t with radioLong := a }
  | .cellular => { t with cellular := a }
  | .busI2c => { t with busI2c := a }
  | .busCan => { t with busCan := a }
  | .busTtl => { t with busTtl := a }

@[simp] theorem get_ofFn (f : Media → α) (m : Media) : (ofFn f).get m = f m := by
  cases m <;> rfl

theorem get_set (t : PerMedia α) (m n : Media) (a : α) :
    (t.set m a).get n = if n = m then a else t.get n := by
  cases m <;> cases n <;> rfl

@[ext] theorem ext_get {s t : PerMedia α} (h : ∀ m, s.get m = t.get m) : s = t := by
  obtain ⟨_, _, _, _, _, _, _⟩ := s
  obtain ⟨_, _, _, _, _, _, _⟩ := t
  have h1 := h .radioShort
  have h2 := h .radioMesh
  have h3 := h .radioLong
  have h4 := h .cellular
  have h5 := h .busI2c
  have h6 := h .busCan
  have h7 := h .busTtl
  simp only [get] at h1 h2 h3 h4 h5 h6 h7
  simp [h1, h2, h3, h4, h5, h6, h7]

end PerMedia

end Multilink
