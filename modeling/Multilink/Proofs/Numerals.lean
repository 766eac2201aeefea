import Mathlib.Data.List.Induction
import Multilink.Text.Numeral
import Multilink.Text.Parts
/-!
# Parts and numerals

Texts of several numbers are cut at their separators, and each part is read as a numeral. Which texts
are read so is said here without reading them: a text is separated into parts (`Parts.Separated`) if
one separator stands between any two of them and none in them, and it spells a number
(`Numeral.Spells`) if it is made of digits as a numeral of that number is.

`Parts.split` finds the parts of every text (`Parts.split_eq_iff`), and `Numeral.read?` the number of
exactly those texts that spell one within the limit (`Numeral.read?_eq_some_iff`).
-/

namespace Multilink

/-! ## Parts -/

namespace Parts

/-- The text is cut into these parts: none has a separator, and between any two there is one. -/
inductive Separated (separators : List Char) : List Char → List (List Char) → Prop where
  /-- A text without separators is one part. -/
  | last {p : List Char} (h : ∀ c ∈ p, c ∉ separators) : Separated separators p [p]
  /-- A part and a separator, with the text behind them. -/
  | more {p rest : List Char} {s : Char} {ps : List (List Char)} (h : ∀ c ∈ p, c ∉ separators)
      (hs : s ∈ separators) (hrest : Separated separators rest ps) :
      Separated separators (p ++ s :: rest) (p :: ps)

variable {isSeparator : Char → Bool} {separators cs : List Char} {ps : List (List Char)}

theorem split_eq_singleton (h : ∀ c ∈ cs, isSeparator c = false) : split isSeparator cs = [cs] := by
  induction cs with
  | nil => rfl
  | cons c cs ih =>
    have hc : isSeparator c = false := h c (.head _)
    rw [split, hc, ih fun c hc => h c (.tail _ hc)]
    rfl

/-- The first part ends at the first separator, and the others are those of the rest. -/
theorem split_append (h : ∀ c ∈ cs, isSeparator c = false) {s : Char} (hs : isSeparator s = true)
    (rest : List Char) : split isSeparator (cs ++ s :: rest) = cs :: split isSeparator rest := by
  induction cs with
  | nil => rw [List.nil_append, split, if_pos hs]
  | cons c cs ih =>
    have hc : isSeparator c = false := h c (.head _)
    rw [List.cons_append, split, hc, ih fun c hc => h c (.tail _ hc)]
    rfl

/-- A character in front belongs to the first part. -/
theorem Separated.cons {c : Char} (hc : c ∉ separators) {p : List Char}
    (h : Separated separators cs (p :: ps)) : Separated separators (c :: cs) ((c :: p) :: ps) := by
  cases h with
  | last h => exact .last (List.forall_mem_cons.2 ⟨hc, h⟩)
  | more h hs hrest => exact .more (List.forall_mem_cons.2 ⟨hc, h⟩) hs hrest

theorem Separated.ne_nil (h : Separated separators cs ps) : ps ≠ [] := by
  cases h <;> exact List.cons_ne_nil _ _

theorem separated_split (hsep : ∀ c, isSeparator c = true ↔ c ∈ separators) (cs : List Char) :
    Separated separators cs (split isSeparator cs) := by
  induction cs with
  | nil => exact .last nofun
  | cons c rest ih =>
    rw [split]
    split
    · next hc => exact .more (p := []) nofun ((hsep c).1 hc) ih
    · next hc =>
      -- the character goes into the first part of the rest, and there is one
      have hout : c ∉ separators := fun hmem => hc ((hsep c).2 hmem)
      split
      · next hnil => exact absurd hnil ih.ne_nil
      · next p ps hps =>
        rw [hps] at ih
        exact ih.cons hout

/-- Every text has exactly one cut into parts, which is the one that splitting finds. -/
theorem split_eq_iff (hsep : ∀ c, isSeparator c = true ↔ c ∈ separators) :
    split isSeparator cs = ps ↔ Separated separators cs ps := by
  have hout {p : List Char} (h : ∀ c ∈ p, c ∉ separators) : ∀ c ∈ p, isSeparator c = false :=
    fun c hc => Bool.eq_false_iff.2 fun htrue => h c hc ((hsep c).1 htrue)
  constructor
  · rintro rfl
    exact separated_split hsep cs
  · intro h
    induction h with
    | last h => exact split_eq_singleton (hout h)
    | more h hs hrest ih => rw [split_append (hout h) ((hsep _).2 hs), ih]

/-- Parts with a separator between each two are found again. -/
theorem separated_intercalate {s : Char} (hs : s ∈ separators) (hne : ps ≠ [])
    (h : ∀ p ∈ ps, ∀ c ∈ p, c ∉ separators) : Separated separators ([s].intercalate ps) ps := by
  induction ps with
  | nil => exact absurd rfl hne
  | cons p ps ih =>
    obtain ⟨hp, hps⟩ := List.forall_mem_cons.1 h
    cases ps with
    | nil =>
      rw [List.intercalate_singleton]
      exact .last hp
    | cons q ps =>
      rw [List.intercalate_cons_cons, List.append_assoc]
      exact .more hp hs (ih (List.cons_ne_nil _ _) hps)

end Parts

/-! ## Numerals -/

namespace Numeral

/-- The character stands for the value in this base, a letter in either case. -/
def Digit (base : Nat) (c : Char) (v : Nat) : Prop :=
  v < base ∧ ("0123456789abcdef".toList[v]? = some c ∨ "0123456789ABCDEF".toList[v]? = some c)

/-- A row of digits and its value: each further digit adds itself to the base times what is before. -/
inductive Digits (base : Nat) : List Char → Nat → Prop where
  /-- One digit. -/
  | one {c : Char} {v : Nat} (h : Digit base c v) : Digits base [c] v
  /-- One more digit at the end. -/
  | more {cs : List Char} {c : Char} {n v : Nat} (hcs : Digits base cs n) (h : Digit base c v) :
      Digits base (cs ++ [c]) (n * base + v)

/-- The text is a numeral of this number: digits, which one plus sign may precede. -/
inductive Spells (base : Nat) : List Char → Nat → Prop where
  /-- Digits alone. -/
  | bare {cs : List Char} {n : Nat} (h : Digits base cs n) : Spells base cs n
  /-- Digits with a plus sign. -/
  | signed {cs : List Char} {n : Nat} (h : Digits base cs n) : Spells base ('+' :: cs) n

variable {base n v : Nat} {c : Char} {cs : List Char}

/-! ### Single digits -/

theorem lower_digit : ∀ k : Fin 16,
    "0123456789abcdef".toList[k.val]? = some (Nat.digitChar k) := by
  decide

theorem upper_digit : ∀ k : Fin 16,
    "0123456789ABCDEF".toList[k.val]? = some (Nat.digitChar k).toUpper := by
  decide

/-- The code of a digit, in a case whose letters begin at `letters`. -/
def charCode (letters v : Nat) : Nat :=
  if v < 10 then 48 + v else letters + (v - 10)

theorem toNat_digitChar : ∀ k : Fin 16, (Nat.digitChar k).toNat = charCode 97 k ∧
    (Nat.digitChar k).toUpper.toNat = charCode 65 k := by
  decide

theorem digit_iff :
    Digit base c v ↔ v < base ∧ v < 16 ∧ (c.toNat = charCode 97 v ∨ c.toNat = charCode 65 v) := by
  refine and_congr_right fun _ => ?_
  by_cases h : v < 16
  · rw [lower_digit ⟨v, h⟩, upper_digit ⟨v, h⟩, Option.some.injEq, Option.some.injEq,
      ← Char.toNat_inj, ← Char.toNat_inj, (toNat_digitChar ⟨v, h⟩).1, (toNat_digitChar ⟨v, h⟩).2]
    simp [h, eq_comm]
  · have hnone {s : String} (hs : s.toList.length = 16) : s.toList[v]? = none :=
      List.getElem?_eq_none (by omega)
    rw [hnone (by decide), hnone (by decide)]
    simp [h]

theorem digit?_eq_some_iff : digit? base c = some v ↔ Digit base c v := by
  have hle (a b : Char) : a ≤ b ↔ a.toNat ≤ b.toNat := UInt32.le_iff_toNat_le
  rw [digit_iff, digit?, Option.filter_eq_some_iff, decide_eq_true_eq, and_comm]
  refine and_congr_right fun _ => ?_
  -- both sides now speak of the code of the character: three ranges here, two cases there
  simp only [hle, Char.reduceToNat, charCode]
  grind

theorem digit_digitChar (hbase : v < base) (h : v < 16) : Digit base (Nat.digitChar v) v :=
  ⟨hbase, .inl (lower_digit ⟨v, h⟩)⟩

/-- Digits are figures and letters. -/
theorem Digit.isAlphanum (h : Digit base c v) : c.isAlphanum = true := by
  have hlower : ∀ d ∈ "0123456789abcdef".toList, d.isAlphanum = true := by simp
  have hupper : ∀ d ∈ "0123456789ABCDEF".toList, d.isAlphanum = true := by simp
  rcases h.2 with h | h
  · exact hlower _ (List.mem_of_getElem? h)
  · exact hupper _ (List.mem_of_getElem? h)

/-! ### Rows of digits -/

theorem value?_append (high : Nat) (cs : List Char) (c : Char) :
    value? base high (cs ++ [c]) =
      (value? base high cs).bind fun n => (digit? base c).map (n * base + ·) := by
  induction cs generalizing high with
  | nil =>
    rw [List.nil_append, value?, value?, Option.bind_some]
    cases digit? base c <;> rfl
  | cons d cs ih =>
    rw [List.cons_append, value?, value?, Option.bind_assoc]
    exact congrArg _ (funext fun v => ih _)

theorem Digits.ne_nil (h : Digits base cs n) : cs ≠ [] := by
  cases h <;> simp

/-- The value of a row is worked out from its front, while the row grows at its end. -/
theorem value?_eq_some_iff (hne : cs ≠ []) : value? base 0 cs = some n ↔ Digits base cs n := by
  constructor
  · -- by the last digit, where both are cut; the first digit of all has nothing before it
    intro h
    induction cs using List.reverseRecOn generalizing n with
    | nil => exact absurd rfl hne
    | append_singleton cs c ih =>
      rw [value?_append, Option.bind_eq_some_iff] at h
      obtain ⟨m, hm, h⟩ := h
      obtain ⟨v, hv, rfl⟩ := Option.map_eq_some_iff.1 h
      have hdigit := digit?_eq_some_iff.1 hv
      by_cases hcs : cs = []
      · subst hcs
        cases hm
        rw [Nat.zero_mul, Nat.zero_add]
        exact .one hdigit
      · exact .more (ih hcs hm) hdigit
  · intro h
    induction h with
    | one h =>
      rw [value?, digit?_eq_some_iff.2 h, Option.bind_some, Nat.zero_mul, Nat.zero_add]
      rfl
    | more hcs h ih =>
      rw [value?_append, ih hcs.ne_nil, Option.bind_some, digit?_eq_some_iff.2 h]
      rfl

theorem Digits.isAlphanum (h : Digits base cs n) : ∀ d ∈ cs, d.isAlphanum = true := by
  induction h with
  | one h => simpa using h.isAlphanum
  | more _ h ih =>
    intro d hd
    rcases List.mem_append.1 hd with hd | hd
    · exact ih d hd
    · rw [List.mem_singleton.1 hd]
      exact h.isAlphanum

/-- The usual digits of a number are a row with its value. -/
theorem digits_toDigits (hbase : 1 < base) (h16 : base ≤ 16) (n : Nat) :
    Digits base (Nat.toDigits base n) n := by
  induction n using Nat.strongRecOn with
  | ind n ih =>
    rw [Nat.toDigits_eq_if hbase]
    split
    · next hn => exact .one (digit_digitChar hn (by omega))
    · next hn =>
      have hlast : n % base < base := Nat.mod_lt n (by omega)
      have hmore := Digits.more (ih (n / base) (Nat.div_lt_self (by omega) hbase))
        (digit_digitChar hlast (by omega))
      rwa [Nat.div_add_mod'] at hmore

/-! ### Numerals -/

theorem dropPlus_eq_self (h : '+' ∉ cs) : dropPlus cs = cs := by
  unfold dropPlus
  split
  · exact absurd (.head _) h
  · rfl

theorem spells_iff : Spells base cs n ↔ Digits base (dropPlus cs) n := by
  constructor
  · rintro (h | h)
    · have hplus : '+' ∉ cs := fun hmem => absurd (h.isAlphanum _ hmem) (by decide)
      rwa [dropPlus_eq_self hplus]
    · exact h
  · intro h
    unfold dropPlus at h
    split at h
    · exact .signed h
    · exact .bare h

/-- A character that is neither a plus sign nor a figure or letter stands in no numeral. -/
theorem Spells.notMem {separators : List Char} (h : Spells base cs n)
    (hsep : ∀ s ∈ separators, s ≠ '+' ∧ s.isAlphanum = false) : ∀ d ∈ cs, d ∉ separators := by
  intro d hd hmem
  obtain ⟨hplus, halnum⟩ := hsep d hmem
  have hdigit {cs : List Char} (h : Digits base cs n) (hd : d ∈ cs) : False :=
    absurd (h.isAlphanum d hd) (by simp [halnum])
  rcases h with h | h
  · exact hdigit h hd
  · rcases List.mem_cons.1 hd with hd | hd
    · exact hplus hd
    · exact hdigit h hd

/-- Numerals within the limit are read as their number, and nothing else is read. -/
theorem read?_eq_some_iff {limit : Nat} {s : String} :
    read? base limit s = some n ↔ Spells base s.toList n ∧ n ≤ limit := by
  rw [spells_iff, read?]
  split
  · next hnil =>
    rw [hnil]
    exact iff_of_false nofun fun h => h.1.ne_nil rfl
  · next hne =>
    rw [Option.filter_eq_some_iff, value?_eq_some_iff hne, decide_eq_true_eq]

theorem spells_decimal (n : Nat) : Spells 10 (decimal n).toList n := by
  rw [decimal, String.toList_ofList]
  exact .bare (digits_toDigits (by decide) (by decide) n)

/-! ### Numerals of a fixed width -/

section

variable {α : Type} {limit : Nat} {s : String}

/-- Where each number up to the limit stands for one value, a numeral is read as the value of its
number. -/
theorem map_read?_eq_some_iff {f : Nat → α} {g : α → Nat} (hfg : ∀ a, g a ≤ limit ∧ f (g a) = a)
    (hgf : ∀ k, k ≤ limit → g (f k) = k) {a : α} :
    (read? base limit s).map f = some a ↔ Spells base s.toList (g a) := by
  rw [Option.map_eq_some_iff]
  constructor
  · rintro ⟨k, hk, rfl⟩
    obtain ⟨hspells, hle⟩ := read?_eq_some_iff.1 hk
    rwa [hgf k hle]
  · intro h
    exact ⟨g a, read?_eq_some_iff.2 ⟨h, (hfg a).1⟩, (hfg a).2⟩

theorem byte_le (b : UInt8) : b.toNat ≤ 255 := Nat.le_of_lt_succ b.toNat_lt

theorem exists_byte {n : Nat} (h : n ≤ 255) : ∃ b : UInt8, b.toNat = n :=
  ⟨.ofNat n, UInt8.toNat_ofNat_of_lt' (Nat.lt_succ_of_le h)⟩

theorem exists_word64 {n : Nat} (h : n < UInt64.size) : ∃ w : UInt64, w.toNat = n :=
  ⟨.ofNat n, UInt64.toNat_ofNat_of_lt' h⟩

theorem map_read?_byte {b : UInt8} :
    (read? base 255 s).map UInt8.ofNat = some b ↔ Spells base s.toList b.toNat :=
  map_read?_eq_some_iff (fun b => ⟨byte_le b, UInt8.ofNat_toNat⟩) fun _ hk =>
    UInt8.toNat_ofNat_of_lt' (Nat.lt_succ_of_le hk)

theorem readByte?_eq_some_iff {b : UInt8} : readByte? s = some b ↔ Spells 10 s.toList b.toNat :=
  map_read?_byte

theorem readWord64?_eq_some_iff {w : UInt64} :
    readWord64? s = some w ↔ Spells 10 s.toList w.toNat :=
  map_read?_eq_some_iff (fun w => ⟨Nat.le_of_lt_succ w.toNat_lt, UInt64.ofNat_toNat⟩) fun _ hk =>
    UInt64.toNat_ofNat_of_lt' (Nat.lt_succ_of_le hk)

theorem readByte?_decimal (b : UInt8) : readByte? (decimal b.toNat) = some b :=
  readByte?_eq_some_iff.2 (spells_decimal _)

end

end Numeral

end Multilink
