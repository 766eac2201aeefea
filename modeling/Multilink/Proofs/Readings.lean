import Mathlib.Data.List.Forall2
import Multilink.Address
import Multilink.Announcement
import Multilink.Proofs.Numerals
/-!
# Which texts are announcements, which are addresses

Both are read by their parts. An announcement has exactly three between bars, the word `NEXT` and two
decimal numerals of 64 bits (`Announcement.readings_exact`); a hardware address has exactly six between
colons and dashes, each a hexadecimal numeral of a byte (`Address.spellings_exact`). Every other text is
refused, and what is written is read back.
-/

namespace Multilink

/-! ## Announcements -/

namespace Announcement

variable {s : String} {wait awake : Micros}

theorem bar_iff (c : Char) : (c == '|') = true ↔ c ∈ ['|'] := by
  rw [beq_iff_eq, List.mem_singleton]

theorem read?_eq_some_iff : read? s = some (wait, awake) ↔
    ∃ p q, Parts.Separated ['|'] s.toList ["NEXT".toList, p, q] ∧
      Numeral.Spells 10 p wait.toNat ∧ Numeral.Spells 10 q awake.toNat := by
  simp only [← Parts.split_eq_iff bar_iff]
  unfold read?
  split
  · next word p q hparts =>
    have hword : String.ofList word = tag ↔ word = "NEXT".toList := by
      rw [← String.toList_inj, String.toList_ofList, tag]
    simp only [hparts, hword]
    split
    · next hword => simp [Option.bind_eq_some_iff, Numeral.readWord64?_eq_some_iff, hword]
    · next hword => exact iff_of_false nofun fun ⟨_, _, h, _⟩ => hword (List.cons.inj h).1
  · next hnot => exact iff_of_false nofun fun ⟨p, q, h, _⟩ => hnot _ p q h

/-- A text is refused if it has other parts, or if one of the numbers takes more than 64 bits. -/
theorem read?_eq_none_iff : read? s = none ↔
    ¬∃ p q m n, Parts.Separated ['|'] s.toList ["NEXT".toList, p, q] ∧
      Numeral.Spells 10 p m ∧ Numeral.Spells 10 q n ∧ m < UInt64.size ∧ n < UInt64.size := by
  rw [Option.eq_none_iff_forall_ne_some, ← not_exists]
  refine not_congr ⟨?_, ?_⟩
  · rintro ⟨⟨wait, awake⟩, hread⟩
    obtain ⟨p, q, hparts, hp, hq⟩ := read?_eq_some_iff.1 hread
    exact ⟨p, q, _, _, hparts, hp, hq, wait.toNat_lt, awake.toNat_lt⟩
  · rintro ⟨p, q, m, n, hparts, hm, hn, hmle, hnle⟩
    obtain ⟨wait, rfl⟩ := Numeral.exists_word64 hmle
    obtain ⟨awake, rfl⟩ := Numeral.exists_word64 hnle
    exact ⟨(wait, awake), read?_eq_some_iff.2 ⟨p, q, hparts, hm, hn⟩⟩

theorem toList_text (wait awake : Micros) : (text wait awake).toList =
    tag.toList ++ '|' :: ((Numeral.decimal wait.toNat).toList ++
      '|' :: (Numeral.decimal awake.toNat).toList) := by
  simp [text]

theorem read?_text (wait awake : Micros) : read? (text wait awake) = some (wait, awake) := by
  have htag : ∀ c ∈ tag.toList, c ∉ ['|'] := by simp [tag]
  have hnumber (n : Nat) : ∀ c ∈ (Numeral.decimal n).toList, c ∉ ['|'] :=
    (Numeral.spells_decimal n).notMem (by simp)
  rw [read?_eq_some_iff, toList_text]
  exact ⟨_, _, .more htag (.head _) (.more (hnumber _) (.head _) (.last (hnumber _))),
    Numeral.spells_decimal _, Numeral.spells_decimal _⟩

end Announcement

/-- A text announces two numbers exactly if it has three parts between bars, the word and a decimal
numeral of each number. It is refused exactly if no two numerals of at most 64 bits stand so behind the
word. The text that is written for two numbers announces them. -/
theorem Announcement.readings_exact (s : String) :
    (∀ wait awake, read? s = some (wait, awake) ↔
      ∃ p q, Parts.Separated ['|'] s.toList ["NEXT".toList, p, q] ∧
        Numeral.Spells 10 p wait.toNat ∧ Numeral.Spells 10 q awake.toNat) ∧
    (read? s = none ↔
      ¬∃ p q m n, Parts.Separated ['|'] s.toList ["NEXT".toList, p, q] ∧
        Numeral.Spells 10 p m ∧ Numeral.Spells 10 q n ∧ m < UInt64.size ∧ n < UInt64.size) ∧
    ∀ wait awake, read? (text wait awake) = some (wait, awake) :=
  ⟨fun _ _ => read?_eq_some_iff, read?_eq_none_iff, read?_text⟩

example : Announcement.read? "NEXT|+007|18446744073709551615" = some (7, Micros.top) := by decide

example : Announcement.read? "NEXT|1|18446744073709551616" = none := by decide

/-! ## Hardware addresses -/

namespace Address

variable {s : String} {a : Address}

theorem isSeparator_iff (c : Char) : isSeparator c = true ↔ c ∈ [':', '-'] := by
  simp [isSeparator]

theorem readPart?_eq_some_iff {p : List Char} {b : UInt8} :
    readPart? p = some b ↔ Numeral.Spells 16 p b.toNat := by
  rw [readPart?, Numeral.map_read?_byte, String.toList_ofList]

theorem read?_eq_some_iff : read? s = some a ↔
    ∃ parts, Parts.Separated [':', '-'] s.toList parts ∧
      List.Forall₂ (fun p b => Numeral.Spells 16 p b.toNat) parts a.bytes := by
  simp only [← Parts.split_eq_iff isSeparator_iff, exists_eq_left']
  unfold read?
  split
  · next p0 p1 p2 p3 p4 p5 hparts =>
    simp only [hparts, bytes, List.forall₂_cons, List.forall₂_nil_right_iff, and_true,
      Option.bind_eq_bind, Option.bind_eq_some_iff, readPart?_eq_some_iff, pure, Option.some.injEq]
    constructor
    · rintro ⟨b0, h0, b1, h1, b2, h2, b3, h3, b4, h4, b5, h5, rfl⟩
      exact ⟨h0, h1, h2, h3, h4, h5⟩
    · rintro ⟨h0, h1, h2, h3, h4, h5⟩
      exact ⟨_, h0, _, h1, _, h2, _, h3, _, h4, _, h5, rfl⟩
  · next hnot =>
    refine iff_of_false nofun fun h => ?_
    match hparts : Parts.split isSeparator s.toList, h.length_eq with
    | [_, _, _, _, _, _], _ => exact hnot _ _ _ _ _ _ hparts

theorem spells_hexPair (b : UInt8) : Numeral.Spells 16 (Bytes.hexPair b.toNat) b.toNat := by
  have hb := b.toNat_lt
  have hdigit (n : Nat) : Numeral.Digit 16 (Nat.digitChar (n % 16)) (n % 16) :=
    Numeral.digit_digitChar (Nat.mod_lt n (by decide)) (Nat.mod_lt n (by decide))
  have hvalue : b.toNat / 16 % 16 * 16 + b.toNat % 16 = b.toNat := by omega
  have hdigits := (Numeral.Digits.one (hdigit (b.toNat / 16))).more (hdigit b.toNat)
  rw [hvalue] at hdigits
  exact .bare hdigits

theorem toList_text (a : Address) :
    a.text.toList = [':'].intercalate (a.bytes.map fun b => Bytes.hexPair b.toNat) := by
  simp [text, String.toList_intercalate, Bytes.toHex, Function.comp_def]

theorem read?_text (a : Address) : read? a.text = some a := by
  have hout : ∀ p ∈ a.bytes.map fun b => Bytes.hexPair b.toNat, ∀ c ∈ p, c ∉ [':', '-'] := by
    intro p hp
    obtain ⟨b, -, rfl⟩ := List.mem_map.1 hp
    exact (spells_hexPair b).notMem (by simp)
  rw [read?_eq_some_iff, toList_text]
  refine ⟨_, Parts.separated_intercalate (.head _) (List.cons_ne_nil _ _) hout, ?_⟩
  rw [List.forall₂_map_left_iff, List.forall₂_same]
  exact fun b _ => spells_hexPair b

theorem text_inj {b : Address} : a.text = b.text ↔ a = b := by
  refine ⟨fun h => ?_, congrArg text⟩
  have hread := read?_text a
  rw [h, read?_text b] at hread
  exact (Option.some.inj hread).symm

theorem exists_forall₂_iff {α β : Type} {R : α → β → Prop} {as : List α} :
    (∃ bs, List.Forall₂ R as bs) ↔ ∀ a ∈ as, ∃ b, R a b := by
  induction as with
  | nil => simp
  | cons a as ih =>
    rw [List.forall_mem_cons, ← ih]
    constructor
    · rintro ⟨_, h | ⟨h, hs⟩⟩
      exact ⟨⟨_, h⟩, _, hs⟩
    · rintro ⟨⟨b, h⟩, bs, hs⟩
      exact ⟨b :: bs, .cons h hs⟩

theorem exists_bytes_eq {bs : Bytes} (h : bs.length = 6) : ∃ a : Address, a.bytes = bs := by
  match bs, h with
  | [b0, b1, b2, b3, b4, b5], _ => exact ⟨⟨b0, b1, b2, b3, b4, b5⟩, rfl⟩

/-- A text is refused if it has fewer or more parts, or one that is no numeral of a byte. -/
theorem read?_eq_none_iff : read? s = none ↔
    ¬∃ parts, Parts.Separated [':', '-'] s.toList parts ∧ parts.length = 6 ∧
      ∀ p ∈ parts, ∃ n, n ≤ 255 ∧ Numeral.Spells 16 p n := by
  rw [Option.eq_none_iff_forall_ne_some, ← not_exists]
  refine not_congr ⟨?_, ?_⟩
  · rintro ⟨a, hread⟩
    obtain ⟨parts, hparts, hspells⟩ := read?_eq_some_iff.1 hread
    refine ⟨parts, hparts, hspells.length_eq, fun p hp => ?_⟩
    obtain ⟨b, hb⟩ := exists_forall₂_iff.1 ⟨_, hspells⟩ p hp
    exact ⟨_, Numeral.byte_le b, hb⟩
  · rintro ⟨parts, hparts, hlength, hall⟩
    have hbytes : ∀ p ∈ parts, ∃ b : UInt8, Numeral.Spells 16 p b.toNat := by
      intro p hp
      obtain ⟨n, hle, h⟩ := hall p hp
      obtain ⟨b, rfl⟩ := Numeral.exists_byte hle
      exact ⟨b, h⟩
    obtain ⟨bs, hbs⟩ := exists_forall₂_iff.2 hbytes
    obtain ⟨a, rfl⟩ := exists_bytes_eq (hbs.length_eq.symm.trans hlength)
    exact ⟨a, read?_eq_some_iff.2 ⟨parts, hparts, hbs⟩⟩

end Address

/-- A text is an address exactly if its parts between colons and dashes are hexadecimal numerals of the
six bytes in order. It is refused exactly if it does not have six parts that are all numerals of at most
255. An address that is written is read back, so that no two are written alike. -/
theorem Address.spellings_exact :
    (∀ s a, read? s = some a ↔
      ∃ parts, Parts.Separated [':', '-'] s.toList parts ∧
        List.Forall₂ (fun p b => Numeral.Spells 16 p b.toNat) parts a.bytes) ∧
    (∀ s, read? s = none ↔
      ¬∃ parts, Parts.Separated [':', '-'] s.toList parts ∧ parts.length = 6 ∧
        ∀ p ∈ parts, ∃ n, n ≤ 255 ∧ Numeral.Spells 16 p n) ∧
    (∀ a, read? a.text = some a) ∧
    ∀ a b : Address, a.text = b.text ↔ a = b :=
  ⟨fun _ _ => read?_eq_some_iff, fun _ => read?_eq_none_iff, read?_text, fun _ _ => text_inj⟩

example : Address.read? "+24:6F-028:aa:1:fF" = some ⟨0x24, 0x6f, 0x28, 0xaa, 1, 0xff⟩ := by decide

example : Address.read? "24:6f:28:aa:01:100" = none := by decide

end Multilink
