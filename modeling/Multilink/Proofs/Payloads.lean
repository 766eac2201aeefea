import Mathlib.Data.List.TakeWhile
import Multilink.Peer.Version
import Multilink.Proofs.Numerals
import Multilink.Proofs.Ranks
/-!
# Reading a payload back

A payload is written as fields, each a text or a number, with a null byte after each. What has no
null byte itself is read back as it was: fields by `Fields.split_join`, texts by
`Bytes.text?_ofText`, numbers of one byte by `Numeral.readByte?_decimal` and versions by
`Version.read?_text`. A text has a null byte exactly if it has a null character.
-/

namespace Multilink

/-! ## Fields -/

namespace Fields

/-- The span so many bytes further on. -/
def Span.shift (k : Nat) (s : Span) : Span :=
  ⟨k + s.start, k + s.stop⟩

theorem spansFrom_shift (k start here : Nat) (bs : Bytes) :
    spansFrom (k + start) (k + here) bs = (spansFrom start here bs).map (·.shift k) := by
  induction bs generalizing start here with
  | nil => rfl
  | cons b rest ih =>
    unfold spansFrom
    split
    · rw [List.map_cons, Nat.add_assoc, ih]
      rfl
    · rw [Nat.add_assoc, ih]

theorem spansFrom_append {bs : Bytes} (h : terminator ∉ bs) (start here : Nat) (rest : Bytes) :
    spansFrom start here (bs ++ terminator :: rest) =
      ⟨start, here + bs.length⟩ ::
        spansFrom (here + bs.length + 1) (here + bs.length + 1) rest := by
  induction bs generalizing here with
  | nil => simp [spansFrom]
  | cons b bs ih =>
    have hb : b ≠ terminator := fun he => h (he ▸ List.mem_cons_self)
    rw [List.cons_append, spansFrom, if_neg hb, ih fun hmem => h (List.mem_cons_of_mem _ hmem)]
    simp [Nat.add_assoc, Nat.add_comm 1]

/-- The first field ends at the first null byte, and the others are those of the rest. -/
theorem split_append {bs : Bytes} (h : terminator ∉ bs) (rest : Bytes) :
    split (bs ++ terminator :: rest) = bs :: split rest := by
  have hfirst : Span.of ⟨0, 0 + bs.length⟩ (bs ++ terminator :: rest) = bs := by simp [Span.of]
  have hrest (s : Span) : (s.shift (bs.length + 1)).of (bs ++ terminator :: rest) = s.of rest := by
    have hdrop : (bs ++ terminator :: rest).drop (bs.length + 1 + s.start) = rest.drop s.start := by
      rw [← List.drop_drop, ← List.drop_drop, List.drop_left]
      rfl
    simp [Span.of, Span.shift, hdrop, Nat.add_sub_add_left]
  rw [split, spans, spansFrom_append h, List.map_cons, hfirst]
  congr 1
  rw [Nat.zero_add]
  have hshift := spansFrom_shift (bs.length + 1) 0 0 rest
  rw [Nat.add_zero] at hshift
  rw [hshift, List.map_map, split, spans]
  exact List.map_congr_left fun s _ => hrest s

theorem join_cons (bs : Bytes) (rest : List Bytes) :
    join (bs :: rest) = bs ++ terminator :: join rest := by
  simp [join]

/-- Fields without null bytes are read back, and an empty one behind the last of them. -/
theorem split_join {fields : List Bytes} (h : ∀ bs ∈ fields, terminator ∉ bs) :
    split (join fields) = fields ++ [[]] := by
  induction fields with
  | nil => rfl
  | cons bs rest ih =>
    rw [join_cons, split_append (h bs (.head _)), ih fun bs hbs => h bs (.tail _ hbs),
      List.cons_append]

/-- What stands before the first null byte is not changed by a null byte behind it. -/
theorem takeWhile_append (bs rest : Bytes) :
    (bs ++ terminator :: rest).takeWhile (· != terminator) =
      bs.takeWhile (· != terminator) := by
  induction bs with
  | nil => simp
  | cons b bs ih => simp [List.takeWhile_cons, ih]

theorem takeWhile_eq_self_iff (bs : Bytes) :
    bs.takeWhile (· != terminator) = bs ↔ terminator ∉ bs := by
  rw [List.takeWhile_eq_self_iff]
  constructor
  · exact fun h hmem => absurd (h terminator hmem) (by simp)
  · intro h b hb
    simpa using fun he : b = terminator => h (he ▸ hb)

end Fields

/-! ## Texts -/

namespace Bytes

theorem text?_ofText (s : String) : text? (ofText s) = some s := by
  have hbytes : (⟨(ofText s).toArray⟩ : ByteArray) = s.toByteArray := by
    rw [ofText_eq]
  rw [text?, hbytes, String.fromUTF8?, dif_pos s.isValidUTF8]
  rfl

theorem length_ofText (s : String) : (ofText s).length = s.utf8ByteSize := by
  rw [ofText_eq]
  rfl

theorem ofText_ofList (cs : List Char) :
    ofText (String.ofList cs) = cs.flatMap String.utf8EncodeChar := by
  rw [ofText_eq, String.toByteArray_ofList, List.utf8Encode, List.data_toByteArray]

theorem zero_ne_ofNat {n : Nat} (hlow : 0 < n) (hhigh : n < 256) : (0 : UInt8) ≠ UInt8.ofNat n := by
  intro h
  have hn := congrArg UInt8.toNat h
  rw [UInt8.toNat_ofNat_of_lt' (by simpa using hhigh)] at hn
  simp at hn
  omega

/-- The bytes of a character beyond ASCII all have their highest bit set. -/
theorem zero_mem_utf8EncodeChar (c : Char) : 0 ∈ String.utf8EncodeChar c ↔ c = '\x00' := by
  have hnull : c = '\x00' ↔ c.val.toNat = 0 := by
    rw [Char.ext_iff, ← UInt32.toNat_inj]
    rfl
  rw [hnull]
  unfold String.utf8EncodeChar
  dsimp only
  split
  · constructor
    · intro hmem
      refine Nat.eq_zero_of_not_pos fun hpos => ?_
      exact zero_ne_ofNat hpos (by omega) (List.mem_singleton.1 hmem)
    · intro hzero
      simp [hzero]
  · refine iff_of_false (fun hmem => ?_) (by omega)
    have hbyte {n k : Nat} (hk : 0 < k) (hn : n + k < 256) : (0 : UInt8) ≠ UInt8.ofNat (n + k) :=
      zero_ne_ofNat (by omega) hn
    split at hmem
    · simp only [List.mem_cons, List.not_mem_nil, or_false] at hmem
      rcases hmem with h | h
      all_goals exact hbyte (by decide) (by omega) h
    · split at hmem
      · simp only [List.mem_cons, List.not_mem_nil, or_false] at hmem
        rcases hmem with h | h | h
        all_goals exact hbyte (by decide) (by omega) h
      · simp only [List.mem_cons, List.not_mem_nil, or_false] at hmem
        rcases hmem with h | h | h | h
        all_goals exact hbyte (by decide) (by omega) h

theorem zero_mem_ofText (s : String) : 0 ∈ ofText s ↔ '\x00' ∈ s.toList := by
  rw [← String.ofList_toList (s := s), ofText_ofList]
  simp [zero_mem_utf8EncodeChar]

/-- A hexadecimal digit is one byte, and not the null byte. -/
theorem digitChar_mod (n : Nat) :
    (Nat.digitChar (n % 16)).utf8Size = 1 ∧ Nat.digitChar (n % 16) ≠ '\x00' := by
  have hdigit : ∀ k : Fin 16, (Nat.digitChar k).utf8Size = 1 ∧ Nat.digitChar k ≠ '\x00' := by decide
  exact hdigit ⟨n % 16, Nat.mod_lt n (by decide)⟩

theorem utf8ByteSize_toHex (bs : Bytes) : (toHex bs).utf8ByteSize = 2 * bs.length := by
  rw [← length_ofText, toHex, ofText_ofList]
  induction bs with
  | nil => rfl
  | cons b rest ih =>
    rw [List.flatMap_cons, List.flatMap_append, List.length_append, ih]
    simp [hexPair, String.length_utf8EncodeChar, (digitChar_mod _).1]
    omega

theorem null_notMem_toHex (bs : Bytes) : '\x00' ∉ (toHex bs).toList := by
  rw [toHex, String.toList_ofList, List.mem_flatMap]
  rintro ⟨b, -, hb⟩
  simp only [hexPair, List.mem_cons, List.not_mem_nil, or_false] at hb
  rcases hb with hb | hb
  · exact (digitChar_mod _).2 hb.symm
  · exact (digitChar_mod _).2 hb.symm

end Bytes

/-! ## Numbers -/

namespace Numeral

theorem isDigit_of_mem_decimal {n : Nat} {c : Char} (h : c ∈ (decimal n).toList) :
    c.isDigit = true := by
  rw [decimal, String.toList_ofList] at h
  exact Nat.isDigit_of_mem_toDigits (by decide) (by decide) h

theorem terminator_notMem_number (n : Nat) : Fields.terminator ∉ Fields.number n := by
  rw [Fields.number, Fields.terminator, Bytes.zero_mem_ofText]
  intro hmem
  cases isDigit_of_mem_decimal hmem

end Numeral

namespace Version

theorem splitPoint?_append {cs : List Char} (h : '.' ∉ cs) (rest : List Char) :
    splitPoint? (cs ++ '.' :: rest) = some (cs, rest) := by
  induction cs with
  | nil => rfl
  | cons c cs ih =>
    have hc : c ≠ '.' := fun he => h (he ▸ List.mem_cons_self)
    have hrest := ih fun hmem => h (List.mem_cons_of_mem _ hmem)
    rw [List.cons_append]
    rw [splitPoint?, hrest]
    · rfl
    · exact hc

theorem toList_text (v : Version) : v.text.toList =
    (Numeral.decimal v.major.toNat).toList ++ '.' :: (Numeral.decimal v.minor.toNat).toList := by
  simp [text]

theorem read?_text (v : Version) : read? v.text = some v := by
  have hpoint : '.' ∉ (Numeral.decimal v.major.toNat).toList := fun hmem => by
    cases Numeral.isDigit_of_mem_decimal hmem
  rw [read?, toList_text, splitPoint?_append hpoint]
  simp [Numeral.readByte?_decimal]

theorem terminator_notMem_text (v : Version) : Fields.terminator ∉ Fields.text v.text := by
  rw [Fields.text, Fields.terminator, Bytes.zero_mem_ofText, toList_text, List.mem_append,
    List.mem_cons]
  rintro (hmem | hpoint | hmem)
  · cases Numeral.isDigit_of_mem_decimal hmem
  · cases hpoint
  · cases Numeral.isDigit_of_mem_decimal hmem

end Version

end Multilink
