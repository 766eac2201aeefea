import Mathlib.Logic.Function.Iterate
import Multilink.Proofs.Frames
/-!
# Bursts of damage

Damage often hits a few bytes in a row. The register absorbs up to four bytes as one word
(`Checksum.foldl_absorb`), and shifting is injective, so bytes that differ within four in a row leave
different registers, and no bytes behind them make the registers equal again.

`Frame.verify_burst` says what this means for frames: damage of this kind never goes unnoticed,
wherever it is in the checksum or in what that covers.
-/

namespace Multilink

namespace Checksum

/-! ## Shifting -/

theorem getLsbD_shift (r : BitVec 32) (i : Nat) (hi : i < 31) :
    (shift r).getLsbD (i + 1) = (r.getLsbD i ^^ (r.msb && polynomial.getLsbD (i + 1))) := by
  have hi' : i + 1 < 32 := by omega
  have hleft : (r <<< 1).getLsbD (i + 1) = r.getLsbD i := by
    rw [BitVec.getLsbD_shiftLeft]
    simp [hi']
  unfold shift
  cases r.msb
  · simpa using hleft
  · simp [BitVec.getLsbD_xor, hleft]

/-- The polynomial has its lowest bit set, so that the bit that falls out is found there. -/
theorem getLsbD_shift_zero (r : BitVec 32) : (shift r).getLsbD 0 = r.msb := by
  unfold shift
  cases r.msb
  · simp
  · simp [polynomial]

theorem shift_injective : Function.Injective shift := by
  intro r s h
  have hmsb : r.msb = s.msb := by rw [← getLsbD_shift_zero r, h, getLsbD_shift_zero]
  apply BitVec.eq_of_getLsbD_eq
  intro i hi
  by_cases hlast : i = 31
  · rw [BitVec.msb_eq_getLsbD_last, BitVec.msb_eq_getLsbD_last] at hmsb
    simpa [hlast] using hmsb
  · have hr := getLsbD_shift r i (by omega)
    rw [h, getLsbD_shift s i (by omega), hmsb] at hr
    simpa using hr.symm

theorem shift_xor (r s : BitVec 32) : shift (r ^^^ s) = shift r ^^^ shift s := by
  apply BitVec.eq_of_getLsbD_eq
  intro i hi
  cases i with
  | zero => simp only [BitVec.getLsbD_xor, getLsbD_shift_zero, BitVec.msb_xor]
  | succ i =>
    simp only [BitVec.getLsbD_xor, getLsbD_shift _ i (by omega), BitVec.msb_xor]
    cases r.msb <;> cases s.msb <;> cases r.getLsbD i <;> cases s.getLsbD i <;> simp

/-- As long as nothing falls out, shifting undoes a shift to the right. -/
theorem shift_ushiftRight {v : BitVec 32} {k : Nat} (h : v.getLsbD k = false) :
    shift (v >>> (k + 1)) = v >>> k := by
  have hmsb : (v >>> (k + 1)).msb = false := by
    simp [BitVec.msb_eq_getLsbD_last, BitVec.getLsbD_of_ge]
  apply BitVec.eq_of_getLsbD_eq
  intro i hi
  cases i with
  | zero => rw [getLsbD_shift_zero, hmsb]; simpa using h.symm
  | succ i =>
    rw [getLsbD_shift _ i (by omega), hmsb, BitVec.getLsbD_ushiftRight, BitVec.getLsbD_ushiftRight,
      Nat.add_right_comm k 1 i]
    simp [Nat.add_assoc]

theorem shiftByte_injective : Function.Injective shiftByte := by
  intro r s h
  simpa only [shiftByte, shift_injective.eq_iff] using h

theorem shiftByte_xor (r s : BitVec 32) : shiftByte (r ^^^ s) = shiftByte r ^^^ shiftByte s := by
  simp only [shiftByte, shift_xor]

theorem shiftByte_ushiftRight {v : BitVec 32} (h : ∀ i < 8, v.getLsbD i = false) :
    shiftByte (v >>> 8) = v := by
  rw [shiftByte, shift_ushiftRight (h 7 (by omega)), shift_ushiftRight (h 6 (by omega)),
    shift_ushiftRight (h 5 (by omega)), shift_ushiftRight (h 4 (by omega)),
    shift_ushiftRight (h 3 (by omega)), shift_ushiftRight (h 2 (by omega)),
    shift_ushiftRight (h 1 (by omega)), shift_ushiftRight (h 0 (by omega)), BitVec.ushiftRight_zero]

/-! ## Four bytes as a word -/

/-- A byte in the place where the register takes it in. -/
def top (b : UInt8) : BitVec 32 :=
  b.toBitVec.zeroExtend 32 <<< 24

/-- The word of some bytes, the first one on top. Only the first four bytes count. -/
def word : Bytes → BitVec 32
  | [] => 0
  | b :: bs => top b ^^^ (word bs >>> 8)

/-- Fewer than four bytes leave the lower part of their word empty. -/
theorem getLsbD_word {bs : Bytes} {i : Nat} (h : i + 8 * bs.length < 32) :
    (word bs).getLsbD i = false := by
  induction bs generalizing i with
  | nil => simp [word]
  | cons b bs ih =>
    rw [List.length_cons] at h
    have hlow : i < 24 := by omega
    have hrest := ih (i := i + 8) (by omega)
    simp [word, top, BitVec.getLsbD_xor, BitVec.getLsbD_shiftLeft, hlow, Nat.add_comm 8 i, hrest]

theorem shiftByte_word {bs : Bytes} (h : bs.length < 4) : shiftByte (word bs >>> 8) = word bs :=
  shiftByte_ushiftRight fun _ _ => getLsbD_word (by omega)

theorem word_cons_ushiftRight (b : UInt8) (bs : Bytes) :
    word (b :: bs) >>> 24 = b.toBitVec.zeroExtend 32 := by
  apply BitVec.eq_of_getLsbD_eq
  intro i hi
  have hout : (word bs).getLsbD (8 + (24 + i)) = false := BitVec.getLsbD_of_ge _ _ (by omega)
  rw [BitVec.getLsbD_ushiftRight, word, BitVec.getLsbD_xor, BitVec.getLsbD_ushiftRight, hout,
    Bool.xor_false, top, BitVec.getLsbD_shiftLeft]
  by_cases h8 : i < 8
  · simp [show 24 + i < 32 by omega, show ¬ 24 + i < 24 by omega]
  · simp [BitVec.getLsbD_of_ge _ i (Nat.le_of_not_lt h8)]

/-- Up to four bytes are told by their word. -/
theorem word_inj {bs bs' : Bytes} (hlen : bs'.length = bs.length) (h4 : bs.length ≤ 4)
    (h : word bs' = word bs) : bs' = bs := by
  induction bs generalizing bs' with
  | nil => exact List.length_eq_zero_iff.1 hlen
  | cons b bs ih =>
    obtain ⟨b', bs', rfl⟩ := List.exists_cons_of_length_eq_add_one hlen
    rw [List.length_cons] at h4
    rw [List.length_cons, List.length_cons, Nat.add_right_cancel_iff] at hlen
    have hb : b' = b := by
      have htop := congrArg (fun w : BitVec 32 => w >>> 24) h
      simp only [word_cons_ushiftRight] at htop
      apply UInt8.toBitVec_inj.1
      simpa using congrArg (BitVec.setWidth 8) htop
    have hrest : word bs' >>> 8 = word bs >>> 8 := by
      rw [word, word, hb] at h
      simpa using h
    have hword := congrArg shiftByte hrest
    rw [shiftByte_word (by omega), shiftByte_word (by omega)] at hword
    rw [hb, ih hlen (by omega) hword]

/-! ## The register -/

/-- Up to four bytes are taken in together: their word first, and then as many shifts. -/
theorem foldl_absorb {bs : Bytes} (h : bs.length ≤ 4) (r : BitVec 32) :
    bs.foldl absorb r = shiftByte^[bs.length] (r ^^^ word bs) := by
  induction bs generalizing r with
  | nil => simp [word]
  | cons b bs ih =>
    rw [List.length_cons] at h
    calc bs.foldl absorb (absorb r b)
      _ = shiftByte^[bs.length] (shiftByte (r ^^^ top b) ^^^ word bs) := ih (by omega) _
      _ = shiftByte^[bs.length] (shiftByte (r ^^^ top b) ^^^ shiftByte (word bs >>> 8)) := by
          rw [shiftByte_word (by omega)]
      _ = shiftByte^[bs.length] (shiftByte (r ^^^ word (b :: bs))) := by
          rw [← shiftByte_xor, BitVec.xor_assoc, word]
      _ = shiftByte^[bs.length + 1] (r ^^^ word (b :: bs)) := rfl

theorem absorb_injective (b : UInt8) : Function.Injective (absorb · b) := by
  intro r s h
  have hin := shiftByte_injective h
  simpa using hin

/-- Different registers stay different, whatever they both take in. -/
theorem foldl_absorb_injective (bs : Bytes) : Function.Injective (bs.foldl absorb) := by
  induction bs with
  | nil => exact fun _ _ h => h
  | cons b bs ih => exact fun r s h => absorb_injective b (ih h)

/-- At most four bytes that differ make a difference to the register. -/
theorem register_inj {before bs bs' after : Bytes} (hlen : bs'.length = bs.length)
    (h4 : bs.length ≤ 4) (h : register (before ++ bs' ++ after) = register (before ++ bs ++ after)) :
    bs' = bs := by
  simp only [register, List.foldl_append] at h
  have hmid := foldl_absorb_injective after h
  rw [foldl_absorb h4, foldl_absorb (by omega), hlen] at hmid
  have hword := shiftByte_injective.iterate _ hmid
  exact word_inj hlen h4 (by simpa using hword)

end Checksum

theorem checksum_inj {before bs bs' after : Bytes} (hlen : bs'.length = bs.length)
    (h4 : bs.length ≤ 4) (h : checksum (before ++ bs' ++ after) = checksum (before ++ bs ++ after)) :
    bs' = bs := by
  have hreg := congrArg UInt32.toBitVec h
  simp only [checksum, BitVec.not_inj] at hreg
  exact Checksum.register_inj hlen h4 hreg

/-! ## Damaged frames -/

namespace Bytes

/-- The bytes are as many as before, and all are as before but for `count` of them from `start`. -/
structure Burst (start count : Nat) (bs bs' : Bytes) : Prop where
  length_eq : bs'.length = bs.length
  outside : ∀ i, i < start ∨ start + count ≤ i → bs'[i]? = bs[i]?

theorem ofWord32_injective : Function.Injective ofWord32 := by
  intro v w h
  rw [← word32_ofWord32 v, ← word32_ofWord32 w]
  simp only [ofWord32, List.cons.injEq, and_true] at h
  obtain ⟨h0, h1, h2, h3⟩ := h
  rw [h0, h1, h2, h3]

namespace Burst

variable {start count n : Nat} {bs bs' : Bytes}

theorem take_eq (h : Burst start count bs bs') (hn : n ≤ start) : bs'.take n = bs.take n := by
  apply List.ext_getElem?
  intro i
  rw [List.getElem?_take, List.getElem?_take]
  split
  · exact h.outside i (.inl (by omega))
  · rfl

theorem drop_eq (h : Burst start count bs bs') (hn : start + count ≤ n) :
    bs'.drop n = bs.drop n := by
  apply List.ext_getElem?
  intro i
  rw [List.getElem?_drop, List.getElem?_drop]
  exact h.outside _ (.inr (by omega))

theorem drop (h : Burst start count bs bs') (hn : n ≤ start) :
    Burst (start - n) count (bs.drop n) (bs'.drop n) where
  length_eq := by rw [List.length_drop, List.length_drop, h.length_eq]
  outside i hi := by
    rw [List.getElem?_drop, List.getElem?_drop]
    exact h.outside _ (by omega)

theorem of_append (before mid mid' after : Bytes) (hlen : mid'.length = mid.length) :
    Burst before.length mid.length (before ++ mid ++ after) (before ++ mid' ++ after) where
  length_eq := by simp [hlen]
  outside i hi := by
    rw [List.append_assoc, List.append_assoc]
    rcases hi with hi | hi
    · rw [List.getElem?_append_left hi, List.getElem?_append_left hi]
    · rw [List.getElem?_append_right (by omega), List.getElem?_append_right (by omega),
        List.getElem?_append_right (by omega), List.getElem?_append_right (by omega), hlen]

/-- Damage to at most four bytes in a row changes the checksum. -/
theorem checksum_ne (h : Burst start count bs bs') (h4 : count ≤ 4) (hne : bs' ≠ bs) :
    checksum bs' ≠ checksum bs := by
  intro heq
  have hsplit : ∀ cs : Bytes,
      cs = cs.take start ++ (cs.drop start).take count ++ cs.drop (start + count) := fun cs => by
    rw [List.append_assoc, ← List.drop_drop, List.take_append_drop, List.take_append_drop]
  have hbefore := h.take_eq (Nat.le_refl start)
  have hafter := h.drop_eq (Nat.le_refl (start + count))
  rw [hsplit bs', hsplit bs, hbefore, hafter] at heq
  have hlen : ((bs'.drop start).take count).length = ((bs.drop start).take count).length := by
    simp [h.length_eq]
  have hmid := checksum_inj hlen (by simp; omega) heq
  exact hne (by rw [hsplit bs', hsplit bs, hbefore, hafter, hmid])

-- Five bytes in a row are too many: these two byte strings differ by the polynomial itself.
example : checksum [0x01, 0x00, 0x05, 0x78, 0x00] = checksum [0x00, 0x04, 0xC4, 0x65, 0xB7] := by
  decide +kernel

end Burst

end Bytes

namespace Frame

/-- A sound frame is long enough and begins with the checksum of the rest. -/
theorem fits_of_verify {bs : Bytes} {c : UInt32} (h : verify bs = .ok c) :
    preambleLength ≤ bs.length ∧ bs.take 4 = Bytes.ofWord32 (checksum (bs.drop 4)) := by
  unfold verify at h
  split at h
  · next c0 c1 c2 c3 k v0 v1 payload =>
    dsimp only at h
    split at h
    · next heq => exact ⟨by simp [preambleLength], ((Bytes.ofWord32_eq_iff _ c0 c1 c2 c3).2 heq).symm⟩
    · cases h
  · cases h

/-- A sound frame is damaged in at most four bytes in a row, all of them in the checksum or all of them
behind it. Then the checksum no longer fits the rest. -/
theorem verify_burst {bs bs' : Bytes} {c : UInt32} {start count : Nat} (hsound : verify bs = .ok c)
    (hburst : Bytes.Burst start count bs bs') (h4 : count ≤ 4)
    (hwhere : 4 ≤ start ∨ start + count ≤ 4) (hne : bs' ≠ bs) :
    ∃ told, Bytes.ofWord32 told = bs'.take 4 ∧ told ≠ checksum (bs'.drop 4) ∧
      verify bs' = .error (.checksumMismatch told (checksum (bs'.drop 4))) := by
  have hfits := fits_of_verify hsound
  have hlong : preambleLength ≤ bs'.length := by
    rw [hburst.length_eq]
    exact hfits.1
  have hbad : bs'.take 4 ≠ Bytes.ofWord32 (checksum (bs'.drop 4)) := by
    intro htaken
    rcases hwhere with hbehind | hbefore
    · -- the checksum is as before, and that of the rest is not
      have hrest : bs'.drop 4 ≠ bs.drop 4 := fun heq => hne <| by
        rw [← List.take_append_drop 4 bs', heq, hburst.take_eq hbehind, List.take_append_drop]
      rw [hburst.take_eq hbehind, hfits.2] at htaken
      exact (hburst.drop hbehind).checksum_ne h4 hrest (Bytes.ofWord32_injective htaken).symm
    · -- the rest is as before, and the checksum is not
      have hrest := hburst.drop_eq hbefore
      rw [hrest, ← hfits.2] at htaken
      exact hne (by rw [← List.take_append_drop 4 bs', htaken, hrest, List.take_append_drop])
  obtain ⟨told, htold, hverify⟩ := verify_mismatch hlong hbad
  refine ⟨told, htold, ?_, hverify⟩
  rintro rfl
  exact hbad htold.symm

/-- A burst over the kind, the conversation and the first byte of the payload. -/
theorem burst_in_request :
    let sent := build .request 5 [0x78, 0x00]
    let damaged := sent.take 4 ++ [0x02, 0xFF, 0x80, 0x00] ++ sent.drop 8
    sent = [0x0C, 0xA4, 0xBF, 0x5E] ++ [0x01, 0x00, 0x05, 0x78] ++ [0x00] ∧
      (∃ c, verify sent = .ok c) ∧ Bytes.Burst 4 4 sent damaged ∧ damaged ≠ sent ∧
      ∃ told actual, verify damaged = .error (.checksumMismatch told actual) := by
  intro sent damaged
  have hsent : sent = [0x0C, 0xA4, 0xBF, 0x5E] ++ [0x01, 0x00, 0x05, 0x78] ++ [0x00] := by
    decide +kernel
  have hsound := verify_build .request 5 [0x78, 0x00]
  have hburst : Bytes.Burst 4 4 sent damaged := by
    rw [show damaged = sent.take 4 ++ [0x02, 0xFF, 0x80, 0x00] ++ sent.drop 8 from rfl, hsent]
    exact Bytes.Burst.of_append [0x0C, 0xA4, 0xBF, 0x5E] [0x01, 0x00, 0x05, 0x78]
      [0x02, 0xFF, 0x80, 0x00] [0x00] rfl
  have hne : damaged ≠ sent := by decide +kernel
  obtain ⟨told, -, -, hverify⟩ :=
    verify_burst hsound hburst (Nat.le_refl 4) (.inl (Nat.le_refl 4)) hne
  exact ⟨hsent, ⟨_, hsound⟩, hburst, hne, told, _, hverify⟩

end Frame

end Multilink
