import Mathlib.Algebra.Group.Nat.Defs
import Multilink.Frame
/-!
# Frames as a code

Building and reading are inverse to each other up to two repairs that reading makes: it does not look
at the checksum, and it ends the payload with a null byte. `Frame.codec` puts the two directions
together: what is built reads back as it was meant, and bytes are the frame of what is read from them
exactly when neither repair was called for.
-/

namespace Multilink

/-! ## Words and their bytes -/

namespace Bytes

theorem toNat_word16 (a b : UInt8) : (word16 a b).toNat = a.toNat * 2 ^ 8 + b.toNat := by
  have ha := a.toNat_lt
  have hb := b.toNat_lt
  have hor := Nat.two_pow_add_eq_or_of_lt hb a.toNat
  simp only [word16, UInt16.toNat_or, UInt16.toNat_shiftLeft, UInt8.toNat_toUInt16,
    UInt16.reduceToNat, Nat.reduceMod, Nat.shiftLeft_eq]
  rw [Nat.mod_eq_of_lt (by omega), Nat.mul_comm, ← hor]

theorem toNat_word32 (a b c d : UInt8) :
    (word32 a b c d).toNat = a.toNat * 2 ^ 24 + b.toNat * 2 ^ 16 + c.toNat * 2 ^ 8 + d.toNat := by
  have ha := a.toNat_lt
  have hb := b.toNat_lt
  have hc := c.toNat_lt
  have hd := d.toNat_lt
  -- the bytes fill disjoint parts of the word, so that each `or` adds
  have h1 := Nat.two_pow_add_eq_or_of_lt (i := 24) (b := b.toNat * 2 ^ 16) (by omega) a.toNat
  have h2 := Nat.two_pow_add_eq_or_of_lt (i := 16) (b := c.toNat * 2 ^ 8) (by omega)
    (a.toNat * 2 ^ 8 + b.toNat)
  have h3 := Nat.two_pow_add_eq_or_of_lt hd (a.toNat * 2 ^ 16 + b.toNat * 2 ^ 8 + c.toNat)
  simp only [word32, UInt32.toNat_or, UInt32.toNat_shiftLeft, UInt8.toNat_toUInt32,
    UInt32.reduceToNat, Nat.reduceMod, Nat.shiftLeft_eq]
  rw [Nat.mod_eq_of_lt (a := a.toNat * 2 ^ 24) (by omega),
    Nat.mod_eq_of_lt (a := b.toNat * 2 ^ 16) (by omega),
    Nat.mod_eq_of_lt (a := c.toNat * 2 ^ 8) (by omega)]
  rw [show a.toNat * 2 ^ 24 = 2 ^ 24 * a.toNat by omega, ← h1,
    show 2 ^ 24 * a.toNat + b.toNat * 2 ^ 16 = 2 ^ 16 * (a.toNat * 2 ^ 8 + b.toNat) by omega, ← h2,
    show 2 ^ 16 * (a.toNat * 2 ^ 8 + b.toNat) + c.toNat * 2 ^ 8 =
      2 ^ 8 * (a.toNat * 2 ^ 16 + b.toNat * 2 ^ 8 + c.toNat) by omega, ← h3]

theorem word16_ofWord16 (w : UInt16) : word16 (w >>> 8).toUInt8 w.toUInt8 = w := by
  have hw := w.toNat_lt
  apply UInt16.toNat_inj.1
  simp only [toNat_word16, UInt16.toNat_toUInt8, UInt16.toNat_shiftRight, UInt16.reduceToNat,
    Nat.reduceMod, Nat.shiftRight_eq_div_pow]
  omega

theorem word32_ofWord32 (w : UInt32) :
    word32 (w >>> 24).toUInt8 (w >>> 16).toUInt8 (w >>> 8).toUInt8 w.toUInt8 = w := by
  have hw := w.toNat_lt
  apply UInt32.toNat_inj.1
  simp only [toNat_word32, UInt32.toNat_toUInt8, UInt32.toNat_shiftRight, UInt32.reduceToNat,
    Nat.reduceMod, Nat.shiftRight_eq_div_pow]
  omega

theorem ofWord16_word16 (a b : UInt8) : ofWord16 (word16 a b) = [a, b] := by
  have ha := a.toNat_lt
  have hb := b.toNat_lt
  simp only [ofWord16, List.cons.injEq, and_true, ← UInt8.toNat_inj, UInt16.toNat_toUInt8,
    UInt16.toNat_shiftRight, UInt16.reduceToNat, Nat.reduceMod, Nat.shiftRight_eq_div_pow,
    toNat_word16]
  omega

theorem ofWord32_word32 (a b c d : UInt8) : ofWord32 (word32 a b c d) = [a, b, c, d] := by
  have ha := a.toNat_lt
  have hb := b.toNat_lt
  have hc := c.toNat_lt
  have hd := d.toNat_lt
  simp only [ofWord32, List.cons.injEq, and_true, ← UInt8.toNat_inj, UInt32.toNat_toUInt8,
    UInt32.toNat_shiftRight, UInt32.reduceToNat, Nat.reduceMod, Nat.shiftRight_eq_div_pow,
    toNat_word32]
  omega

theorem ofWord32_eq_iff (w : UInt32) (a b c d : UInt8) :
    ofWord32 w = [a, b, c, d] ↔ word32 a b c d = w := by
  constructor
  · intro h
    simp only [ofWord32, List.cons.injEq, and_true] at h
    obtain ⟨rfl, rfl, rfl, rfl⟩ := h
    exact word32_ofWord32 w
  · rintro rfl
    exact ofWord32_word32 a b c d

end Bytes

/-! ## Kinds and their bytes -/

namespace Kind

theorem ofByte?_byte (k : Kind) : ofByte? k.byte = some k := by
  cases k <;> rfl

theorem byte_of_ofByte? {b : UInt8} {k : Kind} (h : ofByte? b = some k) : k.byte = b := by
  simpa using List.find?_some h

/-- The kinds take up the bytes from 0 to 6. -/
theorem ofByte?_eq_none_iff (b : UInt8) : ofByte? b = none ↔ 6 < b := by
  have hb : b.toNat < 256 := b.toNat_lt
  simp only [ofByte?, all, List.find?_eq_none, List.mem_cons, List.not_mem_nil, or_false,
    forall_eq_or_imp, forall_eq, byte, beq_iff_eq, ← UInt8.toNat_inj, UInt8.lt_iff_toNat_lt,
    UInt8.reduceToNat]
  omega

end Kind

/-! ## Payloads -/

namespace Fields

/-- A payload as fields leave it: nothing, or ended by a null byte. -/
def Ended (payload : Bytes) : Prop :=
  payload = [] ∨ payload.getLast? = some terminator

theorem terminate_eq_set (payload : Bytes) :
    terminate payload = payload.set (payload.length - 1) terminator := by
  cases payload with
  | nil => rfl
  | cons b rest =>
    have h := List.dropLast_concat_getLast (List.cons_ne_nil b rest)
    calc terminate (b :: rest)
      _ = (b :: rest).dropLast ++ [terminator] := rfl
      _ = ((b :: rest).dropLast ++ [(b :: rest).getLast (List.cons_ne_nil b rest)]).set
            (b :: rest).dropLast.length terminator := by
          rw [List.set_append_right _ _ (Nat.le_refl _)]; simp
      _ = (b :: rest).set ((b :: rest).length - 1) terminator := by
          rw [h, List.length_dropLast]

theorem terminate_eq_self_iff (payload : Bytes) : terminate payload = payload ↔ Ended payload := by
  cases payload with
  | nil => simp [terminate, Ended]
  | cons b rest =>
    have h := List.dropLast_concat_getLast (List.cons_ne_nil b rest)
    constructor
    · intro he
      right
      rw [← he, terminate, List.getLast?_append]
      rfl
    · rintro (he | he)
      · cases he
      · rw [List.getLast?_eq_some_getLast (List.cons_ne_nil b rest), Option.some.injEq] at he
        rw [terminate, ← he, h]

end Fields

/-! ## Frames -/

namespace Frame

/-- Bytes are too short for a frame, or they begin with a checksum, a kind and a conversation. -/
theorem short_or_cut (bs : Bytes) :
    bs.length < preambleLength ∨
      ∃ c0 c1 c2 c3 k v0 v1 payload, bs = c0 :: c1 :: c2 :: c3 :: k :: v0 :: v1 :: payload := by
  rcases bs with _ | ⟨c0, _ | ⟨c1, _ | ⟨c2, _ | ⟨c3, _ | ⟨k, _ | ⟨v0, _ | ⟨v1, payload⟩⟩⟩⟩⟩⟩⟩
  case cons.cons.cons.cons.cons.cons.cons => exact .inr ⟨_, _, _, _, _, _, _, _, rfl⟩
  all_goals exact .inl (by simp [preambleLength])

theorem parse?_short {bs : Bytes} (h : bs.length < preambleLength) :
    parse? bs = .error (.tooShort preambleLength bs.length) := by
  unfold parse?
  split
  · simp only [List.length_cons, preambleLength] at h; omega
  · rfl

theorem build_eq (kind : Kind) (v : UInt16) (payload : Bytes) :
    build kind v payload =
      Bytes.ofWord32 (checksum (covered kind v payload)) ++ covered kind v payload := rfl

theorem parse?_build (kind : Kind) (v : UInt16) (payload : Bytes) :
    parse? (build kind v payload) =
      .ok { Message.outbound kind v payload with payload := Fields.terminate payload } := by
  simp only [build_eq, Bytes.ofWord32, covered, Bytes.ofWord16, List.cons_append, List.nil_append,
    parse?, Kind.ofByte?_byte, Bytes.word16_ofWord16, Bytes.word32_ofWord32, Message.outbound]

theorem verify_build (kind : Kind) (v : UInt16) (payload : Bytes) :
    verify (build kind v payload) = .ok (checksum (covered kind v payload)) := by
  simp only [build_eq, Bytes.ofWord32, covered, Bytes.ofWord16, List.cons_append, List.nil_append,
    verify, Bytes.word32_ofWord32, if_true]

/-- What was built can be read, and is sound. -/
theorem reads_of_build {bs : Bytes} {kind : Kind} {v : UInt16} {payload : Bytes}
    (h : bs = build kind v payload) :
    ∃ m c, parse? bs = .ok m ∧ verify bs = .ok c ∧ m.kind = kind ∧ m.conversation = v := by
  rw [h]
  exact ⟨_, _, parse?_build kind v payload, verify_build kind v payload, rfl, rfl⟩

theorem verify_cut_isOk_iff (c0 c1 c2 c3 k v0 v1 : UInt8) (payload : Bytes) :
    (∃ c, verify (c0 :: c1 :: c2 :: c3 :: k :: v0 :: v1 :: payload) = .ok c) ↔
      Bytes.word32 c0 c1 c2 c3 = checksum (k :: v0 :: v1 :: payload) := by
  simp only [verify]
  split <;> simp_all

/-- Bytes whose first four are not the checksum of the rest are told apart, with both checksums. -/
theorem verify_mismatch {bs : Bytes} (hlen : preambleLength ≤ bs.length)
    (hbad : bs.take 4 ≠ Bytes.ofWord32 (checksum (bs.drop 4))) :
    ∃ told, Bytes.ofWord32 told = bs.take 4 ∧
      verify bs = .error (.checksumMismatch told (checksum (bs.drop 4))) := by
  rcases short_or_cut bs with h | ⟨c0, c1, c2, c3, k, v0, v1, payload, rfl⟩
  · exact absurd h (Nat.not_lt.2 hlen)
  · simp only [List.take_succ_cons, List.take_zero, List.drop_succ_cons, List.drop_zero] at hbad ⊢
    refine ⟨Bytes.word32 c0 c1 c2 c3, Bytes.ofWord32_word32 c0 c1 c2 c3, ?_⟩
    have hne : Bytes.word32 c0 c1 c2 c3 ≠ checksum (k :: v0 :: v1 :: payload) := fun he =>
      hbad ((Bytes.ofWord32_eq_iff _ _ _ _ _).2 he).symm
    simp [verify, hne]

/-- All that can be wrong with a frame that can be read is its checksum. -/
theorem mismatch_of_read {bs : Bytes} {m : Message} {e : FrameError} (hm : parse? bs = .ok m)
    (hv : verify bs = .error e) : ∃ told actual, e = .checksumMismatch told actual := by
  rcases short_or_cut bs with h | ⟨c0, c1, c2, c3, k, v0, v1, payload, rfl⟩
  · rw [parse?_short h] at hm
    cases hm
  · simp only [verify] at hv
    split at hv
    · cases hv
    · cases hv
      exact ⟨_, _, rfl⟩

/-- A frame is rebuilt from its parts exactly if its checksum is right and its payload ended. -/
theorem build_cut_eq_iff {c0 c1 c2 c3 k v0 v1 : UInt8} {payload : Bytes} {kind : Kind}
    (hk : Kind.ofByte? k = some kind) :
    build kind (Bytes.word16 v0 v1) (Fields.terminate payload) =
        c0 :: c1 :: c2 :: c3 :: k :: v0 :: v1 :: payload ↔
      Bytes.word32 c0 c1 c2 c3 = checksum (k :: v0 :: v1 :: payload) ∧ Fields.Ended payload := by
  have hcovered : ∀ p, covered kind (Bytes.word16 v0 v1) p = k :: v0 :: v1 :: p := fun p => by
    simp [covered, Bytes.ofWord16_word16, Kind.byte_of_ofByte? hk]
  have hcut : c0 :: c1 :: c2 :: c3 :: k :: v0 :: v1 :: payload =
      [c0, c1, c2, c3] ++ (k :: v0 :: v1 :: payload) := rfl
  rw [build_eq, hcovered, hcut]
  constructor
  · intro h
    obtain ⟨hc, hrest⟩ := List.append_inj h rfl
    simp only [List.cons.injEq, true_and] at hrest
    rw [hrest] at hc
    exact ⟨(Bytes.ofWord32_eq_iff _ _ _ _ _).1 hc, (Fields.terminate_eq_self_iff _).1 hrest⟩
  · rintro ⟨hc, he⟩
    rw [(Fields.terminate_eq_self_iff _).2 he, (Bytes.ofWord32_eq_iff _ c0 c1 c2 c3).2 hc]

/-- Bytes are refused exactly if they are too short or their kind is unknown. -/
theorem parse?_eq_error_iff (bs : Bytes) (e : FrameError) :
    parse? bs = .error e ↔
      (bs.length < preambleLength ∧ e = .tooShort preambleLength bs.length) ∨
      (preambleLength ≤ bs.length ∧ ∃ k, bs[4]? = some k ∧ 6 < k ∧ e = .unknownKind k) := by
  rcases short_or_cut bs with h | ⟨c0, c1, c2, c3, k, v0, v1, payload, rfl⟩
  · rw [parse?_short h]
    simp [h, Nat.not_le.2 h, eq_comm]
  · have hlong : ¬ (c0 :: c1 :: c2 :: c3 :: k :: v0 :: v1 :: payload).length < preambleLength := by
      simp [preambleLength]
    simp only [hlong, false_and, false_or, Nat.not_lt.1 hlong, true_and, List.getElem?_cons_succ,
      List.getElem?_cons_zero, Option.some.injEq, exists_eq_left', ← Kind.ofByte?_eq_none_iff, parse?]
    cases Kind.ofByte? k <;> simp [eq_comm]

/-- The bytes from which a message was read are its frame exactly if their checksum is right and
their payload ended. -/
theorem toFrame_eq_iff {bs : Bytes} {m : Message} (h : parse? bs = .ok m) :
    m.toFrame = bs ↔ (∃ c, verify bs = .ok c) ∧ Fields.Ended (bs.drop preambleLength) := by
  rcases short_or_cut bs with hs | ⟨c0, c1, c2, c3, k, v0, v1, payload, rfl⟩
  · rw [parse?_short hs] at h
    cases h
  · rw [verify_cut_isOk_iff]
    simp only [parse?] at h
    split at h
    · cases h
    · next kind hk =>
      cases h
      exact build_cut_eq_iff hk

/-- A frame reads back as it was built, with the last byte of its payload a null byte. Bytes are
refused only for their length or their kind, and are the frame of what is read from them exactly if
their checksum is right and their payload ended. -/
theorem codec :
    (∀ (kind : Kind) (v : UInt16) (payload : Bytes), ∃ m,
      parse? (build kind v payload) = .ok m ∧ m.kind = kind ∧ m.conversation = v ∧
        verify (build kind v payload) = .ok m.checksum ∧
        m.payload = payload.set (payload.length - 1) Fields.terminator ∧
        (Fields.Ended payload → m = Message.outbound kind v payload)) ∧
    ∀ bs : Bytes,
      (∀ e, parse? bs = .error e ↔
        (bs.length < preambleLength ∧ e = .tooShort preambleLength bs.length) ∨
        (preambleLength ≤ bs.length ∧ ∃ k, bs[4]? = some k ∧ 6 < k ∧ e = .unknownKind k)) ∧
      (∀ m, parse? bs = .ok m →
        (m.toFrame = bs ↔
          (∃ c, verify bs = .ok c) ∧ Fields.Ended (bs.drop preambleLength))) := by
  refine ⟨fun kind v payload => ?_, fun bs => ⟨parse?_eq_error_iff bs, fun m h => toFrame_eq_iff h⟩⟩
  refine ⟨_, parse?_build kind v payload, rfl, rfl, verify_build kind v payload,
    Fields.terminate_eq_set payload, fun he => ?_⟩
  rw [(Fields.terminate_eq_self_iff payload).2 he]
  rfl

end Frame

end Multilink
