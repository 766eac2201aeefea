import Mathlib.Data.Nat.Bitwise
import Multilink.Proofs.Bursts
import Multilink.Proofs.Receiving
/-!
# Relations that several peers share

The relation of a node and a peer is a checksum of both addresses, and two peers may share one. A
checksum is what is left of its bytes, read as a polynomial over two elements, when it is divided by
the generator; so two byte strings of one length have the same checksum exactly if they differ by a
multiple of the generator (`checksum_eq_iff`).

Adding a peer looks at names and addresses, not at relations. Of the peers that share a relation the
first one is found under it, and gets what the others send on media that carry relations only
(`PeerStore.related_iff`).
-/

namespace Multilink

namespace Checksum

/-- The generator with its highest term. The bits of a number are the coefficients of a
polynomial. -/
def generator : Nat := 0x104C11DB7

/-- The multiples of a polynomial. -/
inductive Multiple (g : Nat) : Nat → Prop
  | zero : Multiple g 0
  | double {n : Nat} : Multiple g n → Multiple g (2 * n)
  | add {n : Nat} : Multiple g n → Multiple g (n ^^^ g)

/-! ## Division by the generator -/

/-- The register with the value of one bit. -/
def unit (b : Bool) : BitVec 32 :=
  BitVec.ofNat 32 b.toNat

/-- What is left of a number when it is divided by the generator, its highest bit first. -/
def residue (n : Nat) : BitVec 32 :=
  Nat.binaryRec 0#32 (fun b _ r => shift r ^^^ unit b) n

@[simp] theorem residue_zero : residue 0 = 0#32 := Nat.binaryRec_zero _ _

theorem residue_bit (b : Bool) (n : Nat) : residue (n.bit b) = shift (residue n) ^^^ unit b :=
  Nat.binaryRec_eq b n (.inl rfl)

theorem residue_double (n : Nat) : residue (2 * n) = shift (residue n) := by
  simpa [unit] using residue_bit false n

theorem unit_xor (b c : Bool) : unit (b ^^ c) = unit b ^^^ unit c := by
  cases b <;> cases c <;> rfl

theorem residue_xor (m n : Nat) : residue (m ^^^ n) = residue m ^^^ residue n := by
  induction m using Nat.binaryRec generalizing n with
  | zero => simp
  | bit b m ih =>
    cases n using Nat.bitCasesOn with
    | bit c n =>
      rw [Nat.xor_bit, residue_bit, residue_bit, residue_bit, ih, shift_xor,
        show bne b c = (b ^^ c) from rfl, unit_xor]
      ac_rfl

/-- A shift doubles, and takes the generator off if there is no room for the result. -/
theorem toNat_shift (r : BitVec 32) :
    (shift r).toNat = (2 * r.toNat) ^^^ (if r.msb then generator else 0) := by
  have hgenerator (i : Nat) :
      (if r.msb then generator else 0).testBit i = (r.msb && generator.testBit i) := by
    cases r.msb <;> simp
  have hlow : ∀ i < 31, generator.testBit (i + 1) = polynomial.getLsbD (i + 1) := by decide
  apply Nat.eq_of_testBit_eq
  intro i
  rw [BitVec.testBit_toNat, Nat.testBit_xor, hgenerator]
  cases i with
  | zero => rw [getLsbD_shift_zero]; simp [generator]
  | succ i =>
    rw [Nat.testBit_succ, Nat.mul_div_cancel_left _ (by decide), BitVec.testBit_toNat]
    rcases Nat.lt_trichotomy i 31 with hi | rfl | hi
    · rw [getLsbD_shift r i hi, hlow i hi]
    · rw [BitVec.getLsbD_of_ge _ _ (by omega), ← BitVec.msb_eq_getLsbD_last,
        show generator.testBit (31 + 1) = true by decide]
      simp
    · have hhigh : generator < 2 ^ (i + 1) :=
        Nat.lt_of_lt_of_le (by decide : generator < 2 ^ 33) (Nat.pow_le_pow_right (by decide) (by omega))
      rw [BitVec.getLsbD_of_ge _ _ (by omega), BitVec.getLsbD_of_ge _ _ (by omega),
        Nat.testBit_lt_two_pow hhigh]
      simp

theorem bit_eq_xor (b : Bool) (n : Nat) : n.bit b = (2 * n) ^^^ b.toNat := by
  cases b <;> simp

/-- A number and its residue differ by a multiple. -/
theorem multiple_xor_residue (n : Nat) : Multiple generator (n ^^^ (residue n).toNat) := by
  induction n using Nat.binaryRec with
  | zero => simpa using Multiple.zero
  | bit b n ih =>
    have hunit : (unit b).toNat = b.toNat := by cases b <;> rfl
    have hdouble : 2 * (n ^^^ (residue n).toNat) = (2 * n) ^^^ (2 * (residue n).toNat) :=
      (Nat.xor_bit false n false _).symm
    have hsum : n.bit b ^^^ (residue (n.bit b)).toNat =
        (2 * (n ^^^ (residue n).toNat)) ^^^ (if (residue n).msb then generator else 0) := by
      rw [residue_bit, BitVec.toNat_xor, toNat_shift, hunit, bit_eq_xor, hdouble]
      simp only [Nat.xor_assoc, Nat.xor_left_comm b.toNat, Nat.xor_self, Nat.xor_zero]
    rw [hsum]
    cases (residue n).msb with
    | false => simpa using ih.double
    | true => exact ih.double.add

/-- A number without the generator's highest bit is its own residue. -/
theorem residue_of_lt {k n : Nat} (hk : k ≤ 32) (hn : n < 2 ^ k) :
    residue n = BitVec.ofNat 32 n := by
  induction k generalizing n with
  | zero => simp [Nat.lt_one_iff.1 hn]
  | succ k ih =>
    cases n using Nat.bitCasesOn with
    | bit b n =>
      have hn := Nat.bit_lt_two_pow_succ_iff.1 hn
      have hshort : n < 2 ^ 31 :=
        Nat.lt_of_lt_of_le hn (Nat.pow_le_pow_right (by decide) (by omega))
      have hmsb : (BitVec.ofNat 32 n).msb = false := by
        rw [BitVec.msb_eq_false_iff_two_mul_lt, BitVec.toNat_ofNat]
        omega
      have hshift : shift (BitVec.ofNat 32 n) = BitVec.ofNat 32 (2 * n) := by
        apply BitVec.eq_of_toNat_eq
        rw [toNat_shift, hmsb, BitVec.toNat_ofNat, BitVec.toNat_ofNat]
        simp
        omega
      rw [residue_bit, ih (by omega) hn, hshift, bit_eq_xor, BitVec.ofNat_xor]
      rfl

theorem residue_generator : residue generator = 0#32 := by
  rw [show generator = Nat.bit true 0x82608EDB from rfl, residue_bit,
    residue_of_lt (Nat.le_refl 32) (by decide)]
  decide

theorem residue_eq_zero_iff (n : Nat) : residue n = 0#32 ↔ Multiple generator n := by
  constructor
  · intro h
    simpa [h] using multiple_xor_residue n
  · intro h
    induction h with
    | zero => rfl
    | double _ ih =>
      rw [residue_double, ih]
      rfl
    | add _ ih =>
      rw [residue_xor, ih, residue_generator]
      rfl

/-! ## Checksums are residues -/

/-- Bytes as a number, the first byte highest, behind what the number was before. -/
def number (n : Nat) (bs : Bytes) : Nat :=
  bs.foldl (fun n b => n * 256 + b.toNat) n

theorem residue_append (n k : Nat) {m : Nat} (h : m < 2 ^ k) :
    residue (n * 2 ^ k + m) = shift^[k] (residue n) ^^^ residue m := by
  induction k generalizing m with
  | zero => simp [Nat.lt_one_iff.1 h]
  | succ k ih =>
    cases m using Nat.bitCasesOn with
    | bit b m =>
      have hm := Nat.bit_lt_two_pow_succ_iff.1 h
      have hsplit : n * 2 ^ (k + 1) + m.bit b = (n * 2 ^ k + m).bit b := by
        rw [Nat.pow_succ, ← Nat.mul_assoc]
        cases b <;> simp <;> omega
      rw [hsplit, residue_bit, residue_bit, ih hm, shift_xor, Function.iterate_succ_apply',
        BitVec.xor_assoc]

theorem iterate_shift_xor (k : Nat) (r s : BitVec 32) :
    shift^[k] (r ^^^ s) = shift^[k] r ^^^ shift^[k] s := by
  induction k with
  | zero => rfl
  | succ k ih =>
    rw [Function.iterate_succ_apply', Function.iterate_succ_apply', Function.iterate_succ_apply',
      ih, shift_xor]

theorem top_eq (b : UInt8) : top b = shift^[24] (residue b.toNat) := by
  have hb := b.toNat_lt
  have hshifted := residue_append b.toNat 24 (m := 0) (by decide)
  rw [residue_of_lt (Nat.le_refl 32) (by omega)] at hshifted
  rw [residue_zero, BitVec.xor_zero] at hshifted
  rw [← hshifted, top]
  apply BitVec.eq_of_toNat_eq
  simp [Nat.shiftLeft_eq]

/-- The register is thirty-two shifts ahead, as it takes a byte in at its top. -/
theorem absorb_residue (n : Nat) (b : UInt8) :
    absorb (shift^[32] (residue n)) b = shift^[32] (residue (n * 256 + b.toNat)) := by
  calc absorb (shift^[32] (residue n)) b
    _ = shift^[8] (shift^[32] (residue n) ^^^ shift^[24] (residue b.toNat)) := by
        rw [← top_eq]
        rfl
    _ = shift^[32] (shift^[8] (residue n) ^^^ residue b.toNat) := by
        simp only [iterate_shift_xor, ← Function.iterate_add_apply]
    _ = shift^[32] (residue (n * 256 + b.toNat)) := by
        rw [← residue_append n 8 b.toNat_lt]
        rfl

theorem foldl_absorb_residue (n : Nat) (bs : Bytes) :
    bs.foldl absorb (shift^[32] (residue n)) = shift^[32] (residue (number n bs)) := by
  induction bs generalizing n with
  | nil => rfl
  | cons b bs ih =>
    rw [List.foldl_cons, absorb_residue, ih]
    rfl

/-- The start of the register is as if four more bytes had been taken in before. -/
theorem register_eq (bs : Bytes) :
    register bs = shift^[32] (residue (number 0x46AF6449 bs)) := by
  have hstart : BitVec.allOnes 32 = shift^[32] (residue 0x46AF6449) := by
    rw [residue_of_lt (Nat.le_refl 32) (by decide)]
    decide +kernel
  rw [register, hstart, foldl_absorb_residue]

theorem number_append (n : Nat) (bs cs : Bytes) :
    number n (bs ++ cs) = number (number n bs) cs :=
  List.foldl_append

theorem number_eq (n : Nat) (bs : Bytes) : number n bs = n * 256 ^ bs.length + number 0 bs := by
  induction bs generalizing n with
  | nil => simp [number]
  | cons b bs ih =>
    have hcons (n : Nat) : number n (b :: bs) = number (n * 256 + b.toNat) bs := rfl
    rw [hcons, hcons, ih, ih (0 * 256 + b.toNat), List.length_cons, Nat.pow_succ']
    simp only [Nat.add_mul, Nat.mul_assoc, Nat.zero_mul, Nat.zero_add, Nat.add_assoc]

theorem number_lt (bs : Bytes) : number 0 bs < 256 ^ bs.length := by
  induction bs with
  | nil => simp [number]
  | cons b bs ih =>
    have hb := b.toNat_lt
    have hcons : number 0 (b :: bs) = number b.toNat bs := by simp [number]
    rw [hcons, number_eq, List.length_cons, Nat.pow_succ']
    have hle : (b.toNat + 1) * 256 ^ bs.length ≤ 256 * 256 ^ bs.length :=
      Nat.mul_le_mul_right _ (by omega)
    rw [Nat.add_mul] at hle
    omega

/-- The start makes no difference to which byte strings of one length agree. -/
theorem register_eq_iff {bs cs : Bytes} (h : bs.length = cs.length) :
    register bs = register cs ↔ Multiple generator (number 0 bs ^^^ number 0 cs) := by
  have hnumber (n : Nat) (bs : Bytes) : residue (number n bs) =
      shift^[8 * bs.length] (residue n) ^^^ residue (number 0 bs) := by
    have hlt := number_lt bs
    rw [number_eq n bs, show 256 = 2 ^ 8 from rfl, ← Nat.pow_mul] at *
    exact residue_append n _ hlt
  rw [register_eq, register_eq, (shift_injective.iterate 32).eq_iff, hnumber, hnumber _ cs, h,
    BitVec.xor_right_inj, ← residue_eq_zero_iff, residue_xor, BitVec.xor_eq_zero_iff]

end Checksum

/-- Byte strings of one length have the same checksum exactly if they differ by a multiple of the
generator. -/
theorem checksum_eq_iff {bs cs : Bytes} (h : bs.length = cs.length) :
    checksum bs = checksum cs ↔
      Checksum.Multiple Checksum.generator (Checksum.number 0 bs ^^^ Checksum.number 0 cs) := by
  rw [← Checksum.register_eq_iff h, checksum, checksum, UInt32.ofBitVec.injEq, BitVec.not_inj]

/-! ## Peers that share a relation -/

/-- Two addresses as one number, the smaller address first. -/
def Address.pairing (a b : Address) : Nat :=
  if a.toNat ≤ b.toNat then a.toNat * 2 ^ 48 + b.toNat else b.toNat * 2 ^ 48 + a.toNat

/-- Two addresses that differ so that both make the same relation with `a`. -/
def Address.Alike (a b c : Address) : Prop :=
  Checksum.Multiple Checksum.generator (a.pairing b ^^^ a.pairing c)

theorem number_bytes_append (a b : Address) :
    Checksum.number 0 (a.bytes ++ b.bytes) = a.toNat * 2 ^ 48 + b.toNat := by
  have hnumber (a : Address) : Checksum.number 0 a.bytes = a.toNat := rfl
  rw [Checksum.number_append, Checksum.number_eq, hnumber, hnumber, show b.bytes.length = 6 from rfl,
    show 256 ^ 6 = 2 ^ 48 by decide]

theorem relation_eq_iff (a b c : Address) : relation a b = relation a c ↔ a.Alike b c := by
  have hrelation (b : Address) :
      ∃ bs, bs.length = 12 ∧ relation a b = checksum bs ∧ Checksum.number 0 bs = a.pairing b := by
    unfold relation Address.pairing
    split
    · exact ⟨_, rfl, rfl, number_bytes_append a b⟩
    · exact ⟨_, rfl, rfl, number_bytes_append b a⟩
  obtain ⟨bs, hbs, hb, hnb⟩ := hrelation b
  obtain ⟨cs, hcs, hc, hnc⟩ := hrelation c
  rw [hb, hc, checksum_eq_iff (hbs.trans hcs.symm), hnb, hnc, Address.Alike]

/-- Addresses that begin with the same two bytes, as those of one maker do, are never alike on one
side of `a`. -/
theorem Address.eq_of_alike {a b c : Address} (h : a.Alike b c) (h0 : b.b0 = c.b0)
    (h1 : b.b1 = c.b1) (hside : a.toNat ≤ b.toNat ↔ a.toNat ≤ c.toNat) : b = c := by
  have hrelation := (relation_eq_iff a b c).2 h
  let tail (x : Address) : Bytes := [x.b2, x.b3, x.b4, x.b5]
  have htails : tail b = tail c := by
    unfold relation at hrelation
    simp only [hside] at hrelation
    split at hrelation
    · have hsame : checksum ((a.bytes ++ [c.b0, c.b1]) ++ tail b ++ []) =
          checksum ((a.bytes ++ [c.b0, c.b1]) ++ tail c ++ []) := by
        simpa [tail, Address.bytes, h0, h1] using hrelation
      exact checksum_inj rfl (Nat.le_refl 4) hsame
    · have hsame : checksum ([c.b0, c.b1] ++ tail b ++ a.bytes) =
          checksum ([c.b0, c.b1] ++ tail c ++ a.bytes) := by
        simpa [tail, Address.bytes, h0, h1] using hrelation
      exact checksum_inj rfl (Nat.le_refl 4) hsame
  cases b
  cases c
  simp_all [tail]

namespace PeerStore

variable {s : PeerStore} {a : Address} {capacity : Nat} {before after : List Peer} {p : Peer}

/-- A peer is found under its relation if no peer before it has the same one. -/
theorem ofSender?_relation_iff (hw : WellFormed a capacity s.peers)
    (hp : s.peers = before ++ p :: after) :
    (s.ofSender? (.relation p.relation)).map (·.handle) = some p.handle ↔
      ∀ q ∈ before, ¬ a.Alike p.address q.address := by
  have hmem : p ∈ s.peers := by simp [hp]
  have hshared : ∀ q ∈ before, a.Alike p.address q.address ↔ q.relation = p.relation := fun q hq => by
    rw [← relation_eq_iff, hw.related p hmem, hw.related q (by simp [hp, hq]), eq_comm]
  rw [ofSender?, hp, List.find?_append]
  constructor
  · intro hfound q hq halike
    -- the first such peer is found, and it has another handle
    have hsome : (before.find? fun r => Sender.isOf (.relation p.relation) r.identity).isSome := by
      rw [List.find?_isSome]
      exact ⟨q, hq, by simpa [Sender.isOf, Peer.identity] using (hshared q hq).1 halike⟩
    obtain ⟨r, hr⟩ := Option.isSome_iff_exists.1 hsome
    rw [hr] at hfound
    have hapart : ∀ q ∈ before, q.Apart p := fun q hq =>
      (List.pairwise_append.1 (hp ▸ hw.apart)).2.2 q hq p (.head _)
    exact (hapart r (List.mem_of_find?_eq_some hr)).1 (by simpa using hfound)
  · intro hnone
    have hbefore : (before.find? fun r => Sender.isOf (.relation p.relation) r.identity) = none := by
      rw [List.find?_eq_none]
      intro q hq
      simpa [Sender.isOf, Peer.identity] using mt (hshared q hq).2 (hnone q hq)
    rw [hbefore]
    simp [Sender.isOf, Peer.identity]

/-- After any calls on a new store, a peer is found under its relation, and is taken for the sender
of frames that carry it, exactly if no peer in a slot before has an address that makes the same
relation. -/
theorem related_iff {tr : List (Call × Except Error Answer)} (h : Trace Step (new a capacity) tr s)
    (hp : s.peers = before ++ p :: after) :
    (Step s ⟨.find (.relation p.relation), false⟩ (.ok (.found (some p.handle)))
        { s with held := false } ↔ ∀ q ∈ before, ¬ a.Alike p.address q.address) ∧
    ∀ {W : Type} (w : Wiring W) (d : Dispatcher W) (m : Media) (kind : Kind),
      d.peers = { s with held := false } →
      ((Dispatcher.resolveSender w (.relation p.relation) m kind).run d = (.ok p.handle, d) ↔
        ∀ q ∈ before, ¬ a.Alike p.address q.address) := by
  have hfound := ofSender?_relation_iff (Inv.trace h).wellFormed hp
  have hfree : ({ s with held := false } : PeerStore).ofSender? (.relation p.relation) =
      s.ofSender? (.relation p.relation) := rfl
  constructor
  · have hrun : (Op.find (.relation p.relation)).act.run { s with held := false } =
        (.ok (.found ((s.ofSender? (.relation p.relation)).map (·.handle))),
          { s with held := false }) := by
      rw [Op.act, Act.run_map, Query.act, findRelation?, run_find?]
      rfl
    rw [← hfound, Step, hrun]
    simp
  · intro W w d m kind hd
    rw [← hfound, ← hfree, ← hd]
    cases hs : d.peers.ofSender? (.relation p.relation) with
    | none =>
      rw [hd, hfree, ofSender?, List.find?_eq_none] at hs
      exact absurd (hs p (by simp [hp])) (by simp [Sender.isOf, Peer.identity])
    | some q =>
      rw [Dispatcher.run_resolveSender_known w hs, hd]
      simp

/-- Two peers whose addresses differ by the generator itself. The second one is not found. -/
theorem colliding_peers :
    let a : Address := ⟨0x02, 0, 0, 0, 0, 0x01⟩
    let alpha := Peer.make ⟨1⟩ "alpha" ⟨0x02, 0, 0, 0, 0, 0x02⟩ (.ofBits 0x20) a
    let beta := Peer.make ⟨2⟩ "beta" ⟨0x02, 0x01, 0x04, 0xC1, 0x1D, 0xB5⟩ (.ofBits 0x20) a
    let calls : List (Call × Except Error Answer) :=
      [(⟨.add "alpha" alpha.address (.ofBits 0x20), false⟩, .ok (.added ⟨1⟩)),
        (⟨.add "beta" beta.address (.ofBits 0x20), false⟩, .ok (.added ⟨2⟩))]
    ∃ s, Trace Step (new a 4) calls s ∧ s.peers = [alpha] ++ beta :: [] ∧
      ¬ Step s ⟨.find (.relation beta.relation), false⟩ (.ok (.found (some beta.handle)))
        { s with held := false } := by
  intro a alpha beta calls
  have hone : Step (new a 4) ⟨.add "alpha" alpha.address (.ofBits 0x20), false⟩
      (.ok (.added ⟨1⟩)) { new a 4 with slots := [some alpha], nextHandle := 2 } := rfl
  have htwo : Step { new a 4 with slots := [some alpha], nextHandle := 2 }
      ⟨.add "beta" beta.address (.ofBits 0x20), false⟩ (.ok (.added ⟨2⟩))
      { new a 4 with slots := [some alpha, some beta], nextHandle := 3 } := rfl
  have htrace : Trace Step (new a 4) calls _ := .snoc (.snoc .nil hone) htwo
  have hdiffer : a.pairing beta.address ^^^ a.pairing alpha.address = 0 ^^^ Checksum.generator := by
    decide +kernel
  have hpeers : ({ new a 4 with slots := [some alpha, some beta], nextHandle := 3 } :
      PeerStore).peers = [alpha] ++ beta :: [] := rfl
  refine ⟨_, htrace, hpeers, fun hfound => ?_⟩
  refine (related_iff htrace hpeers).1.1 hfound alpha (.head _) ?_
  rw [Address.Alike, hdiffer]
  exact Checksum.Multiple.zero.add

end PeerStore

end Multilink
