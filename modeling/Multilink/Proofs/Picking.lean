import Multilink.Proofs.Membership
/-!
# Picking a medium

Each medium has its own bit, so that the bits of a set tell its members. Of the media that a peer
and this node have in common one is picked whatever the scores are, be they no numbers at all, and
none is picked if there are none.
-/

namespace Multilink

/-! ## Sets of media -/

namespace Media

theorem mem_all (m : Media) : m ∈ all := by
  cases m <;> decide

/-- The place of the bit of this medium. -/
def place : Media → Nat
  | radioShort => 0
  | radioMesh => 1
  | radioLong => 2
  | cellular => 3
  | busI2c => 4
  | busCan => 5
  | busTtl => 6

theorem toBitVec_bit (m : Media) : m.bit.toBitVec = BitVec.twoPow 8 m.place := by
  cases m <;> decide

theorem getLsbD_bit (m n : Media) : m.bit.toBitVec.getLsbD n.place = decide (n = m) := by
  cases m <;> cases n <;> decide

end Media

namespace MediaSet

theorem contains_eq (s : MediaSet) (m : Media) :
    s.contains m = s.bits.toBitVec.getLsbD m.place := by
  have hbits : (s.bits &&& m.bit).toBitVec =
      if s.bits.toBitVec.getLsbD m.place then m.bit.toBitVec else 0#8 := by
    rw [UInt8.toBitVec_and, Media.toBitVec_bit, BitVec.and_twoPow]
  rw [contains]
  cases hb : s.bits.toBitVec.getLsbD m.place with
  | false =>
    rw [hb] at hbits
    simpa using UInt8.toBitVec_inj.1 (hbits : _ = (0 : UInt8).toBitVec)
  | true =>
    rw [hb] at hbits
    rw [UInt8.toBitVec_inj.1 hbits]
    cases m <;> rfl

@[simp] theorem contains_inter (s t : MediaSet) (m : Media) :
    (s.inter t).contains m = (s.contains m && t.contains m) := by
  simp [contains_eq, inter]

@[simp] theorem contains_insert (s : MediaSet) (m n : Media) :
    (s.insert m).contains n = (s.contains n || decide (n = m)) := by
  simp [contains_eq, insert, Media.getLsbD_bit]

@[simp] theorem mem_toList (s : MediaSet) (m : Media) : m ∈ s.toList ↔ s.contains m = true := by
  simp [toList, Media.mem_all]

theorem nodup_toList (s : MediaSet) : s.toList.Nodup :=
  List.Nodup.filter _ (by decide)

theorem contains_foldl_insert (ms : List Media) (s : MediaSet) (m : Media) :
    (ms.foldl insert s).contains m = true ↔ s.contains m = true ∨ m ∈ ms := by
  induction ms generalizing s with
  | nil => simp
  | cons n rest ih => simp [ih, or_assoc]

@[simp] theorem contains_ofList (ms : List Media) (m : Media) :
    (ofList ms).contains m = true ↔ m ∈ ms := by
  have hnone : empty.contains m = false := by cases m <;> rfl
  simp [ofList, contains_foldl_insert, hnone]

end MediaSet

/-! ## The medium for a frame -/

namespace Peer

variable {profiles : Profiles} {now : Micros} {length : Nat} {usable : MediaSet} {p : Peer}
variable {ms : List Media} {best : Option (Media × Score)}

theorem media_selectFrom : (selectFrom profiles now length ms best p).2.media = p.media := by
  obtain ⟨stats, hselect⟩ := p.exists_stats_selectFrom profiles now length ms best
  rw [hselect]

theorem better_cases (best : Option (Media × Score)) (m : Media) (s : Score) :
    better best m s = (m, s) ∨ best = some (better best m s) := by
  unfold better
  split
  · next b t =>
    split
    · exact .inr rfl
    · exact .inl rfl
  · exact .inl rfl

/-- The medium is one of those that were scored. -/
theorem selectFrom_mem {m : Media} {s : Score}
    (h : (selectFrom profiles now length ms best p).1 = some (m, s)) :
    m ∈ ms ∨ ∃ t, best = some (m, t) := by
  induction ms generalizing best p with
  | nil => exact .inr ⟨s, h⟩
  | cons n rest ih =>
    unfold selectFrom at h
    split at h
    · rcases ih h with hm | hm
      · exact .inl (.tail _ hm)
      · exact .inr hm
    · next t q hq =>
      rcases ih h with hm | ⟨u, hu⟩
      · exact .inl (.tail _ hm)
      · obtain hn | hn := better_cases best n t
        · obtain rfl : n = m := congrArg Prod.fst (Option.some.inj (hn ▸ hu))
          exact .inl (.head _)
        · exact .inr ⟨u, hn.trans hu⟩

theorem selectFrom_isSome (h : best.isSome = true) :
    (selectFrom profiles now length ms best p).1.isSome = true := by
  induction ms generalizing best p with
  | nil => exact h
  | cons m rest ih =>
    unfold selectFrom
    split
    · exact ih h
    · exact ih rfl

theorem select?_mem {m : Media} (h : (p.select? profiles now length usable).1 = some m) :
    p.media.contains m = true ∧ usable.contains m = true := by
  obtain ⟨⟨n, s⟩, hfrom, rfl⟩ := Option.map_eq_some_iff.1 h
  rcases selectFrom_mem hfrom with hm | ⟨t, ht⟩
  · simpa using hm
  · cases ht

/-- A peer with statistics for its media has a medium picked if there is one. -/
theorem select?_isSome {m : Media} (hp : p.Measured) (hm : p.media.contains m = true)
    (hu : usable.contains m = true) : (p.select? profiles now length usable).1.isSome = true := by
  rw [select?, Option.isSome_map]
  cases hlist : (p.media.inter usable).toList with
  | nil =>
    have : m ∈ (p.media.inter usable).toList := by simp [hm, hu]
    simp [hlist] at this
  | cons n rest =>
    have hn : p.media.contains n = true := by
      have : n ∈ (p.media.inter usable).toList := by simp [hlist]
      simp at this
      exact this.1
    obtain ⟨s, hs⟩ := Option.isSome_iff_exists.1 ((hp n).trans hn)
    simp only [selectFrom, score?, hs]
    exact selectFrom_isSome rfl

theorem select?_of_none (h : ∀ m, p.media.contains m = true → usable.contains m = false) :
    p.select? profiles now length usable = (none, p) := by
  have hlist : (p.media.inter usable).toList = [] := by
    rw [List.eq_nil_iff_forall_not_mem]
    intro m hm
    simp at hm
    simp [h m hm.1] at hm
  rw [select?, hlist]
  rfl

end Peer

end Multilink
