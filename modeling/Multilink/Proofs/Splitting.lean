import Multilink.Proofs.Payloads
/-!
# Splitting a payload is exact

Every payload is some fields with a null byte after each, and a rest, all without null bytes
(`Fields.exists_parts`). Its spans are those of the fields and of the rest
(`Fields.split_join_append`), so that splitting and writing undo each other as far as the rest is
empty: `Message.fields_exact`.
-/

namespace Multilink

namespace Fields

variable {init : List Bytes} {last payload : Bytes}

/-! ## The parts of a payload -/

theorem exists_parts (payload : Bytes) :
    ∃ init last, payload = join init ++ last ∧ (∀ bs ∈ init, terminator ∉ bs) ∧ terminator ∉ last := by
  induction payload with
  | nil => exact ⟨[], [], rfl, nofun, nofun⟩
  | cons b rest ih =>
    obtain ⟨init, last, rfl, hinit, hlast⟩ := ih
    by_cases hb : b = terminator
    · subst hb
      exact ⟨[] :: init, last, rfl, List.forall_mem_cons.2 ⟨nofun, hinit⟩, hlast⟩
    · -- the byte goes into the first part, which is the rest if there are no fields
      have hnot {bs : Bytes} (h : terminator ∉ bs) : terminator ∉ b :: bs :=
        fun hmem => (List.mem_cons.1 hmem).elim (Ne.symm hb) h
      cases init with
      | nil => exact ⟨[], b :: last, rfl, nofun, hnot hlast⟩
      | cons bs init =>
        obtain ⟨hbs, hinit⟩ := List.forall_mem_cons.1 hinit
        exact ⟨(b :: bs) :: init, last, rfl, List.forall_mem_cons.2 ⟨hnot hbs, hinit⟩, hlast⟩

theorem spansFrom_of_notMem {bs : Bytes} (h : terminator ∉ bs) (start here : Nat) :
    spansFrom start here bs = [⟨start, here + bs.length⟩] := by
  induction bs generalizing here with
  | nil => rfl
  | cons b rest ih =>
    have hb : b ≠ terminator := fun he => h (he ▸ List.mem_cons_self)
    have hrest : terminator ∉ rest := fun hmem => h (List.mem_cons_of_mem _ hmem)
    rw [spansFrom, if_neg hb, ih hrest, List.length_cons, Nat.add_assoc, Nat.add_comm 1]

theorem split_of_notMem (h : terminator ∉ last) : split last = [last] := by
  rw [split, spans, spansFrom_of_notMem h, List.map_singleton]
  simp [Span.of]

theorem split_join_append (hinit : ∀ bs ∈ init, terminator ∉ bs) (hlast : terminator ∉ last) :
    split (join init ++ last) = init ++ [last] := by
  induction init with
  | nil => exact split_of_notMem hlast
  | cons bs init ih =>
    obtain ⟨hbs, hinit⟩ := List.forall_mem_cons.1 hinit
    rw [join_cons, List.append_assoc, List.cons_append, split_append hbs, ih hinit, List.cons_append]

theorem count_join_append (hinit : ∀ bs ∈ init, terminator ∉ bs) (hlast : terminator ∉ last) :
    (join init ++ last).count terminator = init.length := by
  induction init with
  | nil => exact List.count_eq_zero.2 hlast
  | cons bs init ih =>
    obtain ⟨hbs, hinit⟩ := List.forall_mem_cons.1 hinit
    rw [join_cons, List.append_assoc, List.cons_append, List.count_append, List.count_cons_self,
      List.count_eq_zero.2 hbs, ih hinit, List.length_cons, Nat.zero_add]

theorem intercalate_concat (init : List Bytes) (last : Bytes) :
    [terminator].intercalate (init ++ [last]) = join init ++ last := by
  induction init with
  | nil => simp [join]
  | cons bs init ih =>
    rw [join_cons, List.append_assoc]
    show _ = bs ++ terminator :: (join init ++ last)
    rw [← ih]
    cases init <;> simp [List.intercalate]

theorem ended_join_append (hlast : terminator ∉ last) : Ended (join init ++ last) ↔ last = [] := by
  constructor
  · rintro (h | h)
    · exact (List.append_eq_nil_iff.1 h).2
    · rcases List.eq_nil_or_concat last with rfl | ⟨bs, b, rfl⟩
      · rfl
      · rw [List.concat_eq_append, ← List.append_assoc, List.getLast?_concat, Option.some.injEq] at h
        exact absurd (by simp [h]) hlast
  · rintro rfl
    rw [List.append_nil]
    exact ended_join init

/-! ## Spans -/

/-- The scan stays between where it begins and where the payload ends. -/
theorem spansFrom_bounds {start here : Nat} {bs : Bytes} {s : Span} (h : start ≤ here)
    (hs : s ∈ spansFrom start here bs) : s.start ≤ s.stop ∧ s.stop ≤ here + bs.length := by
  induction bs generalizing start here with
  | nil =>
    cases List.mem_singleton.1 hs
    exact ⟨h, le_rfl⟩
  | cons b rest ih =>
    rw [List.length_cons]
    rw [spansFrom] at hs
    split at hs
    · rcases List.mem_cons.1 hs with rfl | hs
      · exact ⟨h, Nat.le_add_right ..⟩
      · obtain ⟨hstart, hstop⟩ := ih le_rfl hs
        exact ⟨hstart, by omega⟩
    · obtain ⟨hstart, hstop⟩ := ih (Nat.le_succ_of_le h) hs
      exact ⟨hstart, by omega⟩

theorem length_spans (payload : Bytes) :
    (spans payload).length = payload.count terminator + 1 := by
  obtain ⟨init, last, rfl, hinit, hlast⟩ := exists_parts payload
  have hlength := congrArg List.length (split_join_append hinit hlast)
  rw [split, List.length_map] at hlength
  rw [hlength, count_join_append hinit hlast, List.length_append, List.length_singleton]

theorem notMem_of_mem_split {bs : Bytes} (h : bs ∈ split payload) : terminator ∉ bs := by
  obtain ⟨init, last, rfl, hinit, hlast⟩ := exists_parts payload
  rw [split_join_append hinit hlast] at h
  rcases List.mem_append.1 h with h | h
  · exact hinit bs h
  · cases List.mem_singleton.1 h
    exact hlast

/-! ## Writing and splitting -/

theorem split_join_iff (fields : List Bytes) :
    split (join fields) = fields ++ [[]] ↔ ∀ bs ∈ fields, terminator ∉ bs := by
  refine ⟨fun h bs hbs => ?_, split_join⟩
  have hmem : bs ∈ split (join fields) := h ▸ List.mem_append_left _ hbs
  exact notMem_of_mem_split hmem

theorem join_split_iff (payload : Bytes) :
    join (split payload).dropLast = payload ↔ Ended payload := by
  obtain ⟨init, last, rfl, hinit, hlast⟩ := exists_parts payload
  rw [split_join_append hinit hlast, List.dropLast_concat, ended_join_append hlast,
    List.self_eq_append_right]

end Fields

/-- The spans of a message lie in its payload, one more than it has null bytes, from its start on. No
field has a null byte, and the fields with a null byte between each two are the payload. Fields that
are written are read back with an empty one behind them exactly if none has a null byte, and a payload
is what its fields but the last are written as exactly if it is empty or ends with a null byte. -/
theorem Message.fields_exact (m : Message) :
    (∀ s ∈ m.spans, s.start ≤ s.stop ∧ s.stop ≤ m.payload.length) ∧
    m.spans.length = m.payload.count Fields.terminator + 1 ∧
    (∃ stop, m.spans[0]? = some ⟨0, stop⟩) ∧
    m.fields = m.spans.map (·.of m.payload) ∧
    (∀ bs ∈ m.fields, Fields.terminator ∉ bs) ∧
    [Fields.terminator].intercalate m.fields = m.payload ∧
    (∀ fields, Fields.split (Fields.join fields) = fields ++ [[]] ↔
      ∀ bs ∈ fields, Fields.terminator ∉ bs) ∧
    ∀ payload, Fields.join (Fields.split payload).dropLast = payload ↔
      payload = [] ∨ payload.getLast? = some Fields.terminator := by
  refine ⟨fun s hs => ?_, Fields.length_spans _, ⟨_, Fields.head?_spansFrom _ _ _⟩, rfl,
    fun bs => Fields.notMem_of_mem_split, ?_, Fields.split_join_iff, Fields.join_split_iff⟩
  · have hbounds := Fields.spansFrom_bounds le_rfl hs
    rwa [Nat.zero_add] at hbounds
  · obtain ⟨init, last, hparts, hinit, hlast⟩ := Fields.exists_parts m.payload
    rw [Message.fields, hparts, Fields.split_join_append hinit hlast, Fields.intercalate_concat]

/-- A null byte at the start, and two in a row, each leave an empty field. -/
theorem Message.fields_of_gaps :
    let m := Message.outbound .data 0 [0, 65, 0, 0, 66]
    (⟨1, 2⟩ : Fields.Span) ∈ m.spans ∧ 2 ≤ m.payload.length ∧ m.spans.length = 4 ∧
      m.fields = [[], [65], [], [66]] ∧ Fields.terminator ∉ [(65 : UInt8)] ∧
      [Fields.terminator].intercalate m.fields = m.payload ∧
      Fields.split (Fields.join [[65], []]) = [[65], [], []] ∧
      Fields.join (Fields.split [65, 0]).dropLast = [65, 0] := by
  intro m
  obtain ⟨hbounds, hlength, -, -, hnull, hjoined, hsplit, hjoin⟩ := m.fields_exact
  exact ⟨by decide, (hbounds ⟨1, 2⟩ (by decide)).2, hlength, by decide, hnull [65] (by decide), hjoined,
    (hsplit [[65], []]).2 (by decide), (hjoin [65, 0]).2 (.inr rfl)⟩

end Multilink
