import Mathlib.Data.List.Nodup
import Multilink.Conversation
/-!
# Opening and closing conversations

What the tracker holds after each of its operations, as far as the dispatcher relies on it. A
conversation that is opened anew and closed again leaves the tracker as it was; with distinct keys,
closing takes out the one conversation that is asked for.
-/

namespace Multilink

theorem nodup_map_append {α β : Type} {f : α → β} {l : List α} {a : α} (h : (l.map f).Nodup)
    (hnew : ∀ b ∈ l, f b ≠ f a) : ((l ++ [a]).map f).Nodup := by
  rw [List.map_append, List.map_singleton, ← List.concat_eq_append]
  refine List.Nodup.concat (fun hmem => ?_) h
  obtain ⟨b, hb, he⟩ := List.mem_map.1 hmem
  exact hnew b hb he

/-- What tells a conversation from the other open ones. -/
def Conversation.key (c : Conversation) : Handle × UInt16 :=
  (c.peer, c.id)

namespace Tracker

variable {t t' : Tracker} {peer : Handle} {id : UInt16} {c c' : Conversation}

/-- No two open conversations have the same peer and number. -/
def Apart (t : Tracker) : Prop :=
  (t.opened.map Conversation.key).Nodup

theorem Apart.eq (h : t.Apart) (hc : c ∈ t.opened) (hc' : c' ∈ t.opened) (hk : c.key = c'.key) :
    c = c' :=
  List.inj_on_of_nodup_map h hc hc' hk

theorem Apart.nodup (h : t.Apart) : t.opened.Nodup :=
  h.of_map _

theorem Apart.append (h : t.Apart) (hnew : ∀ b ∈ t.opened, b.key ≠ c.key)
    (ht : t'.opened = t.opened ++ [c]) : t'.Apart := by
  rw [Apart, ht]
  exact nodup_map_append h hnew

/-! ## Looking up -/

theorem find?_eq_none_iff : t.find? peer id = none ↔ ∀ c ∈ t.opened, c.key ≠ (peer, id) := by
  simp [find?, Conversation.key]

theorem mem_of_find? (h : t.find? peer id = some c) : c ∈ t.opened ∧ c.key = (peer, id) := by
  refine ⟨List.mem_of_find?_eq_some h, ?_⟩
  simpa [Conversation.key] using List.find?_some h

theorem Apart.find? (h : t.Apart) (hc : c ∈ t.opened) : t.find? c.peer c.id = some c := by
  cases hf : t.find? c.peer c.id with
  | none => exact absurd rfl (find?_eq_none_iff.1 hf c hc)
  | some b =>
    obtain ⟨hb, hk⟩ := mem_of_find? hf
    rw [h.eq hb hc hk]

/-! ## Opening -/

/-- Where the walk ends with a number, that number is free. -/
theorem walk_free {steps : Nat} {start free next : UInt16}
    (h : t.walk peer steps start = (some free, next)) : t.find? peer free = none := by
  induction steps generalizing start with
  | zero => cases h
  | succ steps ih =>
    rw [walk] at h
    split at h
    · next hfree =>
      cases h
      exact Option.isNone_iff_eq_none.1 hfree
    · exact ih h

theorem run_openOurs (peer : Handle) (reason : String) (t : Tracker) :
    (∃ next, (openOurs peer reason).run t =
      (.error (.conversation peer 0), { t with nextId := next })) ∨
    (∃ id next, t.find? peer id = none ∧ (openOurs peer reason).run t =
      (.ok id, { opened := t.opened ++ [⟨id, peer, reason, true⟩], nextId := next })) := by
  rcases hw : t.walk peer 65535 t.nextId with ⟨_ | id, next⟩
  · exact .inl ⟨next, by simp only [openOurs, Act.run, hw]⟩
  · exact .inr ⟨id, next, walk_free hw, by simp only [openOurs, Act.run, hw]⟩

theorem run_openTheirs_free (h : t.find? peer id = none) (reason : String) :
    (openTheirs peer id reason).run t =
      (.ok id, { t with opened := t.opened ++ [⟨id, peer, reason, false⟩] }) := by
  simp only [openTheirs, Act.run, h]

theorem run_openTheirs_taken (h : t.find? peer id = some c) (reason : String) :
    (openTheirs peer id reason).run t =
      (if c.ours then .error (.conversation peer id) else .ok id, t) := by
  simp only [openTheirs, Act.run, h]
  split <;> rfl

theorem Apart.openTheirs (h : t.Apart) (peer : Handle) (id : UInt16) (reason : String) :
    ((openTheirs peer id reason).run t).2.Apart := by
  cases hf : t.find? peer id with
  | none =>
    rw [run_openTheirs_free hf]
    exact h.append (find?_eq_none_iff.1 hf) rfl
  | some c =>
    rw [run_openTheirs_taken hf]
    exact h

/-- A conversation of the peer may be new after this; nothing else is, and nothing is lost. -/
theorem mem_openTheirs (peer : Handle) (id : UInt16) (reason : String) (t : Tracker)
    (c : Conversation) :
    (c ∈ ((openTheirs peer id reason).run t).2.opened →
      c ∈ t.opened ∨ c = ⟨id, peer, reason, false⟩) ∧
    (c ∈ t.opened → c ∈ ((openTheirs peer id reason).run t).2.opened) := by
  cases hf : t.find? peer id with
  | none =>
    rw [run_openTheirs_free hf]
    exact ⟨fun hc => by simpa using hc, fun hc => List.mem_append_left _ hc⟩
  | some b =>
    rw [run_openTheirs_taken hf]
    exact ⟨.inl, fun hc => hc⟩

/-! ## Closing -/

theorem run_closeIf (peer : Handle) (id : UInt16) (test : Conversation → Bool) (t : Tracker) :
    (∃ c, t.find? peer id = some c ∧ test c = true ∧
      (closeIf peer id test).run t = (.ok c, { t with opened := t.opened.erase c })) ∨
    ((∀ c, t.find? peer id = some c → test c = false) ∧
      (closeIf peer id test).run t = (.error (.conversation peer id), t)) := by
  cases hf : t.find? peer id with
  | none =>
    refine .inr ⟨fun b hb => ?_, by simp only [closeIf, Act.run, hf, Option.filter]⟩
    cases hb
  | some c =>
    cases htest : test c with
    | true =>
      refine .inl ⟨c, rfl, htest, ?_⟩
      simp only [closeIf, Act.run, hf, Option.filter, htest, if_true]
    | false =>
      refine .inr ⟨fun b hb => ?_, by simp [closeIf, Act.run, hf, Option.filter, htest]⟩
      cases hb
      exact htest

theorem closeIf_sublist (peer : Handle) (id : UInt16) (test : Conversation → Bool) (t : Tracker) :
    ((closeIf peer id test).run t).2.opened.Sublist t.opened := by
  rcases run_closeIf peer id test t with ⟨c, -, -, hrun⟩ | ⟨-, hrun⟩
  · rw [hrun]
    exact List.erase_sublist
  · rw [hrun]

theorem Apart.closeIf (h : t.Apart) (peer : Handle) (id : UInt16) (test : Conversation → Bool) :
    ((closeIf peer id test).run t).2.Apart :=
  ((closeIf_sublist peer id test t).map _).nodup h

/-- Closing takes out the conversation that is asked for, if the test holds for it. -/
theorem Apart.mem_closeIf (h : t.Apart) (test : Conversation → Bool) :
    c ∈ ((Tracker.closeIf peer id test).run t).2.opened ↔
      c ∈ t.opened ∧ ¬ (c.key = (peer, id) ∧ test c = true) := by
  rcases run_closeIf peer id test t with ⟨b, hb, htest, hrun⟩ | ⟨hnone, hrun⟩
  · obtain ⟨hmem, hkey⟩ := mem_of_find? hb
    rw [hrun, h.nodup.mem_erase_iff]
    constructor
    · rintro ⟨hne, hc⟩
      exact ⟨hc, fun ⟨hk, _⟩ => hne (h.eq hc hmem (hk.trans hkey.symm))⟩
    · rintro ⟨hc, hnot⟩
      refine ⟨?_, hc⟩
      rintro rfl
      exact hnot ⟨hkey, htest⟩
  · rw [hrun]
    refine ⟨fun hc => ⟨hc, fun ⟨hk, htest⟩ => ?_⟩, fun hc => hc.1⟩
    have hf := h.find? hc
    rw [show c.peer = peer from congrArg Prod.fst hk, show c.id = id from congrArg Prod.snd hk] at hf
    rw [hnone c hf] at htest
    cases htest

/-- What was opened anew is all that closing takes out again. -/
theorem run_closeIf_fresh {test : Conversation → Bool} (hf : t.find? c.peer c.id = none)
    (htest : test c = true) (ht : t'.opened = t.opened ++ [c]) :
    (closeIf c.peer c.id test).run t' = (.ok c, { t' with opened := t.opened }) := by
  have hnew : c ∉ t.opened := fun hc => find?_eq_none_iff.1 hf c hc rfl
  have hfind : t'.find? c.peer c.id = some c := by
    rw [find?] at hf ⊢
    rw [ht, List.find?_append, hf]
    simp
  rcases run_closeIf c.peer c.id test t' with ⟨b, hb, -, hrun⟩ | ⟨hnone, -⟩
  · cases hfind.symm.trans hb
    rw [hrun, ht, List.erase_append_right _ hnew]
    simp
  · rw [hnone c hfind] at htest
    cases htest

end Tracker

end Multilink
