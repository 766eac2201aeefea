import Multilink.Dispatcher.Receive
import Multilink.Proofs.Frames
/-!
# How much a frame can set off

A frame can make its receiver send others: a greeting is answered, a priority message is receipted, a
question for the next window is answered, and a sender that is new is greeted. `Message.rank` puts
what can be received in an order such that all that is sent because of it stands lower. For this the
texts in a built payload are read back: its first field is all that stands before the first null
byte.
-/

namespace Multilink

/-! ## Texts as bytes -/

namespace Bytes

theorem toList_loop (b : ByteArray) (i : Nat) (r : List UInt8) :
    ByteArray.toList.loop b i r = r.reverse ++ b.data.toList.drop i := by
  induction i, r using ByteArray.toList.loop.induct b with
  | case1 i r h ih =>
    have hi : i < b.data.toList.length := h
    have hget : b.get! i = b.data.toList[i] := getElem!_pos b.data i h
    rw [ByteArray.toList.loop, if_pos h, ih, hget, List.reverse_cons, List.append_assoc,
      List.singleton_append, ← List.drop_eq_getElem_cons]
  | case2 i r h =>
    rw [ByteArray.toList.loop, if_neg h, List.drop_eq_nil_of_le (Nat.not_lt.1 h), List.append_nil]

theorem ofText_eq (s : String) : ofText s = s.toByteArray.data.toList :=
  (toList_loop _ 0 []).trans (List.nil_append _)

theorem ofText_append (s t : String) : ofText (s ++ t) = ofText s ++ ofText t := by
  simp only [ofText_eq, String.toByteArray_append, ByteArray.data_append, Array.toList_append]

/-- Only the bytes of a text are read as this text. -/
theorem ofText_of_text? {bs : Bytes} {s : String} (h : text? bs = some s) : ofText s = bs := by
  unfold text? String.fromUTF8? at h
  split at h
  · cases h
    rw [ofText_eq]
    rfl
  · cases h

end Bytes

/-! ## The first field -/

namespace Fields

theorem head?_spansFrom (start here : Nat) (bs : Bytes) :
    (spansFrom start here bs)[0]? = some ⟨start, here + (bs.takeWhile (· != terminator)).length⟩ := by
  induction bs generalizing here with
  | nil => rfl
  | cons b rest ih =>
    unfold spansFrom
    by_cases hb : b = terminator
    · simp [hb]
    · simp [hb, ih, Nat.add_assoc, Nat.add_comm 1]

theorem head?_split (payload : Bytes) :
    (split payload)[0]? = some (payload.takeWhile (· != terminator)) := by
  have hprefix := List.takeWhile_prefix (l := payload) (· != terminator)
  rw [split, List.getElem?_map, spans, head?_spansFrom]
  simp [Span.of, ← List.prefix_iff_eq_take.1 hprefix]

theorem ended_join (fields : List Bytes) : Ended (join fields) := by
  rcases List.eq_nil_or_concat fields with rfl | ⟨init, last, rfl⟩
  · exact .inl rfl
  · right
    simp [join]

theorem terminate_join (fields : List Bytes) : terminate (join fields) = join fields :=
  (terminate_eq_self_iff _).2 (ended_join fields)

end Fields

namespace Message

/-- The first field, if it is this text, stands before the first null byte. -/
theorem takeWhile_of_fieldText? {m : Message} {s : String} (h : m.fieldText? 0 = some s) :
    m.payload.takeWhile (· != Fields.terminator) = Bytes.ofText s := by
  rw [fieldText?, field?, fields, Fields.head?_split, Option.bind_some] at h
  exact (Bytes.ofText_of_text? h).symm

end Message

/-! ## Ranks -/

open Dispatcher (hello helloAnswer receipt)

/-- How much a message can set off. -/
def Message.rank (m : Message) : Nat :=
  match m.kind with
  | .priority => 3
  | .orchestration => if m.fieldText? 0 = some Announcement.question then 3 else 2
  | .request | .reply | .data | .qos => 2
  | .handshake => if m.fieldText? 0 = some hello then 1 else 0

theorem Message.two_le_rank {m : Message} (h : m.kind ≠ .handshake) : 2 ≤ m.rank := by
  unfold rank
  cases hk : m.kind with
  | handshake => exact absurd hk h
  | orchestration =>
    simp only []
    split <;> decide
  | _ => simp

theorem Message.rank_le_one {m : Message} (h : m.kind = .handshake) : m.rank ≤ 1 := by
  unfold rank
  rw [h]
  simp only []
  split <;> decide

/-- The rank of a frame is that of the message in it. What cannot be read sets off nothing. -/
def Frame.rank (bytes : Bytes) : Nat :=
  match Frame.parse? bytes with
  | .ok m => m.rank
  | .error _ => 0

theorem Frame.rank_of_read {bytes : Bytes} {m : Message} (h : Frame.parse? bytes = .ok m) :
    Frame.rank bytes = m.rank := by
  rw [rank, h]

/-- A sound frame of a rank below this one. -/
def Frame.Below (n : Nat) (bytes : Bytes) : Prop :=
  ∃ m c, Frame.parse? bytes = .ok m ∧ Frame.verify bytes = .ok c ∧ m.rank < n

theorem Frame.below_build {kind : Kind} {v : UInt16} {fields : List Bytes} {n : Nat}
    (h : (Message.outbound kind v (Fields.join fields)).rank < n) :
    Frame.Below n (Frame.build kind v (Fields.join fields)) := by
  have hparse := Frame.parse?_build kind v (Fields.join fields)
  rw [Fields.terminate_join] at hparse
  exact ⟨_, _, hparse, Frame.verify_build kind v _, h⟩

section Answers

variable {W : Type} (w : Wiring W)

/-- A greeting stands below all but handshakes. -/
theorem below_greeting {n : Nat} (h : 2 ≤ n) :
    Frame.Below n (Frame.build .handshake 0 (w.helloPayload hello)) := by
  have hrank := Message.rank_le_one (m := .outbound .handshake 0 (w.helloPayload hello)) rfl
  exact Frame.below_build (Nat.lt_of_le_of_lt hrank h)

/-- The answer to a greeting stands below it: it is none itself. -/
theorem below_helloAnswer (v : UInt16) :
    Frame.Below 1 (Frame.build .handshake v (w.helloPayload helloAnswer)) := by
  have htext : Fields.text helloAnswer = [72, 73, 82] := by decide +kernel
  have hhello : Bytes.ofText hello = [72, 73] := by decide +kernel
  have hne : (Message.outbound .handshake v (w.helloPayload helloAnswer)).fieldText? 0 ≠ some hello := by
    intro h
    have hfield := Message.takeWhile_of_fieldText? h
    rw [hhello] at hfield
    simp [Message.outbound, Wiring.helloPayload, Fields.join, htext, Fields.terminator] at hfield
  refine Frame.below_build (Nat.lt_one_iff.2 ?_)
  exact if_neg hne

theorem below_receipt (m : Message) : Frame.Below 3 (Frame.build .reply m.conversation (receipt m)) :=
  Frame.below_build (Nat.lt_succ_self 2)

/-- An announced window stands below the question for it: it does not begin like one. -/
theorem below_announcement (v : UInt16) (wait awake : Micros) :
    Frame.Below 3
      (Frame.build .orchestration v (Fields.join [Fields.text (Announcement.text wait awake)])) := by
  have htag : Bytes.ofText Announcement.tag = [78, 69, 88, 84] := by decide +kernel
  have hquestion : Bytes.ofText Announcement.question = [87, 72, 69, 78] := by decide +kernel
  have hne : (Message.outbound .orchestration v
      (Fields.join [Fields.text (Announcement.text wait awake)])).fieldText? 0 ≠
        some Announcement.question := by
    intro h
    have hfield := Message.takeWhile_of_fieldText? h
    rw [hquestion] at hfield
    simp [Message.outbound, Fields.join, Fields.text, Announcement.text, Bytes.ofText_append, htag,
      Fields.terminator] at hfield
  refine Frame.below_build ?_
  show (if _ then 3 else 2) < 3
  rw [if_neg hne]
  decide

end Answers

end Multilink
