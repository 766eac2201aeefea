import Mathlib.Algebra.GroupWithZero.Nat
import Mathlib.Algebra.Order.BigOperators.Group.List
import Mathlib.Algebra.Order.Group.Nat
import Mathlib.Data.Finset.Lattice.Fold
import Mathlib.Data.Fintype.Basic
import Mathlib.Order.Lattice.Nat
import Multilink.Proofs.Outgoing
/-!
# Storms die out

Nodes answer frames on their own: greetings, receipts, announcements. All that a frame makes its
receiver send stands below it in rank, so that whatever a frame sets off among any nodes comes to an
end. `cost` is how many frames one frame can cause, `potential` what the frames in flight can still
cause; no step of a `Swarm` makes the frames sent and this potential more than they were.
-/

namespace Multilink

/-! ## What frames can cause -/

/-- How many frames a frame of a rank can cause where a receiver lets out no more than `fan`: each of
these has a lower rank and causes others in turn. -/
def cost (fan : Nat) : Nat → Nat
  | 0 => 0
  | rank + 1 => fan * (1 + cost fan rank)

theorem cost_le_succ (fan rank : Nat) : cost fan rank ≤ cost fan (rank + 1) := by
  induction rank with
  | zero => exact Nat.zero_le _
  | succ rank ih => exact Nat.mul_le_mul_left fan (Nat.add_le_add_left ih 1)

theorem cost_mono (fan : Nat) : Monotone (cost fan) :=
  monotone_nat_of_le_succ (cost_le_succ fan)

/-- How many frames these frames can cause. -/
def potential (fan : Nat) (flight : List Bytes) : Nat :=
  (flight.map fun bytes => cost fan (Frame.rank bytes)).sum

theorem potential_append (fan : Nat) (xs ys : List Bytes) :
    potential fan (xs ++ ys) = potential fan xs + potential fan ys := by
  simp [potential]

theorem potential_split (fan : Nat) (before after : List Bytes) (bytes : Bytes) :
    potential fan (before ++ bytes :: after) =
      cost fan (Frame.rank bytes) + potential fan (before ++ after) := by
  simp [potential]
  omega

/-- A few frames of lower rank, with all that they can cause, are no more than one frame can cause. -/
theorem length_add_potential_le {fan rank : Nat} {sent : List Bytes} (hlength : sent.length ≤ fan)
    (hbelow : ∀ bytes ∈ sent, Frame.rank bytes < rank) :
    sent.length + potential fan sent ≤ cost fan rank := by
  cases rank with
  | zero =>
    have hnone : sent = [] := List.eq_nil_iff_forall_not_mem.2 fun b hb => Nat.not_lt_zero _ (hbelow b hb)
    simp [hnone, potential]
  | succ rank =>
    have heach : ∀ c ∈ sent.map fun b => cost fan (Frame.rank b), c ≤ cost fan rank := by
      intro c hc
      obtain ⟨b, hb, rfl⟩ := List.mem_map.1 hc
      exact cost_mono fan (Nat.lt_succ_iff.1 (hbelow b hb))
    have hsum : potential fan sent ≤ sent.length * cost fan rank := by
      simpa [potential] using List.sum_le_card_nsmul _ _ heach
    calc sent.length + potential fan sent
        ≤ sent.length * (1 + cost fan rank) := by rw [Nat.mul_add, Nat.mul_one]; omega
      _ ≤ fan * (1 + cost fan rank) := Nat.mul_le_mul_right _ hlength

namespace Dispatcher

variable {V : Type} {w : Wiring V} {peer : Handle} {n rank : Nat} {t : Dispatcher (Watched V)}

/-- What was mailed came to no more frames than the attempts at all messages. -/
theorem Mailed.frames (h : Mailed w peer (Frame.Below rank) n [] t) :
    t.world.calls.length ≤ n * w.attempts ∧ ∀ c ∈ t.world.calls, Frame.rank c.bytes < rank := by
  refine ⟨?_, fun c hc => ?_⟩
  · obtain ⟨posts, hlength, hcalls, hposts⟩ := h
    rw [List.nil_append] at hcalls
    have heach : ∀ k ∈ posts.map fun x => x.calls.length, k ≤ w.attempts := by
      intro k hk
      obtain ⟨x, hx, rfl⟩ := List.mem_map.1 hk
      exact (hposts x hx).1.within
    have hsum : (posts.map fun x => x.calls.length).sum ≤ posts.length * w.attempts := by
      simpa using List.sum_le_card_nsmul _ _ heach
    rw [hcalls, List.length_flatMap]
    exact hsum.trans (Nat.mul_le_mul_right _ hlength)
  · obtain ⟨⟨m, _, hparse, -, hrank⟩, -⟩ := h.each c hc
    rw [Frame.rank_of_read hparse]
    exact hrank

end Dispatcher

/-! ## Many nodes -/

/-- Nodes, and the frames on their way to them. -/
structure Swarm (ι V : Type) where
  node : ι → Dispatcher V
  flight : List Bytes

namespace Swarm

open Dispatcher

/-- What can happen among nodes whose applications send nothing. -/
inductive Event (ι V : Type) where
  /-- A frame reaches a node: that it was meant for or another, from any sender on any medium. -/
  | deliver (node : ι) (f : Inbound)
  | lose (bytes : Bytes)
  /-- A node goes on to any other state, as peers and windows are added and forgotten, work is done
  and drivers fail or recover. -/
  | idle (node : ι) (d : Dispatcher V)

def Event.isDelivery {ι V : Type} : Event ι V → Bool
  | .deliver _ _ => true
  | _ => false

variable {ι V : Type} {w : ι → Wiring V} {s t : Swarm ι V} {tr : List (Event ι V × List Bytes)}

/-- The node after a frame, and what its drivers were asked to do, whether or not they said that they
could. -/
def deliver (w : ι → Wiring V) (s : Swarm ι V) (i : ι) (f : Inbound) :
    Dispatcher V × List (Attempt V) :=
  let t := ((receive (w i).watched f).run (s.node i).watched).2
  (t.unwatched, t.world.calls)

/-- The most that one of these nodes lets out for a frame: two messages in all their attempts. -/
def fan [Fintype ι] (w : ι → Wiring V) : Nat :=
  2 * Finset.univ.sup fun i => (w i).attempts

/-- What a node lets out for a frame weighs no more than the frame. -/
theorem deliver_weighs [Fintype ι] {i : ι} {f : Inbound} {d : Dispatcher V}
    {calls : List (Attempt V)} (h : s.deliver w i f = (d, calls)) :
    calls.length + potential (fan w) (calls.map (·.bytes)) ≤ cost (fan w) (Frame.rank f.bytes) := by
  obtain ⟨hlength, hbelow⟩ := (receive_mails (w i) f (s.node i).watched).frames
  rw [show ((receive (w i).watched f).run (s.node i).watched).2.world.calls = calls from
    congrArg Prod.snd h] at hlength hbelow
  have hattempts : (w i).attempts ≤ Finset.univ.sup fun i => (w i).attempts :=
    Finset.le_sup (f := fun i => (w i).attempts) (Finset.mem_univ i)
  have hknown : (if ((s.node i).watched.peers.ofSender? f.sender).isSome then 1 else 2) ≤ 2 := by
    split <;> decide
  have hfan : (calls.map (·.bytes)).length ≤ fan w := by
    rw [List.length_map]
    exact hlength.trans (Nat.mul_le_mul hknown hattempts)
  have hrank : ∀ b ∈ calls.map (·.bytes), Frame.rank b < Frame.rank f.bytes := by
    intro b hb
    obtain ⟨c, hc, rfl⟩ := List.mem_map.1 hb
    exact hbelow c hc
  simpa using length_add_potential_le hfan hrank

variable [DecidableEq ι]

/-- A step, with the frames that it sets off: all that is handed to a driver is on its way. -/
inductive Step (w : ι → Wiring V) (s : Swarm ι V) : Event ι V → List Bytes → Swarm ι V → Prop
  | deliver {i : ι} {f : Inbound} {before after : List Bytes} {d : Dispatcher V}
      {calls : List (Attempt V)} (flight : s.flight = before ++ f.bytes :: after)
      (run : s.deliver w i f = (d, calls)) :
      Step w s (.deliver i f) (calls.map (·.bytes))
        ⟨Function.update s.node i d, before ++ after ++ calls.map (·.bytes)⟩
  | lose {bytes : Bytes} {before after : List Bytes} (flight : s.flight = before ++ bytes :: after) :
      Step w s (.lose bytes) [] ⟨s.node, before ++ after⟩
  | idle {i : ι} {d : Dispatcher V} : Step w s (.idle i d) [] ⟨Function.update s.node i d, s.flight⟩

def sent (tr : List (Event ι V × List Bytes)) : List Bytes :=
  tr.flatMap (·.2)

/-- The number of frames that were received. -/
def deliveries (tr : List (Event ι V × List Bytes)) : Nat :=
  tr.countP (·.1.isDelivery)

/-- What was sent and what can still be set off are no more than could be set off at first. Every
frame that is received was there at first or was sent. -/
structure Spent (fan : Nat) (s : Swarm ι V) (tr : List (Event ι V × List Bytes)) (t : Swarm ι V) :
    Prop where
  frames : (sent tr).length + potential fan t.flight ≤ potential fan s.flight
  received : deliveries tr + t.flight.length ≤ s.flight.length + (sent tr).length

theorem Spent.step [Fintype ι] {u : Swarm ι V} {e : Event ι V} {xs : List Bytes}
    (h : Spent (fan w) s tr t) (hstep : Step w t e xs u) : Spent (fan w) s (tr ++ [(e, xs)]) u := by
  obtain ⟨hframes, hreceived⟩ := h
  have hsent : (sent (tr ++ [(e, xs)])).length = (sent tr).length + xs.length := by
    simp [sent]
  have hdeliveries : deliveries (tr ++ [(e, xs)]) = deliveries tr + e.isDelivery.toNat := by
    rw [deliveries, List.countP_append, List.countP_singleton]
    cases e.isDelivery <;> rfl
  constructor
  · rw [hsent]
    cases hstep with
    | deliver hflight hrun =>
      -- the frame that is used up pays for all that is sent because of it
      have hweighs := deliver_weighs hrun
      rw [hflight, potential_split] at hframes
      simp only [potential_append, List.length_map] at hframes ⊢
      omega
    | lose hflight =>
      rw [hflight, potential_split] at hframes
      simp only [List.length_nil]
      omega
    | idle => exact hframes
  · rw [hsent, hdeliveries]
    cases hstep with
    | deliver hflight hrun =>
      rw [hflight] at hreceived
      simp only [List.length_append, List.length_cons, Event.isDelivery, Bool.toNat_true] at hreceived ⊢
      omega
    | lose hflight =>
      rw [hflight] at hreceived
      simp only [List.length_append, List.length_cons, Event.isDelivery, Bool.toNat_false,
        List.length_nil] at hreceived ⊢
      omega
    | idle => exact hreceived

theorem spent [Fintype ι] (h : Trace (Step w) s tr t) : Spent (fan w) s tr t := by
  induction h with
  | nil => exact ⟨Nat.le_of_eq (Nat.zero_add _), Nat.le_of_eq (Nat.zero_add _)⟩
  | snoc _ hstep ih => exact ih.step hstep

/-- The receiver of a frame sends two messages at most, all sound and of lower rank, to the sender.
So among any nodes, whatever they know of each other and whatever else happens to them, frames set off
only so many others and are received only so often. -/
theorem storms_end [Fintype ι] (w : ι → Wiring V) :
    (∀ i f (d : Dispatcher V), ∃ r t,
      (receive (w i).watched f).run d.watched = (r, t) ∧ (receive (w i) f).run d = (r, t.unwatched) ∧
      Mailed (w i) (d.peers.attribution f.sender) (Frame.Below (Frame.rank f.bytes))
        (if (d.peers.ofSender? f.sender).isSome then 1 else 2) [] t) ∧
    ∀ s tr t, Trace (Step w) s tr t →
      (sent tr).length ≤ potential (fan w) s.flight ∧
      deliveries tr ≤ s.flight.length + potential (fan w) s.flight := by
  refine ⟨fun i f d => ?_, fun s tr t h => ?_⟩
  · refine ⟨_, _, rfl, ?_, receive_mails (w i) f d.watched⟩
    exact through_receive (w i) f d.watched
  · obtain ⟨hframes, hreceived⟩ := spent h
    exact ⟨by omega, by omega⟩

/-- A greeting between strangers is answered, and the answer ends it. -/
theorem greeting_ends :
    let a : Bool → Address := fun i => ⟨2, 0, 0, 0, 0, if i then 1 else 2⟩
    let w : Bool → Wiring Unit := fun _ => { drivers := [.sink .busCan] }
    let greeting := Frame.build .handshake 0 ((w true).helloPayload hello)
    let s : Swarm Bool Unit := ⟨fun i => alone (a i) 16 (), [greeting]⟩
    ∃ tr t, Trace (Step w) s tr t ∧ t.flight = [] ∧ deliveries tr = 2 ∧ (sent tr).length = 1 ∧
      (sent tr).length ≤ potential (fan w) s.flight := by
  intro a w greeting s
  let answer := Frame.build .handshake 0 ((w false).helloPayload helloAnswer)
  let f₁ : Inbound := { sender := .address (a true), media := .busCan, bytes := greeting }
  let f₂ : Inbound := { sender := .address (a false), media := .busCan, bytes := answer }
  let o₁ := s.deliver w false f₁
  let s₁ : Swarm Bool Unit :=
    ⟨Function.update s.node false o₁.1, [] ++ [] ++ o₁.2.map (·.bytes)⟩
  let o₂ := s₁.deliver w true f₂
  have h₁ : Step w s (.deliver false f₁) (o₁.2.map (·.bytes)) s₁ := .deliver rfl rfl
  have hflight : s₁.flight = [] ++ f₂.bytes :: [] := by decide +kernel
  have h₂ := Step.deliver (w := w) (i := true) hflight (Prod.eta o₂).symm
  have hsent : o₂.2.map (·.bytes) = [] := by decide +kernel
  have htrace := (Trace.nil.snoc h₁).snoc h₂
  refine ⟨_, _, htrace, ?_, rfl, ?_, ((storms_end w).2 _ _ _ htrace).1⟩
  · exact hsent
  · decide +kernel

end Swarm

end Multilink
