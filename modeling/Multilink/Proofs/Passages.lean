import Multilink.Bus
import Multilink.Proofs.Intake
/-!
# Frames on their way through a link

On its way to the dispatcher a frame is in four places, one after the other: it waits at the endpoint,
a poll takes it, it is in the work queue of the link, and then in the hands of its scheduler. On each
leg some frames are left behind. `Pipe.Flow` lists what can happen, and `Pipe.Run.exists_tally` says
that after any run all frames that came can be named in their order, each with where it is or what has
become of it.
-/

namespace Multilink

/-- A frame that was sent, with the endpoint that sent it. -/
structure Sending where
  origin : EndpointId
  frame : Inbound

/-- A place for frames that are on their way. -/
inductive Buffer where
  /-- At the endpoint. -/
  | link
  /-- Taken by a poll, and not yet offered to the queue. -/
  | poll
  | queue
  /-- In the hands of the scheduler. -/
  | hand
  deriving DecidableEq

/-- What becomes of a frame in the end. -/
inductive Fate where
  /-- The dispatcher has handled it. -/
  | handled (a : Dispatcher.Arrival)
  /-- It was polled while the link was down. -/
  | lost
  /-- The queue refused it. -/
  | refused (e : QueueError)
  /-- It was dropped when the scheduler stopped. -/
  | dropped

inductive FateSort where
  | handled
  | lost
  | refused
  | dropped
  deriving DecidableEq

namespace Fate

def sort : Fate → FateSort
  | handled _ => .handled
  | lost => .lost
  | refused _ => .refused
  | dropped => .dropped

/-- The messages that the frame has put into the application queue. -/
def items : Fate → List Message
  | handled a => a.items
  | _ => []

end Fate

inductive Standing where
  | held (b : Buffer)
  | met (fate : Fate)

/-- A frame that came to a link, with where it stands. -/
structure Passage extends Sending where
  standing : Standing

namespace Passage

def heldIn? (b : Buffer) (x : Passage) : Option Inbound :=
  match x.standing with
  | .held c => if c = b then some x.frame else none
  | .met _ => none

/-- The frame with its fate, if that is of this sort. -/
def met? (s : FateSort) (x : Passage) : Option (Inbound × Fate) :=
  match x.standing with
  | .held _ => none
  | .met fate => if fate.sort = s then some (x.frame, fate) else none

def items (x : Passage) : List Message :=
  match x.standing with
  | .held _ => []
  | .met fate => fate.items

end Passage

inductive Happening where
  | came (x : Sending)
  | met (f : Inbound) (fate : Fate)

namespace Happening

def came? : Happening → Option Sending
  | came x => some x
  | met _ _ => none

def met? (s : FateSort) : Happening → Option (Inbound × Fate)
  | came _ => none
  | met f fate => if fate.sort = s then some (f, fate) else none

def items : Happening → List Message
  | came _ => []
  | met _ fate => fate.items

end Happening

/-- The frames on their way through a link, and whether its scheduler has stopped. -/
structure Pipe where
  link : List Inbound := []
  poll : List Inbound := []
  queue : List Inbound := []
  hand : List Inbound := []
  stopped : Bool := false

namespace Pipe

def held (p : Pipe) : Buffer → List Inbound
  | .link => p.link
  | .poll => p.poll
  | .queue => p.queue
  | .hand => p.hand

/-- All that can happen. Frames are dropped when the scheduler stops, which it does once. -/
inductive Flow (p : Pipe) : List Happening → Pipe → Prop
  | came (xs : List Sending) : Flow p (xs.map .came) { p with link := p.link ++ xs.map (·.frame) }
  | polled (idle : p.poll = []) : Flow p [] { p with link := [], poll := p.link }
  | lost (idle : p.poll = []) : Flow p (p.link.map (.met · .lost)) { p with link := [] }
  | accepted {f : Inbound} {rest : List Inbound} (next : p.poll = f :: rest) :
      Flow p [] { p with poll := rest, queue := p.queue ++ [f] }
  | refused {f : Inbound} {rest : List Inbound} {e : QueueError} (next : p.poll = f :: rest) :
      Flow p [.met f (.refused e)] { p with poll := rest }
  | taken {f : Inbound} {rest : List Inbound} (free : p.hand = []) (next : p.queue = f :: rest) :
      Flow p [] { p with queue := rest, hand := [f] }
  | handled {f : Inbound} {a : Dispatcher.Arrival} (own : p.hand = [f]) :
      Flow p [.met f (.handled a)] { p with hand := [] }
  | stopped (running : p.stopped = false) :
      Flow p (p.queue.map (.met · .dropped)) { p with queue := [], stopped := true }

abbrev Run : List Happening → Pipe → Prop :=
  Logged Flow {}

/-- All frames that came, in their order, with where they stand. -/
structure Tally (log : List Happening) (p : Pipe) (xs : List Passage) : Prop where
  came : xs.map (·.toSending) = log.filterMap Happening.came?
  met s : xs.filterMap (Passage.met? s) = log.filterMap (Happening.met? s)
  held b : xs.filterMap (Passage.heldIn? b) = p.held b

/-! ## Parts of the way -/

variable {log : List Happening} {p : Pipe} {past ahead : List Passage}
  {hand poll link xs : List Sending}

def holds (b : Buffer) (x : Sending) : Passage :=
  { x with standing := .held b }

def meets (fate : Fate) (x : Sending) : Passage :=
  { x with standing := .met fate }

/-- The frames that came, part by part: those behind the scheduler, the one in its hands, those that
have come to the queue after it, and those that have not. -/
structure Ledger (log : List Happening) (p : Pipe) (past : List Passage) (hand : List Sending)
    (ahead : List Passage) (poll link : List Sending) : Prop where
  came : log.filterMap Happening.came? =
    past.map (·.toSending) ++ hand ++ ahead.map (·.toSending) ++ poll ++ link
  met s : log.filterMap (Happening.met? s) =
    past.filterMap (Passage.met? s) ++ ahead.filterMap (Passage.met? s)
  behind b : past.filterMap (Passage.heldIn? b) = []
  hand : hand.map (·.frame) = p.hand
  queue b : ahead.filterMap (Passage.heldIn? b) = if b = .queue then p.queue else []
  unhandled : ahead.filterMap (Passage.met? .handled) = []
  poll : poll.map (·.frame) = p.poll
  link : link.map (·.frame) = p.link
  undropped : p.stopped = false → log.filterMap (Happening.met? .dropped) = []

theorem map_toSending_holds (b : Buffer) (xs : List Sending) :
    (xs.map (holds b)).map (·.toSending) = xs := by
  rw [List.map_map]
  exact List.map_id xs

theorem map_toSending_meets (fate : Fate) (xs : List Sending) :
    (xs.map (meets fate)).map (·.toSending) = xs := by
  rw [List.map_map]
  exact List.map_id xs

theorem heldIn?_holds (b c : Buffer) (xs : List Sending) :
    (xs.map (holds b)).filterMap (Passage.heldIn? c) =
      if b = c then xs.map (·.frame) else [] := by
  rw [List.filterMap_map]
  split
  · next h => simp [Function.comp_def, Passage.heldIn?, holds, h]
  · next h => simp [Function.comp_def, Passage.heldIn?, holds, h]

theorem met?_holds (b : Buffer) (s : FateSort) (xs : List Sending) :
    (xs.map (holds b)).filterMap (Passage.met? s) = [] := by
  simp [Passage.met?, holds]

theorem Ledger.tally (h : Ledger log p past hand ahead poll link) :
    Tally log p (past ++ hand.map (holds .hand) ++ ahead ++ poll.map (holds .poll) ++
      link.map (holds .link)) where
  came := by simp only [List.map_append, map_toSending_holds, h.came]
  met s := by simp only [List.filterMap_append, met?_holds, h.met, List.append_nil]
  held b := by
    simp only [List.filterMap_append, heldIn?_holds, h.behind, h.queue, h.hand, h.poll, h.link]
    cases b <;> simp [held]

/-! ## What happens to the parts -/

theorem came?_met {g : Inbound → Fate} (fs : List Inbound) :
    (fs.map fun f => Happening.met f (g f)).filterMap Happening.came? = [] := by
  simp [Happening.came?]

theorem met?_came (s : FateSort) (xs : List Sending) :
    (xs.map Happening.came).filterMap (Happening.met? s) = [] := by
  simp [Happening.met?]

theorem Ledger.came_in (h : Ledger log p past hand ahead poll link) (xs : List Sending) :
    Ledger (log ++ xs.map .came) { p with link := p.link ++ xs.map (·.frame) } past hand ahead poll
      (link ++ xs) where
  came := by
    rw [List.filterMap_append, h.came, List.append_assoc _ link]
    simp [Function.comp_def, Happening.came?]
  met s := by rw [List.filterMap_append, met?_came, List.append_nil, h.met]
  behind := h.behind
  hand := h.hand
  queue := h.queue
  unhandled := h.unhandled
  poll := h.poll
  link := by rw [List.map_append, h.link]
  undropped hr := by rw [List.filterMap_append, met?_came, List.append_nil, h.undropped hr]

theorem Ledger.polled (h : Ledger log p past hand ahead [] link) :
    Ledger log { p with link := [], poll := p.link } past hand ahead link [] where
  came := by rw [h.came, List.append_nil, List.append_nil]
  met := h.met
  behind := h.behind
  hand := h.hand
  queue := h.queue
  unhandled := h.unhandled
  poll := h.link
  link := rfl
  undropped := h.undropped

theorem met?_meets (fate : Fate) (s : FateSort) (xs : List Sending) :
    (xs.map (meets fate)).filterMap (Passage.met? s) =
      (xs.map fun x => Happening.met x.frame fate).filterMap (Happening.met? s) := by
  rw [List.filterMap_map, List.filterMap_map]
  rfl

theorem heldIn?_meets (fate : Fate) (b : Buffer) (xs : List Sending) :
    (xs.map (meets fate)).filterMap (Passage.heldIn? b) = [] := by
  simp [Passage.heldIn?, meets]

/-- Frames that have not come to the queue meet their fate. -/
theorem Ledger.leave {left poll' link' : List Sending} {fate : Fate}
    (h : Ledger log p past hand ahead poll link) (hleft : poll ++ link = left ++ poll' ++ link')
    (hfate : fate.sort = .lost ∨ fate.sort = .refused) :
    Ledger (log ++ left.map fun x => .met x.frame fate)
      { p with poll := poll'.map (·.frame), link := link'.map (·.frame) } past hand
      (ahead ++ left.map (meets fate)) poll' link' where
  came := by
    have hnone : (left.map fun x => Happening.met x.frame fate).filterMap Happening.came? = [] := by
      simp [Happening.came?]
    rw [List.filterMap_append, hnone, List.append_nil, h.came, List.map_append, map_toSending_meets]
    simp only [List.append_assoc] at hleft ⊢
    rw [hleft]
  met s := by
    rw [List.filterMap_append, List.filterMap_append, met?_meets, h.met, List.append_assoc]
  behind := h.behind
  hand := h.hand
  queue b := by rw [List.filterMap_append, heldIn?_meets, List.append_nil, h.queue]
  unhandled := by
    rw [List.filterMap_append, h.unhandled, met?_meets]
    rcases hfate with hfate | hfate <;> simp [Happening.met?, hfate]
  poll := rfl
  link := rfl
  undropped hr := by
    rw [List.filterMap_append, h.undropped hr]
    rcases hfate with hfate | hfate <;> simp [Happening.met?, hfate]

theorem Ledger.accepted {x : Sending} (h : Ledger log p past hand ahead (x :: poll) link) :
    Ledger log { p with poll := poll.map (·.frame), queue := p.queue ++ [x.frame] } past hand
      (ahead ++ [holds .queue x]) poll link where
  came := by
    rw [h.came]
    simp [holds]
  met s := by
    rw [h.met, List.filterMap_append]
    simp [Passage.met?, holds]
  behind := h.behind
  hand := h.hand
  queue b := by
    rw [List.filterMap_append, h.queue]
    cases b <;> simp [Passage.heldIn?, holds]
  unhandled := by
    rw [List.filterMap_append, h.unhandled]
    simp [Passage.met?, holds]
  poll := rfl
  link := h.link
  undropped := h.undropped

theorem standing_of_heldIn? {b : Buffer} {x : Passage} {f : Inbound} (h : x.heldIn? b = some f) :
    x.standing = .held b ∧ x.frame = f := by
  obtain ⟨x, standing⟩ := x
  cases standing with
  | held c => simpa [Passage.heldIn?] using h
  | met fate => cases h

/-- The first frame of the queue is taken out. Those before it have met their fates. -/
theorem Ledger.taken {f : Inbound} {rest : List Inbound} (h : Ledger log p past [] ahead poll link)
    (hnext : p.queue = f :: rest) :
    ∃ gone x ahead', Ledger log { p with queue := rest, hand := [f] } (past ++ gone) [x] ahead' poll
      link := by
  have hqueue := h.queue .queue
  rw [if_pos rfl, hnext] at hqueue
  -- `gone` are those that were dropped, refused or lost before it; they go behind the scheduler
  obtain ⟨gone, x, ahead', rfl, hgone, hx, hrest⟩ := List.filterMap_eq_cons_iff.1 hqueue
  obtain ⟨hstanding, hframe⟩ := standing_of_heldIn? hx
  have hmet (s : FateSort) : x.met? s = none := by rw [Passage.met?, hstanding]
  have hheld (b : Buffer) : gone.filterMap (Passage.heldIn? b) = [] ∧
      ahead'.filterMap (Passage.heldIn? b) = if b = .queue then rest else [] := by
    by_cases hb : b = .queue
    · subst hb
      rw [if_pos rfl]
      exact ⟨List.filterMap_eq_nil_iff.2 hgone, hrest⟩
    · have hnone := h.queue b
      rw [if_neg hb, List.filterMap_append, List.append_eq_nil_iff, List.filterMap_cons] at hnone
      rw [if_neg hb]
      refine ⟨hnone.1, ?_⟩
      split at hnone
      · exact hnone.2
      · cases hnone.2
  have hunhandled := h.unhandled
  rw [List.filterMap_append, List.filterMap_cons_none (hmet _), List.append_eq_nil_iff] at hunhandled
  refine ⟨gone, x.toSending, ahead', ?_, fun s => ?_, fun b => ?_, congrArg ([·]) hframe,
    fun b => (hheld b).2, hunhandled.2, h.poll, h.link, h.undropped⟩
  · rw [h.came]
    simp
  · rw [h.met, List.filterMap_append, List.filterMap_cons_none (hmet s), List.filterMap_append,
      List.append_assoc]
  · rw [List.filterMap_append, h.behind, (hheld b).1]
    rfl

theorem Ledger.handled {x : Sending} {a : Dispatcher.Arrival}
    (h : Ledger log p past [x] ahead poll link) :
    Ledger (log ++ [.met x.frame (.handled a)]) { p with hand := [] }
      (past ++ [meets (.handled a) x]) [] ahead poll link where
  came := by
    rw [List.filterMap_append, h.came]
    simp [Happening.came?, meets]
  met s := by
    rw [List.filterMap_append, List.filterMap_append, h.met]
    by_cases hs : s = .handled
    -- nothing ahead is handled, so that this frame comes after all that were
    · subst hs
      rw [h.unhandled, List.append_nil, List.append_nil]
      rfl
    · have hne : FateSort.handled ≠ s := Ne.symm hs
      simp [Happening.met?, Passage.met?, meets, Fate.sort, hne]
  behind b := by
    rw [List.filterMap_append, h.behind]
    rfl
  hand := rfl
  queue := h.queue
  unhandled := h.unhandled
  poll := h.poll
  link := h.link
  undropped hr := by
    rw [List.filterMap_append, h.undropped hr]
    rfl

/-- What the stop of the scheduler makes of a frame. -/
def drop (x : Passage) : Passage :=
  match x.standing with
  | .held .queue => { x with standing := .met .dropped }
  | _ => x

theorem toSending_drop (x : Passage) : (drop x).toSending = x.toSending := by
  unfold drop
  split <;> rfl

theorem heldIn?_drop (b : Buffer) (x : Passage) :
    (drop x).heldIn? b = if b = .queue then none else x.heldIn? b := by
  obtain ⟨x, standing⟩ := x
  cases standing with
  | held c => cases b <;> cases c <;> rfl
  | met fate => cases b <;> rfl

theorem met?_drop (s : FateSort) (x : Passage) :
    (drop x).met? s =
      if s = .dropped then (x.met? s).or ((x.heldIn? .queue).map (·, .dropped)) else x.met? s := by
  obtain ⟨x, standing⟩ := x
  cases standing with
  | held c => cases s <;> cases c <;> rfl
  | met fate => cases s <;> cases fate <;> rfl

theorem filterMap_met?_drop {s : FateSort} (hs : s ≠ .dropped) (xs : List Passage) :
    (xs.map drop).filterMap (Passage.met? s) = xs.filterMap (Passage.met? s) := by
  rw [List.filterMap_map]
  refine List.filterMap_congr fun x _ => ?_
  exact (met?_drop s x).trans (if_neg hs)

theorem Ledger.stopped (h : Ledger log p past hand ahead poll link) (hr : p.stopped = false) :
    Ledger (log ++ p.queue.map (.met · .dropped)) { p with queue := [], stopped := true } past hand
      (ahead.map drop) poll link where
  came := by
    rw [List.filterMap_append, came?_met, List.append_nil, h.came, List.map_map]
    simp only [Function.comp_def, toSending_drop]
  met s := by
    rw [List.filterMap_append, h.met, List.append_assoc]
    congr 1
    by_cases hs : s = .dropped
    · subst hs
      -- nothing has been dropped before
      have hnone := h.undropped hr
      rw [h.met, List.append_eq_nil_iff] at hnone
      have hqueue := h.queue .queue
      rw [if_pos rfl] at hqueue
      rw [hnone.2, List.nil_append, ← hqueue, List.filterMap_map, List.filterMap_filterMap,
        List.filterMap_map]
      refine List.filterMap_congr fun x hx => ?_
      have hx' := List.filterMap_eq_nil_iff.1 hnone.2 x hx
      rw [Function.comp_apply, met?_drop, if_pos rfl, hx']
      cases x.heldIn? .queue <;> rfl
    · rw [filterMap_met?_drop hs]
      simp [Happening.met?, Fate.sort, Ne.symm hs]
  behind := h.behind
  hand := h.hand
  queue b := by
    have hqueue := h.queue b
    rw [ite_self, List.filterMap_map, List.filterMap_eq_nil_iff]
    intro x hx
    rw [Function.comp_apply, heldIn?_drop]
    by_cases hb : b = .queue
    · rw [if_pos hb]
    · rw [if_neg hb] at hqueue ⊢
      exact List.filterMap_eq_nil_iff.1 hqueue x hx
  unhandled := (filterMap_met?_drop FateSort.noConfusion ahead).trans h.unhandled
  poll := h.poll
  link := h.link
  undropped := nofun

/-! ## Runs -/

theorem Ledger.flow {es : List Happening} {q : Pipe} (h : Ledger log p past hand ahead poll link)
    (hf : Flow p es q) :
    ∃ past hand ahead poll link, Ledger (log ++ es) q past hand ahead poll link := by
  cases hf with
  | came xs => exact ⟨_, _, _, _, _, h.came_in xs⟩
  | polled idle =>
    obtain rfl := List.map_eq_nil_iff.1 (h.poll.trans idle)
    rw [List.append_nil]
    exact ⟨_, _, _, _, _, h.polled⟩
  | lost idle =>
    obtain rfl := List.map_eq_nil_iff.1 (h.poll.trans idle)
    have hpipe : ({ p with link := [] } : Pipe) = { p with poll := [], link := [] } := by rw [← idle]
    have hleft : [] ++ link = link ++ [] ++ [] := by simp
    rw [hpipe, ← h.link, List.map_map]
    exact ⟨_, _, _, _, _, h.leave hleft (.inl rfl)⟩
  | accepted next =>
    obtain ⟨x, poll', rfl, rfl, rfl⟩ := List.map_eq_cons_iff.1 (h.poll.trans next)
    rw [List.append_nil]
    exact ⟨_, _, _, _, _, h.accepted⟩
  | refused next =>
    obtain ⟨x, poll', rfl, rfl, rfl⟩ := List.map_eq_cons_iff.1 (h.poll.trans next)
    have hpipe : ({ p with poll := poll'.map (·.frame) } : Pipe) =
        { p with poll := poll'.map (·.frame), link := link.map (·.frame) } := by rw [h.link]
    have hleft : x :: poll' ++ link = [x] ++ poll' ++ link := rfl
    rw [hpipe]
    exact ⟨_, _, _, _, _, h.leave hleft (.inr rfl)⟩
  | taken free next =>
    obtain rfl := List.map_eq_nil_iff.1 (h.hand.trans free)
    obtain ⟨_, _, _, h⟩ := h.taken next
    rw [List.append_nil]
    exact ⟨_, _, _, _, _, h⟩
  | handled own =>
    obtain ⟨x, rfl, rfl⟩ := List.map_eq_singleton_iff.1 (h.hand.trans own)
    exact ⟨_, _, _, _, _, h.handled⟩
  | stopped running => exact ⟨_, _, _, _, _, h.stopped running⟩

/-- After any run all frames that came can be named in their order, with where each of them stands. -/
theorem Run.exists_tally (h : Run log p) : ∃ xs, Tally log p xs := by
  suffices hledger : ∃ past hand ahead poll link, Ledger log p past hand ahead poll link by
    obtain ⟨past, hand, ahead, poll, link, h⟩ := hledger
    exact ⟨_, h.tally⟩
  induction h with
  | nil =>
    refine ⟨[], [], [], [], [], rfl, fun _ => rfl, fun _ => rfl, rfl, fun b => ?_, rfl, rfl, rfl,
      fun _ => rfl⟩
    exact (ite_self _).symm
  | snoc _ hflow ih =>
    obtain ⟨past, hand, ahead, poll, link, h⟩ := ih
    exact h.flow hflow

end Pipe

end Multilink
