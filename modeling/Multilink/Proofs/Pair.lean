import Multilink.Proofs.Air
import Multilink.Proofs.Exchanges
import Multilink.Proofs.Requests
/-!
# Two nodes that ask and answer each other

Two dispatchers that know each other, over any drivers, and the frames on their way between them. A
frame may be lost, and frames may overtake each other, but none arrives twice. `Pair.Reachable` are
the states that the two come to when either asks, takes in a frame or answers a request, in any order,
while everything else about a node may change as it likes in between.

`Pair.reply_closes_its_request` is about the numbers of conversations, which both nodes take from the
same range: a reply closes the conversation that was opened for the very request it answers, and when
all requests have been answered nothing is open any more. The argument is in
`Multilink.Proofs.Exchanges`; here it is shown that the dispatchers move the exchanges on as described
there.
-/

namespace Multilink

/-- What stays as it is about one of the two nodes. -/
structure Party (V : Type) where
  wiring : Wiring V
  address : Address
  /-- The handle under which this node knows the other one. -/
  peer : Handle

/-- Two nodes and what is between them. -/
structure Pair (V : Type) where
  node : Side → Dispatcher (Air V)
  flight : List Packet
  exchanges : List Exchange

namespace Pair

open Dispatcher

variable {V : Type} (party : Side → Party V)

/-! ## The steps -/

/-- One side has acted for an exchange, which leaves the exchanges as given. What its drivers took on
for the address of the other side is on its way there. -/
def settle (x : Side) (d : Dispatcher (Air V)) (exchange : Nat) (exchanges : List Exchange)
    (s : Pair V) : Pair V where
  node := Function.update s.node x { d with world := { d.world with taken := [] } }
  flight := s.flight ++
    (d.world.taken.filter (·.target == (party x.other).address)).map fun p =>
      ⟨x.other, p.media, p.bytes, exchange⟩
  exchanges := exchanges

/-- A side starts a conversation with a request. That begins an exchange, unless it fails. -/
def ask (x : Side) (reason : String) (payload : Bytes) (s : Pair V) : Pair V :=
  let (r, d) :=
    (startConversation (party x).wiring.onAir (party x).peer .request reason payload).run (s.node x)
  s.settle party x d s.exchanges.length <|
    match r with
    | .ok id => s.exchanges ++ [⟨x, id, .asked⟩]
    | .error _ => s.exchanges

/-- How far an exchange has come when its frame was taken in. A request is now the message at the end
of the queue. -/
def takenIn (queue : WorkQueue Message) : Stage → Stage
  | .asked =>
    match queue.items.getLast? with
    | some m => .delivered m
    | none => .failed
  | .answered => .done
  | stage => stage

/-- A frame arrives, under a sender that its driver made out, and is checked or not. -/
def receive (p : Packet) (sender : Sender) (checked : Bool) (s : Pair V) : Pair V :=
  let (r, d) :=
    (Dispatcher.receive (party p.dest).wiring.onAir ⟨sender, p.media, p.bytes, checked⟩).run
      (s.node p.dest)
  { s with flight := s.flight.erase p }.settle party p.dest d p.exchange <|
    s.exchanges.modify p.exchange fun e =>
      match r with
      | .ok () => { e with stage := takenIn d.queue e.stage }
      | .error _ => { e with stage := .failed }

/-- The application of a side answers a request that was delivered to it. -/
def answer (n : Nat) (x : Side) (m : Message) (payload : Bytes) (s : Pair V) : Pair V :=
  let (r, d) := (reply (party x).wiring.onAir m payload).run (s.node x)
  s.settle party x d n <|
    match r with
    | .ok () => setStage n .answered s.exchanges
    | .error _ => setStage n .failed s.exchanges

/-- A frame is lost. -/
def lose (p : Packet) (s : Pair V) : Pair V :=
  { s with
    flight := s.flight.erase p
    exchanges := setStage p.exchange .failed s.exchanges }

/-- Does a node know the other one, with nothing sent that is not on its way? -/
structure Ready (x : Side) (d : Dispatcher (Air V)) : Prop where
  knows : d.peers.Knows (party x).peer (party x.other).address
  quiet : d.world.taken = []

/-- The states that two nodes come to. -/
inductive Reachable : Pair V → Prop
  /-- The nodes know each other and have no conversations yet. -/
  | start {node : Side → Dispatcher (Air V)} (ready : ∀ x, Ready party x (node x))
      (closed : ∀ x, (node x).conversations.opened = []) : Reachable ⟨node, [], []⟩
  | ask {s : Pair V} (x : Side) (reason : String) (payload : Bytes) :
      Reachable s → Reachable (s.ask party x reason payload)
  /-- The frame comes from the other node, so its sender stands for that node. -/
  | receive {s : Pair V} {p : Packet} {sender : Sender} (checked : Bool) :
      Reachable s → p ∈ s.flight →
      ((s.node p.dest).peers.ofSender? sender).map (·.handle) = some (party p.dest).peer →
      Reachable (s.receive party p sender checked)
  /-- Answering moves the exchange on, so that no request is answered twice. -/
  | answer {s : Pair V} {n : Nat} {e : Exchange} {m : Message} (payload : Bytes) :
      Reachable s → s.exchanges[n]? = some e → e.stage = .delivered m →
      Reachable (s.answer party n e.asker.other m payload)
  | lose {s : Pair V} {p : Packet} : Reachable s → p ∈ s.flight → Reachable (s.lose p)
  /-- Time passes, messages leave the queue, links and scores change. -/
  | beside {s : Pair V} {x : Side} {d : Dispatcher (Air V)} :
      Reachable s → Ready party x d → d.conversations = (s.node x).conversations →
      Reachable { s with node := Function.update s.node x d }

/-! ## The steps and the exchanges -/

/-- What exchanges depend on. -/
def ledger (s : Pair V) : Ledger where
  tracker x := (s.node x).conversations
  flight := s.flight
  exchanges := s.exchanges

/-- What holds in every state that two nodes come to. -/
structure Inv (s : Pair V) : Prop where
  ready : ∀ x, Ready party x (s.node x)
  sound : s.ledger.Sound fun x => (party x).peer

variable {party} {s : Pair V} {x : Side} {d : Dispatcher (Air V)} {n : Nat} {es : List Exchange}

theorem ready_update (h : ∀ y, Ready party y (s.node y)) (hd : Ready party x d) :
    ∀ y, Ready party y (Function.update s.node x d y) := by
  intro y
  by_cases hy : y = x
  · subst hy
    rwa [Function.update_self]
  · rw [Function.update_of_ne hy]
    exact h y

theorem ready_settle (h : ∀ y, Ready party y (s.node y))
    (hroster : d.peers.roster = (s.node x).peers.roster) :
    ∀ y, Ready party y ((s.settle party x d n es).node y) :=
  ready_update h ⟨(h x).knows.of_roster hroster, rfl⟩

theorem settle_tracker :
    (s.settle party x d n es).ledger.tracker =
      Function.update s.ledger.tracker x d.conversations := by
  funext y
  by_cases hy : y = x
  · subst hy
    simp [ledger, settle]
  · simp [ledger, settle, hy]

theorem settle_nothing (h : d.world.taken = []) :
    (s.settle party x d n es).ledger.flight = s.flight := by
  simp [ledger, settle, h]

theorem settle_parcel {m : Media} {bytes : Bytes}
    (h : d.world.taken = [⟨(party x.other).address, m, bytes⟩]) :
    (s.settle party x d n es).ledger.flight = s.flight ++ [⟨x.other, m, bytes, n⟩] := by
  simp [ledger, settle, h]

theorem inv_ask (h : s.Inv party) (x : Side) (reason : String) (payload : Bytes) :
    (s.ask party x reason payload).Inv party := by
  have hquiet := (h.ready x).quiet
  unfold ask
  rcases run_startConversation_onAir (party x).wiring .request reason payload (s.node x)
      (h.ready x).knows.address with
    ⟨id, m, d, hrun, hfree, hopened, hroster, htaken⟩ | ⟨e, d, hrun, hopened, hroster, htaken⟩
  · rw [hrun]
    rw [hquiet, List.nil_append] at htaken
    refine ⟨ready_settle h.ready hroster, ?_⟩
    apply h.sound.begin (x := x) (c := ⟨id, (party x).peer, reason, true⟩)
    refine ⟨rfl, rfl, hfree, ?_, fun y hy => ?_, rfl, m, payload, settle_parcel htaken⟩
    · rw [settle_tracker, Function.update_self]
      exact hopened
    · rw [settle_tracker, Function.update_of_ne hy]
  · rw [hrun]
    rw [hquiet] at htaken
    refine ⟨ready_settle h.ready hroster, h.sound.of_opened (fun y => ?_) (settle_nothing htaken) rfl⟩
    rw [settle_tracker]
    by_cases hy : y = x
    · subst hy
      rw [Function.update_self]
      exact hopened
    · rw [Function.update_of_ne hy]

theorem inv_answer (h : s.Inv party) {e : Exchange} {m : Message} (payload : Bytes)
    (he : s.exchanges[n]? = some e) (hm : e.stage = .delivered m) :
    (s.answer party n e.asker.other m payload).Inv party := by
  obtain ⟨hk, hid, hpeer⟩ := h.sound.delivered n e m he hm
  have hquiet := (h.ready e.asker.other).quiet
  obtain ⟨r, d, hrun, hconv, hroster, hsent⟩ := run_reply_onAir (party e.asker.other).wiring hpeer
    hk payload (s.node e.asker.other) (h.ready e.asker.other).knows.address
  simp only [hquiet, List.nil_append, hid] at hsent
  have hapart : d.conversations.Apart := by
    rw [hconv]
    exact (h.sound.apart _).closeIf _ _ _
  have hclosed : ∀ c, c ∈ d.conversations.opened ↔ c ∈ (s.node e.asker.other).conversations.opened ∧
      ¬ (c.key = ((party e.asker.other).peer, e.id) ∧ c.ours = false) := by
    intro c
    rw [hconv, hid]
    refine ((h.sound.apart e.asker.other).mem_closeIf _).trans ?_
    simp [ledger]
  unfold answer
  rw [hrun]
  refine ⟨ready_settle h.ready hroster, ?_⟩
  rcases hsent with ⟨rfl, media, htaken⟩ | ⟨⟨e', rfl⟩, htaken⟩
  · refine h.sound.answer he hm settle_tracker rfl (.inr ⟨rfl, media, payload, ?_⟩) hapart hclosed
    rw [settle_parcel htaken, Side.other_other]
    rfl
  · exact h.sound.answer he hm settle_tracker rfl (.inl ⟨rfl, settle_nothing htaken⟩) hapart hclosed

theorem inv_lose (h : s.Inv party) {p : Packet} (hp : p ∈ s.flight) : (s.lose p).Inv party := by
  obtain ⟨e, he, hcarries⟩ := h.sound.flight p hp
  have htracker : (s.lose p).ledger.tracker =
      Function.update s.ledger.tracker p.dest (s.ledger.tracker p.dest) := by
    rw [Function.update_eq_self]
    rfl
  refine ⟨h.ready, ?_⟩
  rcases hcarries with ⟨hasked, hdest, -⟩ | ⟨hanswered, hdest, -⟩
  · exact h.sound.land_request hp he hasked hdest htracker rfl rfl (.inl rfl) (h.sound.apart _)
      (fun _ _ => .rfl) (fun _ hc _ => .inl hc)
  · exact h.sound.land_reply hp he hanswered hdest htracker rfl rfl (.inl rfl) (h.sound.apart _)
      (fun _ hc => hc) nofun (fun _ hc _ => .inl hc)

theorem inv_receive_request (h : s.Inv party) {p : Packet} {sender : Sender} (checked : Bool)
    (hp : p ∈ s.flight)
    (hsender : ((s.node p.dest).peers.ofSender? sender).map (·.handle) = some (party p.dest).peer)
    {e : Exchange} {payload : Bytes} (he : s.exchanges[p.exchange]? = some e)
    (hasked : e.stage = .asked) (hdest : p.dest = e.asker.other)
    (hbytes : p.bytes = Frame.build .request e.id payload) :
    (s.receive party p sender checked).Inv party ∧
      ∀ c ∈ (s.node p.dest).conversations.opened, c.ours = true →
        c ∈ ((s.receive party p sender checked).node p.dest).conversations.opened := by
  obtain ⟨q, hq, hpeer⟩ := Option.map_eq_some_iff.1 hsender
  obtain ⟨m, crc, hm, hv, hkind, hid⟩ := Frame.reads_of_build hbytes
  obtain ⟨r, d, hrun, hworld, hroster, hout⟩ := receive_request_known (party p.dest).wiring.onAir
    (f := ⟨sender, p.media, p.bytes, checked⟩) hm hv hq hkind
  rw [hpeer, hid] at hout
  have hquiet : d.world.taken = [] := by rw [hworld, (h.ready p.dest).quiet]
  have hcases : d.conversations = (s.node p.dest).conversations ∨
      d.conversations = (s.node p.dest).conversations.afterRefusal (party p.dest).peer e.id ∨
      d.conversations = ((Tracker.openTheirs (party p.dest).peer e.id "request").run
        (s.node p.dest).conversations).2 := by
    rcases hout with ⟨-, hconv | hconv⟩ | ⟨-, -, hconv⟩
    · exact .inl hconv
    · exact .inr (.inl hconv)
    · exact .inr (.inr hconv)
  obtain ⟨hapart, hours⟩ := (h.sound.apart p.dest).of_request hcases
  unfold receive
  rw [hrun]
  refine ⟨⟨ready_settle h.ready hroster, ?_⟩, fun c hc hco => ?_⟩
  · rcases hout with ⟨⟨e', rfl⟩, hconv⟩ | ⟨rfl, hitems, hconv⟩
    · refine h.sound.land_request hp he hasked hdest settle_tracker (settle_nothing hquiet)
        (modify_eq_setStage he rfl) (.inl rfl) hapart hours fun c hc _ => .inl ?_
      rcases hconv with hconv | hconv
      · rwa [hconv] at hc
      · rw [hconv] at hc
        exact (Tracker.afterRefusal_sublist _ _ _).subset hc
    · -- what the request opens is justified by the message that is delivered now
      generalize hlast : ({ m with
        conversation := e.id, media := some p.media, peer := some (party p.dest).peer } : Message) =
          last at hitems
      have htaken : takenIn d.queue e.stage = .delivered last := by
        simp [takenIn, hasked, hitems]
      have hmoved : ({ e with stage := takenIn d.queue e.stage } : Exchange) =
          { e with stage := .delivered last } := by
        rw [htaken]
      refine h.sound.land_request hp he hasked hdest settle_tracker (settle_nothing hquiet)
        (modify_eq_setStage he hmoved) (.inr ⟨last, rfl, ?_⟩) hapart hours fun c hc hco => ?_
      · rw [← hlast]
        exact ⟨hkind, rfl, rfl⟩
      · rw [hconv] at hc
        rcases (Tracker.mem_openTheirs _ _ _ _ c).1 hc with hc | rfl
        · exact .inl hc
        · refine .inr ⟨rfl, fun hs => ?_⟩
          cases hs
  · simp only [settle, Function.update_self]
    exact (hours c hco).2 hc

theorem inv_receive_reply (h : s.Inv party) {p : Packet} {sender : Sender} (checked : Bool)
    (hp : p ∈ s.flight)
    (hsender : ((s.node p.dest).peers.ofSender? sender).map (·.handle) = some (party p.dest).peer)
    {e : Exchange} {payload : Bytes} (he : s.exchanges[p.exchange]? = some e)
    (hanswered : e.stage = .answered) (hdest : p.dest = e.asker)
    (hbytes : p.bytes = Frame.build .reply e.id payload) :
    (s.receive party p sender checked).Inv party ∧
      ∀ c ∈ (s.node p.dest).conversations.opened,
        c ∈ ((s.receive party p sender checked).node p.dest).conversations.opened ∨
          c.key = ((party p.dest).peer, e.id) := by
  obtain ⟨q, hq, hpeer⟩ := Option.map_eq_some_iff.1 hsender
  obtain ⟨m, crc, hm, hv, hkind, hid⟩ := Frame.reads_of_build hbytes
  obtain ⟨r, d, hrun, hworld, hroster, hout⟩ := receive_reply_known (party p.dest).wiring.onAir
    (f := ⟨sender, p.media, p.bytes, checked⟩) hm hv hq hkind
  rw [hpeer, hid] at hout
  have hquiet : d.world.taken = [] := by rw [hworld, (h.ready p.dest).quiet]
  have hapart := h.sound.apart p.dest
  have hsub : d.conversations.opened.Sublist (s.node p.dest).conversations.opened := by
    rcases hout with ⟨-, hconv⟩ | hconv
    · rw [hconv]
    · rw [hconv]
      exact Tracker.closeIf_sublist _ _ _ _
  have hkept : ∀ c ∈ (s.node p.dest).conversations.opened,
      c ∈ d.conversations.opened ∨ c.key = ((party p.dest).peer, e.id) := by
    intro c hc
    rcases hout with ⟨-, hconv⟩ | hconv
    · rw [hconv]
      exact .inl hc
    · rw [hconv]
      by_cases hkey : c.key = ((party p.dest).peer, e.id)
      · exact .inr hkey
      · exact .inl ((hapart.mem_closeIf _).2 ⟨hc, fun hb => hkey hb.1⟩)
  unfold receive
  rw [hrun]
  refine ⟨⟨ready_settle h.ready hroster, ?_⟩, fun c hc => ?_⟩
  · cases r with
    | error e' =>
      exact h.sound.land_reply hp he hanswered hdest settle_tracker (settle_nothing hquiet)
        (modify_eq_setStage he rfl) (.inl rfl) ((hsub.map _).nodup hapart) (fun c hc => hsub.subset hc)
        nofun fun c hc _ => hkept c hc
    | ok _ =>
      have hmoved : ({ e with stage := takenIn d.queue e.stage } : Exchange) =
          { e with stage := .done } := by
        rw [hanswered]
        rfl
      refine h.sound.land_reply hp he hanswered hdest settle_tracker (settle_nothing hquiet)
        (modify_eq_setStage he hmoved) (.inr rfl) ((hsub.map _).nodup hapart)
        (fun c hc => hsub.subset hc) (fun _ c hc hours hkey => ?_) fun c hc _ => hkept c hc
      rcases hout with ⟨⟨e', he'⟩, -⟩ | hconv
      · cases he'
      · rw [hconv] at hc
        exact ((hapart.mem_closeIf _).1 hc).2 ⟨hkey, hours⟩
  · simp only [settle, Function.update_self]
    exact hkept c hc

theorem Reachable.inv (h : Reachable party s) : s.Inv party := by
  induction h with
  | start ready closed => exact ⟨ready, Ledger.sound_empty closed rfl rfl⟩
  | ask x reason payload _ ih => exact inv_ask ih x reason payload
  | receive checked _ hp hsender ih =>
    obtain ⟨e, he, hcarries⟩ := ih.sound.flight _ hp
    rcases hcarries with ⟨hasked, hdest, payload, hbytes⟩ | ⟨hanswered, hdest, payload, hbytes⟩
    · exact (inv_receive_request ih checked hp hsender he hasked hdest hbytes).1
    · exact (inv_receive_reply ih checked hp hsender he hanswered hdest hbytes).1
  | answer payload _ he hm ih => exact inv_answer ih payload he hm
  | lose _ hp ih => exact inv_lose ih hp
  | @beside s x d _ hready hconv ih =>
    refine ⟨ready_update ih.ready hready, ih.sound.of_opened (fun y => ?_) rfl rfl⟩
    by_cases hy : y = x
    · subst hy
      simp only [ledger, Function.update_self, hconv]
    · simp only [ledger, Function.update_of_ne hy]

/-! ## Replies and requests -/

/-- Whenever a frame that arrives closes a conversation which the node it arrives at has opened, that
frame is the reply to the request that this conversation was opened for. And once every request has
been delivered and answered and its reply taken in, neither node has a conversation open. -/
theorem reply_closes_its_request (h : Reachable party s) :
    (∀ p ∈ s.flight, ∀ sender checked,
      ((s.node p.dest).peers.ofSender? sender).map (·.handle) = some (party p.dest).peer →
      ∀ c ∈ (s.node p.dest).conversations.opened, c.ours = true →
        c ∉ ((s.receive party p sender checked).node p.dest).conversations.opened →
        IsOpener s.exchanges p.dest c.id p.exchange ∧
          (∃ e, s.exchanges[p.exchange]? = some e ∧ e.stage = .answered) ∧
          ∃ payload, p.bytes = Frame.build .reply c.id payload) ∧
    ((∀ e ∈ s.exchanges, e.stage = .done) → ∀ x, (s.node x).conversations.opened = []) := by
  have hinv := h.inv
  refine ⟨fun p hp sender checked hsender c hc hours hclosed => ?_, fun hdone x => ?_⟩
  · obtain ⟨e, he, hcarries⟩ := hinv.sound.flight p hp
    rcases hcarries with ⟨hasked, hdest, payload, hbytes⟩ | ⟨hanswered, hdest, payload, hbytes⟩
    · -- a request closes nothing
      have hkept := (inv_receive_request hinv checked hp hsender he hasked hdest hbytes).2
      exact absurd (hkept c hc hours) hclosed
    · have hkept := (inv_receive_reply hinv checked hp hsender he hanswered hdest hbytes).2
      have hid : c.id = e.id := congrArg Prod.snd ((hkept c hc).resolve_left hclosed)
      have hopener := (hinv.sound.pending _ e he (by rw [hanswered]; rfl)).1
      rw [hid, hdest]
      exact ⟨hopener, ⟨e, he, hanswered⟩, payload, hbytes⟩
  · -- what is open would stand for an exchange that is not done
    refine List.eq_nil_iff_forall_not_mem.2 fun c hc => ?_
    cases hours : c.ours with
    | true =>
      obtain ⟨-, n, e, -, he, hstage⟩ := hinv.sound.ours x c hc hours
      exact hstage (hdone e (List.mem_of_getElem? he))
    | false =>
      obtain ⟨-, n, e, m, he, -, -, hstage⟩ := hinv.sound.theirs x c hc hours
      rw [hdone e (List.mem_of_getElem? he)] at hstage
      cases hstage
/-! ## Two nodes that ask at the same time -/

/-- Two nodes on one wired bus. -/
def neighbours (x : Side) : Party Unit where
  wiring := { drivers := [.sink .busCan] }
  address :=
    match x with
    | .left => ⟨2, 0, 0, 0, 0, 1⟩
    | .right => ⟨2, 0, 0, 0, 0, 2⟩
  peer := ⟨1⟩

/-- Both have asked, and both have taken the number 1. -/
def crossing : Pair Unit :=
  let node x := knowing (neighbours x).address (neighbours x.other).address 0 { links := () }
  (ask neighbours .right "time" [0] (ask neighbours .left "name" [0] ⟨node, [], []⟩))

/-- The request of the left side, as it goes out and as it is queued. -/
def question : Packet :=
  ⟨.right, .busCan, Frame.build .request 1 [0], 0⟩

def questionTaken : Message :=
  { Message.outbound .request 1 [0] with media := some .busCan, peer := some ⟨1⟩ }

/-- The right side has answered the left one, while its own request is still on its way. -/
def crossed : Pair Unit :=
  (crossing.receive neighbours question (.address (neighbours .left).address) true).answer neighbours
    0 .right questionTaken [0]

theorem crossed_reachable : Reachable neighbours crossed := by
  have hstart : Reachable neighbours crossing := by
    refine .ask _ _ _ (.ask _ _ _ (.start (fun x => ?_) fun x => rfl))
    cases x <;> exact ⟨⟨by decide, by decide⟩, rfl⟩
  refine .answer (e := ⟨.left, 1, .delivered questionTaken⟩) [0]
    (.receive (p := question) true hstart ?_ ?_) ?_ rfl
  · decide +kernel
  · decide +kernel
  · decide +kernel

/-- The reply of the right side. -/
def questionAnswered : Packet :=
  ⟨.left, .busCan, Frame.build .reply 1 [0], 0⟩

/-- The reply closes the conversation of the left side, which is for exchange 0. Exchange 1 has the
same number, but the right side began it. -/
theorem crossed_reply :
    let p := questionAnswered
    let sender := Sender.address (neighbours .right).address
    p ∈ crossed.flight ∧ crossed.exchanges.map (·.id) = [1, 1] ∧
      (crossed.node p.dest).conversations.opened = [⟨1, ⟨1⟩, "name", true⟩] ∧
      ((crossed.receive neighbours p sender true).node p.dest).conversations.opened = [] ∧
      IsOpener crossed.exchanges p.dest 1 0 := by
  intro p sender
  have hp : p ∈ crossed.flight := by decide +kernel
  have hopen : (crossed.node p.dest).conversations.opened = [⟨1, ⟨1⟩, "name", true⟩] := by
    decide +kernel
  have hclosed :
      ((crossed.receive neighbours p sender true).node p.dest).conversations.opened = [] := by
    decide +kernel
  have hsender : ((crossed.node p.dest).peers.ofSender? sender).map (·.handle) =
      some (neighbours p.dest).peer := by
    decide +kernel
  have h := (reply_closes_its_request crossed_reachable).1 p hp sender true hsender
    ⟨1, ⟨1⟩, "name", true⟩ (by rw [hopen]; exact List.mem_singleton_self _) rfl
    (by rw [hclosed]; exact List.not_mem_nil)
  exact ⟨hp, by decide +kernel, hopen, hclosed, h.1⟩

end Pair

end Multilink
