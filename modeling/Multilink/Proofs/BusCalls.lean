import Multilink.Bus
import Multilink.Proofs.Steps
/-!
# What calls on the memory bus do

`Bus.Step` lists the calls of the users of a bus, what they may come to, and the bus that they leave.
`Bus.send_cases` says all that a send can do, and `Bus.send_waiting` what becomes of its frame;
`Bus.poll_eq` says what a poll does. Theorems about runs of a bus need not look at its definitions
again.
-/

namespace Multilink

namespace Endpoint

/-- The frame that the endpoint puts on the bus. It bears the identity in force, and is damaged if
damage was injected. -/
def frame (e : Endpoint) (bytes : Bytes) : Inbound where
  sender := e.sender
  media := e.media
  bytes := if 0 < e.corruptNext then Bus.damage bytes else bytes

/-- No fault of the endpoint keeps it from sending. -/
structure Passes (e : Endpoint) (media : Media) (bytes : Bytes) : Prop where
  own : media = e.media
  up : e.linkDown = false
  unfailing : e.failNext = 0
  fits : bytes.length ≤ e.maxFrame

def spendFailure (e : Endpoint) : Endpoint :=
  { e with failNext := e.failNext - 1 }

def spendDamage (e : Endpoint) : Endpoint :=
  { e with corruptNext := e.corruptNext - 1 }

def countSent (length : Nat) (e : Endpoint) : Endpoint :=
  { e with traffic := e.traffic.sent length }

def countFailed (e : Endpoint) : Endpoint :=
  { e with traffic := e.traffic.sendFailed }

def push (f : Inbound) (e : Endpoint) : Endpoint :=
  { e with pending := e.pending ++ [f] }

/-- What the endpoint has carried once the frames that wait are polled. -/
def trafficPolled (e : Endpoint) : Traffic :=
  e.pending.foldl
    (fun t f => if e.linkDown then t.recvFailed else t.received f.bytes.length) e.traffic

theorem counts_trafficPolled (e : Endpoint) :
    e.trafficPolled.framesReceived =
      e.traffic.framesReceived + (if e.linkDown then [] else e.pending).length ∧
    e.trafficPolled.recvErrors =
      e.traffic.recvErrors + (if e.linkDown then e.pending else []).length ∧
    e.trafficPolled.framesSent = e.traffic.framesSent ∧
    e.trafficPolled.sendErrors = e.traffic.sendErrors := by
  unfold trafficPolled
  generalize e.traffic = t
  generalize e.pending = fs
  cases e.linkDown with
  | false =>
    induction fs generalizing t with
    | nil => exact ⟨rfl, rfl, rfl, rfl⟩
    | cons f fs ih =>
      obtain ⟨hreceived, herrors, hsent, hfailed⟩ := ih (t.received f.bytes.length)
      refine ⟨hreceived.trans ?_, herrors, hsent, hfailed⟩
      show t.framesReceived + 1 + fs.length = t.framesReceived + (fs.length + 1)
      omega
  | true =>
    induction fs generalizing t with
    | nil => exact ⟨rfl, rfl, rfl, rfl⟩
    | cons f fs ih =>
      obtain ⟨hreceived, herrors, hsent, hfailed⟩ := ih t.recvFailed
      refine ⟨hreceived, herrors.trans ?_, hsent, hfailed⟩
      show t.recvErrors + 1 + fs.length = t.recvErrors + (fs.length + 1)
      omega

end Endpoint

namespace Bus

inductive Call
  | attach (address : Address) (media : Media)
  | detach (address : Address) (media : Media)
  | drop (i : EndpointId)
  | set (i : EndpointId) (faults : Faults)
  | send (i : EndpointId) (target : Address) (media : Media) (bytes : Bytes)
  | poll (i : EndpointId)

/-- The endpoint that a call is made on. -/
def Call.on : Call → Option EndpointId
  | .attach .. | .detach .. => none
  | .drop i | .set i _ | .send i .. | .poll i => some i

/-- What a call comes to. -/
inductive Effect
  | quiet
  | attached (i : EndpointId)
  | failed (error : LinkError)
  /-- A send succeeded: this frame has come to this endpoint. -/
  | arrived (i : EndpointId) (f : Inbound)
  /-- A poll handed these frames out. -/
  | handed (fs : List Inbound)
  /-- A poll lost these frames, as the link was down. -/
  | lost (fs : List Inbound)

variable {b c b' : Bus} {i k : EndpointId} {e : Endpoint} {target address : Address} {media : Media}
  {bytes : Bytes}

/-- The frames that wait at an endpoint. -/
def waiting (i : EndpointId) (b : Bus) : List Inbound :=
  ((b.endpoint? i).map (·.pending)).getD []

/-- Has the endpoint been dropped? -/
def gone? (i : EndpointId) (b : Bus) : Option Bool :=
  (b.endpoint? i).map (·.dropped)

/-- Somebody holds this endpoint. -/
def Live (b : Bus) (i : EndpointId) (e : Endpoint) : Prop :=
  b.endpoint? i = some e ∧ e.dropped = false

/-- The calls, what they may come to, and the bus that they leave. Only who holds an endpoint can use
it. -/
inductive Step (b : Bus) : Call → Effect → Bus → Prop
  | attach (address : Address) (media : Media) :
      Step b (.attach address media) (.attached (b.attach address media).1) (b.attach address media).2
  | detach (address : Address) (media : Media) :
      Step b (.detach address media) .quiet (b.detach address media)
  | drop {i : EndpointId} {e : Endpoint} (live : b.Live i e) : Step b (.drop i) .quiet (b.drop i)
  | set {i : EndpointId} {e : Endpoint} (faults : Faults) (live : b.Live i e) :
      Step b (.set i faults) .quiet (b.update i (·.set faults))
  | failed {i : EndpointId} {e : Endpoint} {target : Address} {media : Media} {bytes : Bytes}
      {error : LinkError} {b' : Bus} (live : b.Live i e)
      (run : b.send i target media bytes = (.error error, b')) :
      Step b (.send i target media bytes) (.failed error) b'
  | arrived {i k : EndpointId} {e : Endpoint} {target : Address} {media : Media} {bytes : Bytes}
      {f : Inbound} {b' : Bus} (live : b.Live i e)
      (run : b.send i target media bytes = (.ok (), b'))
      (grown : b'.waiting k = b.waiting k ++ [f]) :
      Step b (.send i target media bytes) (.arrived k f) b'
  | handed {i : EndpointId} {e : Endpoint} (live : b.Live i e) (up : e.linkDown = false) :
      Step b (.poll i) (.handed (b.poll i).1) (b.poll i).2
  | lost {i : EndpointId} {e : Endpoint} (live : b.Live i e) (down : e.linkDown = true) :
      Step b (.poll i) (.lost e.pending) (b.poll i).2

/-! ## Changing one endpoint -/

theorem endpoint?_update (i k : EndpointId) (f : Endpoint → Endpoint) (b : Bus) :
    (b.update i f).endpoint? k = if i = k then (b.endpoint? k).map f else b.endpoint? k := by
  rw [endpoint?, update, List.getElem?_modify]
  split
  · rfl
  · exact congrFun Option.map_id _

theorem endpoint?_update_self {f : Endpoint → Endpoint} (he : b.endpoint? i = some e) :
    (b.update i f).endpoint? i = some (f e) := by
  rw [endpoint?_update, if_pos rfl, he]
  rfl

theorem endpoint?_update_of_ne {f : Endpoint → Endpoint} (hne : i ≠ k) :
    (b.update i f).endpoint? k = b.endpoint? k := by
  rw [endpoint?_update, if_neg hne]

theorem map_endpoint?_update {γ : Type} {g : Endpoint → γ} {f : Endpoint → Endpoint}
    (hf : ∀ e, g (f e) = g e) (i k : EndpointId) (b : Bus) :
    ((b.update i f).endpoint? k).map g = (b.endpoint? k).map g := by
  rw [endpoint?_update]
  split
  · rw [Option.map_map]
    exact congrArg (Option.map · _) (funext hf)
  · rfl

theorem waiting_update {f : Endpoint → Endpoint} (hf : ∀ e, (f e).pending = e.pending)
    (i k : EndpointId) (b : Bus) : (b.update i f).waiting k = b.waiting k :=
  congrArg (·.getD []) (map_endpoint?_update hf i k b)

theorem traffic_update {f : Endpoint → Endpoint} (hf : ∀ e, (f e).traffic = e.traffic)
    (i k : EndpointId) (b : Bus) : (b.update i f).traffic k = b.traffic k :=
  congrArg (·.getD {}) (map_endpoint?_update hf i k b)

theorem waiting_eq (he : b.endpoint? i = some e) : b.waiting i = e.pending := by
  rw [waiting, he]
  rfl

theorem traffic_eq (he : b.endpoint? i = some e) : b.traffic i = e.traffic := by
  rw [traffic, he]
  rfl

theorem traffic_update_self {f : Endpoint → Endpoint} {g : Traffic → Traffic}
    (hf : ∀ e, (f e).traffic = g e.traffic) (he : b.endpoint? i = some e) (k : EndpointId) :
    (b.update i f).traffic k = if k = i then g (b.traffic k) else b.traffic k := by
  by_cases hk : k = i
  · subst hk
    rw [if_pos rfl, traffic_eq (endpoint?_update_self he), traffic_eq he, hf]
  · rw [if_neg hk, traffic, endpoint?_update_of_ne (Ne.symm hk)]
    rfl

/-! ## Attaching, detaching and dropping -/

theorem map_endpoint?_attach {γ : Type} (g : Endpoint → γ) (address : Address) (media : Media)
    (b : Bus) (k : EndpointId) : ((b.attach address media).2.endpoint? k).map g =
      if k = b.endpoints.length then some (g { address, media }) else (b.endpoint? k).map g := by
  show (b.endpoints ++ [({ address, media } : Endpoint)])[k]?.map g = _
  rcases Nat.lt_trichotomy k b.endpoints.length with hlt | rfl | hgt
  · rw [List.getElem?_append_left hlt, if_neg (Nat.ne_of_lt hlt)]
    rfl
  · rw [List.getElem?_concat_length, if_pos rfl]
    rfl
  · rw [if_neg (Nat.ne_of_gt hgt), endpoint?, List.getElem?_eq_none (Nat.le_of_lt hgt),
      List.getElem?_eq_none (by rw [List.length_append]; exact hgt)]

/-- A new endpoint has as much waiting, and has carried as much, as one that is not there. -/
theorem entry_attach (address : Address) (media : Media) (b : Bus) (k : EndpointId) :
    (b.attach address media).2.waiting k = b.waiting k ∧
      (b.attach address media).2.traffic k = b.traffic k := by
  unfold waiting traffic
  rw [map_endpoint?_attach, map_endpoint?_attach]
  by_cases hk : k = b.endpoints.length
  · have hnone : b.endpoint? k = none := List.getElem?_eq_none (Nat.le_of_eq hk.symm)
    rw [if_pos hk, if_pos hk, hnone]
    exact ⟨rfl, rfl⟩
  · rw [if_neg hk, if_neg hk]
    exact ⟨rfl, rfl⟩

theorem gone?_attach (address : Address) (media : Media) (b : Bus) (k : EndpointId) :
    (b.attach address media).2.gone? k = if k = b.endpoints.length then some false else b.gone? k :=
  map_endpoint?_attach (·.dropped) address media b k

theorem find?_detach (address : Address) (m : Media) (b : Bus) (target : Address) (media : Media) :
    (b.detach address m).find? target media =
      if (address, m) = (target, media) then none else b.find? target media := by
  rw [find?, detach, List.find?_filter]
  split
  · next heq =>
    rw [List.find?_eq_none.2 fun x _ => by simp [heq]]
    rfl
  · next hne =>
    refine congrArg (Option.map _) (congrArg (List.find? · b.attached) (funext fun x => ?_))
    by_cases hx : x.1 = (target, media)
    · simp [hx, Ne.symm hne]
    · simp [hx]

theorem find?_attach (address : Address) (m : Media) (b : Bus) (target : Address) (media : Media) :
    (b.attach address m).2.find? target media =
      if (address, m) = (target, media) then some b.endpoints.length else b.find? target media := by
  have hdetached := find?_detach address m b target media
  rw [find?] at hdetached ⊢
  rw [attach, List.find?_append, Option.map_or, hdetached]
  by_cases heq : (address, m) = (target, media)
  · simp [heq, detach]
  · rw [if_neg heq, if_neg heq, List.find?_singleton, if_neg (by simpa using heq)]
    exact Option.or_none

theorem gone?_drop (hi : b.endpoint? i = some e) (k : EndpointId) :
    (b.drop i).gone? k = if k = i then some true else b.gone? k := by
  unfold drop gone?
  by_cases hk : k = i
  · subst hk
    rw [if_pos rfl, endpoint?_update_self hi]
    rfl
  · rw [if_neg hk, endpoint?_update_of_ne (Ne.symm hk)]

/-! ## What a send does -/

/-- The bus is the same for who sends and who receives, but for the faults that were used up. -/
structure Still (b c : Bus) : Prop where
  attached : c.attached = b.attached
  waiting k : c.waiting k = b.waiting k
  traffic k : c.traffic k = b.traffic k
  gone k : c.gone? k = b.gone? k

theorem Still.refl (b : Bus) : Still b b :=
  ⟨rfl, fun _ => rfl, fun _ => rfl, fun _ => rfl⟩

theorem still_update (f : Endpoint → Endpoint) (hpending : ∀ e, (f e).pending = e.pending)
    (htraffic : ∀ e, (f e).traffic = e.traffic) (hdropped : ∀ e, (f e).dropped = e.dropped)
    (i : EndpointId) (b : Bus) : Still b (b.update i f) where
  attached := rfl
  waiting k := waiting_update hpending i k b
  traffic k := traffic_update htraffic i k b
  gone k := map_endpoint?_update hdropped i k b

theorem any_not_dropped (k : EndpointId) (b : Bus) :
    (b.endpoint? k).any (!·.dropped) = (b.gone? k == some false) := by
  rw [gone?]
  cases b.endpoint? k with
  | none => rfl
  | some e => cases h : e.dropped <;> simp [h]

theorem Still.destination? (h : Still b c) (target : Address) (media : Media) :
    c.destination? target media = b.destination? target media := by
  unfold Bus.destination? Bus.find?
  simp only [any_not_dropped, h.attached, h.gone]

theorem Still.exists_endpoint (h : Still b c) (he : b.endpoint? i = some e) :
    ∃ e', c.endpoint? i = some e' := by
  have hgone := h.gone i
  rw [gone?, gone?, he] at hgone
  exact Option.isSome_iff_exists.1 (by simpa using congrArg Option.isSome hgone)

theorem exists_live_of_destination? (h : b.destination? target media = some k) :
    ∃ e, b.Live k e := by
  have hlive := (Option.filter_eq_some_iff.1 h).2
  obtain ⟨e, he, hdropped⟩ := (Option.any_eq_true _ _).1 hlive
  exact ⟨e, he, by simpa using hdropped⟩

/-- What becomes of a send: with the faults used up, it fails, or the frame comes to its
destination. -/
inductive Sent (b : Bus) (e : Endpoint) (target : Address) (media : Media) (bytes : Bytes) (c : Bus) :
    Except LinkError Unit → Bus → Prop
  | failed (error : LinkError)
      (hindered : e.Passes media bytes → b.destination? target media = none) :
      Sent b e target media bytes c (.error error) c
  | arrived {k : EndpointId} (passes : e.Passes media bytes)
      (reached : b.destination? target media = some k) :
      Sent b e target media bytes c (.ok ()) (c.update k (·.push (e.frame bytes)))

theorem sent_deliver (h : Still b c) (hpasses : e.Passes media bytes) :
    Sent b e target media bytes c (c.deliver target (e.frame bytes)).1
      (c.deliver target (e.frame bytes)).2 := by
  unfold deliver
  rw [show (e.frame bytes).media = media from hpasses.own.symm, h.destination?]
  cases hd : b.destination? target media with
  | none => exact .failed _ fun _ => hd
  | some k => exact .arrived hpasses hd

/-- All that becomes of a send before it is counted. If a fault stands against it, at most a failure is
used up; else the frame is handed on, and damage is used up if there is some. -/
theorem transmit_cases (i : EndpointId) (e : Endpoint) (target : Address) (media : Media)
    (bytes : Bytes) (b : Bus) :
    (¬ e.Passes media bytes ∧ ∃ error,
      b.transmit i e target media bytes = (.error error, b) ∨
        b.transmit i e target media bytes = (.error error, b.update i (·.spendFailure))) ∨
    (e.Passes media bytes ∧ b.transmit i e target media bytes =
      (if 0 < e.corruptNext then b.update i (·.spendDamage) else b).deliver target
        (e.frame bytes)) := by
  unfold transmit
  split
  · next hown => exact .inl ⟨fun h => hown h.own, _, .inl rfl⟩
  · next hown =>
    split
    · next hdown => exact .inl ⟨fun h => Bool.noConfusion (hdown.symm.trans h.up), _, .inl rfl⟩
    · next hup =>
      split
      · next hfail => exact .inl ⟨fun h => Nat.ne_of_gt hfail h.unfailing, _, .inr rfl⟩
      · next hfail =>
        split
        · next hlong => exact .inl ⟨fun h => Nat.not_le.2 hlong h.fits, _, .inl rfl⟩
        · next hfits =>
          refine .inr ⟨⟨Decidable.not_not.1 hown, eq_false_of_ne_true hup,
            Nat.eq_zero_of_not_pos hfail, Nat.not_lt.1 hfits⟩, ?_⟩
          rw [Endpoint.frame]
          split
          · rfl
          · rfl

theorem sent_transmit (i : EndpointId) (e : Endpoint) (target : Address) (media : Media)
    (bytes : Bytes) (b : Bus) :
    ∃ c, Still b c ∧ Sent b e target media bytes c (b.transmit i e target media bytes).1
      (b.transmit i e target media bytes).2 := by
  obtain ⟨hhindered, error, hrun | hrun⟩ | ⟨hpasses, hrun⟩ :=
    transmit_cases i e target media bytes b
  · rw [hrun]
    exact ⟨b, .refl b, .failed _ fun h => absurd h hhindered⟩
  · rw [hrun]
    exact ⟨_, still_update Endpoint.spendFailure (fun _ => rfl) (fun _ => rfl) (fun _ => rfl) i b,
      .failed _ fun h => absurd h hhindered⟩
  · have hstill : Still b (if 0 < e.corruptNext then b.update i (·.spendDamage) else b) := by
      split
      · exact still_update Endpoint.spendDamage (fun _ => rfl) (fun _ => rfl) (fun _ => rfl) i b
      · exact .refl b
    rw [hrun]
    exact ⟨_, hstill, sent_deliver hstill hpasses⟩

/-- All that a send can do. It is counted whether it fails or not. -/
theorem send_cases (he : b.endpoint? i = some e) (target : Address) (media : Media) (bytes : Bytes) :
    ∃ c, Still b c ∧
      ((∃ error, b.send i target media bytes = (.error error, c.update i (·.countFailed)) ∧
          (e.Passes media bytes → b.destination? target media = none)) ∨
        (∃ k, b.send i target media bytes =
            (.ok (), (c.update k (·.push (e.frame bytes))).update i (·.countSent bytes.length)) ∧
          e.Passes media bytes ∧ b.destination? target media = some k)) := by
  obtain ⟨c, hstill, hsent⟩ := sent_transmit i e target media bytes b
  refine ⟨c, hstill, ?_⟩
  unfold send
  rw [he]
  dsimp only
  generalize b.transmit i e target media bytes = x at hsent ⊢
  obtain ⟨r, d⟩ := x
  cases hsent with
  | failed error hindered => exact .inl ⟨error, rfl, hindered⟩
  | arrived passes reached => exact .inr ⟨_, rfl, passes, reached⟩

theorem waiting_push (he : b.endpoint? k = some e) (f : Inbound) (j : EndpointId) :
    (b.update k (·.push f)).waiting j = b.waiting j ++ if j = k then [f] else [] := by
  by_cases hj : j = k
  · subst hj
    rw [if_pos rfl, waiting_eq (endpoint?_update_self he), waiting_eq he]
    rfl
  · rw [if_neg hj, List.append_nil, waiting, endpoint?_update_of_ne (Ne.symm hj)]
    rfl

/-- A successful send adds its frame where it belongs, and a failed one adds nothing. -/
theorem send_waiting (he : b.endpoint? i = some e) (target : Address) (media : Media)
    (bytes : Bytes) :
    (∃ error, (b.send i target media bytes).1 = .error error ∧
      ∀ j, (b.send i target media bytes).2.waiting j = b.waiting j) ∨
    (∃ k, (b.send i target media bytes).1 = .ok () ∧ b.destination? target media = some k ∧
      ∀ j, (b.send i target media bytes).2.waiting j =
        b.waiting j ++ if j = k then [e.frame bytes] else []) := by
  obtain ⟨c, hstill, ⟨error, hsend, -⟩ | ⟨k, hsend, -, hk⟩⟩ := send_cases he target media bytes
  · rw [hsend]
    refine .inl ⟨error, rfl, fun j => ?_⟩
    exact (waiting_update (f := Endpoint.countFailed) (fun _ => rfl) i j c).trans (hstill.waiting j)
  · rw [hsend]
    refine .inr ⟨k, rfl, hk, fun j => ?_⟩
    obtain ⟨e₀, he₀, -⟩ := exists_live_of_destination? hk
    obtain ⟨e₁, he₁⟩ := hstill.exists_endpoint he₀
    rw [waiting_update (f := Endpoint.countSent bytes.length) (fun _ => rfl), waiting_push he₁,
      hstill.waiting]

theorem send_ok_iff (he : b.endpoint? i = some e) :
    (b.send i target media bytes).1 = .ok () ↔
      e.Passes media bytes ∧ ∃ k, b.destination? target media = some k := by
  obtain ⟨c, -, ⟨error, hsend, hindered⟩ | ⟨k, hsend, hpasses, hk⟩⟩ :=
    send_cases he target media bytes
  · rw [hsend]
    refine ⟨nofun, fun ⟨hpasses, k, hk⟩ => ?_⟩
    cases (hindered hpasses).symm.trans hk
  · rw [hsend]
    exact ⟨fun _ => ⟨hpasses, k, hk⟩, fun _ => rfl⟩

/-- The frame that is seen to come is the one that was sent. -/
theorem waiting_arrived {f : Inbound} {j : EndpointId} (he : b.endpoint? i = some e)
    (hrun : b.send i target media bytes = (.ok (), b'))
    (hgrown : b'.waiting j = b.waiting j ++ [f]) :
    f = e.frame bytes ∧ b.destination? target media = some j ∧
      ∀ k, b'.waiting k = b.waiting k ++ if k = j then [f] else [] := by
  obtain ⟨error, hfailed, -⟩ | ⟨l, -, hl, hwaiting⟩ := send_waiting he target media bytes
  · rw [hrun] at hfailed
    cases hfailed
  · rw [hrun] at hwaiting
    have hframe : (if j = l then [e.frame bytes] else []) = [f] :=
      List.append_cancel_left ((hwaiting j).symm.trans hgrown)
    split at hframe
    · next hjl =>
      cases hjl
      cases hframe
      exact ⟨rfl, hl, hwaiting⟩
    · cases hframe

theorem Still.gone_update (h : Still b c) {f : Endpoint → Endpoint}
    (hf : ∀ e, (f e).dropped = e.dropped) (i k : EndpointId) :
    (c.update i f).gone? k = b.gone? k :=
  (map_endpoint?_update hf i k c).trans (h.gone k)

theorem registry_send (he : b.endpoint? i = some e) (target : Address) (media : Media)
    (bytes : Bytes) :
    (b.send i target media bytes).2.attached = b.attached ∧
      ∀ k, (b.send i target media bytes).2.gone? k = b.gone? k := by
  obtain ⟨c, hstill, ⟨error, hsend, -⟩ | ⟨j, hsend, -, -⟩⟩ := send_cases he target media bytes
  · rw [hsend]
    exact ⟨hstill.attached, hstill.gone_update (f := Endpoint.countFailed) (fun _ => rfl) i⟩
  · rw [hsend]
    refine ⟨hstill.attached, fun k => ?_⟩
    refine (map_endpoint?_update (f := Endpoint.countSent bytes.length) (fun _ => rfl) i k _).trans ?_
    exact hstill.gone_update (f := Endpoint.push (e.frame bytes)) (fun _ => rfl) j k

theorem traffic_send (he : b.endpoint? i = some e) (target : Address) (media : Media) (bytes : Bytes)
    (k : EndpointId) :
    (b.send i target media bytes).2.traffic k =
      if k = i then
        match (b.send i target media bytes).1 with
        | .ok () => (b.traffic k).sent bytes.length
        | .error _ => (b.traffic k).sendFailed
      else b.traffic k := by
  obtain ⟨c, hstill, ⟨error, hsend, -⟩ | ⟨j, hsend, -, -⟩⟩ := send_cases he target media bytes
  · obtain ⟨e', he'⟩ := hstill.exists_endpoint he
    rw [hsend]
    refine (traffic_update_self (f := Endpoint.countFailed) (g := Traffic.sendFailed)
      (fun _ => rfl) he' k).trans ?_
    rw [hstill.traffic]
  · obtain ⟨e', he'⟩ := hstill.exists_endpoint he
    have hpushed : ∃ e'', (c.update j (·.push (e.frame bytes))).endpoint? i = some e'' := by
      rw [endpoint?_update, he']
      split <;> exact ⟨_, rfl⟩
    obtain ⟨e'', he''⟩ := hpushed
    rw [hsend]
    refine (traffic_update_self (f := Endpoint.countSent bytes.length)
      (g := Traffic.sent bytes.length) (fun _ => rfl) he'' k).trans ?_
    rw [traffic_update (f := Endpoint.push (e.frame bytes)) (fun _ => rfl), hstill.traffic]

theorem counts_send (he : b.endpoint? i = some e) (target : Address) (media : Media) (bytes : Bytes)
    (k : EndpointId) :
    let t := (b.send i target media bytes).2.traffic k
    t.framesReceived = (b.traffic k).framesReceived ∧ t.recvErrors = (b.traffic k).recvErrors ∧
      t.framesSent + t.sendErrors =
        (b.traffic k).framesSent + (b.traffic k).sendErrors + if k == i then 1 else 0 := by
  intro t
  rw [show t = _ from traffic_send he target media bytes k]
  by_cases hk : k = i
  · rw [if_pos hk, if_pos (beq_iff_eq.2 hk)]
    cases (b.send i target media bytes).1 with
    | ok _ => exact ⟨rfl, rfl, Nat.add_right_comm ..⟩
    | error _ => exact ⟨rfl, rfl, rfl⟩
  · rw [if_neg hk, if_neg (mt beq_iff_eq.1 hk)]
    exact ⟨rfl, rfl, rfl⟩

/-! ## What a poll does -/

theorem poll_eq (he : b.endpoint? i = some e) :
    b.poll i = (if e.linkDown then [] else e.pending,
      b.update i fun e' => { e' with pending := [], traffic := e.trafficPolled }) := by
  unfold poll
  rw [he]
  rfl

theorem waiting_poll (he : b.endpoint? i = some e) (k : EndpointId) :
    (b.poll i).2.waiting k = if k = i then [] else b.waiting k := by
  rw [poll_eq he]
  by_cases hk : k = i
  · subst hk
    rw [if_pos rfl]
    exact waiting_eq (endpoint?_update_self he)
  · rw [if_neg hk, waiting, endpoint?_update_of_ne (Ne.symm hk)]
    rfl

theorem traffic_poll (he : b.endpoint? i = some e) (k : EndpointId) :
    (b.poll i).2.traffic k = if k = i then e.trafficPolled else b.traffic k := by
  rw [poll_eq he]
  by_cases hk : k = i
  · subst hk
    rw [if_pos rfl]
    exact traffic_eq (endpoint?_update_self he)
  · rw [if_neg hk, traffic, endpoint?_update_of_ne (Ne.symm hk)]
    rfl

theorem registry_poll (he : b.endpoint? i = some e) :
    (b.poll i).2.attached = b.attached ∧ ∀ k, (b.poll i).2.gone? k = b.gone? k := by
  let f (e' : Endpoint) : Endpoint := { e' with pending := [], traffic := e.trafficPolled }
  rw [poll_eq he]
  exact ⟨rfl, fun k => map_endpoint?_update (f := f) (g := (·.dropped)) (fun _ => rfl) i k b⟩

end Bus

end Multilink
