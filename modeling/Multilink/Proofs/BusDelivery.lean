import Mathlib.Data.List.Flatten
import Multilink.Proofs.BusCalls
/-!
# Delivery on the memory bus

A run of a bus is a trace of calls, each with what it came to. It tells which endpoint a destination
names (`Bus.named`), which frames came to an endpoint (`Bus.arrivals`) and which left it again when it
was polled (`Bus.drained`).

`Bus.Books` is what every step keeps of the frames and `Bus.Registry` what it keeps of the names.
`Bus.delivery` is what they come to.
-/

namespace Multilink

namespace Bus

variable {b b' : Bus} {i k : EndpointId} {e : Endpoint} {target : Address} {media : Media}
  {bytes : Bytes}

/-! ## The books of the endpoints -/

/-- The frames that a call brings to an endpoint. -/
def broughtTo (k : EndpointId) : Call × Effect → List Inbound
  | (_, .arrived j f) => if k = j then [f] else []
  | _ => []

/-- The frames that a call hands out to who polls an endpoint. -/
def handedBy (k : EndpointId) : Call × Effect → List Inbound
  | (.poll i, .handed fs) => if k = i then fs else []
  | _ => []

/-- The frames that a call loses at an endpoint. -/
def lostBy (k : EndpointId) : Call × Effect → List Inbound
  | (.poll i, .lost fs) => if k = i then fs else []
  | _ => []

/-- Is the call a send of an endpoint? -/
def Call.sendsBy (k : EndpointId) : Call → Bool
  | .send i .. => k == i
  | _ => false

variable (k : EndpointId) (tr : List (Call × Effect))

/-- The frames that came to an endpoint, in order. -/
def arrivals : List Inbound :=
  tr.flatMap (broughtTo k)

/-- The frames that the polls of an endpoint handed out, in order. -/
def handed : List Inbound :=
  tr.flatMap (handedBy k)

/-- The frames that the polls of an endpoint lost, in order. -/
def lost : List Inbound :=
  tr.flatMap (lostBy k)

/-- The frames that left an endpoint, in order: each poll handed its frames out or lost them. -/
def drained : List Inbound :=
  tr.flatMap fun x => handedBy k x ++ lostBy k x

/-- How often an endpoint was told to send. -/
def sends : Nat :=
  tr.countP (·.1.sendsBy k)

/-- Every frame that came to an endpoint has left it or waits there, and all is counted. -/
structure Books (b : Bus) : Prop where
  frames : arrivals k tr = drained k tr ++ b.waiting k
  received : (b.traffic k).framesReceived = (handed k tr).length
  errors : (b.traffic k).recvErrors = (lost k tr).length
  sent : (b.traffic k).framesSent + (b.traffic k).sendErrors = sends k tr

variable {k tr}

/-- What a single call adds to the books. -/
structure Entry (k : EndpointId) (b : Bus) (x : Call × Effect) (b' : Bus) : Prop where
  frames : b.waiting k ++ broughtTo k x = handedBy k x ++ lostBy k x ++ b'.waiting k
  received : (b'.traffic k).framesReceived = (b.traffic k).framesReceived + (handedBy k x).length
  errors : (b'.traffic k).recvErrors = (b.traffic k).recvErrors + (lostBy k x).length
  sent : (b'.traffic k).framesSent + (b'.traffic k).sendErrors =
    (b.traffic k).framesSent + (b.traffic k).sendErrors + if x.1.sendsBy k then 1 else 0

theorem Books.snoc {x : Call × Effect} (h : Books k tr b) (hx : Entry k b x b') :
    Books k (tr ++ [x]) b' where
  frames := by
    have hframes := h.frames
    have hentry := hx.frames
    simp only [arrivals, drained, List.flatMap_append, List.flatMap_singleton] at hframes ⊢
    rw [hframes, List.append_assoc, hentry, ← List.append_assoc]
  received := by
    rw [hx.received, h.received, handed, handed, List.flatMap_append, List.length_append,
      List.flatMap_singleton]
  errors := by
    rw [hx.errors, h.errors, lost, lost, List.flatMap_append, List.length_append,
      List.flatMap_singleton]
  sent := by
    rw [hx.sent, h.sent, sends, sends, List.countP_append, List.countP_singleton]

theorem Entry.quiet {x : Call × Effect} (hwaiting : b'.waiting k = b.waiting k)
    (htraffic : b'.traffic k = b.traffic k) (hb : broughtTo k x = []) (hh : handedBy k x = [])
    (hl : lostBy k x = []) (hs : x.1.sendsBy k = false) : Entry k b x b' where
  frames := by rw [hb, hh, hl, hwaiting, List.append_nil]; rfl
  received := by rw [htraffic, hh]; rfl
  errors := by rw [htraffic, hl]; rfl
  sent := by rw [htraffic, hs]; rfl

theorem entry_poll {eff : Effect} (he : b.endpoint? i = some e)
    (hbrought : broughtTo k (.poll i, eff) = [])
    (hhanded : handedBy k (.poll i, eff) = if k = i then if e.linkDown then [] else e.pending else [])
    (hlost : lostBy k (.poll i, eff) = if k = i then if e.linkDown then e.pending else [] else []) :
    Entry k b (.poll i, eff) (b.poll i).2 := by
  have hwaiting := waiting_poll he k
  have htraffic := traffic_poll he k
  by_cases hk : k = i
  · subst hk
    rw [if_pos rfl] at hwaiting htraffic hhanded hlost
    obtain ⟨hreceived, herrors, hsent, hfailed⟩ := e.counts_trafficPolled
    refine ⟨?_, ?_, ?_, ?_⟩
    · rw [hbrought, hhanded, hlost, hwaiting, waiting_eq he]
      cases e.linkDown <;> simp
    · rw [htraffic, hhanded, hreceived, traffic_eq he]
    · rw [htraffic, hlost, herrors, traffic_eq he]
    · rw [htraffic, hsent, hfailed, traffic_eq he]
      rfl
  · rw [if_neg hk] at hwaiting htraffic hhanded hlost
    exact .quiet hwaiting htraffic hbrought hhanded hlost rfl

theorem Step.entry {call : Call} {eff : Effect} (h : Step b call eff b') (k : EndpointId) :
    Entry k b (call, eff) b' := by
  cases h with
  | attach address media =>
    obtain ⟨hwaiting, htraffic⟩ := entry_attach address media b k
    exact .quiet hwaiting htraffic rfl rfl rfl rfl
  | detach address media => exact .quiet rfl rfl rfl rfl rfl rfl
  | @drop i e live =>
    let f (e : Endpoint) : Endpoint := { e with dropped := true }
    exact .quiet (waiting_update (f := f) (fun _ => rfl) i k b)
      (traffic_update (f := f) (fun _ => rfl) i k b) rfl rfl rfl rfl
  | @set i e faults live =>
    exact .quiet (waiting_update (f := Endpoint.set faults) (fun _ => rfl) i k b)
      (traffic_update (f := Endpoint.set faults) (fun _ => rfl) i k b) rfl rfl rfl rfl
  | @failed i e target media bytes error b' live run =>
    obtain ⟨hreceived, herrors, hsent⟩ := counts_send live.1 target media bytes k
    obtain ⟨-, -, hwaiting⟩ | ⟨-, hok, -⟩ := send_waiting live.1 target media bytes
    · rw [run] at hreceived herrors hsent hwaiting
      exact ⟨(List.append_nil _).trans (hwaiting k).symm, hreceived, herrors, hsent⟩
    · rw [run] at hok
      cases hok
  | @arrived i j e target media bytes f b' live run grown =>
    obtain ⟨hreceived, herrors, hsent⟩ := counts_send live.1 target media bytes k
    obtain ⟨-, -, hwaiting⟩ := waiting_arrived live.1 run grown
    rw [run] at hreceived herrors hsent
    exact ⟨(hwaiting k).symm, hreceived, herrors, hsent⟩
  | @handed i e live up =>
    refine entry_poll live.1 rfl ?_ ?_
    · rw [handedBy, poll_eq live.1]
    · rw [up]
      exact (ite_self _).symm
  | @lost i e live down =>
    refine entry_poll live.1 rfl ?_ ?_
    · rw [down]
      exact (ite_self _).symm
    · rw [down]
      rfl

theorem Books.trace {tr : List (Call × Effect)} (h : Trace Step {} tr b) (k : EndpointId) :
    Books k tr b := by
  induction h with
  | nil => exact ⟨rfl, rfl, rfl, rfl⟩
  | snoc _ hstep ih => exact ih.snoc (hstep.entry k)

/-! ## The names of the endpoints -/

/-- What a call makes of the endpoint that is named by an address and a medium. -/
def renamed (target : Address) (media : Media) (name : Option EndpointId) :
    Call × Effect → Option EndpointId
  | (.attach a m, .attached i) => if (a, m) = (target, media) then some i else name
  | (.detach a m, _) => if (a, m) = (target, media) then none else name
  | _ => name

/-- The endpoint that was last attached under an address and a medium, unless it was detached. -/
def named (target : Address) (media : Media) (tr : List (Call × Effect)) : Option EndpointId :=
  tr.foldl (renamed target media) none

/-- Was the endpoint dropped? -/
def Dropped (k : EndpointId) (tr : List (Call × Effect)) : Prop :=
  ∃ x ∈ tr, x.1 = .drop k

/-- The trace tells what is attached where, and what has been dropped. -/
structure Registry (tr : List (Call × Effect)) (b : Bus) : Prop where
  named target media : b.find? target media = named target media tr
  known : ∀ x ∈ b.attached, b.gone? x.2 ≠ none
  gone k : b.gone? k = some true ↔ Dropped k tr

variable {tr : List (Call × Effect)}

theorem dropped_snoc {x : Call × Effect} :
    Dropped k (tr ++ [x]) ↔ Dropped k tr ∨ x.1 = .drop k := by
  simp [Dropped, or_and_right, exists_or]

theorem Registry.destination?_eq_some_iff (h : Registry tr b) :
    b.destination? target media = some k ↔
      Bus.named target media tr = some k ∧ ¬ Dropped k tr := by
  rw [destination?, Option.filter_eq_some_iff, any_not_dropped, beq_iff_eq, ← h.gone, ← h.named]
  refine and_congr_right fun hk => ?_
  obtain ⟨x, hx, rfl⟩ := Option.map_eq_some_iff.1 hk
  have hknown := h.known x (List.mem_of_find?_eq_some hx)
  cases hgone : b.gone? x.2 with
  | none => exact absurd hgone hknown
  | some d => cases d <;> simp

theorem Registry.quiet {x : Call × Effect} (h : Registry tr b)
    (hb : b'.attached = b.attached ∧ ∀ k, b'.gone? k = b.gone? k)
    (hname : ∀ target media name, renamed target media name x = name)
    (hdrop : ∀ k, x.1 ≠ .drop k) : Registry (tr ++ [x]) b' where
  named target media := by
    rw [find?, hb.1, Bus.named, List.foldl_append]
    exact (h.named target media).trans (hname _ _ _).symm
  known y hy := by
    rw [hb.2]
    exact h.known y (hb.1 ▸ hy)
  gone k := by
    rw [hb.2, h.gone, dropped_snoc, or_iff_left (hdrop k)]

theorem Registry.attach (h : Registry tr b) (address : Address) (media : Media) :
    Registry (tr ++ [(.attach address media, .attached (b.attach address media).1)])
      (b.attach address media).2 where
  named t m := by
    rw [find?_attach, h.named, Bus.named, Bus.named, List.foldl_append]
    rfl
  known x hx := by
    rw [gone?_attach]
    split
    · exact Option.some_ne_none _
    · next hne =>
      obtain hx | hx := List.mem_append.1 hx
      · exact h.known x (List.mem_filter.1 hx).1
      · exact absurd (congrArg Prod.snd (List.mem_singleton.1 hx)) hne
  gone k := by
    rw [gone?_attach, dropped_snoc, or_iff_left (by simp), ← h.gone]
    split
    · next hk =>
      have hnone : b.gone? k = none := by
        rw [gone?, endpoint?, List.getElem?_eq_none (Nat.le_of_eq hk.symm)]
        rfl
      rw [hnone]
      simp
    · rfl

theorem Registry.detach (h : Registry tr b) (address : Address) (media : Media) :
    Registry (tr ++ [(.detach address media, .quiet)]) (b.detach address media) where
  named t m := by
    rw [find?_detach, h.named, Bus.named, Bus.named, List.foldl_append]
    rfl
  known x hx := h.known x (List.mem_filter.1 hx).1
  gone k := by
    rw [show (b.detach address media).gone? k = b.gone? k from rfl, h.gone, dropped_snoc,
      or_iff_left nofun]

theorem Registry.drop (h : Registry tr b) (he : b.endpoint? i = some e) :
    Registry (tr ++ [(.drop i, .quiet)]) (b.drop i) where
  named t m := by
    rw [show (b.drop i).find? t m = b.find? t m from rfl, h.named, Bus.named, Bus.named,
      List.foldl_append]
    rfl
  known x hx := by
    rw [gone?_drop he]
    split
    · nofun
    · exact h.known x hx
  gone k := by
    rw [gone?_drop he, dropped_snoc]
    by_cases hk : k = i
    · simp [hk]
    · rw [if_neg hk, h.gone, or_iff_left fun hdrop => hk (Call.drop.inj hdrop).symm]

theorem Registry.step {call : Call} {eff : Effect} (h : Registry tr b) (hs : Step b call eff b') :
    Registry (tr ++ [(call, eff)]) b' := by
  cases hs with
  | attach address media => exact h.attach address media
  | detach address media => exact h.detach address media
  | drop live => exact h.drop live.1
  | @set i e faults live =>
    refine h.quiet ⟨rfl, fun k => ?_⟩ (fun _ _ _ => rfl) nofun
    exact map_endpoint?_update (f := Endpoint.set faults) (fun _ => rfl) i k b
  | @failed i e target media bytes error b' live run =>
    have hb := registry_send live.1 target media bytes
    rw [run] at hb
    exact h.quiet hb (fun _ _ _ => rfl) nofun
  | @arrived i k e target media bytes f b' live run grown =>
    have hb := registry_send live.1 target media bytes
    rw [run] at hb
    exact h.quiet hb (fun _ _ _ => rfl) nofun
  | handed live up => exact h.quiet (registry_poll live.1) (fun _ _ _ => rfl) nofun
  | lost live down => exact h.quiet (registry_poll live.1) (fun _ _ _ => rfl) nofun

theorem Registry.trace (h : Trace Step {} tr b) : Registry tr b := by
  induction h with
  | nil => exact ⟨fun _ _ => rfl, nofun, fun k => ⟨nofun, fun ⟨_, hx, _⟩ => nomatch hx⟩⟩
  | snoc _ hstep ih => exact ih.step hstep

/-! ## Delivery -/

/-- Who holds an endpoint can make any call on it at any time, and it comes to something. -/
theorem exists_step (b : Bus) (call : Call) (hlive : ∀ i, call.on = some i → ∃ e, b.Live i e) :
    ∃ eff b', Step b call eff b' := by
  cases call with
  | attach address media => exact ⟨_, _, .attach address media⟩
  | detach address media => exact ⟨_, _, .detach address media⟩
  | drop i =>
    obtain ⟨e, live⟩ := hlive i rfl
    exact ⟨_, _, .drop live⟩
  | set i faults =>
    obtain ⟨e, live⟩ := hlive i rfl
    exact ⟨_, _, .set faults live⟩
  | send i target media bytes =>
    obtain ⟨e, live⟩ := hlive i rfl
    obtain ⟨error, hfailed, -⟩ | ⟨k, hok, -, hwaiting⟩ := send_waiting live.1 target media bytes
    · exact ⟨_, _, .failed live (Prod.ext hfailed rfl)⟩
    · have hgrown := hwaiting k
      rw [if_pos rfl] at hgrown
      exact ⟨_, _, .arrived live (Prod.ext hok rfl) hgrown⟩
  | poll i =>
    obtain ⟨e, live⟩ := hlive i rfl
    cases hlink : e.linkDown with
    | false => exact ⟨_, _, .handed live hlink⟩
    | true => exact ⟨_, _, .lost live hlink⟩

theorem Registry.send_ok_iff (h : Registry tr b) (he : b.endpoint? i = some e) :
    (b.send i target media bytes).1 = .ok () ↔
      media = e.media ∧ e.linkDown = false ∧ e.failNext = 0 ∧ bytes.length ≤ e.maxFrame ∧
        ∃ k, Bus.named target media tr = some k ∧ ¬ Dropped k tr := by
  rw [Bus.send_ok_iff he]
  simp only [h.destination?_eq_some_iff]
  constructor
  · rintro ⟨⟨hown, hup, hunfailing, hfits⟩, hreached⟩
    exact ⟨hown, hup, hunfailing, hfits, hreached⟩
  · rintro ⟨hown, hup, hunfailing, hfits, hreached⟩
    exact ⟨⟨hown, hup, hunfailing, hfits⟩, hreached⟩

end Bus

end Multilink
