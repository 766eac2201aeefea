import Mathlib.Data.Finmap
import Multilink.Proofs.Conversations
import Multilink.Proofs.Steps
/-!
# Conversations as a finite map

A tracker searches a list, but it behaves as a finite map from peers and numbers to what is kept about
a conversation. `Tracker.Book.Step` says what each call may answer and how it changes the map;
`Tracker.trace_book` says that every row of calls answers as these rules have it. The order in which a
call leaves the open conversations is never seen, so a call may leave them in any order.

A number for a new conversation is refused only if there is none left: the walk goes once through all
numbers but zero (`Tracker.walk_none`).
-/

namespace Multilink

/-- What the tracker keeps about a conversation under its peer and number. -/
structure Entry where
  reason : String
  ours : Bool
  deriving DecidableEq

namespace Conversation

def entry (c : Conversation) : Entry :=
  ⟨c.reason, c.ours⟩

/-- The conversation with a peer and number about which this is kept. -/
def ofEntry (k : Handle × UInt16) (e : Entry) : Conversation :=
  ⟨k.2, k.1, e.reason, e.ours⟩

theorem ofEntry_key (c : Conversation) : ofEntry c.key c.entry = c := rfl

theorem eq_ofEntry_iff {c : Conversation} {k : Handle × UInt16} {e : Entry} :
    c = ofEntry k e ↔ c.key = k ∧ c.entry = e := by
  constructor
  · rintro rfl
    exact ⟨rfl, rfl⟩
  · rintro ⟨rfl, rfl⟩
    rfl

end Conversation

namespace Tracker

variable {t t' u : Tracker} {peer : Handle} {id : UInt16}

/-! ## The walk over the numbers -/

theorem toNat_following {id : UInt16} (h : id ≠ 0) :
    (following id).toNat = id.toNat % 65535 + 1 := by
  have hid := id.toNat_lt
  have hpos : id.toNat ≠ 0 := fun h0 => h (UInt16.toNat_inj.1 h0)
  have hnext : (id + 1).toNat = (id.toNat + 1) % 65536 := UInt16.toNat_add id 1
  unfold following
  split
  · next h1 =>
    rw [h1, UInt16.toNat_zero] at hnext
    have : id.toNat = 65535 := by omega
    rw [this]
    rfl
  · next h1 =>
    have hne : (id + 1).toNat ≠ 0 := fun h0 => h1 (UInt16.toNat_inj.1 h0)
    omega

theorem following_ne_zero (id : UInt16) : following id ≠ 0 := by
  unfold following
  split
  · decide
  · next h => exact h

theorem toNat_following_iterate {id : UInt16} (h : id ≠ 0) (n : Nat) :
    (following^[n] id).toNat = (id.toNat - 1 + n) % 65535 + 1 := by
  have hid := id.toNat_lt
  have hpos : id.toNat ≠ 0 := fun h0 => h (UInt16.toNat_inj.1 h0)
  induction n with
  | zero => simp only [Function.iterate_zero, id_eq]; omega
  | succ n ih =>
    have hne : following^[n] id ≠ 0 := fun h0 => by
      rw [h0, UInt16.toNat_zero] at ih
      omega
    rw [Function.iterate_succ_apply', toNat_following hne, ih]
    omega

/-- The walk comes by every number but zero. -/
theorem exists_following_iterate {start id : UInt16} (hs : start ≠ 0) (hid : id ≠ 0) :
    ∃ n < 65535, following^[n] start = id := by
  have h1 := start.toNat_lt
  have h2 := id.toNat_lt
  have h3 : start.toNat ≠ 0 := fun h0 => hs (UInt16.toNat_inj.1 h0)
  have h4 : id.toNat ≠ 0 := fun h0 => hid (UInt16.toNat_inj.1 h0)
  refine ⟨(id.toNat + 65535 - start.toNat) % 65535, Nat.mod_lt _ (by decide), ?_⟩
  apply UInt16.toNat_inj.1
  rw [toNat_following_iterate hs]
  omega

theorem walk_none {steps : Nat} {start next : UInt16} (h : t.walk peer steps start = (none, next)) :
    ∀ n < steps, t.find? peer (following^[n] start) ≠ none := by
  induction steps generalizing start with
  | zero => exact fun n hn => absurd hn (Nat.not_lt_zero n)
  | succ steps ih =>
    rw [walk] at h
    split at h
    · cases h
    · next htaken =>
      intro n hn
      cases n with
      | zero => exact fun hnone => htaken (by rw [← Function.iterate_zero_apply following start, hnone]; rfl)
      | succ n =>
        rw [Function.iterate_succ_apply]
        exact ih h n (by omega)

theorem walk_ne_zero {steps : Nat} {start next : UInt16} {r : Option UInt16} (hs : start ≠ 0)
    (h : t.walk peer steps start = (r, next)) : next ≠ 0 ∧ ∀ id, r = some id → id ≠ 0 := by
  induction steps generalizing start with
  | zero =>
    cases h
    exact ⟨hs, nofun⟩
  | succ steps ih =>
    rw [walk] at h
    split at h
    · cases h
      refine ⟨following_ne_zero start, fun id hid => ?_⟩
      cases hid
      exact hs
    · exact ih (following_ne_zero start) h

/-! ## Calls -/

/-- Which conversations a closing may take: any, or those that one side has opened. -/
inductive Scope where
  | any
  | ours
  | theirs
  deriving DecidableEq

def Scope.covers : Scope → Bool → Bool
  | .any, _ => true
  | .ours, b => b
  | .theirs, b => !b

def Scope.close : Scope → Handle → UInt16 → Act Tracker Conversation
  | .any => Tracker.close
  | .ours => closeOurs
  | .theirs => closeTheirs

theorem Scope.close_eq (scope : Scope) (peer : Handle) (id : UInt16) :
    scope.close peer id = closeIf peer id fun c => scope.covers c.ours := by
  cases scope <;> rfl

inductive Call where
  | «open» (peer : Handle) (reason : String) (origin : Origin)
  | close (scope : Scope) (peer : Handle) (id : UInt16)
  | closeAll (peer : Handle)

inductive Answer where
  | opened (id : UInt16)
  | closed (c : Conversation)
  | dropped (count : Nat)
  deriving DecidableEq

def Call.act : Call → Act Tracker Answer
  | .open peer reason origin => .opened <$> Tracker.open peer reason origin
  | .close scope peer id => .closed <$> scope.close peer id
  | .closeAll peer => .dropped <$> Tracker.closeAll peer

/-- A call, which may leave the open conversations in any order. -/
def Step (t : Tracker) (c : Call) (r : Except Error Answer) (u : Tracker) : Prop :=
  ∃ t', c.act.run t = (r, t') ∧ u.opened.Perm t'.opened ∧ u.nextId = t'.nextId

/-! ## The map -/

abbrev Book := Finmap fun _ : Handle × UInt16 => Entry

def book (t : Tracker) : Book :=
  (t.opened.map fun c => (⟨c.key, c.entry⟩ : Sigma fun _ => Entry)).toFinmap

/-- What a map of conversations may answer to a call, and what becomes of it. -/
inductive Book.Step (b : Book) : Call → Except Error Answer → Book → Prop
  | openOurs (peer : Handle) (reason : String) {id : UInt16} (nonzero : id ≠ 0)
      (free : (peer, id) ∉ b) :
      Step b (.open peer reason .ours) (.ok (.opened id)) (b.insert (peer, id) ⟨reason, true⟩)
  | noneFree (peer : Handle) (reason : String) (taken : ∀ id ≠ 0, (peer, id) ∈ b) :
      Step b (.open peer reason .ours) (.error (.conversation peer 0)) b
  | openTheirs {peer : Handle} (reason : String) {id : UInt16} (free : (peer, id) ∉ b) :
      Step b (.open peer reason (.theirs id)) (.ok (.opened id))
        (b.insert (peer, id) ⟨reason, false⟩)
  | openAgain {peer : Handle} (reason : String) {id : UInt16} {e : Entry}
      (found : b.lookup (peer, id) = some e) (theirs : e.ours = false) :
      Step b (.open peer reason (.theirs id)) (.ok (.opened id)) b
  | inTheWay {peer : Handle} (reason : String) {id : UInt16} {e : Entry}
      (found : b.lookup (peer, id) = some e) (ours : e.ours = true) :
      Step b (.open peer reason (.theirs id)) (.error (.conversation peer id)) b
  | close {scope : Scope} {peer : Handle} {id : UInt16} {e : Entry}
      (found : b.lookup (peer, id) = some e) (covered : scope.covers e.ours = true) :
      Step b (.close scope peer id) (.ok (.closed (.ofEntry (peer, id) e))) (b.erase (peer, id))
  | notOpen {scope : Scope} {peer : Handle} {id : UInt16}
      (uncovered : ∀ e, b.lookup (peer, id) = some e → scope.covers e.ours = false) :
      Step b (.close scope peer id) (.error (.conversation peer id)) b
  | closeAll (peer : Handle) {b' : Book}
      (kept : ∀ k, b'.lookup k = if k.1 = peer then none else b.lookup k) :
      Step b (.closeAll peer) (.ok (.dropped (b.keys.filter (·.1 = peer)).card)) b'

theorem lookup_book (t : Tracker) (k : Handle × UInt16) :
    t.book.lookup k = (t.find? k.1 k.2).map Conversation.entry := by
  rw [book, Finmap.dlookup_list_toFinmap, find?]
  induction t.opened with
  | nil => rfl
  | cons c cs ih =>
    rw [List.map_cons, List.find?_cons]
    by_cases hk : c.key = k
    · subst hk
      simp [List.dlookup_cons_eq, Conversation.key]
    · have hne : (c.peer == k.1 && c.id == k.2) = false := by
        simpa [Conversation.key, Prod.ext_iff] using hk
      rw [List.dlookup_cons_ne _ _ (Ne.symm hk), ih, hne]

theorem Apart.lookup_book_iff (h : t.Apart) {k : Handle × UInt16} {e : Entry} :
    t.book.lookup k = some e ↔ Conversation.ofEntry k e ∈ t.opened := by
  rw [lookup_book, Option.map_eq_some_iff]
  constructor
  · rintro ⟨c, hc, he⟩
    obtain ⟨hmem, hkey⟩ := mem_of_find? hc
    rwa [← Conversation.eq_ofEntry_iff.2 ⟨hkey, he⟩]
  · exact fun hmem => ⟨_, h.find? hmem, rfl⟩

/-- Two trackers have the same map if they have the same conversations. -/
theorem Apart.book_eq (h : t.Apart) (h' : u.Apart) (hmem : ∀ c, c ∈ u.opened ↔ c ∈ t.opened) :
    u.book = t.book := by
  apply Finmap.ext_lookup
  intro k
  apply Option.ext
  intro e
  rw [h.lookup_book_iff, h'.lookup_book_iff, hmem]

theorem Apart.perm (h : t.Apart) (hp : u.opened.Perm t.opened) : u.Apart :=
  (hp.map _).nodup_iff.2 h

theorem mem_book_iff {k : Handle × UInt16} : k ∈ t.book ↔ ∃ c ∈ t.opened, c.key = k := by
  rw [Finmap.mem_iff, ← not_iff_not]
  push Not
  rw [← Option.eq_none_iff_forall_ne_some, lookup_book, Option.map_eq_none_iff, find?_eq_none_iff]

theorem not_mem_book_iff : (peer, id) ∉ t.book ↔ t.find? peer id = none := by
  rw [← Finmap.lookup_eq_none, lookup_book, Option.map_eq_none_iff]

theorem Apart.card_keys (h : t.Apart) : t.book.keys.card = t.size := by
  have hkeys : t.book.keys = (t.opened.map Conversation.key).toFinset := by
    ext k
    rw [Finmap.mem_keys, mem_book_iff, List.mem_toFinset, List.mem_map]
  rw [hkeys, List.toFinset_card_of_nodup h, List.length_map, size]

/-- A conversation under a key that was free is one new entry. -/
theorem Apart.book_append {c : Conversation} (h : t.Apart) (hfree : t.find? c.peer c.id = none)
    (hu : u.opened = t.opened ++ [c]) : u.Apart ∧ u.book = t.book.insert c.key c.entry := by
  have hnew := find?_eq_none_iff.1 hfree
  have hapart := h.append hnew hu
  refine ⟨hapart, Finmap.ext_lookup fun k => ?_⟩
  by_cases hk : k = c.key
  · subst hk
    rw [Finmap.lookup_insert, hapart.lookup_book_iff, hu, Conversation.ofEntry_key]
    simp
  · rw [Finmap.lookup_insert_of_ne _ hk]
    apply Option.ext
    intro e
    rw [h.lookup_book_iff, hapart.lookup_book_iff, hu, List.mem_append, List.mem_singleton]
    refine or_iff_left fun he => hk ?_
    exact (Conversation.eq_ofEntry_iff.1 he.symm).1.symm

/-- Closing what is covered takes out its entry. -/
theorem Apart.book_closeIf {c : Conversation} (h : t.Apart) (hc : t.find? peer id = some c)
    (test : Conversation → Bool) (htest : test c = true) :
    ((Tracker.closeIf peer id test).run t).2.book = t.book.erase (peer, id) := by
  apply Finmap.ext_lookup
  intro k
  apply Option.ext
  intro e
  rw [(h.closeIf peer id test).lookup_book_iff, h.mem_closeIf]
  by_cases hk : k = (peer, id)
  · subst hk
    rw [Finmap.lookup_erase]
    refine iff_of_false (fun ⟨hmem, hnot⟩ => hnot ⟨rfl, ?_⟩) nofun
    obtain ⟨hmemc, hkey⟩ := mem_of_find? hc
    rwa [h.eq hmem hmemc hkey.symm]
  · rw [Finmap.lookup_erase_ne hk, h.lookup_book_iff]
    refine and_iff_left fun ⟨hkey, _⟩ => hk ?_
    exact hkey

/-! ## Each call follows the map -/

structure Inv (t : Tracker) : Prop where
  apart : t.Apart
  next_ne_zero : t.nextId ≠ 0

theorem inv_empty : ({} : Tracker).Inv :=
  ⟨List.nodup_nil, by decide⟩

/-- A call answers as the map has it, and leaves the conversations apart. -/
def Follows (t : Tracker) (c : Call) : Prop :=
  Book.Step t.book c (c.act.run t).1 (c.act.run t).2.book ∧ (c.act.run t).2.Inv

theorem follows_openOurs (h : t.Inv) (peer : Handle) (reason : String) :
    Follows t (.open peer reason .ours) := by
  unfold Follows
  rw [Call.act, Tracker.open, Act.run_map]
  rcases hw : t.walk peer 65535 t.nextId with ⟨_ | id, next⟩
  · have hnext := (walk_ne_zero h.next_ne_zero hw).1
    have hrun : (openOurs peer reason).run t = (.error (.conversation peer 0), { t with nextId := next }) := by
      simp only [openOurs, Act.run, hw]
    rw [hrun]
    refine ⟨.noneFree peer reason fun id hid => ?_, h.apart, hnext⟩
    obtain ⟨n, hn, rfl⟩ := exists_following_iterate h.next_ne_zero hid
    exact not_not.1 fun hfree => walk_none hw n hn (not_mem_book_iff.1 hfree)
  · obtain ⟨hnext, hid⟩ := walk_ne_zero h.next_ne_zero hw
    have hfree := walk_free hw
    have hrun : (openOurs peer reason).run t =
        (.ok id, { opened := t.opened ++ [⟨id, peer, reason, true⟩], nextId := next }) := by
      simp only [openOurs, Act.run, hw]
    rw [hrun]
    obtain ⟨hapart, hbook⟩ := h.apart.book_append (c := ⟨id, peer, reason, true⟩)
      (u := { opened := t.opened ++ [⟨id, peer, reason, true⟩], nextId := next }) hfree rfl
    refine ⟨?_, hapart, hnext⟩
    rw [hbook]
    exact .openOurs peer reason (hid id rfl) (not_mem_book_iff.2 hfree)

theorem follows_openTheirs (h : t.Inv) (peer : Handle) (reason : String) (id : UInt16) :
    Follows t (.open peer reason (.theirs id)) := by
  unfold Follows
  rw [Call.act, Tracker.open, Act.run_map]
  cases hf : t.find? peer id with
  | none =>
    rw [run_openTheirs_free hf]
    obtain ⟨hapart, hbook⟩ := h.apart.book_append (c := ⟨id, peer, reason, false⟩)
      (u := { t with opened := t.opened ++ [⟨id, peer, reason, false⟩] }) hf rfl
    refine ⟨?_, hapart, h.next_ne_zero⟩
    rw [hbook]
    exact .openTheirs reason (not_mem_book_iff.2 hf)
  | some c =>
    have hlook : t.book.lookup (peer, id) = some c.entry := by rw [lookup_book, hf]; rfl
    rw [run_openTheirs_taken hf]
    refine ⟨?_, h⟩
    cases hours : c.ours with
    | true => exact .inTheWay reason hlook hours
    | false => exact .openAgain reason hlook hours

theorem follows_close (h : t.Inv) (scope : Scope) (peer : Handle) (id : UInt16) :
    Follows t (.close scope peer id) := by
  unfold Follows
  rw [Call.act, Act.run_map, scope.close_eq]
  rcases run_closeIf peer id (fun c => scope.covers c.ours) t with
    ⟨c, hc, htest, hrun⟩ | ⟨hnone, hrun⟩
  · have hbook := h.apart.book_closeIf hc (fun c => scope.covers c.ours) htest
    have hapart := h.apart.closeIf peer id fun c => scope.covers c.ours
    rw [hrun] at hbook hapart ⊢
    have hlook : t.book.lookup (peer, id) = some c.entry := by rw [lookup_book, hc]; rfl
    refine ⟨?_, hapart, h.next_ne_zero⟩
    rw [hbook, show c = .ofEntry (peer, id) c.entry from
      Conversation.eq_ofEntry_iff.2 ⟨(mem_of_find? hc).2, rfl⟩]
    exact .close hlook htest
  · rw [hrun]
    refine ⟨.notOpen fun e he => ?_, h⟩
    rw [lookup_book, Option.map_eq_some_iff] at he
    obtain ⟨c, hc, rfl⟩ := he
    exact hnone c hc

theorem follows_closeAll (h : t.Inv) (peer : Handle) : Follows t (.closeAll peer) := by
  unfold Follows
  rw [Call.act, Act.run_map]
  obtain ⟨u, hu⟩ : ∃ u : Tracker, u = { t with opened := t.opened.filter fun c => c.peer != peer } :=
    ⟨_, rfl⟩
  have hrun : (closeAll peer).run t = (.ok (t.size - u.size), u) := by rw [hu]; rfl
  have hmem : ∀ c, c ∈ u.opened ↔ c ∈ t.opened ∧ c.peer ≠ peer := fun c => by simp [hu]
  have hapart : u.Apart := by
    rw [hu]
    exact (List.filter_sublist.map _).nodup h.apart
  have hkept : ∀ k, u.book.lookup k = if k.1 = peer then none else t.book.lookup k := by
    intro k
    apply Option.ext
    intro e
    rw [hapart.lookup_book_iff, hmem]
    split
    · next hk => exact iff_of_false (fun hc => hc.2 hk) nofun
    · next hk => rw [h.apart.lookup_book_iff]; exact and_iff_left hk
  have hkeys : u.book.keys = t.book.keys.filter fun k => ¬ k.1 = peer := by
    ext k
    rw [Finset.mem_filter, Finmap.mem_keys, Finmap.mem_keys, ← Finmap.lookup_isSome, hkept,
      ← Finmap.lookup_isSome]
    split <;> simp_all
  have hcount : t.size - u.size = (t.book.keys.filter (·.1 = peer)).card := by
    have hsum := t.book.keys.card_filter_add_card_filter_not (·.1 = peer)
    rw [← hkeys, hapart.card_keys, h.apart.card_keys] at hsum
    omega
  rw [hrun]
  refine ⟨?_, hapart, by rw [hu]; exact h.next_ne_zero⟩
  rw [hcount]
  exact .closeAll peer hkept

theorem follows (h : t.Inv) (c : Call) : Follows t c := by
  cases c with
  | «open» peer reason origin =>
    cases origin with
    | ours => exact follows_openOurs h peer reason
    | theirs id => exact follows_openTheirs h peer reason id
  | close scope peer id => exact follows_close h scope peer id
  | closeAll peer => exact follows_closeAll h peer

theorem book_step (h : t.Inv) {c : Call} {r : Except Error Answer} (hs : Step t c r u) :
    Book.Step t.book c r u.book ∧ u.Inv := by
  obtain ⟨t', hrun, hperm, hnext⟩ := hs
  obtain ⟨hstep, hinv⟩ := follows h c
  rw [hrun] at hstep hinv
  have hapart := hinv.apart.perm hperm
  rw [hinv.apart.book_eq hapart fun c => hperm.mem_iff]
  exact ⟨hstep, hapart, hnext ▸ hinv.next_ne_zero⟩

/-- Whatever calls are made on a new tracker, they answer as they would on a finite map. What is found
and counted is what this map holds. -/
theorem trace_book {tr : List (Call × Except Error Answer)} {t : Tracker} (h : Trace Step {} tr t) :
    Trace Book.Step ∅ tr t.book ∧ t.Apart ∧
      (∀ peer id, t.find? peer id = (t.book.lookup (peer, id)).map (.ofEntry (peer, id))) ∧
      t.size = t.book.keys.card := by
  have hmain : Trace Book.Step ∅ tr t.book ∧ t.Inv := by
    induction h with
    | nil => exact ⟨.nil, inv_empty⟩
    | snoc _ hs ih =>
      obtain ⟨hstep, hinv⟩ := book_step ih.2 hs
      exact ⟨.snoc ih.1 hstep, hinv⟩
  obtain ⟨htrace, hinv⟩ := hmain
  refine ⟨htrace, hinv.apart, fun peer id => ?_, hinv.apart.card_keys.symm⟩
  rw [lookup_book]
  cases hf : t.find? peer id with
  | none => rfl
  | some c => exact congrArg some (Conversation.eq_ofEntry_iff.2 ⟨(mem_of_find? hf).2, rfl⟩)

/-- The peer comes with a number of this node, then twice with one of its own; closing moves the last
conversation to the front. -/
theorem crossing_calls :
    let tr : List (Call × Except Error Answer) :=
      [(.open ⟨1⟩ "ping" .ours, .ok (.opened 1)),
        (.open ⟨1⟩ "ask" (.theirs 1), .error (.conversation ⟨1⟩ 1)),
        (.open ⟨1⟩ "ask" (.theirs 2), .ok (.opened 2)),
        (.open ⟨1⟩ "again" (.theirs 2), .ok (.opened 2)),
        (.open ⟨2⟩ "ping" .ours, .ok (.opened 2)),
        (.close .ours ⟨1⟩ 1, .ok (.closed ⟨1, ⟨1⟩, "ping", true⟩))]
    let t : Tracker := { opened := [⟨2, ⟨2⟩, "ping", true⟩, ⟨2, ⟨1⟩, "ask", false⟩], nextId := 3 }
    Trace Step {} tr t ∧ Trace Book.Step ∅ tr t.book ∧ t.book.keys.card = 2 ∧
      t.book.lookup (⟨1⟩, 2) = some ⟨"ask", false⟩ := by
  intro tr t
  have htrace : Trace Step {} tr t := by
    refine .snoc (.snoc (.snoc (.snoc (.snoc (.snoc .nil ⟨_, rfl, .refl _, rfl⟩)
      ⟨_, rfl, .refl _, rfl⟩) ⟨_, rfl, .refl _, rfl⟩) ⟨_, rfl, .refl _, rfl⟩) ⟨_, rfl, .refl _, rfl⟩)
      ⟨{ t with opened := t.opened.reverse }, rfl, .swap _ _ _, rfl⟩
  obtain ⟨hbook, -, hfind, hsize⟩ := trace_book htrace
  refine ⟨htrace, hbook, hsize.symm, ?_⟩
  obtain ⟨e, he, hc⟩ := Option.map_eq_some_iff.1
    ((hfind ⟨1⟩ 2).symm.trans (show _ = some ⟨2, ⟨1⟩, "ask", false⟩ from rfl))
  rw [he, ← (Conversation.eq_ofEntry_iff.1 hc.symm).2]
  rfl

end Tracker

end Multilink
