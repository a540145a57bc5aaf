import Mathlib
import RealtimeClient.Proofs.Socket.Operations

/-!
# Replies find their callbacks

An event that waits for a reply is sent with an id, and the reply comes back with the same id, if it
comes, and if it is not repeated or made up.  What holds the two together over a socket's whole life
is the history of the ids: they are counted up and never start again, so that an id stands for one
emitted event, and the callbacks that wait are those of the ids which were given out and neither
answered nor ended since.

* `issuedIds`, `answeredIds` — the ids that emitted events got, and those that callbacks were
  answered under.
* `Waits` — what it is for a callback to wait, told by the history alone.
* `issuedIds_new`, `issuedIds_sorted` — ids count the events.
* `lookup_iff_waits` — the table of a socket is the history's.
* `answeredIds_nodup` — no callback is answered twice.
* `Correlates`, `replies_correlate` — all of it, over any life of a socket.
-/

namespace RealtimeClient

/-- Whether a callback got a reply. -/
def Notice.isReply : Notice → Bool
  | .reply .. => true
  | _ => false

namespace Socket

variable {s : Socket} {op : Operation} {id : UInt64} {label : Label}
variable {ns : String} {ops more : List Operation}

/-! ## The history of the ids -/

/-- **The ids of the emitted events that wait for a reply**, in order. -/
def issuedIds (s : Socket) : List Operation → List UInt64
  | [] => []
  | op :: ops => (s.issued? op).toList ++ issuedIds (s.step op).1 ops

/-- The id of the packet with which an operation gave a reply to a callback. -/
def answered? (s : Socket) : Operation → Option UInt64
  | .receive p => if (s.receive p).2.notices.any Notice.isReply then p.id else none
  | _ => none

/-- **The ids under which callbacks got replies**, in order. -/
def answeredIds (s : Socket) : List Operation → List UInt64
  | [] => []
  | op :: ops => (s.answered? op).toList ++ answeredIds (s.step op).1 ops

/-- **A callback waits for the reply with an id**: its event was emitted with this id, and since
then neither did such a reply come nor was there a final end. -/
def Waits (ns : String) (ops : List Operation) (id : UInt64) (label : Label) : Prop :=
  ∃ before name args between,
    ops = before ++ .emit name args (some label) :: between ∧
    ((new ns).after before).issued? (.emit name args (some label)) = some id ∧
    ∀ op ∈ between, op.isFinal = false ∧ op.answers id = false

theorem issuedIds_append (s : Socket) (ops more : List Operation) :
    s.issuedIds (ops ++ more) = s.issuedIds ops ++ (s.after ops).issuedIds more := by
  induction ops generalizing s with
  | nil => rfl
  | cons op ops ih =>
    rw [List.cons_append, issuedIds, issuedIds, ih, List.append_assoc]
    rfl

theorem issuedIds_concat (s : Socket) (ops : List Operation) (op : Operation) :
    s.issuedIds (ops ++ [op]) = s.issuedIds ops ++ ((s.after ops).issued? op).toList := by
  rw [issuedIds_append, issuedIds, issuedIds, List.append_nil]

theorem answeredIds_concat (s : Socket) (ops : List Operation) (op : Operation) :
    s.answeredIds (ops ++ [op]) = s.answeredIds ops ++ ((s.after ops).answered? op).toList := by
  induction ops generalizing s with
  | nil => simp only [List.nil_append, answeredIds, List.append_nil, after_nil]
  | cons first ops ih =>
    rw [List.cons_append, answeredIds, answeredIds, ih, List.append_assoc]
    rfl

/-- A callback begins to wait with its event, and waits on as long as nothing ends that. -/
theorem waits_concat :
    Waits ns (ops ++ [op]) id label ↔
      (op.reply? = some label ∧ ((new ns).after ops).issued? op = some id) ∨
      (Waits ns ops id label ∧ op.isFinal = false ∧ op.answers id = false) := by
  constructor
  · rintro ⟨before, name, args, between, hops, hid, hbetween⟩
    rcases List.eq_nil_or_concat between with rfl | ⟨between, last, rfl⟩
    · obtain ⟨rfl, hop⟩ := List.append_inj' hops rfl
      obtain rfl : op = _ := List.singleton_inj.1 hop
      exact .inl ⟨rfl, hid⟩
    · rw [List.concat_eq_append, ← List.cons_append, ← List.append_assoc] at hops
      obtain ⟨rfl, hop⟩ := List.append_inj' hops rfl
      obtain rfl : op = last := List.singleton_inj.1 hop
      refine .inr ⟨⟨before, name, args, between, rfl, hid, fun o ho => ?_⟩, ?_⟩
      · exact hbetween o (by simp [ho])
      · exact hbetween op (by simp)
  · rintro (⟨hlabel, hid⟩ | ⟨⟨before, name, args, between, rfl, hid, hbetween⟩, hlast⟩)
    · cases op with
      | emit name args reply =>
        obtain rfl : reply = some label := hlabel
        exact ⟨ops, name, args, [], rfl, hid, by simp⟩
      | requestOn | receive | leave | disconnect | on | off | offAll | setErrorListener | setAuth =>
        cases hlabel
    · refine ⟨before, name, args, between ++ [op], by simp, hid, fun o ho => ?_⟩
      rcases List.mem_append.1 ho with ho | ho
      · exact hbetween o ho
      · rw [List.mem_singleton.1 ho]
        exact hlast

theorem Waits.mem_issuedIds (h : Waits ns ops id label) : id ∈ (new ns).issuedIds ops := by
  obtain ⟨before, name, args, between, rfl, hid, -⟩ := h
  rw [issuedIds_append, issuedIds, hid]
  simp

/-! ## Ids are not used again -/

/-- **Ids count the events that wait for a reply**, whatever else is done. -/
theorem issuedIds_new (ns : String) (ops : List Operation) :
    (new ns).issuedIds ops =
      (List.range (ops.countP Operation.wantsReply)).map UInt64.ofNat := by
  induction ops using List.reverseRecOn with
  | nil => rfl
  | append_singleton ops op ih =>
    rw [issuedIds_concat, ih, issued?_eq, nextId_after, List.countP_append, List.countP_singleton]
    split_ifs with h
    · rw [List.range_succ, List.map_append]
      rfl
    · exact List.append_nil _

/-- **Ids increase** as long as they can be counted. -/
theorem issuedIds_sorted (hfew : ops.countP Operation.wantsReply < 2 ^ 64) :
    ((new ns).issuedIds ops).Pairwise (· < ·) := by
  rw [issuedIds_new, List.pairwise_map]
  refine List.pairwise_lt_range.imp_of_mem fun {i j} _ hj hij => ?_
  have hj' : j < 2 ^ 64 := (List.mem_range.1 hj).trans hfew
  rw [UInt64.lt_iff_toNat_lt, UInt64.toNat_ofNat_of_lt' (hij.trans hj'),
    UInt64.toNat_ofNat_of_lt' hj']
  exact hij

theorem few_of_concat (hfew : (ops ++ [op]).countP Operation.wantsReply < 2 ^ 64) :
    ops.countP Operation.wantsReply < 2 ^ 64 := by
  rw [List.countP_append] at hfew
  exact (Nat.le_add_right _ _).trans_lt hfew

/-- The id of an event is none of those before. -/
theorem not_mem_issuedIds (hfew : (ops ++ [op]).countP Operation.wantsReply < 2 ^ 64)
    (hid : ((new ns).after ops).issued? op = some id) : id ∉ (new ns).issuedIds ops := by
  intro hmem
  have hsorted : ((new ns).issuedIds (ops ++ [op])).Pairwise (· < ·) := issuedIds_sorted hfew
  rw [issuedIds_concat, hid, List.pairwise_append] at hsorted
  exact UInt64.lt_irrefl id (hsorted.2.2 id hmem id (by simp))

/-! ## The table of callbacks -/

/-- **The callbacks in a socket's table are those that wait**, each under the id of its event. -/
theorem lookup_iff_waits (hfew : ops.countP Operation.wantsReply < 2 ^ 64) :
    ((new ns).after ops).waiting.lookup id = some label ↔ Waits ns ops id label := by
  induction ops using List.reverseRecOn with
  | nil =>
    constructor
    · intro h
      cases h
    · rintro ⟨before, name, args, between, h, -⟩
      simp at h
  | append_singleton ops op ih =>
    rw [after_concat, lookup_step, waits_concat, ← ih (few_of_concat hfew)]
    cases hissued : ((new ns).after ops).issued? op with
    | none => cases op.isFinal <;> cases op.answers id <;> simp
    | some key =>
      -- the event's id is fresh, and emitting it takes no callback away
      obtain ⟨name, args, first, rfl⟩ := emits_of_issued hissued
      by_cases hkey : key = id
      · subst hkey
        have hold : ((new ns).after ops).waiting.lookup key ≠ some label := fun h =>
          not_mem_issuedIds hfew hissued ((ih (few_of_concat hfew)).1 h).mem_issuedIds
        simp [Operation.isFinal, Operation.reply?, hold]
      · simp [Operation.isFinal, Operation.reply?, Operation.answers, hkey]

/-! ## Replies -/

theorem receiveEvent_notices {p : Packet} {n : Notice} (hn : n ∈ (s.receiveEvent p).notices) :
    n.isReply = false := by
  unfold receiveEvent at hn
  split at hn
  · split at hn
    · cases hn
    · obtain rfl := List.mem_singleton.1 hn
      rfl
  · cases hn

theorem receiveRefusal_notices {p : Packet} {n : Notice} (hn : n ∈ (s.receiveRefusal p).2.notices) :
    n.isReply = false := by
  obtain ⟨label, -, rfl⟩ := List.mem_map.1 hn
  rfl

theorem requestOn_notices (s : Socket) (revision : Revision) :
    (s.requestOn revision).2.notices = [] := by
  unfold requestOn
  split_ifs <;> rfl

/-- **Only a reply is handed to a callback**: the callback that waits under its id gets its payload. -/
theorem reply_of_notice {n : Notice} (hn : n ∈ (s.step op).2.notices) (hreply : n.isReply = true) :
    ∃ p id label, op = .receive p ∧ p.kind.isAck = true ∧ p.id = some id ∧
      s.waiting.lookup id = some label ∧ n = .reply s.ns label p.payload := by
  cases op with
  | receive p =>
    change n ∈ (s.receive p).2.notices at hn
    cases hk : p.kind with
    | ack | binaryAck =>
      have hack : p.kind.isAck = true := by rw [hk]; rfl
      rw [receive_of_isAck hack] at hn
      cases hp : p.id with
      | none =>
        rw [receiveAck_of_id_none hp] at hn
        cases hn
      | some id =>
        cases hl : s.waiting.lookup id with
        | none =>
          rw [receiveAck_of_lookup_none hp hl] at hn
          cases hn
        | some label =>
          rw [receiveAck_of_lookup_some hp hl] at hn
          exact ⟨p, id, label, rfl, hack, hp, hl, List.mem_singleton.1 hn⟩
    | event | binaryEvent =>
      simp only [receive, hk] at hn
      rw [receiveEvent_notices hn] at hreply
      cases hreply
    | connectError =>
      simp only [receive, hk] at hn
      rw [receiveRefusal_notices hn] at hreply
      cases hreply
    | connect | disconnect =>
      simp only [receive, hk] at hn
      cases hn
  | requestOn revision =>
    change n ∈ (s.requestOn revision).2.notices at hn
    rw [requestOn_notices] at hn
    cases hn
  | emit | leave | disconnect | on | off | offAll | setErrorListener | setAuth => cases hn

/-- An operation answers the callback that it gives a reply to, while it waits. -/
theorem answered?_spec (h : s.answered? op = some id) :
    op.answers id = true ∧ ∃ label, s.waiting.lookup id = some label := by
  cases op with
  | receive p =>
    simp only [answered?] at h
    split_ifs at h with hany
    obtain ⟨n, hn, hreply⟩ := List.any_eq_true.1 hany
    have hstep : n ∈ (s.step (.receive p)).2.notices := hn
    obtain ⟨q, key, label, hq, hack, hkey, hlabel, -⟩ := reply_of_notice hstep hreply
    cases hq
    obtain rfl : key = id := by rwa [hkey, Option.some.injEq] at h
    exact ⟨by simp [Operation.answers, hack, hkey], label, hlabel⟩
  | emit | requestOn | leave | disconnect | on | off | offAll | setErrorListener | setAuth => cases h

theorem not_issued_of_answers (h : op.answers id = true) : s.issued? op = none := by
  cases op with
  | receive p => rfl
  | emit | requestOn | leave | disconnect | on | off | offAll | setErrorListener | setAuth => cases h

/-! ## No callback is answered twice -/

theorem mem_issuedIds_of_mem_answeredIds (hfew : ops.countP Operation.wantsReply < 2 ^ 64)
    (hid : id ∈ (new ns).answeredIds ops) : id ∈ (new ns).issuedIds ops := by
  induction ops using List.reverseRecOn with
  | nil => cases hid
  | append_singleton ops op ih =>
    rw [issuedIds_concat]
    rw [answeredIds_concat] at hid
    refine List.mem_append_left _ ?_
    rcases List.mem_append.1 hid with hid | hid
    · exact ih (few_of_concat hfew) hid
    · obtain ⟨-, label, hlabel⟩ := answered?_spec (Option.mem_toList.1 hid)
      exact ((lookup_iff_waits (few_of_concat hfew)).1 hlabel).mem_issuedIds

/-- **What was answered waits no more**, ever: its id is not given out again. -/
theorem lookup_of_mem_answeredIds (hfew : ops.countP Operation.wantsReply < 2 ^ 64)
    (hid : id ∈ (new ns).answeredIds ops) : ((new ns).after ops).waiting.lookup id = none := by
  induction ops using List.reverseRecOn with
  | nil => cases hid
  | append_singleton ops op ih =>
    rw [after_concat, lookup_step]
    rw [answeredIds_concat] at hid
    rcases List.mem_append.1 hid with hid | hid
    · have hissued : ((new ns).after ops).issued? op ≠ some id := fun h =>
        not_mem_issuedIds hfew h (mem_issuedIds_of_mem_answeredIds (few_of_concat hfew) hid)
      rw [if_neg hissued, ih (few_of_concat hfew) hid, ite_self, ite_self]
    · have hanswers := (answered?_spec (Option.mem_toList.1 hid)).1
      simp [not_issued_of_answers hanswers, hanswers]

theorem answeredIds_nodup (hfew : ops.countP Operation.wantsReply < 2 ^ 64) :
    ((new ns).answeredIds ops).Nodup := by
  induction ops using List.reverseRecOn with
  | nil => exact List.nodup_nil
  | append_singleton ops op ih =>
    rw [answeredIds_concat, List.nodup_append']
    refine ⟨ih (few_of_concat hfew), Option.toList_nodup _, fun id hid hnew => ?_⟩
    obtain ⟨-, label, hlabel⟩ := answered?_spec (Option.mem_toList.1 hnew)
    rw [lookup_of_mem_answeredIds (few_of_concat hfew) hid] at hlabel
    cases hlabel

/-! ## The law of replies -/

/-- **Replies find the callbacks they are for**, in a socket's life so far and in the next step. -/
structure Correlates (ns : String) (ops : List Operation) : Prop where
  /-- The ids of events increase, so that none is used again. -/
  fresh : ((new ns).issuedIds ops).Pairwise (· < ·)
  /-- No callback is answered twice. -/
  once : ((new ns).answeredIds ops).Nodup
  /-- A reply with the id of a waiting callback is handed to it, and it waits no more. -/
  answered : ∀ p id label, p.kind.isAck = true → p.id = some id → Waits ns ops id label →
    ((new ns).after ops).step (.receive p) =
      ({ (new ns).after ops with
          waiting := ((new ns).after ops).waiting.filter fun w => w.1 ≠ id },
        { notices := [.reply ns label p.payload] })
  /-- Any other reply changes nothing and is not reported. -/
  ignored : ∀ p, p.kind.isAck = true →
    (∀ id label, p.id = some id → ¬Waits ns ops id label) →
    ((new ns).after ops).step (.receive p) = ((new ns).after ops, {})
  /-- Nothing else is ever handed to a callback. -/
  only : ∀ op n, n ∈ (((new ns).after ops).step op).2.notices → n.isReply = true →
    ∃ p id label, op = .receive p ∧ p.kind.isAck = true ∧ p.id = some id ∧
      Waits ns ops id label ∧ n = .reply ns label p.payload
  /-- The callbacks that wait are exactly those in the socket's table. -/
  table : ∀ id label,
    ((new ns).after ops).waiting.lookup id = some label ↔ Waits ns ops id label
  /-- A connection that is lost, but not for good, keeps every callback. -/
  keptByLoss : (((new ns).after ops).disconnect false).waiting = ((new ns).after ops).waiting
  /-- So does a refusal of the namespace. -/
  keptByRefusal : ∀ p, p.kind = .connectError →
    (((new ns).after ops).receive p).1.waiting = ((new ns).after ops).waiting

/-- **Replies are correlated with their events over any life of a socket** in which the events that
wait for a reply can be counted. -/
theorem replies_correlate (ns : String) (ops : List Operation)
    (hfew : ops.countP Operation.wantsReply < 2 ^ 64) : Correlates ns ops where
  fresh := issuedIds_sorted hfew
  once := answeredIds_nodup hfew
  answered := by
    intro p id label hack hp hwaits
    have hlookup := (lookup_iff_waits hfew).2 hwaits
    have hns : ((new ns).after ops).ns = ns := after_ns _ _
    show ((new ns).after ops).receive p = _
    rw [receive_of_isAck hack, receiveAck_of_lookup_some hp hlookup]
    exact Prod.ext rfl (by rw [hns])
  ignored := by
    intro p hack hnone
    show ((new ns).after ops).receive p = _
    rw [receive_of_isAck hack]
    cases hp : p.id with
    | none => exact receiveAck_of_id_none hp
    | some id =>
      refine receiveAck_of_lookup_none hp (Option.eq_none_iff_forall_ne_some.2 fun label h => ?_)
      exact hnone id label hp ((lookup_iff_waits hfew).1 h)
  only := by
    intro op n hn hreply
    obtain ⟨p, id, label, hop, hack, hp, hlookup, heq⟩ := reply_of_notice hn hreply
    refine ⟨p, id, label, hop, hack, hp, (lookup_iff_waits hfew).1 hlookup, ?_⟩
    rw [heq, after_ns]
    rfl
  table := fun _ _ => lookup_iff_waits hfew
  keptByLoss := rfl
  keptByRefusal := by
    intro p hp
    simp only [receive, hp]
    rfl

/-- A life with a lost connection, a repeated and a made-up reply, a final end, and a reply that
comes too late: three events, of which one is answered. -/
theorem replies_correlate_example :
    let reply (id : UInt64) : Operation := .receive (.ack "/chat" id [])
    let ops : List Operation :=
      [.requestOn .v4, .emit "a" [] (some 7), .receive (.connect "/chat" none),
        .emit "b" [] (some 7), .disconnect false, reply 1, reply 1, reply 9, .leave,
        reply 0, .emit "c" [] (some 8)]
    Correlates "/chat" ops ∧ (new "/chat").issuedIds ops = [0, 1, 2] ∧
      (new "/chat").answeredIds ops = [1] :=
  ⟨replies_correlate _ _ (by decide), by decide, by decide⟩

end Socket

end RealtimeClient
