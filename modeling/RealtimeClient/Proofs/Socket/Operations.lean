import Mathlib
import RealtimeClient.Proofs.Dict
import RealtimeClient.Socket

/-!
# What is done with a socket

A socket is used by the application, which emits, listens and leaves, and by the client's task,
which opens the session, hands over packets and tells of lost connections.  A life of a socket is a
list of such operations, in the order in which they got hold of its state.

* `Operation`, `step` — one operation, and what it makes of a socket.
* `Operation.reply?`, `Operation.isFinal`, `Operation.answers` — what an operation means for the
  callbacks that wait for a reply.
* `issued?` — the id that an emitted event gets.
* `nextId_step`, `lookup_step` — what one operation makes of the ids and of the waiting callbacks.
* `after` — a run.
-/

namespace RealtimeClient.Socket

/-- **What is done with a socket.** -/
inductive Operation
  | emit (name : String) (args : List Value) (reply : Option Label)
  | requestOn (revision : Revision)
  | receive (p : Packet)
  | leave
  | disconnect (final : Bool)
  | on (name : String) (listener : Listener)
  | off (name : String)
  | offAll
  | setErrorListener (label : Option Label)
  | setAuth (auth : Value)

namespace Operation

/-- The callback that an operation registers for the reply to its event. -/
def reply? : Operation → Option Label
  | .emit _ _ reply => reply
  | _ => none

/-- Whether an operation emits an event that waits for a reply. -/
def wantsReply (op : Operation) : Bool := op.reply?.isSome

/-- **Whether nothing waits any more after an operation**: the application leaves, the connection is
gone for good, or the server closes the namespace. -/
def isFinal : Operation → Bool
  | .leave => true
  | .disconnect final => final
  | .receive p => p.kind = .disconnect
  | _ => false

/-- Whether an operation is the coming of a reply to the event with an id. -/
def answers (id : UInt64) : Operation → Bool
  | .receive p => p.kind.isAck && p.id = some id
  | _ => false

end Operation

/-- **One operation**, and what follows for the client. -/
def step (s : Socket) : Operation → Socket × Outcome
  | .emit name args reply =>
    ((s.emit name args reply).1, { outbound := (s.emit name args reply).2.toList })
  | .requestOn revision => s.requestOn revision
  | .receive p => s.receive p
  | .leave => (s.leave.1, { outbound := s.leave.2 })
  | .disconnect final => (s.disconnect final, {})
  | .on name listener => (s.on name listener, {})
  | .off name => (s.off name, {})
  | .offAll => (s.offAll, {})
  | .setErrorListener label => ({ s with errorListener := label }, {})
  | .setAuth auth => ({ s with auth := some auth }, {})

/-- The id that an operation gives to the event it emits. -/
def issued? (s : Socket) : Operation → Option UInt64
  | .emit name args reply => (s.prepare name args reply).2.id
  | _ => none

variable {s : Socket} {op : Operation} {id : UInt64} {label : Label}

/-! ## One operation -/

@[simp] theorem prepare_none (s : Socket) (name : String) (args : List Value) :
    s.prepare name args none = (s, .event s.ns name args) := rfl

@[simp] theorem prepare_some (s : Socket) (name : String) (args : List Value) (label : Label) :
    s.prepare name args (some label) =
      ({ s with nextId := s.nextId + 1, waiting := await s.waiting s.nextId label },
        (Packet.event s.ns name args).withId s.nextId) := rfl

/-- An emitted event is handed out, or it is the last in the queue. -/
theorem emit_eq (s : Socket) (name : String) (args : List Value) (reply : Option Label) :
    s.emit name args reply =
      if s.connected then
        ((s.prepare name args reply).1, some (s.prepare name args reply).2)
      else
        ({ (s.prepare name args reply).1 with
            queue := s.queue ++ [(s.prepare name args reply).2] }, none) := by
  cases reply <;> rfl

@[simp] theorem requestOn_nextId (s : Socket) (revision : Revision) :
    (s.requestOn revision).1.nextId = s.nextId := by
  unfold requestOn
  split_ifs <;> rfl

@[simp] theorem requestOn_waiting (s : Socket) (revision : Revision) :
    (s.requestOn revision).1.waiting = s.waiting := by
  unfold requestOn
  split_ifs <;> rfl

@[simp] theorem requestOn_ns (s : Socket) (revision : Revision) :
    (s.requestOn revision).1.ns = s.ns := by
  unfold requestOn
  split_ifs <;> rfl

theorem receiveAck_of_id_none {p : Packet} (h : p.id = none) : s.receiveAck p = (s, {}) := by
  simp only [receiveAck, h]

theorem receiveAck_of_lookup_none {p : Packet} (hp : p.id = some id)
    (h : s.waiting.lookup id = none) : s.receiveAck p = (s, {}) := by
  simp only [receiveAck, hp, h]

theorem receiveAck_of_lookup_some {p : Packet} (hp : p.id = some id)
    (h : s.waiting.lookup id = some label) :
    s.receiveAck p =
      ({ s with waiting := s.waiting.filter fun w => w.1 ≠ id },
        { notices := [.reply s.ns label p.payload] }) := by
  simp only [receiveAck, hp, h]

/-- **Both kinds of reply are received in one way.** -/
theorem receive_of_isAck {p : Packet} (h : p.kind.isAck = true) :
    s.receive p = s.receiveAck p := by
  cases hk : p.kind <;> simp_all [receive, PacketKind.isAck]

theorem receiveAck_nextId (s : Socket) (p : Packet) : (s.receiveAck p).1.nextId = s.nextId := by
  unfold receiveAck
  split
  · rfl
  · split <;> rfl

theorem receiveAck_ns (s : Socket) (p : Packet) : (s.receiveAck p).1.ns = s.ns := by
  unfold receiveAck
  split
  · rfl
  · split <;> rfl

@[simp] theorem receive_nextId (s : Socket) (p : Packet) : (s.receive p).1.nextId = s.nextId := by
  unfold receive
  split <;> first | rfl | exact receiveAck_nextId s p

@[simp] theorem receive_ns (s : Socket) (p : Packet) : (s.receive p).1.ns = s.ns := by
  unfold receive
  split <;> first | rfl | exact receiveAck_ns s p

theorem confirm_lifecycle (s : Socket) : s.confirm.2.lifecycle ≠ some .disconnected := by
  rw [confirm]
  dsimp only
  split <;> simp

theorem requestOn_lifecycle (s : Socket) (revision : Revision) :
    (s.requestOn revision).2.lifecycle ≠ some .disconnected := by
  unfold requestOn
  split_ifs
  · simp
  · exact confirm_lifecycle s
  · simp

/-- Asking for a namespace holds the queue, or gives it out as a whole. -/
theorem requestOn_queue (s : Socket) (revision : Revision) :
    s.queue <+: (s.requestOn revision).1.queue ∨ (s.requestOn revision).2.outbound = s.queue := by
  unfold requestOn
  split_ifs
  · exact .inl List.prefix_rfl
  · exact .inr rfl
  · exact .inl List.prefix_rfl

/-- Only the server's closing of the namespace ends a socket's standing. -/
theorem receive_lifecycle (s : Socket) {p : Packet} (h : p.kind ≠ .disconnect) :
    (s.receive p).2.lifecycle ≠ some .disconnected := by
  cases hk : p.kind with
  | disconnect => exact absurd hk h
  | connect =>
    simp only [receive, hk]
    exact confirm_lifecycle s
  | event | binaryEvent =>
    simp only [receive, hk, receiveEvent]
    split
    · split <;> simp
    · simp
  | ack | binaryAck =>
    simp only [receive, hk, receiveAck]
    split
    · simp
    · split <;> simp
  | connectError => simp [receive, hk, receiveRefusal]

@[simp] theorem emit_ns (s : Socket) (name : String) (args : List Value) (reply : Option Label) :
    (s.emit name args reply).1.ns = s.ns := by
  rw [emit_eq]
  cases reply <;> split_ifs <;> rfl

@[simp] theorem step_ns (s : Socket) (op : Operation) : (s.step op).1.ns = s.ns := by
  cases op with
  | emit name args reply => exact emit_ns s name args reply
  | requestOn revision => exact requestOn_ns s revision
  | receive p => exact receive_ns s p
  | leave | disconnect | on | off | offAll | setErrorListener | setAuth => rfl

theorem emit_waiting (s : Socket) (name : String) (args : List Value) (reply : Option Label) :
    (s.emit name args reply).1.waiting = (s.prepare name args reply).1.waiting := by
  rw [emit_eq]
  split_ifs <;> rfl

theorem emit_nextId (s : Socket) (name : String) (args : List Value) (reply : Option Label) :
    (s.emit name args reply).1.nextId = (s.prepare name args reply).1.nextId := by
  rw [emit_eq]
  split_ifs <;> rfl

/-- **An event that waits for a reply gets the next id.** -/
theorem issued?_eq (s : Socket) (op : Operation) :
    s.issued? op = if op.wantsReply then some s.nextId else none := by
  cases op with
  | emit name args reply => cases reply <;> rfl
  | requestOn | receive | leave | disconnect | on | off | offAll | setErrorListener | setAuth => rfl

theorem emits_of_issued (h : s.issued? op = some id) :
    ∃ name args label, op = .emit name args (some label) := by
  cases op with
  | emit name args reply =>
    cases reply with
    | none => cases h
    | some label => exact ⟨name, args, label, rfl⟩
  | requestOn | receive | leave | disconnect | on | off | offAll | setErrorListener | setAuth =>
    cases h

/-- **Ids are counted up**, and nothing counts them down. -/
theorem nextId_step (s : Socket) (op : Operation) :
    (s.step op).1.nextId = if op.wantsReply then s.nextId + 1 else s.nextId := by
  cases op with
  | emit name args reply =>
    show (s.emit name args reply).1.nextId = _
    rw [emit_nextId]
    cases reply <;> rfl
  | requestOn revision => exact requestOn_nextId s revision
  | receive p => exact receive_nextId s p
  | leave | disconnect | on | off | offAll | setErrorListener | setAuth => rfl

/-! ## Waiting callbacks -/

theorem lookup_await (waiting : List (UInt64 × Label)) (id key : UInt64) (label : Label) :
    (await waiting id label).lookup key =
      if key = id then some label else waiting.lookup key := by
  rw [await, List.lookup_append, Dict.lookup_filter_ne, List.lookup_cons, List.lookup_nil]
  by_cases h : key = id
  · rw [if_pos h, if_pos h, h, beq_self_eq_true, Option.none_or]
  · rw [if_neg h, if_neg h, beq_false_of_ne h, Option.or_none]

/-- A reply takes away the callback with its id and no other. -/
theorem lookup_receiveAck (s : Socket) (p : Packet) (id : UInt64) :
    (s.receiveAck p).1.waiting.lookup id =
      if p.id = some id then none else s.waiting.lookup id := by
  cases hp : p.id with
  | none => rw [receiveAck_of_id_none hp, if_neg (by simp)]
  | some key =>
    cases hk : s.waiting.lookup key with
    | none =>
      rw [receiveAck_of_lookup_none hp hk]
      by_cases h : key = id
      · rw [if_pos (by rw [h]), ← h, hk]
      · rw [if_neg (by simpa using h)]
    | some label =>
      rw [receiveAck_of_lookup_some hp hk, Dict.lookup_filter_ne]
      simp only [Option.some.injEq, eq_comm]

/-- **What an operation makes of the waiting callbacks.**  A final end takes them all, an emitted
event adds its own, a reply takes the one with its id, and everything else keeps them. -/
theorem lookup_step (s : Socket) (op : Operation) (id : UInt64) :
    (s.step op).1.waiting.lookup id =
      if op.isFinal then none
      else if s.issued? op = some id then op.reply?
      else if op.answers id then none
      else s.waiting.lookup id := by
  cases op with
  | emit name args reply =>
    show (s.emit name args reply).1.waiting.lookup id = _
    rw [emit_waiting]
    cases reply with
    | none => simp [issued?_eq, Operation.isFinal, Operation.wantsReply, Operation.reply?,
        Operation.answers]
    | some label =>
      simp only [prepare_some, lookup_await]
      simp [issued?_eq, Operation.isFinal, Operation.wantsReply, Operation.reply?,
        Operation.answers, eq_comm]
  | receive p =>
    show (s.receive p).1.waiting.lookup id = _
    rw [issued?_eq]
    cases hk : p.kind with
    | ack | binaryAck =>
      rw [receive_of_isAck (by rw [hk]; rfl), lookup_receiveAck]
      simp [Operation.isFinal, Operation.wantsReply, Operation.reply?, Operation.answers, hk,
        PacketKind.isAck]
    | disconnect =>
      simp [receive, hk, Operation.isFinal, reset]
    | connect | event | binaryEvent | connectError =>
      simp [receive, hk, Operation.isFinal, Operation.wantsReply, Operation.reply?,
        Operation.answers, PacketKind.isAck, confirm, receiveRefusal, reset]
  | requestOn revision =>
    show (s.requestOn revision).1.waiting.lookup id = _
    rw [requestOn_waiting]
    rfl
  | disconnect final => cases final <;> rfl
  | leave | on | off | offAll | setErrorListener | setAuth => rfl

/-! ## Runs -/

/-- **A socket after a list of operations.** -/
def after (s : Socket) (ops : List Operation) : Socket := ops.foldl (fun s op => (s.step op).1) s

@[simp] theorem after_nil (s : Socket) : s.after [] = s := rfl

@[simp] theorem after_concat (s : Socket) (ops : List Operation) (op : Operation) :
    s.after (ops ++ [op]) = ((s.after ops).step op).1 := by
  rw [after, List.foldl_append]
  rfl

@[simp] theorem after_ns (s : Socket) (ops : List Operation) : (s.after ops).ns = s.ns := by
  induction ops using List.reverseRecOn with
  | nil => rfl
  | append_singleton ops op ih => rw [after_concat, step_ns, ih]

/-- **The next id is the number of events so far that waited for a reply.** -/
theorem nextId_after (ns : String) (ops : List Operation) :
    ((new ns).after ops).nextId = UInt64.ofNat (ops.countP Operation.wantsReply) := by
  induction ops using List.reverseRecOn with
  | nil => rfl
  | append_singleton ops op ih =>
    rw [after_concat, nextId_step, ih, List.countP_append, List.countP_singleton]
    split_ifs with h
    · exact (UInt64.ofNat_add _ _).symm
    · rfl

end RealtimeClient.Socket
