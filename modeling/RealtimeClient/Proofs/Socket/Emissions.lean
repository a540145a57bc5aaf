import Mathlib
import RealtimeClient.Proofs.Socket.Replies

/-!
# Emitted events leave in order

An event has two ways out of a socket.  It is handed out at once where the namespace is confirmed,
and until then it waits in the queue, which goes out as a whole with the confirmation.  The
connection may come and go any number of times between two events; what keeps the two ways from
overtaking one another is that a socket with a confirmed namespace has nothing in its queue.

* `emissions` — the packets of the emitted events, told by the operations alone.
* `handedOut`, `departures` — the event packets that leave a socket, in one operation and in many.
* `Orderly` — the invariant; `Orderly.step` — every operation keeps it.
* `handedOut_append_queue` — **one operation neither loses nor moves an event**, and
  `departures_append_queue` — no run without a final end does.
* `InOrder`, `emissions_in_order` — the law, over any life of a socket.
-/

namespace RealtimeClient.Socket

variable {s : Socket} {op : Operation} {ns : String} {ops : List Operation}

/-! ## What is emitted -/

/-- The packet of the event that an operation emits.  It has the next id if a callback waits for the
reply, and none otherwise. -/
def Operation.emission? (ns : String) (next : UInt64) : Operation → Option Packet
  | .emit name args none => some (.event ns name args)
  | .emit name args (some _) => some ((Packet.event ns name args).withId next)
  | _ => none

/-- **The packets of the emitted events**, in the order of the calls, with ids that count up from
the next one. -/
def emissions (ns : String) (next : UInt64) : List Operation → List Packet
  | [] => []
  | op :: ops =>
    (op.emission? ns next).toList ++ emissions ns (if op.wantsReply then next + 1 else next) ops

/-- The packet that an emitted event is prepared as. -/
theorem emission?_emit (s : Socket) (name : String) (args : List Value) (reply : Option Label) :
    (Operation.emit name args reply).emission? s.ns s.nextId =
      some (s.prepare name args reply).2 := by
  cases reply <;> rfl

/-- An event carries the id that its callback waits under. -/
theorem emission?_id (s : Socket) (op : Operation) :
    (op.emission? s.ns s.nextId).bind Packet.id = s.issued? op := by
  cases op with
  | emit name args reply => cases reply <;> rfl
  | requestOn | receive | leave | disconnect | on | off | offAll | setErrorListener | setAuth => rfl

theorem emissions_ids (s : Socket) (ops : List Operation) :
    (emissions s.ns s.nextId ops).filterMap Packet.id = s.issuedIds ops := by
  induction ops generalizing s with
  | nil => rfl
  | cons op ops ih =>
    have hop := emission?_id s op
    have hrest := ih (s.step op).1
    rw [step_ns, nextId_step] at hrest
    rw [emissions, issuedIds, List.filterMap_append, hrest, ← hop]
    cases op.emission? s.ns s.nextId with
    | none => rfl
    | some p => cases hid : p.id <;> simp [hid]

/-! ## What leaves -/

/-- **The event packets that an operation hands out**, replies and requests left aside. -/
def handedOut (s : Socket) (op : Operation) : List Packet :=
  (s.step op).2.outbound.filter fun p => p.kind.isEvent

/-- **The event packets that leave a socket** in the course of some operations. -/
def departures (s : Socket) : List Operation → List Packet
  | [] => []
  | op :: ops => s.handedOut op ++ departures (s.step op).1 ops

/-- **The two ways out do not meet**: where the namespace is confirmed nothing is queued.  It was
asked for then, and the queue holds nothing but events. -/
structure Orderly (s : Socket) : Prop where
  requested : s.connected = true → s.requested = true
  flushed : s.connected = true → s.queue = []
  events : ∀ p ∈ s.queue, p.kind.isEvent = true

theorem isEvent_event (ns name : String) (args : List Value) :
    (Packet.event ns name args).kind.isEvent = true := by
  unfold Packet.event Packet.settleKind Packet.message PacketKind.withBinary
  dsimp only
  split <;> rfl

theorem isEvent_prepare (s : Socket) (name : String) (args : List Value) (reply : Option Label) :
    (s.prepare name args reply).2.kind.isEvent = true := by
  cases reply <;> exact isEvent_event s.ns name args

theorem isAck_ack (ns : String) (id : UInt64) (payload : List Value) :
    (Packet.ack ns id payload).kind.isAck = true := by
  unfold Packet.ack Packet.settleKind Packet.message PacketKind.withBinary
  dsimp only
  split <;> rfl

theorem isEvent_ack (ns : String) (id : UInt64) (payload : List Value) :
    (Packet.ack ns id payload).kind.isEvent = false := by
  have hack := isAck_ack ns id payload
  cases hk : (Packet.ack ns id payload).kind <;> simp_all [PacketKind.isAck, PacketKind.isEvent]

/-- What follows from an event is at most a reply. -/
theorem mem_receiveEvent_outbound {s : Socket} {p q : Packet} (h : q ∈ (s.receiveEvent p).outbound) :
    ∃ id values, q = .ack s.ns id values := by
  unfold receiveEvent at h
  split at h
  · split at h
    · cases h
    · dsimp only at h
      split at h
      · split at h
        · cases h
        · exact ⟨_, _, List.mem_singleton.1 h⟩
      · cases h
  · cases h

/-- A reply is no event. -/
theorem receiveEvent_outbound (s : Socket) (p : Packet) :
    (s.receiveEvent p).outbound.filter (fun q => q.kind.isEvent) = [] := by
  refine List.filter_eq_nil_iff.2 fun q hq => ?_
  obtain ⟨id, values, rfl⟩ := mem_receiveEvent_outbound hq
  simp [isEvent_ack]

namespace Orderly

theorem new (ns : String) : Orderly (new ns) := ⟨nofun, nofun, nofun⟩

/-- A socket that differs in other things only is as orderly. -/
theorem of_eq (h : Orderly s) {s' : Socket} (hc : s'.connected = s.connected)
    (hr : s'.requested = s.requested) (hq : s'.queue = s.queue) : Orderly s' where
  requested := by rw [hc, hr]; exact h.requested
  flushed := by rw [hc, hq]; exact h.flushed
  events := by rw [hq]; exact h.events

theorem confirm (s : Socket) : Orderly s.confirm.1 := ⟨fun _ => rfl, fun _ => rfl, nofun⟩

theorem reset (h : Orderly s) (final : Bool) : Orderly (s.reset final) where
  requested := nofun
  flushed := nofun
  events := by
    cases final with
    | true => nofun
    | false => exact h.events

theorem emit (h : Orderly s) (name : String) (args : List Value) (reply : Option Label) :
    Orderly (s.emit name args reply).1 := by
  rw [emit_eq]
  split_ifs with hc
  · cases reply <;> exact h.of_eq rfl rfl rfl
  · have hconnected : (s.prepare name args reply).1.connected = s.connected := by
      cases reply <;> rfl
    refine ⟨fun h' => absurd (hconnected ▸ h') hc, fun h' => absurd (hconnected ▸ h') hc, ?_⟩
    intro p hp
    rcases List.mem_append.1 hp with hp | hp
    · exact h.events p hp
    · rw [List.mem_singleton.1 hp]
      exact isEvent_prepare s name args reply

theorem requestOn (h : Orderly s) (revision : Revision) : Orderly (s.requestOn revision).1 := by
  unfold Socket.requestOn
  split_ifs with hasked hauto
  · exact h
  · exact confirm s
  · exact ⟨fun _ => rfl, h.flushed, h.events⟩

theorem receive (h : Orderly s) (p : Packet) : Orderly (s.receive p).1 := by
  cases hk : p.kind with
  | connect =>
    simp only [Socket.receive, hk]
    exact confirm s
  | disconnect =>
    simp only [Socket.receive, hk]
    exact h.reset true
  | event | binaryEvent =>
    simp only [Socket.receive, hk]
    exact h
  | ack | binaryAck =>
    simp only [Socket.receive, hk, receiveAck]
    split
    · exact h
    · split
      · exact h
      · exact h.of_eq rfl rfl rfl
  | connectError =>
    simp only [Socket.receive, hk]
    exact h.reset false

/-- **Every operation keeps the two ways apart**, also a final one. -/
theorem step (h : Orderly s) (op : Operation) : Orderly (s.step op).1 := by
  cases op with
  | emit name args reply => exact h.emit name args reply
  | requestOn revision => exact h.requestOn revision
  | receive p => exact h.receive p
  | leave => exact h.reset true
  | disconnect final => exact h.reset final
  | on | off | offAll | setErrorListener | setAuth => exact h.of_eq rfl rfl rfl

theorem after (h : Orderly s) (ops : List Operation) : Orderly (s.after ops) := by
  induction ops using List.reverseRecOn with
  | nil => exact h
  | append_singleton ops op ih =>
    rw [after_concat]
    exact ih.step op

/-- The queue of events goes out as it is. -/
theorem filter_queue (h : Orderly s) : s.queue.filter (fun p => p.kind.isEvent) = s.queue :=
  List.filter_eq_self.2 h.events

end Orderly

/-! ## The law of order -/

/-- An emitted event overtakes nothing: it is handed out only where nothing waits. -/
theorem handedOut_append_queue_emit (h : Orderly s) (name : String) (args : List Value)
    (reply : Option Label) :
    s.handedOut (.emit name args reply) ++ (s.emit name args reply).1.queue =
      s.queue ++ [(s.prepare name args reply).2] := by
  have hevent := isEvent_prepare s name args reply
  have hqueue : (s.prepare name args reply).1.queue = s.queue := by cases reply <;> rfl
  simp only [handedOut, Socket.step, emit_eq]
  split_ifs with hc
  · simp [hevent, hqueue, h.flushed hc]
  · simp

/-- The session's opening hands out the queue as a whole, or lets it be. -/
theorem handedOut_append_queue_requestOn (h : Orderly s) (revision : Revision) :
    s.handedOut (.requestOn revision) ++ (s.requestOn revision).1.queue = s.queue := by
  simp only [handedOut, Socket.step, Socket.requestOn]
  split_ifs with hasked hauto
  · rfl
  · simp [Socket.confirm, h.filter_queue]
  · rfl

/-- So does a packet that comes. -/
theorem handedOut_append_queue_receive (h : Orderly s) {p : Packet} (hp : p.kind ≠ .disconnect) :
    s.handedOut (.receive p) ++ (s.receive p).1.queue = s.queue := by
  simp only [handedOut, Socket.step]
  cases hk : p.kind with
  | disconnect => exact absurd hk hp
  | connect => simp [Socket.receive, hk, Socket.confirm, h.filter_queue]
  | event | binaryEvent => simp only [Socket.receive, hk, receiveEvent_outbound, List.nil_append]
  | ack | binaryAck =>
    simp only [Socket.receive, hk, receiveAck]
    split
    · rfl
    · split <;> rfl
  | connectError => rw [Socket.receive, hk]; rfl

/-- **One operation neither loses nor moves an event**, unless it is final: what it hands out and
what waits after it are what waited before, and the event that it emits. -/
theorem handedOut_append_queue (h : Orderly s) (hop : op.isFinal = false) :
    s.handedOut op ++ (s.step op).1.queue = s.queue ++ (op.emission? s.ns s.nextId).toList := by
  cases op with
  | emit name args reply =>
    rw [emission?_emit]
    exact handedOut_append_queue_emit h name args reply
  | requestOn revision =>
    exact (handedOut_append_queue_requestOn h revision).trans (List.append_nil _).symm
  | receive p =>
    have hp : p.kind ≠ .disconnect := by simpa [Operation.isFinal] using hop
    exact (handedOut_append_queue_receive h hp).trans (List.append_nil _).symm
  | leave => cases hop
  | disconnect final =>
    obtain rfl : final = false := hop
    exact (List.append_nil _).symm
  | on | off | offAll | setErrorListener | setAuth => exact (List.append_nil _).symm

/-- **A run without a final end neither loses nor moves an event.** -/
theorem departures_append_queue (h : Orderly s) (hops : ∀ op ∈ ops, op.isFinal = false) :
    s.departures ops ++ (s.after ops).queue = s.queue ++ emissions s.ns s.nextId ops := by
  induction ops generalizing s with
  | nil => simp [departures, emissions]
  | cons op ops ih =>
    have hop := handedOut_append_queue h (hops op List.mem_cons_self)
    have hrest := ih (h.step op) fun o ho => hops o (.tail _ ho)
    rw [step_ns, nextId_step] at hrest
    calc s.departures (op :: ops) ++ (s.after (op :: ops)).queue
        = s.handedOut op ++ ((s.step op).1.departures ops ++ ((s.step op).1.after ops).queue) :=
          List.append_assoc _ _ _
      _ = (s.handedOut op ++ (s.step op).1.queue) ++
            emissions s.ns (if op.wantsReply then s.nextId + 1 else s.nextId) ops := by
          rw [hrest, List.append_assoc]
      _ = s.queue ++ emissions s.ns s.nextId (op :: ops) := by
          rw [hop, List.append_assoc, emissions]

/-- **Events leave a socket in order**, in its life so far. -/
structure InOrder (ns : String) (ops : List Operation) : Prop where
  /-- What has left and what still waits are the events emitted, each of them once. -/
  order : (∀ op ∈ ops, op.isFinal = false) →
    (new ns).departures ops ++ ((new ns).after ops).queue = emissions ns 0 ops
  /-- Each event has the id that its callback waits under. -/
  ids : (emissions ns 0 ops).filterMap Packet.id = (new ns).issuedIds ops
  /-- A confirmed namespace was asked for. -/
  requested : ((new ns).after ops).connected = true → ((new ns).after ops).requested = true
  /-- Where the namespace is confirmed nothing waits. -/
  flushed : ((new ns).after ops).connected = true → ((new ns).after ops).queue = []

/-- **Events leave in the order in which they were emitted**, each of them once, however often the
namespace is confirmed, refused or lost in between. -/
theorem emissions_in_order (ns : String) (ops : List Operation) : InOrder ns ops where
  order hops := departures_append_queue (.new ns) hops
  ids := emissions_ids (new ns) ops
  requested := ((Orderly.new ns).after ops).requested
  flushed := ((Orderly.new ns).after ops).flushed

/-- A life with two confirmations, one of them repeated, a lost connection and a refusal: the first
two events go out with the first confirmation, the third at once, and the last one still waits. -/
theorem emissions_in_order_example :
    let ops : List Operation :=
      [.emit "a" [] none, .requestOn .v4, .emit "b" [] (some 7), .receive (.connect "/chat" none),
        .receive (.connect "/chat" none), .emit "c" [] (some 7), .disconnect false,
        .requestOn .v4, .emit "d" [] none, .receive (.connectError "/chat" .null)]
    InOrder "/chat" ops ∧ (∀ op ∈ ops, op.isFinal = false) ∧
      ((new "/chat").departures ops).map (fun p => (p.eventName, p.id)) =
        [(some "a", none), (some "b", some 0), (some "c", some 1)] ∧
      ((new "/chat").after ops).queue.map Packet.eventName = [some "d"] :=
  ⟨emissions_in_order _ _, by decide, by decide, by decide⟩

end RealtimeClient.Socket
