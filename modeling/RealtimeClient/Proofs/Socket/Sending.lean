import Mathlib
import RealtimeClient.Proofs.Socket.Emissions

/-!
# What a socket sends

There are few kinds of packets that leave a socket: its request, events with and without an id, replies
with the id of the event, and the packet that leaves the namespace.  A socket does not make any of them up
later on.  What is queued was an event when it was emitted, and it is sent as it is.

* `Sent` — the packets, a request with a payload left aside; `Sent.form` — what they look like.
* `mem_queue_step` — the queue has no other source than the emitting of events.
* `sent_of_outbound` — **what leaves a socket**, in whatever life.
-/

namespace RealtimeClient

theorem PacketKind.withBinary_withBinary (kind : PacketKind) (binary : Bool) :
    (kind.withBinary binary).withBinary binary = kind.withBinary binary := by
  cases kind <;> cases binary <;> rfl

/-- The kind that fits the payload fits it still. -/
theorem Packet.settleKind_settleKind (p : Packet) : p.settleKind.settleKind = p.settleKind :=
  congrArg (fun kind => { p with kind := kind })
    (p.kind.withBinary_withBinary (p.attachmentCount > 0))

namespace Socket

/-- **What a socket sends in its namespace.**  Its request may have a payload; that one is left aside. -/
inductive Sent (ns : String) : Packet → Prop
  | connect : Sent ns (.connect ns none)
  | disconnect : Sent ns (.disconnect ns)
  | event (name : String) (args : List Value) : Sent ns (.event ns name args)
  | asking (name : String) (args : List Value) (id : UInt64) : Sent ns ((Packet.event ns name args).withId id)
  | ack (id : UInt64) (payload : List Value) : Sent ns (.ack ns id payload)

variable {s : Socket} {p : Packet} {op : Operation}

/-- **Its packets are events and acks of the kind that fits, or messages without a payload.** -/
theorem Sent.form {ns : String} (hp : Sent ns p) :
    p.frame = .message ∧ p.ns = ns ∧
      (((p.kind.isEvent ∨ p.kind.isAck) ∧ p.settleKind = p) ∨
        (p.payload = [] ∧ ¬(p.kind.isEvent ∨ p.kind.isAck))) := by
  cases hp with
  | connect | disconnect => exact ⟨rfl, rfl, .inr ⟨rfl, by rintro (h | h) <;> cases h⟩⟩
  | event name args =>
    exact ⟨rfl, rfl, .inl ⟨.inl (isEvent_event ns name args), Packet.settleKind_settleKind _⟩⟩
  | asking name args id =>
    have hsettled := Packet.settleKind_settleKind (.message .event ns (.string name :: args))
    exact ⟨rfl, rfl, .inl ⟨.inl (isEvent_event ns name args),
      congrArg (fun p : Packet => p.withId id) hsettled⟩⟩
  | ack id payload =>
    have hsettled := Packet.settleKind_settleKind (.message .ack ns payload)
    exact ⟨rfl, rfl, .inl ⟨.inr (isAck_ack ns id payload),
      congrArg (fun p : Packet => p.withId id) hsettled⟩⟩

theorem sent_prepare (s : Socket) (name : String) (args : List Value) (reply : Option Label) :
    Sent s.ns (s.prepare name args reply).2 := by
  cases reply with
  | none => exact .event name args
  | some label => exact .asking name args s.nextId

/-- **What is in the queue after an operation** was there before, or it has just been emitted. -/
theorem mem_queue_step (h : p ∈ (s.step op).1.queue) :
    p ∈ s.queue ∨ ∃ name args reply, p = (s.prepare name args reply).2 := by
  cases op with
  | emit name args reply =>
    have hqueue : (s.prepare name args reply).1.queue = s.queue := by cases reply <;> rfl
    simp only [step, emit_eq] at h
    split_ifs at h
    · exact .inl (hqueue ▸ h)
    · obtain hold | hnew := List.mem_append.1 h
      · exact .inl hold
      · exact .inr ⟨name, args, reply, List.mem_singleton.1 hnew⟩
  | requestOn revision =>
    simp only [step, requestOn] at h
    split_ifs at h
    · exact .inl h
    · cases h
    · exact .inl h
  | receive q =>
    have hack : (s.receiveAck q).1.queue = s.queue := by
      unfold receiveAck
      split
      · rfl
      · split <;> rfl
    simp only [step, receive] at h
    split at h
    · cases h
    · cases h
    · exact .inl h
    · exact .inl h
    · exact .inl (hack ▸ h)
    · exact .inl (hack ▸ h)
    · exact .inl h
  | leave => cases h
  | disconnect final =>
    cases final with
    | true => cases h
    | false => exact .inl h
  | on | off | offAll | setErrorListener | setAuth => exact .inl h

/-- The queue of a socket in any life. -/
theorem sent_of_mem_queue (ns : String) (ops : List Operation) :
    ∀ p ∈ ((new ns).after ops).queue, Sent ns p := by
  induction ops using List.reverseRecOn with
  | nil => nofun
  | append_singleton ops op ih =>
    intro p hp
    rw [after_concat] at hp
    obtain hold | ⟨name, args, reply, rfl⟩ := mem_queue_step hp
    · exact ih p hold
    · have hsent := sent_prepare ((new ns).after ops) name args reply
      rwa [after_ns] at hsent

/-- **What follows from one operation**, where the queue holds what is to be sent. -/
theorem sent_of_step (h : ∀ p ∈ s.queue, Sent s.ns p) (op : Operation) :
    ∀ p ∈ (s.step op).2.outbound, Sent s.ns p ∨ ∃ auth, p = .connect s.ns (some auth) := by
  intro p hp
  have hreply (q : Packet) (hq : p ∈ (s.receiveEvent q).outbound) : Sent s.ns p := by
    obtain ⟨id, values, rfl⟩ := mem_receiveEvent_outbound hq
    exact .ack id values
  have hack (q : Packet) : (s.receiveAck q).2.outbound = [] := by
    unfold receiveAck
    split
    · rfl
    · split <;> rfl
  cases op with
  | emit name args reply =>
    simp only [step, emit_eq] at hp
    split_ifs at hp
    · obtain rfl := List.mem_singleton.1 hp
      exact .inl (sent_prepare s name args reply)
    · cases hp
  | requestOn revision =>
    simp only [step, requestOn] at hp
    split_ifs at hp
    · cases hp
    · exact .inl (h p hp)
    · obtain rfl := List.mem_singleton.1 hp
      cases s.auth with
      | none => exact .inl .connect
      | some auth => exact .inr ⟨auth, rfl⟩
  | receive q =>
    simp only [step, receive] at hp
    split at hp
    · exact .inl (h p hp)
    · cases hp
    · exact .inl (hreply q hp)
    · exact .inl (hreply q hp)
    · rw [hack] at hp
      cases hp
    · rw [hack] at hp
      cases hp
    · cases hp
  | leave =>
    simp only [step, leave] at hp
    split_ifs at hp
    · obtain rfl := List.mem_singleton.1 hp
      exact .inl .disconnect
    · cases hp
  | disconnect | on | off | offAll | setErrorListener | setAuth => cases hp

/-- **What leaves a socket** in any life is one of its packets, or a request with a payload. -/
theorem sent_of_outbound (ns : String) (ops : List Operation) (op : Operation) :
    ∀ p ∈ (((new ns).after ops).step op).2.outbound, Sent ns p ∨ ∃ auth, p = .connect ns (some auth) := by
  have hqueue := sent_of_mem_queue ns ops
  have hns : ((new ns).after ops).ns = ns := after_ns (new ns) ops
  intro p hp
  have hsent := sent_of_step (by rwa [hns]) op p hp
  rwa [hns] at hsent

end Socket

end RealtimeClient
