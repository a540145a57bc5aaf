import Mathlib
import RealtimeClient.Proofs.Socket.Emissions

/-!
# A socket keeps to its namespace

A socket knows its namespace from the start.  Every packet that it prepares, keeps or hands out is a
message of that namespace, and every report that it makes is about it.  So the work of a socket on a
packet can be told by the namespace alone, in whatever client the socket is.

* `get?_listeners_on`, `get?_listeners_step` — only the registering of a listener adds one.
* `Homely` — the queue holds messages of the socket's own namespace; `Homely.step`, `Homely.after` —
  every operation keeps it so.
* `Outcome.Concerns`, `Homely.concerns` — **what a socket makes of a packet concerns its namespace**.
* `mem_calls_receive` — the calls that follow from a packet are those of a listener.
-/

namespace RealtimeClient

/-- The namespace that a report is about. -/
def Notice.ns? : Notice → Option String
  | .session _ => none
  | .socketOpen ns | .socketClose ns | .refused ns .. | .reply ns .. => some ns
  | .event _ e => some e.ns

namespace Socket

variable {s : Socket}

/-! ## Listeners -/

theorem emit_listeners (s : Socket) (name : String) (args : List Value) (reply : Option Label) :
    (s.emit name args reply).1.listeners = s.listeners := by
  rw [emit_eq]
  cases reply <;> split_ifs <;> rfl

theorem requestOn_listeners (s : Socket) (revision : Revision) :
    (s.requestOn revision).1.listeners = s.listeners := by
  unfold requestOn
  split_ifs <;> rfl

theorem receive_listeners (s : Socket) (p : Packet) : (s.receive p).1.listeners = s.listeners := by
  have hack : (s.receiveAck p).1.listeners = s.listeners := by
    unfold receiveAck
    split
    · rfl
    · split <;> rfl
  unfold receive
  split <;> first | rfl | exact hack

theorem get?_listeners_on (s : Socket) (event name : String) (listener : Listener) :
    (s.on name listener).listeners.get? event =
      if event = name then some listener else s.listeners.get? event := by
  split
  · next h =>
    rw [h]
    exact Dict.From.get?_insert_self name listener _ s.listeners
  · next h => exact Dict.From.get?_insert_of_ne listener h _ s.listeners

/-- **Only the registering of a listener adds one.** -/
theorem get?_listeners_step {op : Operation} (hop : ∀ name listener, op ≠ .on name listener)
    {name : String} {listener : Listener}
    (h : (s.step op).1.listeners.get? name = some listener) :
    s.listeners.get? name = some listener := by
  cases op with
  | emit event args reply => exact (emit_listeners s event args reply) ▸ h
  | requestOn revision => exact (requestOn_listeners s revision) ▸ h
  | receive p => exact (receive_listeners s p) ▸ h
  | on event l => exact absurd rfl (hop event l)
  | off event =>
    have hget : (s.listeners.erase event).get? name = some listener := h
    by_cases hname : name = event
    · rw [hname, Dict.From.get?_erase_self] at hget
      cases hget
    · rwa [Dict.From.get?_erase_of_ne hname] at hget
  | offAll => cases h
  | leave | disconnect | setErrorListener | setAuth => exact h

/-- A listener of the socket has made the calls. -/
theorem mem_calls_receive {a : Call} {p : Packet} (h : a ∈ (s.receive p).2.calls) :
    ∃ name listener e, s.listeners.get? name = some listener ∧ e.ns = s.ns ∧
      a ∈ (listener.react e).calls := by
  have hevent (h : a ∈ (s.receiveEvent p).calls) :
      ∃ name listener e, s.listeners.get? name = some listener ∧ e.ns = s.ns ∧
        a ∈ (listener.react e).calls := by
    unfold receiveEvent at h
    split at h
    · next name args _ =>
      split at h
      · cases h
      · next listener hget => exact ⟨name, listener, _, hget, rfl, h⟩
    · cases h
  have hack (h : a ∈ (s.receiveAck p).2.calls) : False := by
    unfold receiveAck at h
    split at h
    · cases h
    · split at h <;> cases h
  cases hk : p.kind with
  | event | binaryEvent =>
    simp only [receive, hk] at h
    exact hevent h
  | ack | binaryAck =>
    simp only [receive, hk] at h
    exact (hack h).elim
  | connect | disconnect | connectError =>
    simp only [receive, hk] at h
    cases h

/-! ## The queue -/

/-- **The queue holds messages of the socket's own namespace.** -/
def Homely (s : Socket) : Prop := ∀ p ∈ s.queue, p.frame = .message ∧ p.ns = s.ns

namespace Homely

theorem new (ns : String) : Homely (Socket.new ns) := nofun

theorem reset (h : Homely s) (final : Bool) : Homely (s.reset final) := by
  cases final with
  | true => nofun
  | false => exact h

theorem emit (h : Homely s) (name : String) (args : List Value) (reply : Option Label) :
    Homely (s.emit name args reply).1 := by
  have hsame : Homely (s.prepare name args reply).1 := by cases reply <;> exact h
  rw [emit_eq]
  split_ifs with hc
  · exact hsame
  · have hns : (s.prepare name args reply).1.ns = s.ns := by cases reply <;> rfl
    intro p hp
    rcases List.mem_append.1 hp with hp | hp
    · exact ⟨(h p hp).1, (h p hp).2.trans hns.symm⟩
    · rw [List.mem_singleton.1 hp]
      cases reply <;> exact ⟨rfl, rfl⟩

theorem requestOn (h : Homely s) (revision : Revision) : Homely (s.requestOn revision).1 := by
  unfold Socket.requestOn
  split_ifs
  · exact h
  · nofun
  · exact h

theorem receive (h : Homely s) (p : Packet) : Homely (s.receive p).1 := by
  have hack : Homely (s.receiveAck p).1 := by
    unfold receiveAck
    split
    · exact h
    · split <;> exact h
  unfold Socket.receive
  split
  · nofun
  · nofun
  · exact h
  · exact h
  · exact hack
  · exact hack
  · exact h.reset false

/-- **Every operation keeps the queue so.** -/
theorem step (h : Homely s) (op : Operation) : Homely (s.step op).1 := by
  cases op with
  | emit name args reply => exact h.emit name args reply
  | requestOn revision => exact h.requestOn revision
  | receive p => exact h.receive p
  | leave => exact h.reset true
  | disconnect final => exact h.reset final
  | on | off | offAll | setErrorListener | setAuth => exact h

/-- And so does a whole life of the socket. -/
theorem after (h : Homely s) (ops : List Operation) : Homely (s.after ops) := by
  induction ops using List.reverseRecOn with
  | nil => exact h
  | append_singleton ops op ih =>
    rw [after_concat]
    exact ih.step op

end Homely

/-! ## What follows from a packet -/

/-- **An outcome concerns a namespace**, whatever is in it. -/
structure Outcome.Concerns (o : Outcome) (ns : String) : Prop where
  outbound : ∀ p ∈ o.outbound, p.frame = .message ∧ p.ns = ns
  notices : ∀ n ∈ o.notices, n.ns? = some ns

theorem concerns_receiveEvent (s : Socket) (p : Packet) : (s.receiveEvent p).Concerns s.ns := by
  constructor
  · intro q hq
    obtain ⟨id, values, rfl⟩ := mem_receiveEvent_outbound hq
    exact ⟨rfl, rfl⟩
  · unfold receiveEvent
    split
    · split
      · exact List.forall_mem_nil _
      · exact fun n hn => congrArg Notice.ns? (List.mem_singleton.1 hn)
    · exact List.forall_mem_nil _

theorem concerns_receiveAck (s : Socket) (p : Packet) : (s.receiveAck p).2.Concerns s.ns := by
  unfold receiveAck
  split
  · exact ⟨List.forall_mem_nil _, List.forall_mem_nil _⟩
  · split
    · exact ⟨List.forall_mem_nil _, List.forall_mem_nil _⟩
    · refine ⟨List.forall_mem_nil _, fun n hn => ?_⟩
      rw [List.mem_singleton.1 hn]
      rfl

/-- **What a socket makes of a packet concerns its own namespace.** -/
theorem Homely.concerns (h : s.Homely) (p : Packet) : (s.receive p).2.Concerns s.ns := by
  cases hk : p.kind with
  | connect =>
    simp only [Socket.receive, hk]
    exact ⟨h, List.forall_mem_nil _⟩
  | disconnect =>
    simp only [Socket.receive, hk]
    exact ⟨List.forall_mem_nil _, List.forall_mem_nil _⟩
  | event | binaryEvent =>
    simp only [Socket.receive, hk]
    exact concerns_receiveEvent s p
  | ack | binaryAck =>
    simp only [Socket.receive, hk]
    exact concerns_receiveAck s p
  | connectError =>
    simp only [Socket.receive, hk]
    refine ⟨List.forall_mem_nil _, fun n hn => ?_⟩
    obtain ⟨label, -, rfl⟩ := List.mem_map.1 hn
    rfl

end Socket

end RealtimeClient
