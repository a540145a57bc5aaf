import Mathlib
import RealtimeClient.Proofs.Client.Core
import RealtimeClient.Transport.Memory

/-!
# What leaves the connection alone

Most of what a client does concerns its sockets, its timers, its reports and what it sends.  None of
that touches the engine, the connection or the transport's events, and whatever it leaves to the
task is a wish of the application.

* `Engine.Input.isRequest` — the inputs that an application can ask for.
* `Client.Aside` — a change that leaves the connection alone.
* `Client.aside_send`, `Client.aside_call` and so on — one lemma for each operation;
  **`Client.aside_carryOut`** — the effects that leave the connection alone.
-/

namespace RealtimeClient

/-- **The wishes of an application**, as opposed to reports of the transport and of the timers. -/
def Engine.Input.isRequest : Engine.Input → Bool
  | .connect .. | .close | .setAttempts _ | .setDelay _ | .setDelayMax _ => true
  | _ => false

namespace Client

/-- **A change that leaves the connection alone.**  At most frames were written, and at most wishes
were left to the task. -/
structure Aside (c c' : Client MemoryTransport) : Prop where
  engine : c'.engine = c.engine
  current : c'.current = c.current
  transport : c'.transport = { c.transport with written := c'.transport.written }
  commands : ∀ i, .engine i ∈ c'.commands → .engine i ∈ c.commands ∨ i.isRequest = true

variable {c c' : Client MemoryTransport}

namespace Aside

@[refl] theorem refl (c : Client MemoryTransport) : Aside c c := ⟨rfl, rfl, rfl, fun _ h => .inl h⟩

theorem trans {c'' : Client MemoryTransport} (h : Aside c c') (h' : Aside c' c'') : Aside c c'' where
  engine := h'.engine.trans h.engine
  current := h'.current.trans h.current
  transport := by
    rw [h'.transport, h.transport]
  commands i hi := (h'.commands i hi).elim (h.commands i) .inr

theorem foldl {α : Type} {f : Client MemoryTransport → α → Client MemoryTransport}
    (hf : ∀ c a, Aside c (f c a)) (l : List α) (c : Client MemoryTransport) :
    Aside c (l.foldl f c) := by
  induction l generalizing c with
  | nil => exact refl c
  | cons a rest ih => exact (hf c a).trans (ih _)

end Aside

/-! ## Reports and sockets -/

theorem aside_report (n : Notice) : Aside c (c.report n) := ⟨rfl, rfl, rfl, fun _ h => .inl h⟩

theorem aside_modifySocket (id : SocketId) (f : Socket → Socket) : Aside c (c.modifySocket id f) :=
  ⟨rfl, rfl, rfl, fun _ h => .inl h⟩

theorem aside_addSocket (ns : String) : Aside c (c.addSocket ns) :=
  ⟨rfl, rfl, rfl, fun _ h => .inl h⟩

theorem aside_updateAckGauge : Aside c c.updateAckGauge := ⟨rfl, rfl, rfl, fun _ h => .inl h⟩

theorem aside_publishStatus : Aside c c.publishStatus := ⟨rfl, rfl, rfl, fun _ h => .inl h⟩

theorem aside_notify (event : SessionEvent) : Aside c (c.notify event) := by
  unfold notify
  dsimp only
  split <;> split <;> exact ⟨rfl, rfl, rfl, fun _ h => .inl h⟩

theorem aside_notifySocketOpen (ns : String) : Aside c (c.notifySocketOpen ns) := by
  rw [notifySocketOpen]
  split
  · exact aside_report _
  · rfl

theorem aside_notifySocketClose (ns : String) : Aside c (c.notifySocketClose ns) := by
  rw [notifySocketClose]
  split
  · exact aside_report _
  · rfl

theorem aside_disconnectSockets (final : Bool) : Aside c (c.disconnectSockets final) :=
  Aside.foldl (fun _ id => aside_modifySocket id _) _ c

/-! ## Sending -/

theorem write_snd (t : MemoryTransport) (frame : Frame) :
    (t.write frame).2 = { t with written := (t.write frame).2.written } := by
  rw [MemoryTransport.write]
  split <;> rfl

theorem aside_writeFrames (frames : List Frame) : Aside c (c.writeFrames frames) := by
  induction frames generalizing c with
  | nil => rfl
  | cons frame rest ih =>
    have hwrite : Aside c { c with
        metrics := c.metrics.recordFrame .outbound frame.size
        transport := (c.transport.write frame).2 } :=
      ⟨rfl, rfl, write_snd c.transport frame, fun _ h => .inl h⟩
    simp only [writeFrames, Transport.write]
    split
    · exact hwrite.trans ih
    · exact hwrite

theorem aside_send (p : Packet) : Aside c (c.send p) := by
  rw [send]
  split
  · have hjournal : Aside c { c with journal := .sent c.current p :: c.journal } :=
      ⟨rfl, rfl, rfl, fun _ h => .inl h⟩
    exact hjournal.trans (aside_writeFrames _)
  · rfl

theorem aside_sendAll (ps : List Packet) : Aside c (c.sendAll ps) :=
  Aside.foldl (fun _ p => aside_send p) ps c

theorem aside_dispatch (ns : String) (o : Socket.Outcome) : Aside c (c.dispatch ns o) := by
  unfold dispatch
  refine (aside_sendAll o.outbound).trans ?_
  dsimp only
  split
  · rfl
  · exact aside_notifySocketOpen ns
  · have herase : Aside (c.sendAll o.outbound)
        { c.sendAll o.outbound with registry := (c.sendAll o.outbound).registry.erase ns } :=
      ⟨rfl, rfl, rfl, fun _ h => .inl h⟩
    exact herase.trans (aside_notifySocketClose ns)

theorem aside_requestSocket (id : SocketId) : Aside c (c.requestSocket id) := by
  rw [requestSocket]
  split
  · rfl
  · exact (aside_modifySocket id _).trans (aside_dispatch _ _)

theorem aside_leaveSocket (id : SocketId) : Aside c (c.leaveSocket id) := by
  rw [leaveSocket]
  split
  · rfl
  · exact ((aside_modifySocket id _).trans (aside_sendAll _)).trans (aside_notifySocketClose _)

theorem aside_openSockets : Aside c c.openSockets := by
  unfold openSockets
  dsimp only
  split
  · exact Aside.foldl (fun _ id => aside_requestSocket id) _ c
  · exact (aside_addSocket _).trans (Aside.foldl (fun _ id => aside_requestSocket id) _ _)

theorem aside_closeSockets : Aside c c.closeSockets := by
  rw [closeSockets]
  have herase : Aside c { c with registry := .nil } := ⟨rfl, rfl, rfl, fun _ h => .inl h⟩
  exact herase.trans (Aside.foldl (fun _ id => aside_leaveSocket id) _ _)

/-! ## Effects -/

/-- **An effect that leaves the connection alone does so**, and nothing follows from it. -/
theorem aside_carryOut {f : Engine.Effect} (hf : f.isQuiet = true) :
    Aside c (c.carryOut f).1 ∧ (c.carryOut f).2 = none := by
  cases f with
  | openTransport query headers => cases hf
  | closeTransport cause => cases hf
  | send p => exact ⟨aside_send p, rfl⟩
  | arm k delay => exact ⟨⟨rfl, rfl, rfl, fun _ h => .inl h⟩, rfl⟩
  | cancel k => exact ⟨⟨rfl, rfl, rfl, fun _ h => .inl h⟩, rfl⟩
  | resetCodec => exact ⟨⟨rfl, rfl, rfl, fun _ h => .inl h⟩, rfl⟩
  | socketsOpen => exact ⟨aside_openSockets, rfl⟩
  | socketsDisconnect final => exact ⟨(aside_disconnectSockets final).trans aside_updateAckGauge, rfl⟩
  | socketsClose => exact ⟨aside_closeSockets.trans aside_updateAckGauge, rfl⟩
  | notify event => exact ⟨aside_notify event, rfl⟩

theorem aside_carryOutAll {effects : List Engine.Effect} (hq : Engine.Quiet effects) :
    Aside c (c.carryOutAll effects).1 ∧ (c.carryOutAll effects).2 = [] := by
  induction effects generalizing c with
  | nil => exact ⟨.refl c, rfl⟩
  | cons f rest ih =>
    rw [Engine.quiet_cons] at hq
    obtain ⟨hf, hnone⟩ := aside_carryOut (c := c) hq.1
    obtain ⟨hrest, hnil⟩ := ih (c := (c.carryOut f).1) hq.2
    exact ⟨hf.trans hrest, by simp [carryOutAll, hnone, hnil]⟩

/-! ## Calls -/

theorem aside_push {command : Command} (hc : ∀ i, command = .engine i → i.isRequest = true) :
    Aside c (c.push command) := by
  have happend : Aside c { c with commands := c.commands ++ [command] } := by
    refine ⟨rfl, rfl, rfl, fun i hi => ?_⟩
    rcases List.mem_append.1 hi with hi | hi
    · exact .inl hi
    · exact .inr (hc i (List.mem_singleton.1 hi).symm)
  rw [push]
  split
  · exact happend
  · exact happend
  · rfl
  · rfl

theorem aside_joinSocket (name : String) : Aside c (c.joinSocket name).2 := by
  unfold joinSocket
  dsimp only
  split
  · rfl
  · exact (aside_addSocket _).trans (aside_push (by simp))

theorem aside_pushFor (id : SocketId) {command : String → Command}
    (hc : ∀ ns i, command ns ≠ .engine i) : Aside c (c.pushFor id command) := by
  rw [pushFor]
  split
  · exact aside_push fun i h => absurd h (hc _ i)
  · rfl

/-- **A call leaves the connection alone**: at most it leaves a wish to the task. -/
theorem aside_call (a : Call) : Aside c (c.call a) := by
  cases a with
  | join ns => exact aside_joinSocket ns
  | emit id name args reply =>
    show Aside c (c.pushFor id fun ns => .emit ns name args reply)
    exact aside_pushFor id (by simp)
  | leave id => exact aside_pushFor id (by simp)
  | off id name => exact aside_modifySocket id _
  | offAll id => exact aside_modifySocket id _
  | onError id label => exact aside_modifySocket id _
  | offError id => exact aside_modifySocket id _
  | setAuth id auth => exact aside_modifySocket id _
  | observe report => exact ⟨rfl, rfl, rfl, fun _ h => .inl h⟩
  | ignoreSession => exact ⟨rfl, rfl, rfl, fun _ h => .inl h⟩
  | ignoreSockets => exact ⟨rfl, rfl, rfl, fun _ h => .inl h⟩
  | _ => exact aside_push (by simp [Engine.Input.isRequest])

theorem aside_callAll (calls : List Call) : Aside c (c.callAll calls) :=
  Aside.foldl (fun _ a => aside_call a) calls c

/-! ## Turns without the engine -/

/-- A message for a namespace leaves the connection alone, whatever the listeners do. -/
theorem aside_route (p : Packet) : Aside c (c.route p) := by
  rw [route]
  split
  · rfl
  · split
    · rfl
    · next id _ =>
      split
      · rfl
      · next s _ =>
        have hnotices : Aside c ((s.receive p).2.notices.foldl report
            (c.modifySocket id fun _ => (s.receive p).1)) :=
          (aside_modifySocket id _).trans (Aside.foldl (fun _ n => aside_report n) _ _)
        have hcalls := hnotices.trans (aside_callAll (s.receive p).2.calls)
        dsimp only
        split
        · exact hcalls.trans ⟨rfl, rfl, rfl, fun _ h => absurd h List.not_mem_nil⟩
        · exact (hcalls.trans (aside_dispatch _ _)).trans aside_updateAckGauge

theorem aside_emit (ns name : String) (args : List Value) (reply : Option Label) :
    Aside c (c.emit ns name args reply) := by
  rw [emit]
  split
  · rfl
  · next id _ =>
    split
    · rfl
    · exact ((aside_modifySocket id _).trans (aside_sendAll _)).trans aside_updateAckGauge

theorem aside_socketCreated (ns : String) : Aside c (c.socketCreated ns) := by
  rw [socketCreated]
  split
  · rfl
  · split
    · rfl
    · exact aside_requestSocket _

theorem aside_closeSocket (ns : String) : Aside c (c.closeSocket ns) := by
  rw [closeSocket]
  split
  · rfl
  · have herase : Aside c { c with registry := c.registry.erase ns } :=
      ⟨rfl, rfl, rfl, fun _ h => .inl h⟩
    exact (herase.trans (aside_leaveSocket _)).trans aside_updateAckGauge

end Client

end RealtimeClient
