import Mathlib
import RealtimeClient.Proofs.Client.Delivery

/-!
# Sending, and all the rest

Whatever the task does between two answers of the engine, it hands packets to the transport, one after
the other, and for the rest changes what the transport has no part in: sockets, commands, reports and
counts.  A relation that holds over a single packet and over such changes holds over all of it.

* `Client.sent` — the packets that were handed to the open transport, with the connection.
* `Steady`, `Mute` — a change in which neither the engine nor the transport has a part; `mute_call` and
  so on — one lemma for each operation that is one.
* `Talk` — packets, and such changes in between; `talk_dispatch` and so on, **`talk_route`**,
  **`talk_carryOut`** — what the task does.
* `Talk.steady` — talk leaves the engine and the connection alone.
-/

namespace RealtimeClient.Client

/-- The packet of an entry of the journal, with the connection that it was handed over for. -/
def Entry.sent? : Entry → Option (Option ConnectionId × Packet)
  | .sent connection p => some (connection, p)
  | .notice _ => none

variable {τ : Type} {c c' c'' : Client τ}

/-- **What was handed to the open transport**, the oldest first. -/
def sent (c : Client τ) : List (Option ConnectionId × Packet) :=
  (c.journal.filterMap Entry.sent?).reverse

/-! ## What the transport has no part in -/

/-- **A change that leaves the engine and the connection alone**, and what is published of the two. -/
structure Steady (c c' : Client τ) : Prop where
  engine : c'.engine = c.engine
  revision : c'.codec.revision = c.codec.revision
  current : c'.current = c.current
  status : c'.status = c.status
  connected : c'.metrics.connected = c.metrics.connected

theorem Steady.trans (h : Steady c c') (h' : Steady c' c'') : Steady c c'' where
  engine := h'.engine.trans h.engine
  revision := h'.revision.trans h.revision
  current := h'.current.trans h.current
  status := h'.status.trans h.status
  connected := h'.connected.trans h.connected

/-- **A change in which the transport has no part**: nothing is handed to it either. -/
structure Mute (c c' : Client τ) : Prop extends Steady c c' where
  transport : c'.transport = c.transport
  sent : c'.sent = c.sent

namespace Mute

@[refl] theorem refl (c : Client τ) : Mute c c := ⟨⟨rfl, rfl, rfl, rfl, rfl⟩, rfl, rfl⟩

theorem trans (h : Mute c c') (h' : Mute c' c'') : Mute c c'' where
  toSteady := h.toSteady.trans h'.toSteady
  transport := h'.transport.trans h.transport
  sent := h'.sent.trans h.sent

theorem foldl {α : Type} {f : Client τ → α → Client τ} (hf : ∀ c a, Mute c (f c a)) (l : List α)
    (c : Client τ) : Mute c (l.foldl f c) := by
  induction l generalizing c with
  | nil => exact refl c
  | cons a rest ih => exact (hf c a).trans (ih _)

end Mute

theorem mute_report (n : Notice) : Mute c (c.report n) := ⟨⟨rfl, rfl, rfl, rfl, rfl⟩, rfl, rfl⟩

theorem mute_modifySocket (id : SocketId) (f : Socket → Socket) : Mute c (c.modifySocket id f) :=
  ⟨⟨rfl, rfl, rfl, rfl, rfl⟩, rfl, rfl⟩

theorem mute_addSocket (ns : String) : Mute c (c.addSocket ns) := ⟨⟨rfl, rfl, rfl, rfl, rfl⟩, rfl, rfl⟩

theorem mute_updateAckGauge : Mute c c.updateAckGauge := ⟨⟨rfl, rfl, rfl, rfl, rfl⟩, rfl, rfl⟩

theorem mute_notify (event : SessionEvent) : Mute c (c.notify event) := by
  unfold notify
  dsimp only
  split <;> split <;> exact ⟨⟨rfl, rfl, rfl, rfl, rfl⟩, rfl, rfl⟩

theorem mute_notifySocketOpen (ns : String) : Mute c (c.notifySocketOpen ns) := by
  rw [notifySocketOpen]
  split
  · exact mute_report _
  · rfl

theorem mute_notifySocketClose (ns : String) : Mute c (c.notifySocketClose ns) := by
  rw [notifySocketClose]
  split
  · exact mute_report _
  · rfl

theorem mute_disconnectSockets (final : Bool) : Mute c (c.disconnectSockets final) :=
  Mute.foldl (fun _ id => mute_modifySocket id (·.disconnect final)) _ c

theorem mute_push (command : Command) : Mute c (c.push command) := by
  rw [push]
  split <;> exact ⟨⟨rfl, rfl, rfl, rfl, rfl⟩, rfl, rfl⟩

theorem mute_joinSocket (name : String) : Mute c (c.joinSocket name).2 := by
  unfold joinSocket
  dsimp only
  split
  · rfl
  · exact (mute_addSocket _).trans (mute_push _)

theorem mute_pushFor (id : SocketId) (command : String → Command) : Mute c (c.pushFor id command) := by
  rw [pushFor]
  split
  · exact mute_push _
  · rfl

/-- **Calls only leave work to the task.** -/
theorem mute_call (a : Call) : Mute c (c.call a) := by
  cases a with
  | join ns => exact mute_joinSocket ns
  | emit id name args reply => exact mute_pushFor id fun ns => .emit ns name args reply
  | leave id => exact mute_pushFor id _
  | off | offAll | onError | offError | setAuth | observe | ignoreSession | ignoreSockets =>
    exact ⟨⟨rfl, rfl, rfl, rfl, rfl⟩, rfl, rfl⟩
  | _ => exact mute_push _

theorem mute_callAll (calls : List Call) : Mute c (c.callAll calls) :=
  Mute.foldl (fun _ a => mute_call a) calls c

theorem mute_on (id : SocketId) (name : String) (listener : Listener) :
    Mute c (c.on id name listener) :=
  mute_modifySocket id _

/-- A codec that is fed a frame keeps its revision. -/
theorem mute_fed (c : Client τ) (frame : Frame) : Mute c { c with codec := (c.codec.feed frame).1 } :=
  ⟨⟨rfl, revision_feed c.codec frame, rfl, rfl, rfl⟩, rfl, rfl⟩

/-! ## Packets, and such changes in between -/

section Transport

variable [Transport τ]

/-- **What becomes of a client while packets are sent.** -/
inductive Talk (c : Client τ) : Client τ → Prop
  | refl : Talk c c
  | mute {c' c'' : Client τ} (h : Talk c c') (hm : Mute c' c'') : Talk c c''
  | send {c' : Client τ} (h : Talk c c') (p : Packet) : Talk c (c'.send p)

theorem Mute.talk (h : Mute c c') : Talk c c' := .mute .refl h

namespace Talk

theorem trans (h : Talk c c') (h' : Talk c' c'') : Talk c c'' := by
  induction h' with
  | refl => exact h
  | mute _ hm ih => exact .mute ih hm
  | send _ p ih => exact .send ih p

theorem foldl {α : Type} {f : Client τ → α → Client τ} (hf : ∀ c a, Talk c (f c a)) (l : List α)
    (c : Client τ) : Talk c (l.foldl f c) := by
  induction l generalizing c with
  | nil => exact refl
  | cons a rest ih => exact (hf c a).trans (ih _)

end Talk

theorem talk_sendAll (ps : List Packet) : Talk c (c.sendAll ps) :=
  Talk.foldl (fun _ p => .send .refl p) ps c

theorem talk_dispatch (ns : String) (o : Socket.Outcome) : Talk c (c.dispatch ns o) := by
  have hsent := talk_sendAll (c := c) o.outbound
  unfold dispatch
  dsimp only
  split
  · exact hsent
  · exact hsent.mute (mute_notifySocketOpen ns)
  · have herased : Mute (c.sendAll o.outbound)
        { c.sendAll o.outbound with registry := (c.sendAll o.outbound).registry.erase ns } :=
      ⟨⟨rfl, rfl, rfl, rfl, rfl⟩, rfl, rfl⟩
    exact hsent.mute (herased.trans (mute_notifySocketClose ns))

theorem talk_requestSocket (id : SocketId) : Talk c (c.requestSocket id) := by
  rw [requestSocket]
  split
  · exact .refl
  · exact (mute_modifySocket id _).talk.trans (talk_dispatch _ _)

theorem talk_leaveSocket (id : SocketId) : Talk c (c.leaveSocket id) := by
  rw [leaveSocket]
  split
  · exact .refl
  · exact ((mute_modifySocket id _).talk.trans (talk_sendAll _)).mute (mute_notifySocketClose _)

theorem talk_openSockets : Talk c c.openSockets := by
  unfold openSockets
  dsimp only
  split
  · exact Talk.foldl (fun _ id => talk_requestSocket id) _ c
  · exact (mute_addSocket _).talk.trans (Talk.foldl (fun _ id => talk_requestSocket id) _ _)

theorem talk_closeSockets : Talk c c.closeSockets := by
  have hcleared : Mute c { c with registry := .nil } := ⟨⟨rfl, rfl, rfl, rfl, rfl⟩, rfl, rfl⟩
  exact hcleared.talk.trans (Talk.foldl (fun _ id => talk_leaveSocket id) _ _)

theorem talk_emit (ns name : String) (args : List Value) (reply : Option Label) :
    Talk c (c.emit ns name args reply) := by
  rw [emit]
  split
  · exact .refl
  · split
    · exact .refl
    · exact ((mute_modifySocket _ _).talk.trans (talk_sendAll _)).mute mute_updateAckGauge

theorem talk_socketCreated (ns : String) : Talk c (c.socketCreated ns) := by
  rw [socketCreated]
  split
  · exact .refl
  · split
    · exact .refl
    · exact talk_requestSocket _

theorem talk_closeSocket (ns : String) : Talk c (c.closeSocket ns) := by
  rw [closeSocket]
  split
  · exact .refl
  · next id _ =>
    have herased : Mute c { c with registry := c.registry.erase ns } := ⟨⟨rfl, rfl, rfl, rfl, rfl⟩, rfl, rfl⟩
    exact (herased.talk.trans (talk_leaveSocket id)).mute mute_updateAckGauge

/-- **A message for a namespace.** -/
theorem talk_route (p : Packet) : Talk c (c.route p) := by
  rw [route]
  split
  · exact .refl
  · split
    · exact .refl
    · next id _ =>
      split
      · exact .refl
      · next s _ =>
        have hreported := (mute_modifySocket (c := c) id fun _ => (s.receive p).1).trans
          (Mute.foldl (fun _ n => mute_report n) (s.receive p).2.notices _)
        have hcalled := hreported.trans (mute_callAll (s.receive p).2.calls)
        dsimp only
        split
        · exact hcalled.talk.mute ⟨⟨rfl, rfl, rfl, rfl, rfl⟩, rfl, rfl⟩
        · exact (hcalled.talk.trans (talk_dispatch _ _)).mute mute_updateAckGauge

/-- **What leaves the connection alone** is talk. -/
theorem talk_carryOut {f : Engine.Effect} (hf : f.isQuiet = true) : Talk c (c.carryOut f).1 := by
  cases f with
  | openTransport query headers => cases hf
  | closeTransport cause => cases hf
  | send p => exact .send .refl p
  | arm k delay => exact Mute.talk ⟨⟨rfl, rfl, rfl, rfl, rfl⟩, rfl, rfl⟩
  | cancel k => exact Mute.talk ⟨⟨rfl, rfl, rfl, rfl, rfl⟩, rfl, rfl⟩
  | resetCodec => exact Mute.talk ⟨⟨rfl, rfl, rfl, rfl, rfl⟩, rfl, rfl⟩
  | socketsOpen => exact talk_openSockets
  | socketsDisconnect final => exact ((mute_disconnectSockets final).trans mute_updateAckGauge).talk
  | socketsClose => exact talk_closeSockets.mute mute_updateAckGauge
  | notify event => exact (mute_notify event).talk

theorem talk_carryOutAll {effects : List Engine.Effect} (hq : Engine.Quiet effects) :
    Talk c (c.carryOutAll effects).1 := by
  induction effects generalizing c with
  | nil => exact .refl
  | cons f rest ih =>
    rw [Engine.quiet_cons] at hq
    exact (talk_carryOut hq.1).trans (ih hq.2)

/-! ## What talk leaves as it is -/

/-- **To write frames** changes the transport, and the frames are counted. -/
theorem writeFrames_eq (frames : List Frame) (c : Client τ) :
    c.writeFrames frames =
      { c with
        transport := (c.writeFrames frames).transport
        metrics := { (c.writeFrames frames).metrics with
          connected := c.metrics.connected, acksPending := c.metrics.acksPending } } := by
  induction frames generalizing c with
  | nil => rfl
  | cons frame rest ih =>
    simp only [writeFrames]
    split
    · exact ih _
    · rfl

theorem steady_writeFrames (frames : List Frame) : Steady c (c.writeFrames frames) := by
  rw [writeFrames_eq]
  exact ⟨rfl, rfl, rfl, rfl, rfl⟩

theorem steady_send (p : Packet) : Steady c (c.send p) := by
  rw [send]
  split
  · have hnoted : Steady c { c with journal := .sent c.current p :: c.journal } :=
      ⟨rfl, rfl, rfl, rfl, rfl⟩
    exact hnoted.trans (steady_writeFrames _)
  · exact ⟨rfl, rfl, rfl, rfl, rfl⟩

/-- **Talk leaves the engine and the connection alone**, and publishes nothing. -/
theorem Talk.steady (h : Talk c c') : Steady c c' := by
  induction h with
  | refl => exact ⟨rfl, rfl, rfl, rfl, rfl⟩
  | mute _ hm ih => exact ih.trans hm.toSteady
  | send _ p ih => exact ih.trans (steady_send p)

end Transport

end RealtimeClient.Client
