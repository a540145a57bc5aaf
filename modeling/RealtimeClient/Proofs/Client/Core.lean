import RealtimeClient.Client.Turns
import RealtimeClient.Proofs.Engine.TransportUse

/-!
# The task's own state

Engine, codec, timers, the connection that counts and how far the task has come are the task's own:
what the sockets do, what is sent and what the application calls leave them as they are.

* `Client.Core`, `Client.core` — the task's own state.
* `core_send`, `core_call` and so on — one lemma for each operation that leaves it alone;
  **`core_route`** — a listener can do no more to it than to make the task fail.
* **`core_carryOut`** — what an effect does to it; `current_carryOut` — and to the connection.
* `core_finish` — what letting go of everything does to it; `elapseTo_cases` — what time does.
-/

namespace RealtimeClient

/-- What an effect does to the timers. -/
def Engine.Effect.retime (timers : TimerSet TimerKind) : Engine.Effect → TimerSet TimerKind
  | .arm k delay => timers.arm k delay
  | .cancel k => timers.cancel k
  | _ => timers

/-- What an effect does to the codec. -/
def Engine.Effect.recode (codec : Codec) : Engine.Effect → Codec
  | .resetCodec => codec.reset
  | _ => codec

namespace Client

/-- **The task's own state.** -/
structure Core where
  engine : Engine
  codec : Codec
  timers : TimerSet TimerKind
  current : Option ConnectionId
  phase : Phase

variable {τ : Type}

/-- The task's own part of a client. -/
def core (c : Client τ) : Core :=
  { engine := c.engine, codec := c.codec, timers := c.timers, current := c.current,
    phase := c.phase }

variable {c c' : Client τ}

theorem core_foldl {α : Type} {f : Client τ → α → Client τ} (hf : ∀ c a, (f c a).core = c.core)
    (l : List α) (c : Client τ) : (l.foldl f c).core = c.core := by
  induction l generalizing c with
  | nil => rfl
  | cons a rest ih => exact (ih _).trans (hf c a)

theorem core_with_current (h : c'.core = c.core) : c'.core = { c.core with current := c'.current } := by
  have hcurrent : c'.current = c.current := congrArg Core.current h
  rw [h, hcurrent]
  rfl

/-! ## Reports and sockets -/

@[simp] theorem core_report (n : Notice) : (c.report n).core = c.core := rfl

@[simp] theorem core_modifySocket (id : SocketId) (f : Socket → Socket) :
    (c.modifySocket id f).core = c.core := rfl

@[simp] theorem core_addSocket (ns : String) : (c.addSocket ns).core = c.core := rfl

@[simp] theorem core_updateAckGauge : c.updateAckGauge.core = c.core := rfl

@[simp] theorem core_publishStatus : c.publishStatus.core = c.core := rfl

@[simp] theorem core_notify (event : SessionEvent) : (c.notify event).core = c.core := by
  unfold notify
  dsimp only
  split <;> split <;> rfl

@[simp] theorem core_notifySocketOpen (ns : String) : (c.notifySocketOpen ns).core = c.core := by
  rw [notifySocketOpen]
  split <;> rfl

@[simp] theorem core_notifySocketClose (ns : String) : (c.notifySocketClose ns).core = c.core := by
  rw [notifySocketClose]
  split <;> rfl

@[simp] theorem core_disconnectSockets (final : Bool) : (c.disconnectSockets final).core = c.core :=
  core_foldl (fun _ id => core_modifySocket id (·.disconnect final)) _ c

/-! ## Calls -/

@[simp] theorem core_push (command : Command) : (c.push command).core = c.core := by
  rw [push]
  split <;> rfl

@[simp] theorem core_joinSocket (name : String) : (c.joinSocket name).2.core = c.core := by
  unfold joinSocket
  dsimp only
  split
  · rfl
  · exact core_push _

@[simp] theorem core_pushFor (id : SocketId) (command : String → Command) :
    (c.pushFor id command).core = c.core := by
  rw [pushFor]
  split
  · exact core_push _
  · rfl

/-- **A call of the application leaves the task's own state alone.** -/
@[simp] theorem core_call (a : Call) : (c.call a).core = c.core := by
  cases a with
  | join ns => exact core_joinSocket ns
  | emit id name args reply => exact core_pushFor id fun ns => .emit ns name args reply
  | leave id => exact core_pushFor id _
  | connect query headers => exact core_push _
  | close => exact core_push _
  | shutdown => exact core_push _
  | setAttempts attempts => exact core_push _
  | setDelay delay => exact core_push _
  | setDelayMax delay => exact core_push _
  | _ => rfl

theorem call_phase (a : Call) : (c.call a).phase = c.phase := congrArg Core.phase (core_call a)

@[simp] theorem core_callAll (calls : List Call) : (c.callAll calls).core = c.core :=
  core_foldl (fun _ a => core_call a) calls c

@[simp] theorem core_on (id : SocketId) (name : String) (listener : Listener) :
    (c.on id name listener).core = c.core := rfl

variable [Transport τ]

/-! ## Sending -/

@[simp] theorem core_writeFrames (frames : List Frame) : (c.writeFrames frames).core = c.core := by
  induction frames generalizing c with
  | nil => rfl
  | cons frame rest ih =>
    rw [writeFrames]
    dsimp only
    split
    · exact ih
    · rfl

@[simp] theorem core_send (p : Packet) : (c.send p).core = c.core := by
  rw [send]
  split
  · exact core_writeFrames _
  · rfl

@[simp] theorem core_sendAll (ps : List Packet) : (c.sendAll ps).core = c.core :=
  core_foldl (fun _ p => core_send p) ps c

@[simp] theorem core_dispatch (ns : String) (o : Socket.Outcome) :
    (c.dispatch ns o).core = c.core := by
  unfold dispatch
  dsimp only
  split
  · exact core_sendAll _
  · exact (core_notifySocketOpen ns).trans (core_sendAll _)
  · exact (core_notifySocketClose ns).trans (core_sendAll (c := c) o.outbound)

@[simp] theorem core_requestSocket (id : SocketId) : (c.requestSocket id).core = c.core := by
  rw [requestSocket]
  split
  · rfl
  · exact core_dispatch _ _

@[simp] theorem core_leaveSocket (id : SocketId) : (c.leaveSocket id).core = c.core := by
  rw [leaveSocket]
  split
  · rfl
  · exact (core_notifySocketClose _).trans (core_sendAll _)

@[simp] theorem core_openSockets : c.openSockets.core = c.core := by
  unfold openSockets
  dsimp only
  split
  · exact core_foldl (fun _ id => core_requestSocket id) _ c
  · exact core_foldl (fun _ id => core_requestSocket id) _ _

@[simp] theorem core_closeSockets : c.closeSockets.core = c.core :=
  core_foldl (fun _ id => core_leaveSocket id) _ _

/-! ## Turns without the engine -/

@[simp] theorem core_emit (ns name : String) (args : List Value) (reply : Option Label) :
    (c.emit ns name args reply).core = c.core := by
  rw [emit]
  split
  · rfl
  · split
    · rfl
    · exact core_sendAll _

@[simp] theorem core_socketCreated (ns : String) : (c.socketCreated ns).core = c.core := by
  rw [socketCreated]
  split
  · rfl
  · split
    · rfl
    · exact core_requestSocket _

@[simp] theorem core_closeSocket (ns : String) : (c.closeSocket ns).core = c.core := by
  rw [closeSocket]
  split
  · rfl
  · exact core_leaveSocket _

/-- **A message for a namespace leaves the task's own state alone**, unless a listener fails: then the
task does. -/
theorem core_route (p : Packet) :
    (c.route p).core = c.core ∨ (c.route p).core = { c.core with phase := .failed } := by
  rw [route]
  split
  · exact .inl rfl
  · split
    · exact .inl rfl
    · next id _ =>
      split
      · exact .inl rfl
      · next s _ =>
        have hcalls : (((s.receive p).2.notices.foldl report
            (c.modifySocket id fun _ => (s.receive p).1)).callAll (s.receive p).2.calls).core =
              c.core :=
          (core_callAll _).trans (core_foldl (fun _ n => core_report n) _ _)
        dsimp only
        split
        · exact .inr (congrArg (fun k : Core => { k with phase := .failed }) hcalls)
        · exact .inl ((core_dispatch _ _).trans hcalls)

/-! ## Effects -/

/-- **What an effect does to the task's own state**, the connection apart. -/
theorem core_carryOut (f : Engine.Effect) :
    (c.carryOut f).1.core =
      { c.core with
        codec := f.recode c.codec
        timers := f.retime c.timers
        current := (c.carryOut f).1.current } := by
  cases f with
  | openTransport query headers =>
    simp only [carryOut, openTransport]
    split <;> rfl
  | closeTransport cause =>
    simp only [carryOut, closeTransport]
    split <;> rfl
  | send p => exact core_with_current (core_send p)
  | arm k delay => rfl
  | cancel k => rfl
  | resetCodec => rfl
  | socketsOpen => exact core_with_current core_openSockets
  | socketsDisconnect final => exact core_with_current (core_disconnectSockets (c := c) final)
  | socketsClose => exact core_with_current (core_closeSockets (c := c))
  | notify event => exact core_with_current (core_notify event)

theorem engine_carryOut (f : Engine.Effect) : (c.carryOut f).1.engine = c.engine :=
  congrArg Core.engine (core_carryOut f)

theorem phase_carryOut (f : Engine.Effect) : (c.carryOut f).1.phase = c.phase :=
  congrArg Core.phase (core_carryOut f)

theorem codec_carryOut (f : Engine.Effect) : (c.carryOut f).1.codec = f.recode c.codec :=
  congrArg Core.codec (core_carryOut f)

/-- **Only a dial gives the client another connection**; a close can at most take away the one it
has. -/
theorem current_carryOut {f : Engine.Effect} (hf : ∀ query headers, f ≠ .openTransport query headers) :
    (c.carryOut f).1.current = c.current ∨
      (c.carryOut f).1.current = none ∧ f.isQuiet = false := by
  cases f with
  | openTransport query headers => exact absurd rfl (hf query headers)
  | closeTransport cause =>
    simp only [carryOut, closeTransport]
    split
    · exact .inl rfl
    · exact .inr ⟨rfl, rfl⟩
  | send p => exact .inl (congrArg Core.current (core_send p))
  | arm k delay => exact .inl rfl
  | cancel k => exact .inl rfl
  | resetCodec => exact .inl rfl
  | socketsOpen => exact .inl (congrArg Core.current core_openSockets)
  | socketsDisconnect final =>
    exact .inl (congrArg Core.current (core_disconnectSockets (c := c) final))
  | socketsClose => exact .inl (congrArg Core.current (core_closeSockets (c := c)))
  | notify event => exact .inl (congrArg Core.current (core_notify event))

/-- From what leaves the connection alone nothing follows. -/
theorem carryOut_snd_of_quiet {f : Engine.Effect} (hf : f.isQuiet = true) :
    (c.carryOut f).2 = none := by
  cases f with
  | openTransport query headers => cases hf
  | closeTransport cause => cases hf
  | _ => rfl

/-! ## The end -/

/-- **What letting go of everything does to the task's own state.** -/
theorem core_finish :
    c.finish.core =
      { c.core with timers := c.timers.cancelAll, current := none, phase := .ended } := by
  have hsockets : ({ c with timers := c.timers.cancelAll }.disconnectSockets true).core =
      ({ c with timers := c.timers.cancelAll } : Client τ).core := core_disconnectSockets true
  exact congrArg (fun k : Core => { k with current := none, phase := .ended }) hsockets

theorem engine_finish : c.finish.engine = c.engine := congrArg Core.engine core_finish

/-- **Time passes** and nothing else happens, or the time to confirm the last close is up. -/
theorem elapseTo_cases (c : Client τ) (time : Nat) :
    c.elapseTo time = { c with timers := c.timers.elapseTo time } ∨
      ∃ deadline, c.phase = .draining deadline ∧ deadline ≤ time ∧
        c.elapseTo time = ({ c with timers := c.timers.elapseTo time } : Client τ).finish := by
  simp only [elapseTo]
  split
  · next deadline hdraining =>
    by_cases htime : deadline ≤ time
    · exact .inr ⟨deadline, hdraining, htime, if_pos htime⟩
    · exact .inl (if_neg htime)
  · exact .inl rfl

end Client

end RealtimeClient
