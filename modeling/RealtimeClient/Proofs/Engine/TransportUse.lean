import Mathlib
import RealtimeClient.Proofs.Engine.Coherence

/-!
# What an input asks of the transport

Of all that the engine asks for, only two effects concern the transport's connection: opening it
and closing it.  An input leads to at most one of them, as its last effect, and then says what was
the state before and what is the state after.

* `Effect.isQuiet` — the effects that leave the connection alone.
* `Begins` — the inputs that begin an attempt: a connect without a connection, the end of a close that
  a connect waits for, and the timer of a scheduled attempt.
* `Use`, `use_of_handle` — what an input asks for, unless it reports the end of the connection;
  `transportClosed_use` — what that leads to.
* `opens_iff`, `enters_opening_iff` — **exactly** the inputs that begin an attempt open the transport.
-/

namespace RealtimeClient.Engine

/-- **Whether an effect leaves the connection alone.** -/
def Effect.isQuiet : Effect → Bool
  | .openTransport .. | .closeTransport _ => false
  | _ => true

/-- Whether all effects leave the connection alone. -/
def Quiet (effects : List Effect) : Prop := ∀ f ∈ effects, f.isQuiet = true

@[simp] theorem quiet_nil : Quiet [] := by simp [Quiet]

@[simp] theorem quiet_cons (f : Effect) (effects : List Effect) :
    Quiet (f :: effects) ↔ f.isQuiet = true ∧ Quiet effects := by
  simp [Quiet]

@[simp] theorem quiet_append (effects more : List Effect) :
    Quiet (effects ++ more) ↔ Quiet effects ∧ Quiet more := by
  simp only [Quiet, List.mem_append, or_imp, forall_and]

@[simp] theorem quiet_cancelHeartbeat : Quiet cancelHeartbeat := by
  simp [cancelHeartbeat, Effect.isQuiet]

@[simp] theorem startAttempt_state (e : Engine) : e.startAttempt.1.state = .opening := rfl

@[simp] theorem fail_state (e : Engine) (f : Fault) : (e.fail f).1.state = e.state := by
  rw [fail]
  split <;> rfl

@[simp] theorem lose_state (e : Engine) (wasOpen : Bool) : (e.lose wasOpen).1.state = e.state := by
  rw [lose]
  split <;> rfl

/-- After a close a connection is neither under way nor open. -/
theorem state_close (e : Engine) : e.close.1.state = .closing ∨ e.close.1.state = .closed := by
  rw [close]
  split
  · exact .inl rfl
  · exact .inl rfl
  · next hs => exact .inl hs
  · next hs =>
    split
    · exact .inr hs
    · exact .inr hs

/-- **The inputs that begin an attempt.** -/
inductive Begins (e : Engine) : Input → Prop
  | connect (hs : e.state = .closed) (query : Query) (headers : Headers) :
      Begins e (.connect query headers)
  | deferred (hs : e.state = .closing) (hd : e.deferredConnect.isSome) (normal : Bool) :
      Begins e (.transportClosed normal)
  | retry (hs : e.state = .closed) (hp : e.reconnectPending = true) :
      Begins e (.timerFired .reconnect)

variable {e : Engine}

/-! ## One input -/

/-- **What an input asks of the transport**, with the states before and after. -/
inductive Use (e : Engine) (i : Input) : Prop
  /-- Nothing, and the state stays. -/
  | still (quiet : Quiet (e.handle i).2) (state : (e.handle i).1.state = e.state)
      (stays : i = .transportOpened → e.state ≠ .opening)
  /-- Nothing, since the connection is open now. -/
  | connected (quiet : Quiet (e.handle i).2) (before : e.state = .opening)
      (after : (e.handle i).1.state = .opened)
  /-- To close the connection. -/
  | hangsUp (earlier : List Effect) (cause : Cause)
      (effects : (e.handle i).2 = earlier ++ [.closeTransport cause]) (quiet : Quiet earlier)
      (before : e.state ≠ .closed)
      (after : (e.handle i).1.state = .closing ∨ (e.handle i).1.state = .opened)
  /-- To open one. -/
  | dials (begins : Begins e i) (earlier : List Effect) (query : Query) (headers : Headers)
      (effects : (e.handle i).2 = earlier ++ [.openTransport query headers]) (quiet : Quiet earlier)
      (before : e.state = .closed) (after : (e.handle i).1.state = .opening)

namespace Use

theorem of_eq {i : Input} (heq : e.handle i = (e, []))
    (stays : i = .transportOpened → e.state ≠ .opening) : Use e i :=
  .still (by simp [heq]) (by rw [heq]) stays

theorem of_connect (query : Query) (headers : Headers) : Use e (.connect query headers) := by
  cases hs : e.state with
  | closed =>
    refine .dials (.connect hs query headers) ((if e.reconnectPending then [.cancel .reconnect] else []) ++ [.resetCodec])
      query headers ?_ ?_ hs ?_
    · simp [handle, Engine.connect, hs, startAttempt]
    · split <;> simp [Effect.isQuiet]
    · simp [handle, Engine.connect, hs]
  | opening => exact of_eq (by simp [handle, Engine.connect, hs]) (by simp)
  | opened => exact of_eq (by simp [handle, Engine.connect, hs]) (by simp)
  | closing =>
    refine .still ?_ ?_ (by simp)
    · simp [handle, Engine.connect, hs]
    · simp [handle, Engine.connect, hs]

theorem of_close : Use e .close := by
  have hconn (hs : e.state = .opening ∨ e.state = .opened) : Use e .close := by
    refine .hangsUp (.socketsClose :: cancelHeartbeat) .user ?_ ?_ ?_ ?_
    · rcases hs with hs | hs <;> simp [handle, Engine.close, hs]
    · simp [Effect.isQuiet]
    · rcases hs with hs | hs <;> simp [hs]
    · rcases hs with hs | hs <;> simp [handle, Engine.close, hs]
  cases hs : e.state with
  | opening => exact hconn (.inl hs)
  | opened => exact hconn (.inr hs)
  | closing => exact of_eq (by simp [handle, Engine.close, hs]) (by simp)
  | closed =>
    refine .still ?_ ?_ (by simp)
    · simp only [handle, Engine.close, hs]
      split <;> simp [Effect.isQuiet]
    · simp only [handle, Engine.close, hs]
      split <;> simp [hs]

theorem of_transportOpened : Use e .transportOpened := by
  cases hs : e.state with
  | opening =>
    refine .connected ?_ hs ?_
    · simp [handle, Engine.transportOpened, hs, Effect.isQuiet]
    · simp [handle, Engine.transportOpened, hs]
  | closing =>
    refine .hangsUp [] .user ?_ (by simp) (by simp [hs]) (.inl ?_)
    · simp [handle, Engine.transportOpened, hs]
    · simp [handle, Engine.transportOpened, hs]
  | opened => exact of_eq (by simp [handle, Engine.transportOpened, hs]) (by simp [hs])
  | closed => exact of_eq (by simp [handle, Engine.transportOpened, hs]) (by simp [hs])

/-- Giving up an open connection asks for its close, once. -/
theorem of_fail {i : Input} (f : Fault) (heq : e.handle i = e.fail f) (hs : e.state = .opened)
    (hi : i ≠ .transportOpened) : Use e i := by
  by_cases hc : e.cause.isSome
  · exact of_eq (by rw [heq, fail, if_pos hc]) fun h => absurd h hi
  · refine .hangsUp cancelHeartbeat (.fault f) ?_ quiet_cancelHeartbeat (by simp [hs]) (.inr ?_)
    · rw [heq, fail, if_neg hc]
    · rw [heq, fail_state, hs]

theorem of_frameReceived : Use e .frameReceived := by
  refine .still ?_ (by simp [handle]) (by simp)
  simp only [handle, Engine.frameReceived]
  split
  · split
    · simp [Effect.isQuiet]
    · split <;> simp [Effect.isQuiet]
  · simp

/-- The answer to a heartbeat concerns timers only. -/
theorem of_pongReceived {i : Input} (heq : e.handle i = e.pongReceived)
    (hi : i ≠ .transportOpened) : Use e i := by
  refine .still ?_ ?_ fun h => absurd h hi
  · rw [heq, pongReceived]
    split
    · simp
    · split <;> simp [Effect.isQuiet]
  · rw [heq, pongReceived]
    split <;> rfl

/-- A handshake concerns timers only, unless it is bad. -/
theorem of_shakeHands {i : Input} (p : Packet) (heq : e.handle i = e.shakeHands p)
    (hs : e.state = .opened) (hi : i ≠ .transportOpened) : Use e i := by
  match hp : p.payload.head?.bind Handshake.parse? with
  | none =>
    refine of_fail .badHandshake ?_ hs hi
    simp [heq, shakeHands, hp]
  | some h =>
    refine .still ?_ ?_ fun h => absurd h hi
    · cases hv : e.revision.serverPings <;> simp [heq, shakeHands, hp, hv, Effect.isQuiet]
    · simp [heq, shakeHands, hp]

theorem of_packet (p : Packet) : Use e (.packet p) := by
  by_cases hs : e.state = .opened
  · cases hf : p.frame with
    | handshake => exact of_shakeHands p (by simp [handle, Engine.packet, hs, hf]) hs (by simp)
    | close => exact of_fail .endedByServer (by simp [handle, Engine.packet, hs, hf]) hs (by simp)
    | ping =>
      refine .still ?_ ?_ (by simp)
      · simp [handle, Engine.packet, hs, hf, Effect.isQuiet]
      · simp [handle, Engine.packet, hs, hf]
    | pong => exact of_pongReceived (by simp [handle, Engine.packet, hs, hf]) (by simp)
    | message => exact of_eq (by simp [handle, Engine.packet, hs, hf]) (by simp)
  · exact of_eq (by simp [handle, Engine.packet, hs]) (by simp)

theorem of_timerFired (k : TimerKind) : Use e (.timerFired k) := by
  cases k with
  | reconnect =>
    by_cases hr : e.state = .closed ∧ e.reconnectPending
    · refine .dials (.retry hr.1 hr.2) [.notify .reconnecting, .resetCodec] e.query e.headers ?_ ?_
        hr.1 ?_
      · simp [handle, Engine.timerFired, hr, startAttempt]
      · simp [Effect.isQuiet]
      · simp [handle, Engine.timerFired, hr]
    · exact of_eq (by simp only [handle, Engine.timerFired, if_neg hr]) (by simp)
  | heartbeat =>
    refine .still ?_ ?_ (by simp)
    · simp only [handle, Engine.timerFired]
      split
      · split <;> simp [Effect.isQuiet]
      · simp
    · simp only [handle, Engine.timerFired]
      split
      · split <;> rfl
      · rfl
  | pongTimeout =>
    by_cases hr : e.state = .opened ∧ e.handshake.isSome
    · exact of_fail .silence (by simp only [handle, Engine.timerFired, if_pos hr]) hr.1 (by simp)
    · exact of_eq (by simp only [handle, Engine.timerFired, if_neg hr]) (by simp)

end Use

/-- **What an input asks of the transport**, unless it reports the end of the connection. -/
theorem use_of_handle {i : Input} (hi : ∀ normal, i ≠ .transportClosed normal) : Use e i := by
  cases i with
  | connect query headers => exact .of_connect query headers
  | close => exact .of_close
  | transportOpened => exact .of_transportOpened
  | transportClosed normal => exact absurd rfl (hi normal)
  | frameReceived => exact .of_frameReceived
  | packet p => exact .of_packet p
  | timerFired k => exact .of_timerFired k
  | setAttempts attempts => exact .still (by simp [handle]) rfl (by simp)
  | setDelay delay => exact .still (by simp [handle]) rfl (by simp)
  | setDelayMax delay => exact .still (by simp [handle]) rfl (by simp)

/-- **The end of a connection asks for nothing**, unless a connect has waited for it: that one asks
for the next connection. -/
theorem transportClosed_use (e : Engine) (normal : Bool) :
    (Quiet (e.transportClosed normal).2 ∧ (e.transportClosed normal).1.state = .closed) ∨
      Begins e (.transportClosed normal) ∧
        ∃ earlier query headers, (e.transportClosed normal).2 =
            earlier ++ [.openTransport query headers] ∧ Quiet earlier ∧
          (e.transportClosed normal).1.state = .opening := by
  have hconn (hs : e.state = .opening ∨ e.state = .opened) :
      Quiet (e.transportClosed normal).2 ∧ (e.transportClosed normal).1.state = .closed := by
    rcases e.ended_or_lost normal with ⟨rfl, hf⟩ | hl
    · rw [transportClosed_of_ended hs hf]
      simp [disconnected, Effect.isQuiet]
    · rw [transportClosed_of_lost hs hl, lose_state, lose]
      split <;> simp [disconnected, Effect.isQuiet]
  cases hs : e.state with
  | opening => exact .inl (hconn (.inl hs))
  | opened => exact .inl (hconn (.inr hs))
  | closed =>
    rw [transportClosed_of_closed hs]
    exact .inl ⟨quiet_nil, hs⟩
  | closing =>
    cases hd : e.deferredConnect with
    | none =>
      rw [transportClosed_of_closing hs hd]
      exact .inl (by simp [disconnected, Effect.isQuiet])
    | some deferred =>
      obtain ⟨query, headers⟩ := deferred
      rw [transportClosed_of_deferred hs hd]
      refine .inr ⟨.deferred hs (by simp [hd]) normal, cancelHeartbeat ++
        [.notify (.closed .normal)] ++ (if e.reconnectPending then [.cancel .reconnect] else []) ++
        [.resetCodec], query, headers, ?_, ?_, ?_⟩
      · simp only [Engine.connect, disconnected, startAttempt, List.append_assoc,
          List.cons_append, List.nil_append]
        rfl
      · cases e.reconnectPending <;> simp [Effect.isQuiet]
      · simp [Engine.connect, disconnected]

/-! ## What opens the transport -/

/-- Whether effects open the transport. -/
def Opens (effects : List Effect) : Prop := ∃ query headers, .openTransport query headers ∈ effects

theorem Quiet.not_opens {effects : List Effect} (h : Quiet effects) : ¬Opens effects := by
  rintro ⟨query, headers, hm⟩
  cases h _ hm

/-- An input that begins an attempt opens the transport. -/
theorem Begins.opens {i : Input} (h : Begins e i) :
    Opens (e.handle i).2 ∧ (e.handle i).1.state = .opening := by
  cases h with
  | connect hs query headers =>
    refine ⟨⟨query, headers, ?_⟩, ?_⟩
    · simp [handle, Engine.connect, hs, startAttempt]
    · simp [handle, Engine.connect, hs]
  | deferred hs hd normal =>
    obtain ⟨⟨query, headers⟩, hd⟩ := Option.isSome_iff_exists.1 hd
    rw [handle, transportClosed_of_deferred hs hd]
    refine ⟨⟨query, headers, ?_⟩, ?_⟩
    · simp [Engine.connect, disconnected, startAttempt]
    · simp [Engine.connect, disconnected]
  | retry hs hp =>
    refine ⟨⟨e.query, e.headers, ?_⟩, ?_⟩
    · simp [handle, Engine.timerFired, hs, hp, startAttempt]
    · simp [handle, Engine.timerFired, hs, hp]

/-- Any other input does nothing of the kind. -/
theorem begins_or (e : Engine) (i : Input) :
    Begins e i ∨ ¬Opens (e.handle i).2 ∧ ((e.handle i).1.state = .opening → e.state = .opening) := by
  by_cases hi : ∃ normal, i = .transportClosed normal
  · obtain ⟨normal, rfl⟩ := hi
    rcases e.transportClosed_use normal with ⟨quiet, after⟩ | ⟨begins, -⟩
    · refine .inr ⟨quiet.not_opens, ?_⟩
      rw [handle, after]
      intro hs
      cases hs
    · exact .inl begins
  · cases use_of_handle fun normal hn => hi ⟨normal, hn⟩ with
    | still quiet state _ =>
      refine .inr ⟨quiet.not_opens, ?_⟩
      rw [state]
      exact id
    | connected quiet before _ => exact .inr ⟨quiet.not_opens, fun _ => before⟩
    | hangsUp earlier cause effects quiet _ after =>
      refine .inr ⟨?_, ?_⟩
      · rw [effects]
        rintro ⟨query, headers, hm⟩
        rcases List.mem_append.1 hm with hm | hm
        · exact quiet.not_opens ⟨query, headers, hm⟩
        · cases List.mem_singleton.1 hm
      · rcases after with after | after <;> simp [after]
    | dials begins => exact .inl begins

/-- **Exactly the inputs that begin an attempt open the transport.** -/
theorem opens_iff (e : Engine) (i : Input) : Opens (e.handle i).2 ↔ Begins e i := by
  rcases begins_or e i with hb | ⟨ho, -⟩
  · exact iff_of_true hb.opens.1 hb
  · exact iff_of_false ho fun hb => ho hb.opens.1

/-- **Exactly the inputs that begin an attempt lead to `opening`.** -/
theorem enters_opening_iff (hs : e.state ≠ .opening) (i : Input) :
    (e.handle i).1.state = .opening ↔ Begins e i := by
  rcases begins_or e i with hb | ⟨-, ho⟩
  · exact iff_of_true hb.opens.2 hb
  · exact iff_of_false (fun h => hs (ho h)) fun hb => hs (ho hb.opens.2)

/-- **Only the transport's report leads to `opened`**, and only from `opening`. -/
theorem enters_opened_iff (hs : e.state ≠ .opened) (i : Input) :
    (e.handle i).1.state = .opened ↔ e.state = .opening ∧ i = .transportOpened := by
  constructor
  · intro ho
    cases i with
    | connect query headers =>
      cases he : e.state <;> simp [handle, Engine.connect, he] at ho hs
    | close =>
      rcases e.state_close with hc | hc <;> cases ho.symm.trans hc
    | transportOpened =>
      cases he : e.state <;> simp [handle, Engine.transportOpened, he] at ho hs ⊢
    | transportClosed normal =>
      rw [handle] at ho
      rcases e.transportClosed_use normal with ⟨-, after⟩ | ⟨-, -, -, -, -, -, after⟩ <;>
        cases ho.symm.trans after
    | frameReceived =>
      rw [handle, frameReceived_fst] at ho
      exact absurd ho hs
    | packet p =>
      rw [handle, Engine.packet, if_pos hs] at ho
      exact absurd ho hs
    | timerFired k =>
      cases k with
      | reconnect =>
        simp only [handle, Engine.timerFired] at ho
        split at ho
        · cases ho
        · exact absurd ho hs
      | heartbeat =>
        simp only [handle, Engine.timerFired] at ho
        split at ho
        · next hopened _ _ => exact absurd hopened hs
        · exact absurd ho hs
      | pongTimeout =>
        rw [handle, Engine.timerFired, if_neg fun h => hs h.1] at ho
        exact absurd ho hs
    | setAttempts attempts => exact absurd ho hs
    | setDelay delay => exact absurd ho hs
    | setDelayMax delay => exact absurd ho hs
  · rintro ⟨hopening, rfl⟩
    simp [handle, Engine.transportOpened, hopening]

end RealtimeClient.Engine
