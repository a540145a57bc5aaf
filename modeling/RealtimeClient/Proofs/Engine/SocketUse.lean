import Mathlib
import RealtimeClient.Proofs.Engine.TransportUse

/-!
# What an input asks of the sockets

The sockets are told of an open connection and of a lost one, and are closed with the session.  They
are told that the connection is open exactly when the engine learns of it, and whenever the engine is
open no more they have been told of that, too.

* `Effect.isPlain`, `plain_handle` — nothing else opens the sockets, and the engine sends no messages.
* `socketsOpen_mem_iff` — **exactly** the report that the connection is open tells the sockets so.
* `Effect.endsSockets`, `endsSockets_of_left` — no way out of an open session leaves the sockets out;
  `endsSockets_of_closing` — the end of a close does.
* `Effect.isCalm`, `calm_of_opened` — as long as a session stays open the sockets are told nothing.
* `handle_revision` — the revision stays.
-/

namespace RealtimeClient.Engine

variable {e : Engine}

/-- Whether an effect tells the sockets that the connection is gone. -/
def Effect.endsSockets : Effect → Bool
  | .socketsDisconnect _ | .socketsClose => true
  | _ => false

/-- **Whether an effect neither opens the sockets nor sends a message.** -/
def Effect.isPlain : Effect → Bool
  | .socketsOpen => false
  | .send p => p.frame ≠ .message
  | _ => true

/-! ## Opening -/

theorem plain_fail (f : Fault) : ∀ g ∈ (e.fail f).2, g.isPlain = true := by
  rw [fail]
  split <;> simp [cancelHeartbeat, Effect.isPlain]

theorem plain_connect (query : Query) (headers : Headers) :
    ∀ f ∈ (e.connect query headers).2, f.isPlain = true := by
  rw [connect]
  split
  · simp
  · simp
  · simp
  · dsimp only
    split <;> simp [startAttempt, Effect.isPlain]

theorem plain_close : ∀ f ∈ e.close.2, f.isPlain = true := by
  rw [close]
  split
  · simp [cancelHeartbeat, Effect.isPlain]
  · simp [cancelHeartbeat, Effect.isPlain]
  · simp
  · split <;> simp [Effect.isPlain]

theorem plain_lose (wasOpen : Bool) : ∀ f ∈ (e.lose wasOpen).2, f.isPlain = true := by
  rw [lose]
  split <;> simp [Effect.isPlain]

theorem plain_transportClosed (normal : Bool) :
    ∀ f ∈ (e.transportClosed normal).2, f.isPlain = true := by
  have hcancel : ∀ f ∈ cancelHeartbeat, f.isPlain = true := by simp [cancelHeartbeat, Effect.isPlain]
  have hconn (hs : e.state = .opening ∨ e.state = .opened) :
      ∀ f ∈ (e.transportClosed normal).2, f.isPlain = true := by
    rcases e.ended_or_lost normal with ⟨rfl, hf⟩ | hl
    · rw [transportClosed_of_ended hs hf]
      simp [cancelHeartbeat, Effect.isPlain]
    · rw [transportClosed_of_lost hs hl]
      exact List.forall_mem_append.2 ⟨hcancel, plain_lose _⟩
  cases hs : e.state with
  | closed => simp [transportClosed_of_closed hs]
  | opening => exact hconn (.inl hs)
  | opened => exact hconn (.inr hs)
  | closing =>
    cases hd : e.deferredConnect with
    | none => simp [transportClosed_of_closing hs hd, cancelHeartbeat, Effect.isPlain]
    | some deferred =>
      obtain ⟨query, headers⟩ := deferred
      rw [transportClosed_of_deferred hs hd]
      refine List.forall_mem_append.2 ⟨?_, plain_connect query headers⟩
      simp [cancelHeartbeat, Effect.isPlain]

theorem plain_frameReceived : ∀ f ∈ e.frameReceived.2, f.isPlain = true := by
  rw [frameReceived]
  split
  · split
    · simp [Effect.isPlain]
    · split <;> simp [Effect.isPlain]
  · simp

/-- A ping is answered, which is no message. -/
theorem plain_packet (p : Packet) : ∀ f ∈ (e.packet p).2, f.isPlain = true := by
  rw [packet]
  split
  · simp
  · split
    · rw [shakeHands]
      split
      · exact plain_fail _
      · split <;> simp [Effect.isPlain]
    · exact plain_fail _
    · simp [Effect.isPlain, Packet.pong, Packet.engine]
    · rw [pongReceived]
      split
      · simp
      · split <;> simp [Effect.isPlain]
    · simp

/-- The heartbeat is a ping, which is no message either. -/
theorem plain_timerFired (k : TimerKind) : ∀ f ∈ (e.timerFired k).2, f.isPlain = true := by
  cases k with
  | reconnect =>
    simp only [timerFired]
    split <;> simp [startAttempt, Effect.isPlain]
  | heartbeat =>
    simp only [timerFired]
    split
    · split <;> simp [Effect.isPlain, Packet.ping, Packet.engine]
    · simp
  | pongTimeout =>
    simp only [timerFired]
    split
    · exact plain_fail _
    · simp

/-- **Only the report that the connection is open leads to anything else.** -/
theorem plain_handle {i : Input} (h : e.state = .opening → i ≠ .transportOpened) :
    ∀ f ∈ (e.handle i).2, f.isPlain = true := by
  cases i with
  | connect query headers => exact plain_connect query headers
  | close => exact plain_close
  | transportOpened =>
    cases hs : e.state with
    | opening => exact absurd rfl (h hs)
    | _ => simp [handle, transportOpened, hs, Effect.isPlain]
  | transportClosed normal => exact plain_transportClosed normal
  | frameReceived => exact plain_frameReceived
  | packet p => exact plain_packet p
  | timerFired k => exact plain_timerFired k
  | setAttempts attempts => simp [handle]
  | setDelay delay => simp [handle]
  | setDelayMax delay => simp [handle]

/-- **Exactly the report that the connection is open opens the sockets.** -/
theorem socketsOpen_mem_iff (i : Input) :
    .socketsOpen ∈ (e.handle i).2 ↔ e.state = .opening ∧ i = .transportOpened := by
  constructor
  · intro hmem
    by_contra hnot
    cases plain_handle (fun hs hi => hnot ⟨hs, hi⟩) _ hmem
  · rintro ⟨hs, rfl⟩
    simp [handle, transportOpened, hs]

/-- Nothing else that the engine is told opens them. -/
theorem not_socketsOpen_mem {i : Input} (hi : i ≠ .transportOpened) : .socketsOpen ∉ (e.handle i).2 :=
  fun hm => hi ((socketsOpen_mem_iff i).1 hm).2

/-! ## The end of an open session -/

/-- A packet does not end a session by itself: at most its connection is to be closed. -/
theorem packet_state (e : Engine) (p : Packet) : (e.packet p).1.state = e.state := by
  rw [packet]
  split
  · rfl
  · split
    · rw [shakeHands]
      split
      · exact fail_state _ _
      · rfl
    · exact fail_state _ _
    · rfl
    · rw [pongReceived]
      split <;> rfl
    · rfl

theorem timerFired_state_of_opened (hs : e.state = .opened) (k : TimerKind) :
    (e.timerFired k).1.state = .opened := by
  cases k with
  | reconnect => simp [timerFired, hs]
  | heartbeat =>
    simp only [timerFired]
    split
    · split <;> exact hs
    · exact hs
  | pongTimeout =>
    simp only [timerFired]
    split
    · rw [fail_state, hs]
    · exact hs

/-- **Whatever ends an open session is told to the sockets.** -/
theorem endsSockets_of_left (hs : e.state = .opened) {i : Input}
    (hleft : (e.handle i).1.state ≠ .opened) :
    ∃ f ∈ (e.handle i).2, f.endsSockets = true := by
  cases i with
  | close => exact ⟨.socketsClose, by simp [handle, close, hs], rfl⟩
  | transportClosed normal =>
    rcases e.ended_or_lost normal with ⟨rfl, hf⟩ | hl
    · refine ⟨.socketsDisconnect true, ?_, rfl⟩
      simp [handle, transportClosed_of_ended (.inr hs) hf]
    · rw [handle, transportClosed_of_lost (.inr hs) hl, lose]
      split
      · exact ⟨.socketsDisconnect false, by simp, rfl⟩
      · exact ⟨.socketsDisconnect true, by simp, rfl⟩
  | connect query headers => exact absurd (by simp [handle, connect, hs]) hleft
  | transportOpened => exact absurd (by simp [handle, transportOpened, hs]) hleft
  | frameReceived => exact absurd (by simp [handle, hs]) hleft
  | packet p => exact absurd ((e.packet_state p).trans hs) hleft
  | timerFired k => exact absurd (timerFired_state_of_opened hs k) hleft
  | setAttempts attempts => exact absurd hs hleft
  | setDelay delay => exact absurd hs hleft
  | setDelayMax delay => exact absurd hs hleft

/-- **The end of a close that was asked for** is not told to the sockets, which have left before. -/
theorem endsSockets_of_closing (hs : e.state = .closing) (normal : Bool) :
    ∀ f ∈ (e.handle (.transportClosed normal)).2, f.endsSockets = false := by
  rw [handle]
  cases hd : e.deferredConnect with
  | none =>
    rw [transportClosed_of_closing hs hd]
    simp [cancelHeartbeat, Effect.endsSockets]
  | some deferred =>
    obtain ⟨query, headers⟩ := deferred
    rw [transportClosed_of_deferred hs hd]
    cases hpending : e.reconnectPending <;>
      simp [connect, disconnected, startAttempt, cancelHeartbeat, Effect.endsSockets, hpending]

/-! ## While a session is open -/

/-- **Whether an effect tells the sockets nothing**, and asks for no connection. -/
def Effect.isCalm : Effect → Bool
  | .openTransport .. | .socketsOpen | .socketsDisconnect _ | .socketsClose => false
  | _ => true

theorem calm_fail (f : Fault) : ∀ g ∈ (e.fail f).2, g.isCalm = true := by
  rw [fail]
  split <;> simp [cancelHeartbeat, Effect.isCalm]

theorem calm_frameReceived : ∀ g ∈ e.frameReceived.2, g.isCalm = true := by
  rw [frameReceived]
  split
  · split
    · simp [Effect.isCalm]
    · split <;> simp [Effect.isCalm]
  · simp

theorem calm_packet (p : Packet) : ∀ g ∈ (e.packet p).2, g.isCalm = true := by
  rw [packet]
  split
  · simp
  · split
    · rw [shakeHands]
      split
      · exact calm_fail _
      · split <;> simp [Effect.isCalm]
    · exact calm_fail _
    · simp [Effect.isCalm]
    · rw [pongReceived]
      split
      · simp
      · split <;> simp [Effect.isCalm]
    · simp

theorem calm_timerFired_of_opened (hs : e.state = .opened) (k : TimerKind) :
    ∀ g ∈ (e.timerFired k).2, g.isCalm = true := by
  cases k with
  | reconnect => simp [timerFired, hs]
  | heartbeat =>
    simp only [timerFired]
    split
    · split <;> simp [Effect.isCalm]
    · simp
  | pongTimeout =>
    simp only [timerFired]
    split
    · exact calm_fail _
    · simp

/-- **While a session stays open the sockets are told nothing**, and no connection is asked for. -/
theorem calm_of_opened (hs : e.state = .opened) {i : Input} (hs' : (e.handle i).1.state = .opened) :
    ∀ f ∈ (e.handle i).2, f.isCalm = true := by
  cases i with
  | connect query headers => simp [handle, connect, hs]
  | close => rcases e.state_close with hc | hc <;> cases hs'.symm.trans hc
  | transportOpened => simp [handle, transportOpened, hs]
  | transportClosed normal =>
    rw [handle] at hs'
    rcases e.transportClosed_use normal with ⟨-, after⟩ | ⟨-, -, -, -, -, -, after⟩ <;>
      cases hs'.symm.trans after
  | frameReceived => exact calm_frameReceived
  | packet p => exact calm_packet p
  | timerFired k => exact calm_timerFired_of_opened hs k
  | setAttempts attempts => simp [handle]
  | setDelay delay => simp [handle]
  | setDelayMax delay => simp [handle]

/-! ## The revision -/

@[simp] theorem fail_revision (e : Engine) (f : Fault) : (e.fail f).1.revision = e.revision := by
  rw [fail]
  split <;> rfl

@[simp] theorem lose_revision (e : Engine) (wasOpen : Bool) :
    (e.lose wasOpen).1.revision = e.revision := by
  rw [lose]
  split <;> rfl

@[simp] theorem connect_revision (e : Engine) (query : Query) (headers : Headers) :
    (e.connect query headers).1.revision = e.revision := by
  rw [connect]
  split <;> rfl

theorem transportClosed_revision (e : Engine) (normal : Bool) :
    (e.transportClosed normal).1.revision = e.revision := by
  have hconn (hs : e.state = .opening ∨ e.state = .opened) :
      (e.transportClosed normal).1.revision = e.revision := by
    rcases e.ended_or_lost normal with ⟨rfl, hf⟩ | hl
    · rw [transportClosed_of_ended hs hf]
      rfl
    · rw [transportClosed_of_lost hs hl, lose_revision]
      rfl
  cases hs : e.state with
  | closed => rw [transportClosed_of_closed hs]
  | opening => exact hconn (.inl hs)
  | opened => exact hconn (.inr hs)
  | closing =>
    cases hd : e.deferredConnect with
    | none =>
      rw [transportClosed_of_closing hs hd]
      rfl
    | some deferred =>
      obtain ⟨query, headers⟩ := deferred
      rw [transportClosed_of_deferred hs hd, connect_revision]
      rfl

theorem packet_revision (e : Engine) (p : Packet) : (e.packet p).1.revision = e.revision := by
  rw [packet]
  split
  · rfl
  · split
    · rw [shakeHands]
      split
      · exact fail_revision _ _
      · rfl
    · exact fail_revision _ _
    · rfl
    · rw [pongReceived]
      split <;> rfl
    · rfl

/-- **No input changes the revision.** -/
theorem handle_revision (e : Engine) (i : Input) : (e.handle i).1.revision = e.revision := by
  cases i with
  | connect query headers => exact connect_revision e query headers
  | close =>
    simp only [handle, close]
    split
    · rfl
    · rfl
    · rfl
    · split <;> rfl
  | transportOpened =>
    simp only [handle, transportOpened]
    split <;> rfl
  | transportClosed normal => exact e.transportClosed_revision normal
  | frameReceived => rw [handle, frameReceived_fst]
  | packet p => exact e.packet_revision p
  | timerFired k =>
    cases k with
    | reconnect =>
      simp only [handle, timerFired]
      split <;> rfl
    | heartbeat =>
      simp only [handle, timerFired]
      split
      · split <;> rfl
      · rfl
    | pongTimeout =>
      simp only [handle, timerFired]
      split
      · exact fail_revision _ _
      · rfl
  | setAttempts attempts => rfl
  | setDelay delay => rfl
  | setDelayMax delay => rfl

end RealtimeClient.Engine
