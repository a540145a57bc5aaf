import RealtimeClient.Handshake
import RealtimeClient.Packet
import RealtimeClient.ReconnectPolicy
import RealtimeClient.Revision

/-!
# The session engine

The state machine of a session.  It does nothing itself: it is told what happened, one input at a
time, and answers with the effects to be carried out, in order.

```text
          connect            transport opened
closed ───────────▶ opening ─────────────────▶ opened
  ▲  ▲                 │                          │
  │  └─ reconnect ◀────┴──── unexpected close ◀───┤
  │      timer                                    │ close
  └──────────────── closing ◀─────────────────────┘
```

* `Engine` — the state; `Engine.new` is the state before anything happened.
* `Engine.Input`, `Engine.Effect` — what it is told and what it asks for.
* `Engine.handle` — one input.
* `Engine.run` — a sequence of inputs, with the effects of each.
-/

namespace RealtimeClient

/-- Parameters of a connection's address. -/
abbrev Query : Type := Dict String

/-- Header lines of a connection's request. -/
abbrev Headers : Type := Dict String

/-- **The state of a session.** -/
inductive SessionState
  | opening
  | opened
  | closing
  | closed
  deriving DecidableEq, Repr

instance : Inhabited SessionState := ⟨.closed⟩

/-- The timers of a session. -/
inductive TimerKind
  /-- Until the next attempt. -/
  | reconnect
  /-- Until the next heartbeat of the client. -/
  | heartbeat
  /-- Until the silence of the server has lasted too long. -/
  | pongTimeout
  deriving DecidableEq, Repr

/-- How a session ended: as it should, or by a loss that is not made good. -/
inductive CloseReason
  | normal
  | drop
  deriving DecidableEq, Repr

/-- **What the application is told.** -/
inductive SessionEvent
  /-- The transport is open. -/
  | opened
  /-- No session came about, and no attempt is left. -/
  | failed
  /-- A further attempt begins. -/
  | reconnecting
  /-- A further attempt will be made: so many were made, and so long is the wait. -/
  | reconnect (made : Nat) (delay : Duration)
  /-- The session has ended. -/
  | closed (reason : CloseReason)
  deriving DecidableEq, Repr

/-- Why the engine gives up a connection on its own. -/
inductive Fault
  /-- The server ended the session. -/
  | endedByServer
  /-- The handshake had no session id. -/
  | badHandshake
  /-- The server was silent for too long. -/
  | silence
  deriving DecidableEq, Repr

/-- **Who asked the transport to close.** -/
inductive Cause
  | user
  | fault (f : Fault)
  deriving DecidableEq, Repr

/-- The reason that is given to the transport. -/
def Cause.reason : Cause → String
  | .user => "End by user"
  | .fault .endedByServer => "End by server"
  | .fault .badHandshake => "Handshake error"
  | .fault .silence => "Pong timeout"

/-- **The state of the engine.** -/
structure Engine where
  revision : Revision
  state : SessionState
  policy : ReconnectPolicy
  /-- The attempts made since a transport was last open. -/
  attempts : Nat
  handshake : Option Handshake
  query : Query
  headers : Headers
  /-- Who asked for the close that is under way. -/
  cause : Option Cause
  /-- Whether an attempt is scheduled. -/
  reconnectPending : Bool
  /-- Whether a heartbeat of the client is unanswered. -/
  awaitingPong : Bool
  /-- The connect that waits for the close to end. -/
  deferredConnect : Option (Query × Headers)
  deriving DecidableEq

namespace Engine

/-- **What happened.** -/
inductive Input
  | connect (query : Query) (headers : Headers)
  | close
  | transportOpened
  | transportClosed (normal : Bool)
  | frameReceived
  | packet (p : Packet)
  | timerFired (k : TimerKind)
  | setAttempts (attempts : Option Nat)
  | setDelay (delay : Duration)
  | setDelayMax (delay : Duration)
  deriving DecidableEq

/-- **What is to be done.** -/
inductive Effect
  | openTransport (query : Query) (headers : Headers)
  | closeTransport (cause : Cause)
  | send (p : Packet)
  | arm (k : TimerKind) (delay : Duration)
  | cancel (k : TimerKind)
  | resetCodec
  | socketsOpen
  /-- The transport is gone; `final` if no attempt will follow. -/
  | socketsDisconnect (final : Bool)
  | socketsClose
  | notify (event : SessionEvent)
  deriving DecidableEq

/-- The engine before anything happened. -/
def new (revision : Revision) (policy : ReconnectPolicy) : Engine :=
  { revision, state := .closed, policy, attempts := 0, handshake := none, query := .nil,
    headers := .nil, cause := none, reconnectPending := false, awaitingPong := false,
    deferredConnect := none }

/-- The session's id, while it has one. -/
def sessionId (e : Engine) : Option String := e.handshake.map (·.sid)

/-! ## Attempts -/

/-- An attempt begins. -/
def startAttempt (e : Engine) : Engine × List Effect :=
  ({ e with state := .opening, handshake := none, cause := none, awaitingPong := false },
    [.resetCodec, .openTransport e.query e.headers])

/-- The application asks to connect.  While a close is under way the wish is kept for later. -/
def connect (e : Engine) (query : Query) (headers : Headers) : Engine × List Effect :=
  match e.state with
  | .opening | .opened => (e, [])
  | .closing => ({ e with deferredConnect := some (query, headers) }, [])
  | .closed =>
    let (e', effects) :=
      startAttempt { e with reconnectPending := false, query, headers, attempts := 0 }
    (e', (if e.reconnectPending then [.cancel .reconnect] else []) ++ effects)

/-! ## Closing -/

/-- The effects that stop the heartbeat. -/
def cancelHeartbeat : List Effect := [.cancel .heartbeat, .cancel .pongTimeout]

/-- The application asks to close. -/
def close (e : Engine) : Engine × List Effect :=
  match e.state with
  | .opening | .opened =>
    ({ e with state := .closing, cause := some .user, awaitingPong := false },
      .socketsClose :: cancelHeartbeat ++ [.closeTransport .user])
  | .closing => (e, [])
  | .closed =>
    if e.reconnectPending then
      ({ e with reconnectPending := false, attempts := 0 },
        [.socketsClose, .cancel .reconnect, .notify (.closed .normal)])
    else (e, [.socketsClose])

/-- The engine gives up the connection, unless its close is under way. -/
def fail (e : Engine) (f : Fault) : Engine × List Effect :=
  if e.cause.isSome then (e, [])
  else
    ({ e with cause := some (.fault f), awaitingPong := false },
      cancelHeartbeat ++ [.closeTransport (.fault f)])

/-! ## Reports of the transport -/

/-- The transport is open. -/
def transportOpened (e : Engine) : Engine × List Effect :=
  match e.state with
  | .opening => ({ e with state := .opened, attempts := 0 }, [.socketsOpen, .notify .opened])
  | .closing => (e, [.closeTransport .user])
  | .opened | .closed => (e, [])

/-- The engine without its connection. -/
def disconnected (e : Engine) : Engine :=
  { e with state := .closed, handshake := none, cause := none, awaitingPong := false }

/-- A connection was lost: another attempt is scheduled, or the session ends. -/
def lose (e : Engine) (wasOpen : Bool) : Engine × List Effect :=
  if e.policy.allows e.attempts then
    let delay := e.policy.delayFor e.attempts
    ({ e with reconnectPending := true },
      [.socketsDisconnect false, .arm .reconnect delay, .notify (.reconnect e.attempts delay)])
  else
    ({ e with attempts := 0 },
      [.socketsDisconnect true, .notify (if wasOpen then .closed .drop else .failed)])

/-- The transport is closed.  After a close that was asked for, a connect that waited is made; after
a fault the close is a loss, whatever the transport says. -/
def transportClosed (e : Engine) (normal : Bool) : Engine × List Effect :=
  match e.state with
  | .closed => (e, [])
  | .closing =>
    let done := { e.disconnected with deferredConnect := none }
    let effects := cancelHeartbeat ++ [.notify (.closed .normal)]
    match e.deferredConnect with
    | none => (done, effects)
    | some (query, headers) =>
      let (e', more) := done.connect query headers
      (e', effects ++ more)
  | .opening | .opened =>
    let faulted := match e.cause with
      | some (.fault _) => true
      | _ => false
    if normal && !faulted then
      (e.disconnected,
        cancelHeartbeat ++ [.socketsDisconnect true, .notify (.closed .normal)])
    else
      let (e', effects) := e.disconnected.lose (e.state = .opened)
      (e', cancelHeartbeat ++ effects)

/-! ## Heartbeat -/

/-- A frame has come: the server is alive. -/
def frameReceived (e : Engine) : Engine × List Effect :=
  match e.state, e.cause, e.handshake with
  | .opened, none, some h =>
    if e.revision.serverPings then (e, [.arm .pongTimeout (h.pingInterval + h.pingTimeout)])
    else if e.awaitingPong then (e, [.arm .pongTimeout h.pingTimeout])
    else (e, [])
  | _, _, _ => (e, [])

/-- The handshake has come. -/
def shakeHands (e : Engine) (p : Packet) : Engine × List Effect :=
  match p.payload.head?.bind Handshake.parse? with
  | none => e.fail .badHandshake
  | some h =>
    ({ e with handshake := some h },
      [if e.revision.serverPings then .arm .pongTimeout (h.pingInterval + h.pingTimeout)
        else .arm .heartbeat h.pingInterval])

/-- The answer to a heartbeat has come. -/
def pongReceived (e : Engine) : Engine × List Effect :=
  if e.revision.serverPings ∨ ¬e.awaitingPong then (e, [])
  else
    ({ e with awaitingPong := false },
      .cancel .pongTimeout ::
        (match e.handshake with
          | some h => [.arm .heartbeat h.pingInterval]
          | none => []))

/-- A packet that manages the session has come. -/
def packet (e : Engine) (p : Packet) : Engine × List Effect :=
  if e.state ≠ .opened then (e, [])
  else
    match p.frame with
    | .handshake => e.shakeHands p
    | .close => e.fail .endedByServer
    | .ping => (e, [.send .pong])
    | .pong => e.pongReceived
    | .message => (e, [])

/-- A timer has fired. -/
def timerFired (e : Engine) : TimerKind → Engine × List Effect
  | .reconnect =>
    if e.state = .closed ∧ e.reconnectPending then
      let (e', effects) :=
        startAttempt { e with reconnectPending := false, attempts := e.attempts + 1 }
      (e', .notify .reconnecting :: effects)
    else (e, [])
  | .heartbeat =>
    match e.state, e.cause, e.handshake with
    | .opened, none, some h =>
      if e.awaitingPong then (e, [.send .ping])
      else ({ e with awaitingPong := true }, [.send .ping, .arm .pongTimeout h.pingTimeout])
    | _, _, _ => (e, [])
  | .pongTimeout =>
    if e.state = .opened ∧ e.handshake.isSome then e.fail .silence else (e, [])

/-! ## One input, and many -/

/-- **One input.**  Gives the state after it and the effects, in order. -/
def handle (e : Engine) : Input → Engine × List Effect
  | .connect query headers => e.connect query headers
  | .close => e.close
  | .transportOpened => e.transportOpened
  | .transportClosed normal => e.transportClosed normal
  | .frameReceived => e.frameReceived
  | .packet p => e.packet p
  | .timerFired k => e.timerFired k
  | .setAttempts attempts => ({ e with policy := e.policy.setAttempts attempts }, [])
  | .setDelay delay => ({ e with policy := e.policy.setDelay delay }, [])
  | .setDelayMax delay => ({ e with policy := e.policy.setDelayMax delay }, [])

/-- **A sequence of inputs**, with the effects of each. -/
def run (e : Engine) : List Input → Engine × List (List Effect)
  | [] => (e, [])
  | input :: rest =>
    let (e, effects) := e.handle input
    let (e, more) := e.run rest
    (e, effects :: more)

end Engine

end RealtimeClient
