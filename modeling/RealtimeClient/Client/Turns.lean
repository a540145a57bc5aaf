import RealtimeClient.Client.Calls
import RealtimeClient.Client.Effects

/-!
# The client's task

The task takes turns: each turn is one command, one event of the transport or one timer.  Its last
command is the shutdown, after which it closes the session, waits for the transport to confirm, and
lets go of everything.

* `Client.execute`, `Client.receiveEvent`, `Client.timerFired` — the three kinds of turn.
* `Client.beginShutdown`, `Client.finish` — winding up.
* `Client.Turn`, `Client.turn?` — the turn of a kind, if there is something to do.
* `Client.next?` — a turn of any kind.
* `Client.runUntil` — turns and the passing of time.
-/

namespace RealtimeClient.Client

variable {τ : Type} [Transport τ]

/-! ## Packets -/

/-- A message for a namespace: its socket gets it.  A message for a namespace without a socket, or
while the session is not open, is dropped. -/
def route (c : Client τ) (p : Packet) : Client τ :=
  if c.engine.state ≠ .opened then c
  else
    match c.registered? p.ns with
    | none => c
    | some id =>
      match c.socket? id with
      | none => c
      | some s =>
        let (s', outcome) := s.receive p
        let c := outcome.notices.foldl report (c.modifySocket id fun _ => s')
        let c := c.callAll outcome.calls
        if outcome.fails then { c with phase := .failed, commands := [] }
        else (c.dispatch p.ns outcome).updateAckGauge

/-- A frame of the current connection. -/
def receiveFrame (c : Client τ) (frame : Frame) : Client τ :=
  let c := { c with metrics := c.metrics.recordFrame .inbound frame.size }
  let c := c.handle .frameReceived
  let (codec, result) := c.codec.feed frame
  let c := { c with codec }
  match result with
  | .ok none => c
  | .ok (some p) => if p.frame = .message then c.route p else c.handle (.packet p)
  | .error _ => { c with metrics := c.metrics.recordDecodeError }

/-! ## Turns -/

/-- **An event of the transport.**  Events of other connections than the current one do not
count. -/
def receiveEvent (c : Client τ) (id : ConnectionId) (event : TransportEvent) : Client τ :=
  if c.current ≠ some id then c
  else
    match event with
    | .opened => c.handle .transportOpened
    | .closed normal => { c with current := none }.handle (.transportClosed normal)
    | .message frame => c.receiveFrame frame
    | .httpResponse .. => c

def timerFired (c : Client τ) (k : TimerKind) : Client τ := c.handle (.timerFired k)

/-- An event that is emitted: it is sent or queued; without a socket it is dropped. -/
def emit (c : Client τ) (ns name : String) (args : List Value) (reply : Option Label) :
    Client τ :=
  match c.registered? ns with
  | none => c
  | some id =>
    match c.socket? id with
    | none => c
    | some s =>
      let (s', packet) := s.emit name args reply
      ((c.modifySocket id fun _ => s').sendAll packet.toList).updateAckGauge

/-- A socket was made: its namespace is asked for if the session is open. -/
def socketCreated (c : Client τ) (ns : String) : Client τ :=
  if c.engine.state ≠ .opened then c
  else
    match c.registered? ns with
    | none => c
    | some id => c.requestSocket id

/-- A socket is to be closed: it leaves the client and its namespace. -/
def closeSocket (c : Client τ) (ns : String) : Client τ :=
  match c.registered? ns with
  | none => c
  | some id => ({ c with registry := c.registry.erase ns }.leaveSocket id).updateAckGauge

/-! ## Winding up -/

/-- How many milliseconds the task waits for the transport to confirm the last close. -/
def shutdownGrace : Nat := 5000

/-- **Let go of everything.** -/
def finish (c : Client τ) : Client τ :=
  let c := { c with timers := c.timers.cancelAll }
  let c := { c.disconnectSockets true with registry := .nil }
  let transport :=
    if Transport.state c.transport = .closed then c.transport
    else (Transport.hangUp c.transport Cause.user.reason).2
  { c with
    transport
    current := none
    metrics := c.metrics.setConnected false
    status := {}
    statusVersion := c.statusVersion + 1
    commands := []
    phase := .ended }

/-- The task ends if the session is closed, and goes on waiting otherwise. -/
def finishIfClosed (c : Client τ) : Client τ :=
  if c.engine.state = .closed then c.finish else c

/-- **The shutdown begins.**  The session is closed, and the transport has some time to confirm. -/
def beginShutdown (c : Client τ) : Client τ :=
  let c := c.handle .close
  { c with phase := .draining (c.timers.now + shutdownGrace) }.finishIfClosed

/-- **A command.** -/
def execute (c : Client τ) : Command → Client τ
  | .engine input => c.handle input
  | .emit ns name args reply => c.emit ns name args reply
  | .socketCreated ns => c.socketCreated ns
  | .closeSocket ns => c.closeSocket ns
  | .shutdown => c.beginShutdown

/-! ## Running -/

/-- The kinds of turn. -/
inductive Turn
  | command
  | event
  | timer
  deriving DecidableEq, Repr

/-- **One turn**, if there is something to do.  While the task winds up, only events are taken. -/
def turn? (c : Client τ) (t : Turn) : Option (Client τ) :=
  match c.phase, t with
  | .running, .command =>
    match c.commands with
    | [] => none
    | command :: rest => some ({ c with commands := rest }.execute command)
  | .running, .event =>
    (Transport.receive? c.transport).map fun ((id, event), transport) =>
      { c with transport }.receiveEvent id event
  | .running, .timer =>
    c.timers.next?.map fun (k, timers) => { c with timers }.timerFired k
  | .draining _, .event =>
    (Transport.receive? c.transport).map fun ((id, event), transport) =>
      ({ c with transport }.receiveEvent id event).finishIfClosed
  | _, _ => none

/-- A turn of the first kind that has something to do: commands, then events, then timers. -/
def next? (c : Client τ) : Option (Client τ) :=
  (c.turn? .command).orElse fun _ => (c.turn? .event).orElse fun _ => c.turn? .timer

/-- **Time passes.**  The fires that are due are queued, and a shutdown that has waited long enough
waits no longer. -/
def elapseTo (c : Client τ) (time : Nat) : Client τ :=
  let c := { c with timers := c.timers.elapseTo time }
  match c.phase with
  | .draining deadline => if deadline ≤ time then c.finish else c
  | _ => c

/-- The next time at which something happens by itself. -/
def nextDeadline? (c : Client τ) : Option Nat :=
  match c.phase, c.timers.nextDeadline? with
  | .draining deadline, some timer => some (min deadline timer)
  | .draining deadline, none => some deadline
  | _, timer => timer

/-- **Run until a time.**  The task takes all the turns it can before time passes, and time passes
to the next deadline at most; for at most `rounds` of either. -/
def runUntil (time : Nat) : (rounds : Nat) → Client τ → Client τ
  | 0, c => c
  | rounds + 1, c =>
    match c.next? with
    | some c => runUntil time rounds c
    | none =>
      match c.nextDeadline? with
      | none => c.elapseTo time
      | some deadline =>
        if deadline ≤ time then runUntil time rounds (c.elapseTo deadline) else c.elapseTo time

def now (c : Client τ) : Nat := c.timers.now

/-- **Run until the task has ended**, if it is winding up, and else until nothing is left to do. -/
def runToEnd (rounds : Nat) (c : Client τ) : Client τ :=
  let c := runUntil c.now rounds c
  match c.phase with
  | .draining deadline => runUntil deadline rounds c
  | _ => c

end RealtimeClient.Client
