import RealtimeClient.Client.Sending

/-!
# Carrying out effects

What the engine asks for is done in order.  An answer of the transport can be news for the engine:
it is fed to the engine once the effects at hand are done.

* `Client.carryOut` — one effect, and the input that follows from it, if one does.
* `Client.feed` — inputs in order, each with its effects, and the inputs that follow.
* `Client.handle` — one input and all that follows from it.
-/

namespace RealtimeClient.Client

variable {τ : Type} [Transport τ]

/-- The second of the calendar. -/
def unixTime (c : Client τ) : Nat := c.epoch + c.timers.now / 1000

/-- Ask the transport for a connection.  A refusal counts as a lost connection. -/
def openTransport (c : Client τ) (query : Query) (headers : Headers) :
    Client τ × Option Engine.Input :=
  let url := c.endpoint.connectionUrl c.engine.revision.number c.engine.sessionId c.unixTime query
  let (answer, transport) := Transport.dial c.transport url headers
  match answer with
  | .ok id => ({ c with transport, current := some id }, none)
  | .error _ => ({ c with transport, current := none }, some (.transportClosed false))

/-- Ask the transport to close.  If it has no connection, the close is done; another refusal counts
as a lost connection. -/
def closeTransport (c : Client τ) (cause : Cause) : Client τ × Option Engine.Input :=
  let (answer, transport) := Transport.hangUp c.transport cause.reason
  match answer with
  | .ok () => ({ c with transport }, none)
  | .error e =>
    ({ c with transport, current := none }, some (.transportClosed (e = .notConnected)))

/-- The session is open: every namespace is asked for, the default one always. -/
def openSockets (c : Client τ) : Client τ :=
  let c := if c.registry.contains defaultNamespace then c else c.addSocket defaultNamespace
  c.socketIds.foldl requestSocket c

/-- The connection is gone for every socket. -/
def disconnectSockets (c : Client τ) (final : Bool) : Client τ :=
  c.socketIds.foldl (fun c id => c.modifySocket id (·.disconnect final)) c

/-- Every socket leaves its namespace and the client. -/
def closeSockets (c : Client τ) : Client τ :=
  c.socketIds.foldl leaveSocket { c with registry := .nil }

/-- **Carry out one effect.**  Gives the input that follows, if one does. -/
def carryOut (c : Client τ) : Engine.Effect → Client τ × Option Engine.Input
  | .openTransport query headers => c.openTransport query headers
  | .closeTransport cause => c.closeTransport cause
  | .send p => (c.send p, none)
  | .arm k delay => ({ c with timers := c.timers.arm k delay }, none)
  | .cancel k => ({ c with timers := c.timers.cancel k }, none)
  | .resetCodec => ({ c with codec := c.codec.reset }, none)
  | .socketsOpen => (c.openSockets, none)
  | .socketsDisconnect final => ((c.disconnectSockets final).updateAckGauge, none)
  | .socketsClose => (c.closeSockets.updateAckGauge, none)
  | .notify event => (c.notify event, none)

/-- Carry out effects in order.  Gives the inputs that follow, in order. -/
def carryOutAll (c : Client τ) : List Engine.Effect → Client τ × List Engine.Input
  | [] => (c, [])
  | effect :: rest =>
    let (c, next) := c.carryOut effect
    let (c, more) := c.carryOutAll rest
    (c, next.toList ++ more)

/-- **Feed inputs to the engine**, the following ones behind those that wait, for at most `rounds`
inputs.  Gives the inputs that are left. -/
def feed (c : Client τ) : (rounds : Nat) → List Engine.Input → Client τ × List Engine.Input
  | _, [] => (c, [])
  | 0, inputs => (c, inputs)
  | rounds + 1, input :: rest =>
    let (engine, effects) := c.engine.handle input
    let (c, next) := { c with engine }.carryOutAll effects
    c.feed rounds (rest ++ next)

/-- How many inputs one input can lead to, with room to spare: a close that is refused, the connect
that waited for it, and its refusal. -/
def feedbackLimit : Nat := 8

/-- **One input and all that follows.**  The status is published afterwards. -/
def handle (c : Client τ) (input : Engine.Input) : Client τ :=
  (c.feed feedbackLimit [input]).1.publishStatus

end RealtimeClient.Client
