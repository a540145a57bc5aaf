import RealtimeClient.Duration
import RealtimeClient.Request

/-!
# The WebSocket transport

The side of the transport that a client talks to.  Dialing checks the request and hands it to a
connection, which works on its own: frames and the wish to close are left for it as orders, and it
reports what it observes.

* `WebSocketTransport.Limits` — how long a connection may take, and how much it may receive.
* `WebSocketTransport.Connection`, `WebSocketTransport.Order` — a connection and what is left for it.
* `WebSocketTransport` — the transport; `dial`, `hangUp`, `write` answer at once.
* `WebSocketTransport.report` — a connection reports.
-/

namespace RealtimeClient

namespace WebSocketTransport

/-- **The limits of a connection.** -/
structure Limits where
  /-- The most bytes of a message that comes in. -/
  maxMessageSize : Nat := 16 * 1024 * 1024
  /-- The time until the server must have answered the request. -/
  connectTimeout : Duration := .ofMillis 20000
  /-- The time until the server must have confirmed a close. -/
  closeTimeout : Duration := .ofMillis 5000
  deriving DecidableEq, Repr

/-- **What is left for a connection to do.** -/
inductive Order
  | send (frame : Frame)
  | close (reason : String)
  deriving DecidableEq

/-- **A connection.** -/
structure Connection where
  id : ConnectionId
  request : Request
  state : TransportState := .opening
  orders : List Order := []
  deriving DecidableEq

end WebSocketTransport

/-- **The WebSocket transport.** -/
structure WebSocketTransport where
  limits : WebSocketTransport.Limits := {}
  hasSink : Bool := false
  active : Option WebSocketTransport.Connection := none
  nextNumber : Nat := 1
  events : List (ConnectionId × TransportEvent) := []
  deriving DecidableEq

namespace WebSocketTransport

/-- A transport without a sink and without a connection. -/
def new (limits : Limits) : WebSocketTransport := { limits }

def installSink (t : WebSocketTransport) : WebSocketTransport :=
  { t with hasSink := true, events := [] }

def state (t : WebSocketTransport) : TransportState :=
  match t.active with
  | none => .closed
  | some c => c.state

/-- **Ask for a connection.** -/
def dial (t : WebSocketTransport) (url : String) (headers : Headers) :
    Except TransportError ConnectionId × WebSocketTransport :=
  if t.state ≠ .closed then (.error .alreadyOpen, t)
  else if ¬t.hasSink then (.error .noEventSink, t)
  else
    match Request.build url headers with
    | .error e => (.error e, t)
    | .ok request =>
      let id : ConnectionId := ⟨t.nextNumber⟩
      (.ok id, { t with active := some { id, request }, nextNumber := t.nextNumber + 1 })

/-- Leave an order for a connection. -/
def order (t : WebSocketTransport) (c : Connection) (o : Order) : WebSocketTransport :=
  { t with active := some { c with orders := c.orders ++ [o] } }

/-- **End the connection**, once it comes to it. -/
def hangUp (t : WebSocketTransport) (reason : String) :
    Except TransportError Unit × WebSocketTransport :=
  match t.active with
  | none => (.error .notConnected, t)
  | some c =>
    if c.state = .closed then (.error .notConnected, t) else (.ok (), t.order c (.close reason))

/-- **Write a frame** to the open connection. -/
def write (t : WebSocketTransport) (frame : Frame) :
    Except TransportError Unit × WebSocketTransport :=
  match t.active with
  | none => (.error .connectionClosed, t)
  | some c =>
    if c.state = .opened then (.ok (), t.order c (.send frame))
    else (.error .connectionClosed, t)

/-- The oldest event that was not taken yet. -/
def receive? (t : WebSocketTransport) :
    Option ((ConnectionId × TransportEvent) × WebSocketTransport) :=
  match t.events with
  | [] => none
  | event :: rest => some (event, { t with events := rest })

instance : Transport WebSocketTransport where
  dial := dial
  hangUp := hangUp
  write := write
  state := state
  receive? := receive?

/-- The state of a connection after it has observed something. -/
def stateAfter (s : TransportState) : TransportEvent → TransportState
  | .opened => .opened
  | .closed _ => .closed
  | .message _ | .httpResponse .. => s

/-- **The connection reports** what it has observed. -/
def report (t : WebSocketTransport) (event : TransportEvent) : WebSocketTransport :=
  match t.active with
  | none => t
  | some c =>
    { t with
      active := some { c with state := stateAfter c.state event }
      events := t.events ++ [(c.id, event)] }

end WebSocketTransport

end RealtimeClient
