import RealtimeClient.Transport

/-!
# The in-memory transport

A transport whose remote side is played by a peer in the same process.  The peer accepts or refuses
connections, sends frames, ends connections, and looks at what was written.

* `MemoryTransport` — the state that both sides share.
* `MemoryTransport.dial`, `hangUp`, `write` — the client's side.
* `MemoryTransport.accept`, `finish`, `send`, `respondHttp`, `takeWritten` — the peer's side.
* `MemoryTransport.PeerAction` — the peer's operations as data.
-/

namespace RealtimeClient

/-- **Where events go.**  Without a sink no connection can be dialed; a sink whose receiver is gone
loses the events. -/
inductive EventSink
  | missing
  | listening
  | gone
  deriving DecidableEq, Repr

/-- **The in-memory transport.**  Each written frame is kept with the connection that carried it. -/
structure MemoryTransport where
  sink : EventSink := .missing
  current : Option ConnectionId := none
  state : TransportState := .closed
  nextNumber : Nat := 1
  dialed : List (String × Headers) := []
  written : List (ConnectionId × Frame) := []
  closeReasons : List String := []
  events : List (ConnectionId × TransportEvent) := []
  deriving DecidableEq

namespace MemoryTransport

/-- A transport without a sink and without a connection. -/
def new : MemoryTransport := {}

/-- Report an event of the latest connection. -/
def emit (t : MemoryTransport) (event : TransportEvent) : MemoryTransport :=
  match t.sink, t.current with
  | .listening, some id => { t with events := t.events ++ [(id, event)] }
  | _, _ => t

/-- Install a new sink; what the old one has not delivered stays with it. -/
def installSink (t : MemoryTransport) : MemoryTransport := { t with sink := .listening, events := [] }

/-- The receiver of the sink goes away. -/
def dropReceiver (t : MemoryTransport) : MemoryTransport :=
  if t.sink = .listening then { t with sink := .gone, events := [] } else t

/-! ## The client's side -/

/-- Ask for a connection. -/
def dial (t : MemoryTransport) (url : String) (headers : Headers) :
    Except TransportError ConnectionId × MemoryTransport :=
  if t.state ≠ .closed then (.error .alreadyOpen, t)
  else if t.sink = .missing then (.error .noEventSink, t)
  else
    let id : ConnectionId := ⟨t.nextNumber⟩
    (.ok id,
      { t with current := some id, state := .opening, nextNumber := t.nextNumber + 1,
               dialed := t.dialed ++ [(url, headers)] })

/-- End the connection. -/
def hangUp (t : MemoryTransport) (reason : String) : Except TransportError Unit × MemoryTransport :=
  if t.state = .closed then (.error .notConnected, t)
  else
    (.ok (),
      { t with state := .closed, closeReasons := t.closeReasons ++ [reason] }.emit (.closed true))

/-- Write a frame to the open connection. -/
def write (t : MemoryTransport) (frame : Frame) : Except TransportError Unit × MemoryTransport :=
  match t.state, t.current with
  | .opened, some id => (.ok (), { t with written := t.written ++ [(id, frame)] })
  | _, _ => (.error .connectionClosed, t)

/-- The oldest event that was not taken yet. -/
def receive? (t : MemoryTransport) :
    Option ((ConnectionId × TransportEvent) × MemoryTransport) :=
  match t.events with
  | [] => none
  | event :: rest => some (event, { t with events := rest })

instance : Transport MemoryTransport where
  dial := dial
  hangUp := hangUp
  write := write
  state := state
  receive? := receive?

/-! ## The peer's side -/

/-- Accept the connection that was asked for. -/
def accept (t : MemoryTransport) : MemoryTransport :=
  if t.state = .opening then { t with state := .opened }.emit .opened else t

/-- End the connection; `normal` if the client is to take it for a clean end. -/
def finish (t : MemoryTransport) (normal : Bool) : MemoryTransport :=
  if t.state = .closed then t else { t with state := .closed }.emit (.closed normal)

def send (t : MemoryTransport) (frame : Frame) : MemoryTransport :=
  if t.state = .opened then t.emit (.message frame) else t

/-- Answer the request for a connection as an ordinary one. -/
def respondHttp (t : MemoryTransport) (status : Nat) (headers : Headers) : MemoryTransport :=
  t.emit (.httpResponse status headers)

def takeWritten (t : MemoryTransport) : List Frame × MemoryTransport :=
  (t.written.map (·.2), { t with written := [] })

/-- Take the frames that were written, and keep the texts. -/
def takeText (t : MemoryTransport) : List String × MemoryTransport :=
  (t.written.filterMap fun w =>
    match w.2 with
    | .text s => some s
    | .binary _ => none,
    { t with written := [] })

/-- The headers of the latest request. -/
def lastHeaders? (t : MemoryTransport) : Option Headers := t.dialed.getLast?.map (·.2)

/-- **An operation of the peer.** -/
inductive PeerAction
  | accept
  | refuse
  | drop
  | close
  | send (frame : Frame)
  | respondHttp (status : Nat) (headers : Headers)
  deriving DecidableEq

/-- **What an operation of the peer does.**  A refusal is a loss of the connection. -/
def act (t : MemoryTransport) : PeerAction → MemoryTransport
  | .accept => t.accept
  | .refuse | .drop => t.finish false
  | .close => t.finish true
  | .send frame => t.send frame
  | .respondHttp status headers => t.respondHttp status headers

end MemoryTransport

end RealtimeClient
