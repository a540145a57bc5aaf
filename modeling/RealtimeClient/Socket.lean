import RealtimeClient.Application
import RealtimeClient.Text.Quoted

/-!
# Namespace sockets

A socket is a client's part in one namespace.  It holds the listeners of the namespace's events, the
callbacks of emitted events that wait for a reply, and the events that were emitted before the
namespace was confirmed.

* `Socket` — the state; `Socket.new` is that of a new one.
* `Socket.emit` — an event, to be sent now or queued.
* `Socket.requestOn`, `Socket.receive`, `Socket.leave`, `Socket.disconnect` — what happens to a
  socket: the session opens, a packet comes, the application leaves, the session is gone.
* `Socket.Outcome` — what follows for the client.
-/

namespace RealtimeClient

/-- **A socket.**  `requested` says that the namespace was asked for on this connection, `connected`
that the server has confirmed it. -/
structure Socket where
  ns : String
  listeners : Dict Listener := .nil
  errorListener : Option Label := none
  /-- The callbacks that wait for a reply, by the id of their event. -/
  waiting : List (UInt64 × Label) := []
  queue : List Packet := []
  connected : Bool := false
  requested : Bool := false
  nextId : UInt64 := 0
  auth : Option Value := none

namespace Socket

/-- A socket's change of standing. -/
inductive Lifecycle
  | connected
  | disconnected
  deriving DecidableEq, Repr

/-- **What follows for the client**: packets to be sent, a change of standing, reports to the
application, and what a listener did. -/
structure Outcome where
  outbound : List Packet := []
  lifecycle : Option Lifecycle := none
  notices : List Notice := []
  calls : List Call := []
  fails : Bool := false
  deriving DecidableEq

/-- The socket of a namespace that nothing has happened to. -/
def new (ns : String) : Socket := { ns }

/-- The number of callbacks that wait for a reply. -/
def pendingAcks (s : Socket) : Nat := s.waiting.length

/-- The socket without a connection.  After a final end nothing waits any more. -/
def reset (s : Socket) (final : Bool) : Socket :=
  { s with
    connected := false
    requested := false
    waiting := if final then [] else s.waiting
    queue := if final then [] else s.queue }

/-! ## Emitting -/

/-- A callback under an id, in place of one that had it. -/
def await (waiting : List (UInt64 × Label)) (id : UInt64) (label : Label) :
    List (UInt64 × Label) :=
  waiting.filter (fun w => w.1 ≠ id) ++ [(id, label)]

/-- The packet of an event, with the next id if a callback waits for the reply. -/
def prepare (s : Socket) (name : String) (args : List Value) (reply : Option Label) :
    Socket × Packet :=
  let p := Packet.event s.ns name args
  match reply with
  | none => (s, p)
  | some label =>
    ({ s with nextId := s.nextId + 1, waiting := await s.waiting s.nextId label },
      p.withId s.nextId)

/-- **Emit an event.**  Gives the packet to be sent; there is none if it was queued, which happens
until the namespace is confirmed. -/
def emit (s : Socket) (name : String) (args : List Value) (reply : Option Label) :
    Socket × Option Packet :=
  let (s, p) := s.prepare name args reply
  if s.connected then (s, some p) else ({ s with queue := s.queue ++ [p] }, none)

/-! ## The session -/

/-- The namespace is confirmed: the queue can be sent. -/
def confirm (s : Socket) : Socket × Outcome :=
  ({ s with connected := true, requested := true, queue := [] },
    { outbound := s.queue, lifecycle := if s.connected then none else some .connected })

/-- **The session is open.**  The namespace is asked for, once; where the default namespace needs no
request, it is confirmed at once. -/
def requestOn (s : Socket) (revision : Revision) : Socket × Outcome :=
  if s.requested ∨ s.connected then (s, {})
  else if s.ns = defaultNamespace ∧ ¬revision.connectsDefaultNamespace then s.confirm
  else ({ s with requested := true }, { outbound := [.connect s.ns s.auth] })

/-- **The application leaves.**  The server is told if it had confirmed the namespace. -/
def leave (s : Socket) : Socket × List Packet :=
  (s.reset true, if s.connected then [.disconnect s.ns] else [])

/-- **The connection is gone**, for good or until the next attempt. -/
def disconnect (s : Socket) (final : Bool) : Socket := s.reset final

/-! ## Packets -/

/-- An event has come: its listener gets it, and the last reply goes back if one is asked for. -/
def receiveEvent (s : Socket) (p : Packet) : Outcome :=
  match p.payload with
  | .string name :: args =>
    match s.listeners.get? name with
    | none => {}
    | some listener =>
      let event : Event := { ns := s.ns, name, args, ackId := p.id }
      let reaction := listener.react event
      { outbound :=
          match p.id, reaction.reply? with
          | some id, some reply => if reaction.fails then [] else [.ack s.ns id reply]
          | _, _ => []
        notices := [.event listener.label event]
        calls := reaction.calls
        fails := reaction.fails }
  | _ => {}

/-- A reply has come: the callback with its id gets it, once. -/
def receiveAck (s : Socket) (p : Packet) : Socket × Outcome :=
  match p.id with
  | none => (s, {})
  | some id =>
    match s.waiting.lookup id with
    | none => (s, {})
    | some label =>
      ({ s with waiting := s.waiting.filter fun w => w.1 ≠ id },
        { notices := [.reply s.ns label p.payload] })

/-- A refusal has come. -/
def receiveRefusal (s : Socket) (p : Packet) : Socket × Outcome :=
  (s.reset false,
    { notices := s.errorListener.toList.map fun label =>
        .refused s.ns label (p.payload.head?.getD .null) })

/-- **A packet for the namespace has come.** -/
def receive (s : Socket) (p : Packet) : Socket × Outcome :=
  match p.kind with
  | .connect => s.confirm
  | .disconnect => (s.reset true, { lifecycle := some .disconnected })
  | .event | .binaryEvent => (s, s.receiveEvent p)
  | .ack | .binaryAck => s.receiveAck p
  | .connectError => s.receiveRefusal p

/-! ## Listeners -/

/-- Register a listener for an event, in place of the one there. -/
def on (s : Socket) (name : String) (listener : Listener) : Socket :=
  { s with listeners := s.listeners.insert name listener }

def off (s : Socket) (name : String) : Socket := { s with listeners := s.listeners.erase name }

def offAll (s : Socket) : Socket := { s with listeners := .nil }

/-- A socket as it is shown to developers. -/
def describe (s : Socket) : String :=
  "Socket \x7b namespace: " ++ String.ofList (Text.quoted '"' s.ns.toList) ++ ", connected: " ++
    (if s.connected then "true" else "false") ++ " \x7d"

end Socket

end RealtimeClient
