import RealtimeClient.Codec
import RealtimeClient.Metrics
import RealtimeClient.Settings
import RealtimeClient.Socket
import RealtimeClient.TimerSet
import RealtimeClient.Transport

/-!
# The client

A client runs the session engine over a transport and shares the session among sockets.  Two sides
work on its state.  The application makes calls, which look up or change sockets at once and leave
the rest as commands in a queue.  The client's task takes one thing at a time from the commands, the
transport's events and the timers, and reports to the application.

This module has the state.  `Client.Sending` hands packets to the transport, `Client.Effects` carries
out what the engine asks for, `Client.Calls` is the application's side, and `Client.Turns` is the
task.

* `Client` — the state of both sides; `Client.start` is that of a new client.
* `Client.Command`, `Client.Phase`, `Client.Status`, `Client.Entry` — its parts.
-/

namespace RealtimeClient

namespace Client

/-- **Work that a call leaves to the task.** -/
inductive Command
  | engine (input : Engine.Input)
  | emit (ns name : String) (args : List Value) (reply : Option Label)
  | socketCreated (ns : String)
  | closeSocket (ns : String)
  | shutdown
  deriving DecidableEq

/-- **What is published about the session.** -/
structure Status where
  state : SessionState := .closed
  sessionId : Option String := none
  deriving DecidableEq, Repr

/-- Which reports the application listens to. -/
structure Observers where
  opened : Bool := false
  failed : Bool := false
  reconnecting : Bool := false
  reconnect : Bool := false
  closed : Bool := false
  socketOpen : Bool := false
  socketClose : Bool := false
  deriving DecidableEq, Repr

/-- One more report is listened to. -/
def Observers.listen (o : Observers) : Report → Observers
  | .opened => { o with opened := true }
  | .failed => { o with failed := true }
  | .reconnecting => { o with reconnecting := true }
  | .reconnect => { o with reconnect := true }
  | .closed => { o with closed := true }
  | .socketOpen => { o with socketOpen := true }
  | .socketClose => { o with socketClose := true }

/-- **How far the task has come.**  While it winds up, it waits for the transport until a time. -/
inductive Phase
  | running
  | draining (deadline : Nat)
  | ended
  /-- A listener failed. -/
  | failed
  deriving DecidableEq, Repr

/-- **What a client did**, as its surroundings can tell: a report to the application, or a packet
handed to the open transport for the connection. -/
inductive Entry
  | notice (n : Notice)
  | sent (connection : Option ConnectionId) (p : Packet)
  deriving DecidableEq

end Client

/-- **The state of a client** over a transport. -/
structure Client (τ : Type) where
  engine : Engine
  codec : Codec
  transport : τ
  endpoint : Endpoint
  timers : TimerSet TimerKind
  /-- The connection whose events count. -/
  current : Option ConnectionId
  /-- Every socket that was made, by its number. -/
  sockets : List Socket
  /-- The sockets that belong to the client, by namespace. -/
  registry : Dict SocketId
  observers : Client.Observers
  /-- The commands that were not taken yet, the oldest first. -/
  commands : List Client.Command
  /-- Query and headers of every connection. -/
  defaults : Query × Headers
  status : Client.Status
  /-- How often the status was published anew. -/
  statusVersion : Nat
  metrics : Metrics
  /-- What the client did, the latest first. -/
  journal : List Client.Entry
  phase : Client.Phase
  /-- The second of the calendar at which the clock of the timers stood at zero. -/
  epoch : Nat

namespace Client

variable {τ : Type}

/-- **Why a client cannot be started.** -/
inductive StartFault
  | settings (fault : Settings.Fault)
  | endpoint (target : String) (fault : Endpoint.Fault)
  deriving DecidableEq, Repr

/-- What a call on a client whose task has failed is told. -/
def shutdownMessage : String := "Client is shut down"

/-- **A new client.** -/
def start (settings : Settings) (transport : τ) (epoch : Nat) : Except StartFault (Client τ) :=
  match settings.check with
  | .error fault => .error (.settings fault)
  | .ok settings =>
    match Endpoint.parse settings.url settings.engine.path with
    | .error fault => .error (.endpoint settings.url fault)
    | .ok endpoint =>
      .ok {
        engine := .new settings.engine.revision settings.policy
        codec := .new settings.engine.revision
        transport, endpoint, timers := {}, current := none, sockets := [], registry := .nil
        observers := {}, commands := [], defaults := (settings.query, settings.headers)
        status := {}, statusVersion := 0, metrics := {}, journal := [], phase := .running
        epoch }

/-! ## Sockets -/

def socket? (c : Client τ) (id : SocketId) : Option Socket := c.sockets[id]?

/-- The number of the socket that a namespace has in the client. -/
def registered? (c : Client τ) (ns : String) : Option SocketId := c.registry.get? ns

def modifySocket (c : Client τ) (id : SocketId) (f : Socket → Socket) : Client τ :=
  { c with sockets := c.sockets.modify id f }

def addSocket (c : Client τ) (ns : String) : Client τ :=
  { c with
    sockets := c.sockets ++ [Socket.new ns]
    registry := Dict.insert c.registry ns c.sockets.length }

/-- The numbers of the client's sockets, in ascending order of their namespaces.  The order is a choice:
a program may come to its sockets in any order, and here a sweep over them is to be a function of the
state. -/
def socketIds (c : Client τ) : List SocketId := c.registry.values

/-- The callbacks that wait for a reply on the client's sockets. -/
def pendingAcks (c : Client τ) : Nat :=
  c.socketIds.foldl (fun n id => n + ((c.socket? id).map Socket.pendingAcks).getD 0) 0

/-! ## Reports -/

def report (c : Client τ) (n : Notice) : Client τ := { c with journal := .notice n :: c.journal }

/-- Whether the application listens to a report about the session. -/
def Observers.hears (o : Observers) : SessionEvent → Bool
  | .opened => o.opened
  | .failed => o.failed
  | .reconnecting => o.reconnecting
  | .reconnect .. => o.reconnect
  | .closed _ => o.closed

/-- Report on the session, to whoever listens. -/
def notify (c : Client τ) (event : SessionEvent) : Client τ :=
  let c := if event = .reconnecting then { c with metrics := c.metrics.recordReconnect } else c
  if c.observers.hears event then c.report (.session event) else c

/-- Report that a namespace is confirmed, to whoever listens. -/
def notifySocketOpen (c : Client τ) (ns : String) : Client τ :=
  if c.observers.socketOpen then c.report (.socketOpen ns) else c

/-- Report that a namespace has been left, to whoever listens. -/
def notifySocketClose (c : Client τ) (ns : String) : Client τ :=
  if c.observers.socketClose then c.report (.socketClose ns) else c

def updateAckGauge (c : Client τ) : Client τ :=
  { c with metrics := c.metrics.setAcksPending c.pendingAcks }

def publishStatus (c : Client τ) : Client τ :=
  let status : Status := { state := c.engine.state, sessionId := c.engine.sessionId }
  { c with
    metrics := c.metrics.setConnected (status.state = .opened)
    status
    statusVersion := if c.status = status then c.statusVersion else c.statusVersion + 1 }

end Client

end RealtimeClient
