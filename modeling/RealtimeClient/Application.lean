import RealtimeClient.Engine

/-!
# The application's side

What an application asks of a client, what it is told, and what its listeners do.

* `Report` — what there is to listen to, events apart.
* `Call` — a request, made through the client or through one of its sockets.
* `Event` — an event as a listener gets it.
* `Listener`, `Reaction` — a listener is the function from an event to what it does.
* `Notice` — what was reported to the application, in the order in which it was.

Sockets are known by a `SocketId`: an application may hold on to a socket that has left the client
and meet a newer one of the same namespace, and the two are not the same.  Callbacks other than
event listeners are known by the label under which the application registered them.
-/

namespace RealtimeClient

/-- **A socket's number**, in the order in which a client's sockets were made. -/
abbrev SocketId : Type := Nat

/-- The label under which an application registered a callback. -/
abbrev Label : Type := Nat

/-- **What a client reports**, events apart.  An application listens to each of them by itself. -/
inductive Report
  | opened
  | failed
  | reconnecting
  | reconnect
  | closed
  | socketOpen
  | socketClose
  deriving DecidableEq, Repr

/-- Everything there is to listen to. -/
def Report.all : List Report :=
  [.opened, .failed, .reconnecting, .reconnect, .closed, .socketOpen, .socketClose]

/-- **A request of the application.** -/
inductive Call
  | connect (query : Query) (headers : Headers)
  | close
  | shutdown
  | setAttempts (attempts : Option Nat)
  | setDelay (delay : Duration)
  | setDelayMax (delay : Duration)
  /-- Ask for the socket of a namespace. -/
  | join (ns : String)
  /-- Emit an event; the callback with the label gets the reply. -/
  | emit (socket : SocketId) (name : String) (args : List Value) (reply : Option Label)
  /-- Close a socket. -/
  | leave (socket : SocketId)
  | off (socket : SocketId) (name : String)
  | offAll (socket : SocketId)
  | onError (socket : SocketId) (label : Label)
  | offError (socket : SocketId)
  | setAuth (socket : SocketId) (auth : Value)
  /-- Listen to a report. -/
  | observe (report : Report)
  /-- Listen no more to the reports about the session. -/
  | ignoreSession
  /-- Listen no more to the reports about sockets. -/
  | ignoreSockets
  deriving DecidableEq

/-- **An event as a listener gets it.** -/
structure Event where
  ns : String
  name : String
  args : List Value
  ackId : Option UInt64
  deriving DecidableEq

namespace Event

def arg? (e : Event) (index : Nat) : Option Value := e.args[index]?

/-- Whether the sender waits for a reply. -/
def needsAck (e : Event) : Bool := e.ackId.isSome

end Event

/-- **What a listener does.**  It replies, any number of times; it makes calls; and it may fail,
which ends the client's work. -/
structure Reaction where
  replies : List (List Value) := []
  calls : List Call := []
  fails : Bool := false
  deriving DecidableEq

/-- The reply that counts: the last one. -/
def Reaction.reply? (r : Reaction) : Option (List Value) := r.replies.getLast?

/-- **A listener of an event.** -/
structure Listener where
  label : Label
  react : Event → Reaction

/-- **What was reported to the application.** -/
inductive Notice
  | session (event : SessionEvent)
  | socketOpen (ns : String)
  | socketClose (ns : String)
  /-- The listener with the label got the event. -/
  | event (label : Label) (event : Event)
  /-- The listener with the label got the reason why the namespace was refused. -/
  | refused (ns : String) (label : Label) (data : Value)
  /-- The callback with the label got a reply. -/
  | reply (ns : String) (label : Label) (values : List Value)
  deriving DecidableEq

end RealtimeClient
