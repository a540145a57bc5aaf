import RealtimeClient.Client

/-!
# Calls of the application

What an application does through a client and its sockets.  A call that concerns the session becomes
a command; sockets are looked up, made and changed at once.  Once the task has come to its end no
command is taken any more.

* `Client.joinSocket` — the socket of a namespace, made on first use.
* `Client.call` — a call.
* `Client.on` — registering a listener of an event.
-/

namespace RealtimeClient.Client

variable {τ : Type}

/-- Leave a command to the task. -/
def push (c : Client τ) (command : Command) : Client τ :=
  match c.phase with
  | .running | .draining _ => { c with commands := c.commands ++ [command] }
  | .ended | .failed => c

/-- **The socket of a namespace**, made on first use. -/
def joinSocket (c : Client τ) (name : String) : SocketId × Client τ :=
  let ns := normalizeNamespace name
  match c.registered? ns with
  | some id => (id, c)
  | none => (c.sockets.length, (c.addSocket ns).push (.socketCreated ns))

/-- Leave a command about a socket's namespace to the task. -/
def pushFor (c : Client τ) (id : SocketId) (command : String → Command) : Client τ :=
  match c.socket? id with
  | some s => c.push (command s.ns)
  | none => c

/-- **A call.**  The query and headers of a connect are put over those of every connection. -/
def call (c : Client τ) : Call → Client τ
  | .connect query headers =>
    c.push (.engine (.connect (Dict.merge c.defaults.1 query) (Dict.merge c.defaults.2 headers)))
  | .close => c.push (.engine .close)
  | .shutdown => c.push .shutdown
  | .setAttempts attempts => c.push (.engine (.setAttempts attempts))
  | .setDelay delay => c.push (.engine (.setDelay delay))
  | .setDelayMax delay => c.push (.engine (.setDelayMax delay))
  | .join ns => (c.joinSocket ns).2
  | .emit id name args reply => c.pushFor id fun ns => .emit ns name args reply
  | .leave id => c.pushFor id .closeSocket
  | .off id name => c.modifySocket id (·.off name)
  | .offAll id => c.modifySocket id Socket.offAll
  | .onError id label => c.modifySocket id fun s => { s with errorListener := some label }
  | .offError id => c.modifySocket id fun s => { s with errorListener := none }
  | .setAuth id auth => c.modifySocket id fun s => { s with auth := some auth }
  | .observe report => { c with observers := c.observers.listen report }
  | .ignoreSession =>
    { c with
      observers :=
        { c.observers with
          opened := false, failed := false, reconnecting := false, reconnect := false,
          closed := false } }
  | .ignoreSockets =>
    { c with observers := { c.observers with socketOpen := false, socketClose := false } }

def callAll (c : Client τ) (calls : List Call) : Client τ := calls.foldl call c

/-- Register a listener of an event, in place of the one there. -/
def on (c : Client τ) (id : SocketId) (name : String) (listener : Listener) : Client τ :=
  c.modifySocket id (·.on name listener)

end RealtimeClient.Client
