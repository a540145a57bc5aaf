import RealtimeClient.Client.Turns
import RealtimeClient.Console.Display
import RealtimeClient.Console.Line
import RealtimeClient.Console.Settings
import RealtimeClient.Transport.WebSocket

/-!
# A session at a console

A console runs one client.  It shows the events that the settings name, emits one event for each
line that is typed, and ends when no session comes about or when it is interrupted.

* `Console.Session` — the client and the replies that are awaited; `Console.Session.start` asks for
  the connection.
* `Console.Session.Input` — what a session is told: lines, what the connection observes, the time.
* `Console.Session.step` — what the session does about it, and what it shows.
-/

namespace RealtimeClient.Console

/-- **What a console shows.**  Results and remarks go to places of their own. -/
inductive Shown
  | result (text : String)
  | remark (text : String)
  deriving DecidableEq, Repr

/-- **A session at a console.**  `awaited` has the namespace and the event of each reply that was
asked for; the place of an entry is the label of its callback. -/
structure Session where
  client : Client WebSocketTransport
  /-- Where the connection goes to, as the settings name it. -/
  target : String
  awaited : List (String × String) := []
  /-- No session came about. -/
  failed : Bool := false

namespace Session

/-- **What a session is told.** -/
inductive Input
  | line (text : String)
  | observed (event : TransportEvent)
  /-- So many milliseconds have passed since the session was started. -/
  | time (millis : Nat)
  | interrupt

/-- What is shown of an event is all that is done about it.  If the sender waits for a reply, it
gets an empty one. -/
def listener : Listener where
  label := 0
  react := fun e => { replies := if e.needsAck then [[]] else [] }

/-- Show some of the events of a namespace, and why the namespace was refused. -/
def subscribe (c : Client WebSocketTransport) (ns : String) (events : List String) :
    Client WebSocketTransport :=
  let (id, c) := c.joinSocket ns
  (events.foldl (fun c name => c.on id name listener) c).call (.onError id 0)

/-- More turns than a client takes between two inputs. -/
def rounds : Nat := 10000

/-- Take the turns that are due. -/
def settle (s : Session) : Session :=
  { s with client := Client.runUntil s.client.now rounds s.client }

/-- **A session with some settings**, which has asked for its connection. -/
def start (settings : Settings) (epoch : Nat) : Except Client.StartFault Session := do
  let transport := (WebSocketTransport.new {}).installSink
  let c ← Client.start settings.client transport epoch
  let c := c.callAll (Report.all.map .observe)
  let c := settings.subscribe.toList.foldl (fun c e => subscribe c e.1 e.2) c
  return settle { client := c.call (.connect .nil .nil), target := settings.client.url }

/-! ## What is shown -/

def remark : SessionEvent → String
  | .opened => "Session open"
  | .failed => "Could not establish a session"
  | .reconnecting => "Connection lost, reconnecting"
  | .reconnect .. => "Reconnect scheduled"
  | .closed _ => "Session closed"

def shown (s : Session) : Notice → List Shown
  | .session event => [.remark (remark event)]
  | .socketOpen ns => [.remark ("Namespace connected: " ++ ns)]
  | .socketClose ns => [.remark ("Namespace disconnected: " ++ ns)]
  | .event _ event => [.result (eventLine event)]
  | .refused ns _ data =>
    [.remark ("Namespace connect refused: " ++ ns ++ " " ++ (display data).text)]
  | .reply _ label values =>
    (s.awaited[label]?.map fun (ns, name) => .result (replyLine ns name values)).toList

/-- The reports of the client since they were last shown, in order. -/
def reports (s : Session) : List Notice :=
  s.client.journal.reverse.filterMap fun
    | .notice n => some n
    | .sent .. => none

/-- Show what the client reported since this was last done. -/
def flush (s : Session) : Session × List Shown :=
  ({ s with
      client := { s.client with journal := [] }
      failed := s.failed || s.reports.contains (.session .failed) },
    s.reports.flatMap s.shown)

/-! ## What is done -/

def emit (s : Session) (line : Line) : Session :=
  let (id, client) := s.client.joinSocket line.ns
  let reply := if line.wantsAck then some s.awaited.length else none
  { s with
    client := client.call (.emit id line.event line.args reply)
    awaited := if line.wantsAck then s.awaited ++ [(line.ns, line.event)] else s.awaited }

/-- Take an input, and give the remark about it, if there is one. -/
def take (s : Session) : Input → Session × List Shown
  | .line text =>
    match Line.parse text.toList with
    | .ok none => (s, [])
    | .ok (some line) => (s.emit line, [])
    | .error fault => (s, [.remark ("Ignoring input line: " ++ fault.message)])
  | .observed event =>
    ({ s with client := { s.client with transport := s.client.transport.report event } }, [])
  | .time millis => ({ s with client := Client.runUntil millis rounds s.client }, [])
  | .interrupt => ({ s with client := Client.runToEnd rounds (s.client.call .shutdown) }, [])

/-- **One input.**  Gives what is shown, in order. -/
def step (s : Session) (i : Input) : Session × List Shown :=
  let (s, before) := s.take i
  let (s, shown) := s.settle.flush
  (s, before ++ shown)

/-- The end of a session that never came about, in words. -/
def failureMessage (s : Session) : String := "Could not connect to " ++ s.target

end Session

end RealtimeClient.Console
