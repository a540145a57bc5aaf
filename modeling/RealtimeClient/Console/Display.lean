import RealtimeClient.Application
import RealtimeClient.Json.Writer
import RealtimeClient.Value.Json

/-!
# What a console shows

Values, events and replies as lines of JSON.  A buffer is summed up by its size.

* `Console.display` — a value.
* `Console.eventLine`, `Console.replyLine` — what is shown when an event or a reply has come.
-/

namespace RealtimeClient.Console

/-- What is shown in place of a buffer. -/
def summarize (data : Bytes) : Json :=
  .object (Dict.ofList [("binary", .number (.natural data.length.toUInt64))])

/-- **A value as it is shown**: the tree with each buffer summed up. -/
def display (v : Value) : Json := (v.toJsonWith (fun data s => (summarize data, s)) ()).1

def eventLine (e : Event) : String :=
  (Json.object (Dict.ofList
    [("namespace", .string e.ns), ("event", .string e.name),
      ("args", .array (e.args.map display))])).text

def replyLine (ns name : String) (values : List Value) : String :=
  (Json.object (Dict.ofList
    [("namespace", .string ns), ("ack", .string name),
      ("args", .array (values.map display))])).text

end RealtimeClient.Console
