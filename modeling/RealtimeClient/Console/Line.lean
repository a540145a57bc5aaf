import RealtimeClient.Json.Reader
import RealtimeClient.Text.Blank
import RealtimeClient.Value.Json

/-!
# Lines typed at a console

A line emits one event.  It names a namespace and an event, and may end with the arguments as JSON:

```text
/chat message? [1, "two"]
```

A `?` behind the event's name asks for a reply.  A list holds the arguments; any other value is the
only argument.  Empty lines and lines that start with `#` mean nothing.

* `Console.Line` — what a line asks for.
* `Console.Line.Fault` — why a line makes no sense.
* `Console.Line.parse` — what a text asks for.
-/

namespace RealtimeClient.Console

/-- **An event to be emitted.** -/
structure Line where
  ns : String
  event : String
  args : List Value
  wantsAck : Bool
  deriving DecidableEq

namespace Line

/-- **Why a line makes no sense.** -/
inductive Fault
  /-- The first word does not start with `/`. -/
  | notNamespace (word : String)
  | missingEvent
  | badPayload (fault : Json.Fault)
  deriving DecidableEq, Repr

def Fault.message : Fault → String
  | .notNamespace word => "namespace must start with '/': " ++ word
  | .missingEvent => "missing event name"
  | .badPayload _ => "invalid JSON payload"

/-- The first word of a text and what comes behind the blank that ends it. -/
def firstWord (text : List Char) : List Char × List Char := (Text.splitBlank? text).getD (text, [])

/-- The name of an event, and whether a reply is asked for.  A `?` alone is a name. -/
def eventName (word : List Char) : List Char × Bool :=
  if word.length > 1 ∧ word.getLast? = some '?' then (word.dropLast, true) else (word, false)

def arguments (payload : List Char) : Except Json.Fault (List Value) :=
  if payload = [] then .ok []
  else
    (Json.read payload).map fun
      | .array items => Value.itemsOfJson items
      | other => [Value.ofJson other]

/-- A line that is neither empty nor a remark, without blanks at its ends. -/
def parseTrimmed (line : List Char) : Except Fault Line :=
  let (ns, rest) := firstWord line
  if ns.head? ≠ some '/' then .error (.notNamespace (String.ofList ns))
  else
    let (word, payload) := firstWord (Text.trimStart rest)
    if word = [] then .error .missingEvent
    else
      match arguments (Text.trim payload) with
      | .error fault => .error (.badPayload fault)
      | .ok args =>
        let (event, wantsAck) := eventName word
        .ok { ns := String.ofList ns, event := String.ofList event, args, wantsAck }

/-- **What a text asks for**; an empty line or a remark asks for nothing. -/
def parse (text : List Char) : Except Fault (Option Line) :=
  let line := Text.trim text
  if line = [] ∨ line.head? = some '#' then .ok none else (parseTrimmed line).map some

end Line

end RealtimeClient.Console
