import RealtimeClient.Json
import RealtimeClient.Value

/-!
# Values as JSON and back

JSON has no buffers, so a value becomes JSON only together with a rule for them; and JSON text has
numbers beyond 64-bit integers, which become doubles.

* `Value.toJsonWith` — the tree of a value, where the rule turns each buffer into JSON and may keep
  a state from one buffer to the next.
* `Value.toJson` — the tree of a value without buffers.
* `Value.ofJson` — a tree as a value.
-/

namespace RealtimeClient.Value

/-- A double as JSON: those without a JSON text become null. -/
def jsonOfFloat (x : Float) : Json :=
  match Json.Number.ofFloat? x with
  | some n => .number n
  | none => .null

mutual

/-- **The tree of a value.**  Buffers are visited in the order of their numbers, and `binary` says
what each becomes. -/
def toJsonWith {σ : Type} (binary : Bytes → σ → Json × σ) :
    Value → σ → Json × σ
  | .null, s => (.null, s)
  | .bool b, s => (.bool b, s)
  | .int i, s => (.number (.ofInt i), s)
  | .double x, s => (jsonOfFloat x, s)
  | .string t, s => (.string t, s)
  | .binary data, s => binary data s
  | .array items, s =>
    let (items, s) := itemsToJsonWith binary items s
    (.array items, s)
  | .object members, s =>
    let (members, s) := membersToJsonWith binary members s
    (.object members, s)

def itemsToJsonWith {σ : Type} (binary : Bytes → σ → Json × σ) :
    List Value → σ → List Json × σ
  | [], s => ([], s)
  | item :: rest, s =>
    let (item, s) := item.toJsonWith binary s
    let (rest, s) := itemsToJsonWith binary rest s
    (item :: rest, s)

def membersToJsonWith {σ : Type} (binary : Bytes → σ → Json × σ)
    {lo : Option String} : Dict.From Value lo → σ → Dict.From Json lo × σ
  | .nil, s => (.nil, s)
  | .cons key above value rest, s =>
    let (value, s) := value.toJsonWith binary s
    let (rest, s) := membersToJsonWith binary rest s
    (.cons key above value rest, s)

end

/-- The reason why a value has no JSON text of its own: it holds a buffer. -/
structure HoldsBinary where
  deriving DecidableEq, Repr

def HoldsBinary.message (_ : HoldsBinary) : String := "Binary data has no JSON representation"

/-- **The tree of a value without buffers.** -/
def toJson (v : Value) : Except HoldsBinary Json :=
  if v.binaryCount > 0 then .error {} else .ok (v.toJsonWith (fun _ s => (.null, s)) ()).1

/-- A JSON number as a value: an integer if it fits 63 bits and a sign, else a double. -/
def ofNumber (n : Json.Number) : Value :=
  match n.toInt? with
  | some i => .int i
  | none => .double n.toFloat

mutual

/-- **A tree as a value.** -/
def ofJson : Json → Value
  | .null => .null
  | .bool b => .bool b
  | .number n => ofNumber n
  | .string s => .string s
  | .array items => .array (itemsOfJson items)
  | .object members => .object (membersOfJson members)

def itemsOfJson : List Json → List Value
  | [] => []
  | item :: rest => ofJson item :: itemsOfJson rest

def membersOfJson {lo : Option String} :
    Dict.From Json lo → Dict.From Value lo
  | .nil => .nil
  | .cons key above value rest => .cons key above (ofJson value) (membersOfJson rest)

end

end RealtimeClient.Value
