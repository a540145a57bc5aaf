import RealtimeClient.Codec.Error
import RealtimeClient.Value.Json

/-!
# Placeholders

In the JSON of a packet each buffer is replaced by a placeholder, an object that holds the number of
the buffer.

* `Codec.placeholder` — the placeholder with a number.
* `Codec.placeholderIndex?` — the number in an object that is a placeholder.
* `Codec.extract` — a value as JSON, with its buffers appended to a list.
* `Codec.restore` — JSON as a value, with each placeholder replaced by the buffer of its number.
-/

namespace RealtimeClient.Codec

/-- The member that marks a placeholder. -/
def markKey : String := "_placeholder"

/-- The member with a placeholder's number. -/
def numberKey : String := "num"

/-- **The placeholder with a number.** -/
def placeholder (index : Nat) : Json :=
  .object (.cons markKey trivial (.bool true)
    (.cons numberKey (.of_lt (by decide)) (.number (.natural index.toUInt64)) .nil))

/-- **The number of a placeholder.**  An object is one if its mark is true and its number is a
natural number of 64 bits; other members do not count. -/
def placeholderIndex? (members : Dict Json) : Option Nat :=
  match members.get? markKey, members.get? numberKey with
  | some (.bool true), some (.number n) => n.toNatural?.map UInt64.toNat
  | _, _ => none

/-- A buffer's placeholder, with the buffer appended to those before it. -/
def placeBuffer (data : Bytes) (buffers : List Bytes) : Json × List Bytes :=
  (placeholder buffers.length, buffers ++ [data])

/-- **A value as JSON, and its buffers after those given.** -/
def extract (v : Value) (buffers : List Bytes) : Json × List Bytes :=
  v.toJsonWith placeBuffer buffers

/-- Several values as JSON, and their buffers after those given. -/
def extractItems (items : List Value) (buffers : List Bytes) : List Json × List Bytes :=
  Value.itemsToJsonWith placeBuffer items buffers

def buffer (buffers : List Bytes) (index : Nat) : Except Error Value :=
  match buffers[index]? with
  | some data => .ok (.binary data)
  | none => .error (.placeholderOutOfRange index buffers.length)

mutual

/-- **JSON as a value.**  Counts the placeholders on top of those `used` before. -/
def restore (buffers : List Bytes) : Json → Nat → Except Error (Value × Nat)
  | .array items, used => do
    let (items, used) ← restoreItems buffers items used
    return (.array items, used)
  | .object members, used =>
    match placeholderIndex? members with
    | some index => do return (← buffer buffers index, used + 1)
    | none => do
      let (members, used) ← restoreMembers buffers members used
      return (.object members, used)
  | .null, used => .ok (.null, used)
  | .bool b, used => .ok (.bool b, used)
  | .number n, used => .ok (Value.ofNumber n, used)
  | .string s, used => .ok (.string s, used)

def restoreItems (buffers : List Bytes) : List Json → Nat → Except Error (List Value × Nat)
  | [], used => .ok ([], used)
  | item :: rest, used => do
    let (item, used) ← restore buffers item used
    let (rest, used) ← restoreItems buffers rest used
    return (item :: rest, used)

def restoreMembers (buffers : List Bytes) {lo : Option String} :
    Dict.From Json lo → Nat → Except Error (Dict.From Value lo × Nat)
  | .nil, used => .ok (.nil, used)
  | .cons key above value rest, used => do
    let (value, used) ← restore buffers value used
    let (rest, used) ← restoreMembers buffers rest used
    return (.cons key above value rest, used)

end

end RealtimeClient.Codec
