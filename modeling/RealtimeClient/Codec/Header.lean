import RealtimeClient.Codec.Error
import RealtimeClient.Decimal
import RealtimeClient.Packet

/-!
# The header of a message

The text of a message begins with its kind, the number of its buffers, its namespace and its ack id;
all but the kind may be absent.  What follows is the payload.

```text
<kind>[<count>-][<namespace>,][<id>][<payload>]
```

* `Codec.Header` — the parts.
* `Codec.Header.write` — their text; the default namespace is left out.
* `Codec.Header.read` — the parts of a text, and the rest.
-/

namespace RealtimeClient.Codec

/-- **The header of a message.** -/
structure Header where
  kind : PacketKind
  count : Nat
  ns : String
  id : Option UInt64
  deriving DecidableEq, Repr

/-- Numbers in headers have 64 bits. -/
def numberBound : Nat := UInt64.size

def digit? (c : Char) : Option Nat :=
  if c.isDigit then some (c.toNat - '0'.toNat) else none

def firstByte (c : Char) : UInt8 := ((String.utf8EncodeChar c).head?).getD 0

namespace Header

/-- **The text of a header.** -/
def write (h : Header) : List Char :=
  h.kind.digit ::
    ((if h.count > 0 then Decimal.write h.count ++ ['-'] else []) ++
      (if h.ns = defaultNamespace then [] else h.ns.toList ++ [',']) ++
        (match h.id with
          | some id => Decimal.write id.toNat
          | none => []))

/-- The part of a text before a character and the part after it; without the character the whole
text and nothing. -/
def cut (c : Char) (text : List Char) : List Char × Option (List Char) :=
  match text with
  | [] => ([], none)
  | d :: rest =>
    if d = c then ([], some rest)
    else
      let (before, after) := cut c rest
      (d :: before, after)

def readKind : List Char → Except Error (PacketKind × List Char)
  | [] => .error .missingPacketKind
  | c :: rest =>
    match (digit? c).bind PacketKind.ofNumber? with
    | some kind => .ok (kind, rest)
    | none => .error (.unknownPacketKind (firstByte c))

/-- The number of buffers, up to a dash; only the kinds with buffers have it. -/
def readCount (kind : PacketKind) (text : List Char) : Except Error (Nat × List Char) :=
  if kind.isBinary then
    match cut '-' text with
    | (digits, some rest) =>
      match Decimal.readSigned? numberBound digits with
      | some count => .ok (count, rest)
      | none => .error .badAttachmentCount
    | (_, none) => .error .badAttachmentCount
  else .ok (0, text)

/-- The namespace, up to a comma or the end; a text without `/` in front names none. -/
def readNamespace (text : List Char) : String × List Char :=
  if text.head? = some '/' then
    let (ns, rest) := cut ',' text
    (String.ofList ns, rest.getD [])
  else (defaultNamespace, text)

/-- The ack id: all the digits that come next. -/
def readId (text : List Char) : Except Error (Option UInt64 × List Char) :=
  let digits := text.takeWhile Char.isDigit
  let rest := text.dropWhile Char.isDigit
  if digits = [] then .ok (none, rest)
  else
    match Decimal.read? numberBound digits with
    | some id => .ok (some id.toUInt64, rest)
    | none => .error .badAckId

/-- **The header of a text, and the rest of the text.** -/
def read (text : List Char) : Except Error (Header × List Char) := do
  let (kind, text) ← readKind text
  let (count, text) ← readCount kind text
  let (ns, text) := readNamespace text
  let (id, text) ← readId text
  return ({ kind, count, ns, id }, text)

end Header

end RealtimeClient.Codec
