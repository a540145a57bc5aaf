import RealtimeClient.Codec.Header
import RealtimeClient.Codec.Placeholder
import RealtimeClient.Json.Writer
import RealtimeClient.Revision

/-!
# The packet codec

A packet travels as one text frame and one binary frame for each buffer in its payload.

* `Codec.encode` — the frames of a packet.
* `Codec.Partial` — a packet whose text has come and whose buffers are still coming;
  `Codec.Partial.finish` puts it together.
* `Codec`, `Codec.feed`, `Codec.reset` — decoding frame by frame.
-/

namespace RealtimeClient

namespace Codec

/-! ## Encoding -/

/-- The byte in front of binary frames, where the revision asks for one. -/
def binaryMark : UInt8 := 4

/-- The binary frame of a buffer. -/
def binaryFrame (revision : Revision) (data : Bytes) : Frame :=
  .binary (if revision.prefixesBinary then binaryMark :: data else data)

/-- The JSON of a message's payload and its buffers.  Events and acks carry all their values in an
array, the other kinds their first value, if there is one. -/
def messageBody (p : Packet) : Option Json × List Bytes :=
  if p.kind.isEvent ∨ p.kind.isAck then
    let (items, buffers) := extractItems p.payload []
    (some (.array items), buffers)
  else
    match p.payload with
    | [] => (none, [])
    | v :: _ =>
      let (json, buffers) := extract v []
      (some json, buffers)

/-- The text of a packet, and its buffers. -/
def encodeText (p : Packet) : List Char × List Bytes :=
  match p.frame with
  | .message =>
    let (body, buffers) := messageBody p
    let header : Header :=
      { kind := p.kind.withBinary (buffers ≠ []), count := buffers.length, ns := p.ns, id := p.id }
    (header.write ++ (body.map Json.write).getD [], buffers)
  | .handshake =>
    match p.payload with
    | [] => ([], [])
    | v :: _ =>
      let (json, buffers) := extract v []
      (json.write, buffers)
  | .close | .ping | .pong =>
    match p.payload with
    | .string data :: _ => (data.toList, [])
    | _ => ([], [])

/-- **The frames of a packet.**  The text comes first, then the buffers in the order of their
numbers. -/
def encode (revision : Revision) (p : Packet) : List Frame :=
  let (text, buffers) := encodeText p
  .text (String.ofList (p.frame.digit :: text)) :: buffers.map (binaryFrame revision)

/-! ## Decoding -/

/-- **A packet under way.**  Its text has been read; `expected` buffers belong to it. -/
structure Partial where
  header : Packet
  body : Option Json
  expected : Nat
  buffers : List Bytes
  deriving DecidableEq

namespace Partial

/-- Whether all buffers have come. -/
def isComplete (p : Partial) : Bool := p.expected ≤ p.buffers.length

/-- The payload that a value from the text makes: the items of an array for events and acks, the
value itself for the others. -/
def payload (header : Packet) (v : Value) : Except Error (List Value) :=
  if header.frame = .message ∧ (header.kind.isEvent ∨ header.kind.isAck) then
    match v with
    | .array items => .ok items
    | _ => .error .payloadNotArray
  else .ok [v]

/-- **The packet, with its buffers in place.**  Each must be used as often as the header said. -/
def finish (p : Partial) : Except Error Packet :=
  match p.body with
  | none => if p.expected = 0 then .ok p.header else .error (.attachmentMismatch p.expected 0)
  | some json => do
    let (v, used) ← restore p.buffers json 0
    if used ≠ p.expected then throw (.attachmentMismatch p.expected used)
    return { p.header with payload := ← payload p.header v }

end Partial

/-- The payload's JSON: the rest of the text, or none if nothing is left. -/
def readBody (text : List Char) : Except Error (Option Json) :=
  if text = [] then .ok none
  else
    match Json.read text with
    | .ok json => .ok (some json)
    | .error fault => .error (.badJson fault)

/-- A packet under way from the text of a message after its frame digit. -/
def readMessage (text : List Char) : Except Error Partial := do
  let (header, text) ← Header.read text
  let body ← readBody text
  return {
    header := { frame := .message, kind := header.kind, ns := header.ns, id := header.id,
                payload := [] }
    body, expected := header.count, buffers := [] }

/-- **A packet under way from a text.** -/
def readText : List Char → Except Error Partial
  | [] => .error .emptyFrame
  | c :: rest =>
    match (digit? c).bind FrameKind.ofNumber? with
    | none => .error (.unknownFrameKind (firstByte c))
    | some .message => readMessage rest
    | some .handshake => do
      let body ← readBody rest
      return { header := Packet.engine .handshake [], body, expected := 0, buffers := [] }
    | some frame =>
      let payload := if rest = [] then [] else [.string (String.ofList rest)]
      .ok { header := Packet.engine frame payload, body := none, expected := 0, buffers := [] }

/-- The buffer in a binary frame: without the byte in front, if the revision has one and it is
there. -/
def frameBuffer (revision : Revision) (data : Bytes) : Bytes :=
  if revision.prefixesBinary ∧ data.head? = some binaryMark then data.drop 1 else data

end Codec

/-- **A codec.**  The revision, and the packet that waits for buffers. -/
structure Codec where
  revision : Revision
  pending : Option Codec.Partial
  deriving DecidableEq

namespace Codec

def new (revision : Revision) : Codec := { revision, pending := none }

def hasPending (c : Codec) : Bool := c.pending.isSome

/-- Give up the packet that waits for buffers. -/
def reset (c : Codec) : Codec := { c with pending := none }

/-- A packet under way: it is finished if it is complete, and waits otherwise. -/
def settle (c : Codec) (p : Partial) : Codec × Except Error (Option Packet) :=
  if p.isComplete then (c.reset, p.finish.map some) else ({ c with pending := some p }, .ok none)

/-- **One frame.**  Gives the packet that it completes, nothing while buffers are still to come, or
the reason why the frame is refused.  A text begins a new packet and gives up the one that waits;
after a refusal nothing waits. -/
def feed (c : Codec) : Frame → Codec × Except Error (Option Packet)
  | .text s =>
    match readText s.toList with
    | .ok p => c.reset.settle p
    | .error e => (c.reset, .error e)
  | .binary data =>
    match c.pending with
    | none => (c, .error .unexpectedAttachment)
    | some p => c.settle { p with buffers := p.buffers ++ [frameBuffer c.revision data] }

end Codec

end RealtimeClient
