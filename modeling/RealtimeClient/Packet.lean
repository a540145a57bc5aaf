import RealtimeClient.Value

/-!
# Packets

A packet is one unit of the protocol.  Four kinds of frame manage the session; the fifth carries a
message, which is addressed to a namespace and has a kind of its own.

* `FrameKind`, `PacketKind` — the two kinds, each with its digit on the wire.
* `Frame` — what a transport carries: a text or a run of bytes.
* `Packet` — kinds, namespace, optional ack id and payload; `Packet.event`, `Packet.ack` and the
  others make one.
-/

namespace RealtimeClient

/-- The namespace of messages that name none. -/
def defaultNamespace : String := "/"

/-- A namespace's name with the `/` in front that every one has. -/
def normalizeNamespace (name : String) : String :=
  if name.toList.head? = some '/' then name else "/" ++ name

/-- **What a frame is for.** -/
inductive FrameKind
  | handshake
  | close
  | ping
  | pong
  | message
  deriving DecidableEq, Repr

namespace FrameKind

def number : FrameKind → Nat
  | .handshake => 0
  | .close => 1
  | .ping => 2
  | .pong => 3
  | .message => 4

def ofNumber? : Nat → Option FrameKind
  | 0 => some .handshake
  | 1 => some .close
  | 2 => some .ping
  | 3 => some .pong
  | 4 => some .message
  | _ => none

def digit (k : FrameKind) : Char := Nat.digitChar k.number

/-- What is said of a number that no kind of frame has. -/
def unknownMessage : String := "Invalid frame kind"

theorem ofNumber?_number (k : FrameKind) : ofNumber? k.number = some k := by cases k <;> rfl

end FrameKind

/-- **What a message is.**  Events and acks have a twin for payloads with buffers. -/
inductive PacketKind
  | connect
  | disconnect
  | event
  | ack
  | connectError
  | binaryEvent
  | binaryAck
  deriving DecidableEq, Repr

namespace PacketKind

def number : PacketKind → Nat
  | .connect => 0
  | .disconnect => 1
  | .event => 2
  | .ack => 3
  | .connectError => 4
  | .binaryEvent => 5
  | .binaryAck => 6

def ofNumber? : Nat → Option PacketKind
  | 0 => some .connect
  | 1 => some .disconnect
  | 2 => some .event
  | 3 => some .ack
  | 4 => some .connectError
  | 5 => some .binaryEvent
  | 6 => some .binaryAck
  | _ => none

def digit (k : PacketKind) : Char := Nat.digitChar k.number

/-- What is said of a number that no kind of message has. -/
def unknownMessage : String := "Invalid packet kind"

/-- Whether the kind announces buffers. -/
def isBinary (k : PacketKind) : Bool := k = .binaryEvent || k = .binaryAck

def isEvent (k : PacketKind) : Bool := k = .event || k = .binaryEvent

def isAck (k : PacketKind) : Bool := k = .ack || k = .binaryAck

/-- The twin of an event's or ack's kind that does, or does not, announce buffers. -/
def withBinary (k : PacketKind) (binary : Bool) : PacketKind :=
  match k with
  | .event | .binaryEvent => if binary then .binaryEvent else .event
  | .ack | .binaryAck => if binary then .binaryAck else .ack
  | other => other

theorem ofNumber?_number (k : PacketKind) : ofNumber? k.number = some k := by cases k <;> rfl

end PacketKind

/-- **What a transport carries.** -/
inductive Frame
  | text (s : String)
  | binary (data : Bytes)
  deriving DecidableEq, Repr

namespace Frame

def isBinary : Frame → Bool
  | .text _ => false
  | .binary _ => true

def size : Frame → Nat
  | .text s => s.utf8ByteSize
  | .binary data => data.length

def isEmpty (f : Frame) : Bool := f.size = 0

end Frame

/-- **A packet.**  The kind of message counts only where the frame is a message.  The payload of an
event starts with its name. -/
structure Packet where
  frame : FrameKind
  kind : PacketKind
  ns : String
  id : Option UInt64
  payload : List Value
  deriving DecidableEq

namespace Packet

/-- A packet that manages the session. -/
def engine (frame : FrameKind) (payload : List Value) : Packet :=
  { frame, kind := .event, ns := defaultNamespace, id := none, payload }

/-- A message. -/
def message (kind : PacketKind) (ns : String) (payload : List Value) : Packet :=
  { frame := .message, kind, ns, id := none, payload }

/-- The number of buffers in the payload. -/
def attachmentCount (p : Packet) : Nat := Value.binaryCountOfItems p.payload

/-- The packet with the kind that fits its payload. -/
def settleKind (p : Packet) : Packet :=
  { p with kind := p.kind.withBinary (p.attachmentCount > 0) }

/-- The handshake. -/
def handshake (data : Value) : Packet := engine .handshake [data]

/-- The end of a session. -/
def close : Packet := engine .close []

/-- A sign of life that asks for an answer. -/
def ping : Packet := engine .ping []

/-- The answer to a sign of life. -/
def pong : Packet := engine .pong []

/-- The request of a namespace, with a payload for the server if one is given. -/
def connect (ns : String) (auth : Option Value) : Packet := message .connect ns auth.toList

/-- The leaving of a namespace. -/
def disconnect (ns : String) : Packet := message .disconnect ns []

/-- The refusal of a namespace. -/
def connectError (ns : String) (data : Value) : Packet := message .connectError ns [data]

/-- An event with its arguments. -/
def event (ns name : String) (args : List Value) : Packet :=
  (message .event ns (.string name :: args)).settleKind

/-- The answer to the event with the id. -/
def ack (ns : String) (id : UInt64) (payload : List Value) : Packet :=
  { (message .ack ns payload).settleKind with id := some id }

def withId (p : Packet) (id : UInt64) : Packet := { p with id := some id }

def eventName (p : Packet) : Option String :=
  if p.frame = .message ∧ p.kind.isEvent then
    match p.payload with
    | .string name :: _ => some name
    | _ => none
  else none

def isDefaultNamespace (p : Packet) : Bool := p.ns = defaultNamespace

end Packet

end RealtimeClient
