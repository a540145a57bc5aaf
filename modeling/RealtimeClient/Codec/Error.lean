import RealtimeClient.Json.Reader
import RealtimeClient.Text.Quoted
import RealtimeClient.Value

/-!
# Why a frame is refused

* `Codec.Error` — the causes.
* `Codec.Error.message` — their wording; the JSON cause has none of its own.
* `Codec.quoteByte` — the first byte of a text as it is shown in messages.
-/

namespace RealtimeClient.Codec

/-- **Why a frame is refused.** -/
inductive Error
  /-- A text frame without content. -/
  | emptyFrame
  /-- A text frame that begins with the byte, which is no kind of frame. -/
  | unknownFrameKind (first : UInt8)
  /-- A message frame that ends where its kind should be. -/
  | missingPacketKind
  /-- A message that begins with the byte, which is no kind of message. -/
  | unknownPacketKind (first : UInt8)
  /-- The number of buffers is missing or no number. -/
  | badAttachmentCount
  /-- The ack id exceeds 64 bits. -/
  | badAckId
  /-- The payload is no JSON. -/
  | badJson (fault : Json.Fault)
  /-- A placeholder's number is not that of a buffer. -/
  | placeholderOutOfRange (index count : Nat)
  /-- The payload has not as many placeholders as the header announced buffers. -/
  | attachmentMismatch (expected found : Nat)
  /-- A binary frame that no packet waits for. -/
  | unexpectedAttachment
  /-- The payload of an event or ack is no array. -/
  | payloadNotArray
  deriving DecidableEq, Repr

/-- **A byte between single quotes**, read as the character with its number. -/
def quoteByte (b : UInt8) : String := String.ofList (Text.quoted '\'' [Char.ofNat b.toNat])

/-- What is wrong, in words.  A JSON fault is described by its own category. -/
def Error.message : Error → Option String
  | .emptyFrame => some "Empty frame"
  | .unknownFrameKind b => some ("Invalid frame kind: " ++ quoteByte b)
  | .missingPacketKind => some "Invalid packet: missing packet kind"
  | .unknownPacketKind b => some ("Invalid packet kind: " ++ quoteByte b)
  | .badAttachmentCount => some "Invalid attachment count"
  | .badAckId => some "Invalid ack id"
  | .badJson _ => none
  | .placeholderOutOfRange index count =>
    some ("Placeholder " ++ toString index ++ " out of range (" ++ toString count ++
      " attachments)")
  | .attachmentMismatch expected found =>
    some ("Attachment count mismatch: header says " ++ toString expected ++ ", payload has " ++
      toString found)
  | .unexpectedAttachment => some "Unexpected binary frame: no attachment pending"
  | .payloadNotArray => some "Invalid packet: event payload must be an array"

end RealtimeClient.Codec
