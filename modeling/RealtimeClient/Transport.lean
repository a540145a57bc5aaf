import RealtimeClient.Engine

/-!
# Transports

A transport has at most one connection at a time.  It can be dialed, hung up and written to, and
answers at once; whatever it observes is reported later, as events that name their connection.

* `ConnectionId`, `TransportState`, `TransportEvent`, `TransportError` — what a transport speaks of.
* `Transport` — the operations that a client needs.
-/

namespace RealtimeClient

/-- **A connection's name.**  No two connections of a transport have the same. -/
structure ConnectionId where
  number : Nat
  deriving DecidableEq, Repr

def ConnectionId.text (id : ConnectionId) : String := "conn_" ++ toString id.number

inductive TransportState
  | closed
  | opening
  | opened
  deriving DecidableEq, Repr

/-- The state with a number; numbers of no state stand for a closed transport. -/
def TransportState.ofNumber : Nat → TransportState
  | 1 => .opening
  | 2 => .opened
  | _ => .closed

/-- **What a transport observes.** -/
inductive TransportEvent
  | opened
  /-- The connection has ended; `normal` if both sides agreed on it. -/
  | closed (normal : Bool)
  | message (frame : Frame)
  /-- The server answered the request for a connection as an ordinary one. -/
  | httpResponse (status : Nat) (headers : Headers)
  deriving DecidableEq

/-- **Why a transport refuses.** -/
inductive TransportError
  | notConnected
  | alreadyOpen
  | connectionClosed
  | invalidUrl (detail : String)
  | invalidHeader (detail : String)
  | noEventSink
  | sendFailed (detail : String)
  | other (detail : String)
  deriving DecidableEq, Repr

def TransportError.message : TransportError → String
  | .notConnected => "Not connected"
  | .alreadyOpen => "Connection already active"
  | .connectionClosed => "Connection closed"
  | .invalidUrl detail => "Invalid URL: " ++ detail
  | .invalidHeader detail => "Invalid header " ++ detail
  | .noEventSink => "No event sink installed"
  | .sendFailed detail => "Send failed: " ++ detail
  | .other detail => detail

/-- **The operations of a transport.**  `receive?` takes the oldest event that was not taken yet. -/
class Transport (τ : Type) where
  dial : τ → String → Headers → Except TransportError ConnectionId × τ
  hangUp : τ → String → Except TransportError Unit × τ
  write : τ → Frame → Except TransportError Unit × τ
  state : τ → TransportState
  receive? : τ → Option ((ConnectionId × TransportEvent) × τ)

end RealtimeClient
