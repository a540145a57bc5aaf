import RealtimeClient.Duration
import RealtimeClient.Value

/-!
# The handshake

A server opens a session by sending its parameters.  Only the session id is required; a parameter
that is missing or of the wrong kind has its default.
-/

namespace RealtimeClient

/-- **The parameters of a session.** -/
structure Handshake where
  sid : String
  pingInterval : Duration
  pingTimeout : Duration
  upgrades : List String
  maxPayload : Option Nat
  deriving DecidableEq, Repr

namespace Handshake

/-- The time between two heartbeats, where the server names none. -/
def defaultPingInterval : Duration := .ofMillis 25000

/-- The time that a heartbeat may stay unanswered, where the server names none. -/
def defaultPingTimeout : Duration := .ofMillis 60000

def naturalMember? (v : Value) (key : String) : Option Nat :=
  match v.get? key with
  | some (.int i) => if i < 0 then none else some i.toInt.toNat
  | _ => none

/-- A member in milliseconds, or a default. -/
def millisMember (v : Value) (key : String) (default : Duration) : Duration :=
  ((naturalMember? v key).map Duration.ofMillis).getD default

def stringsMember (v : Value) (key : String) : List String :=
  match v.get? key with
  | some (.array items) => items.filterMap fun item => item.asString.toOption
  | _ => []

/-- **The parameters in a payload.**  There are none without a session id. -/
def parse? (v : Value) : Option Handshake :=
  match v.get? "sid" with
  | some (.string sid) =>
    some {
      sid
      pingInterval := millisMember v "pingInterval" defaultPingInterval
      pingTimeout := millisMember v "pingTimeout" defaultPingTimeout
      upgrades := stringsMember v "upgrades"
      maxPayload := naturalMember? v "maxPayload" }
  | _ => none

end Handshake

end RealtimeClient
