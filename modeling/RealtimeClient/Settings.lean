import RealtimeClient.Endpoint

/-!
# Settings of a client

What a client is started with, and when such settings make no sense.

* `Settings` — target address, reconnection, session layer, and the query and headers of every
  connection.
* `Settings.Fault`, `Settings.check` — the base delay must not exceed its cap.
* `Settings.policy` — the reconnection policy that the settings ask for.
-/

namespace RealtimeClient

/-- How often a lost connection is tried again, and after how many milliseconds. -/
structure ReconnectSettings where
  attempts : Option Nat := none
  delayMs : Nat := 5000
  delayMaxMs : Nat := 25000
  deriving DecidableEq, Repr

/-- The revision of the session layer, and the path that is used where the target has none. -/
structure EngineSettings where
  revision : Revision := .default
  path : String := Endpoint.defaultPath
  deriving DecidableEq, Repr

/-- **The settings of a client.** -/
structure Settings where
  url : String
  reconnect : ReconnectSettings := {}
  engine : EngineSettings := {}
  query : Query := .nil
  headers : Headers := .nil
  deriving DecidableEq

namespace Settings

/-- **The base delay exceeds its cap.** -/
structure Fault where
  delayMs : Nat
  delayMaxMs : Nat
  deriving DecidableEq, Repr

def Fault.message (f : Fault) : String :=
  "Invalid configuration: reconnect.delay_ms (" ++ toString f.delayMs ++
    ") exceeds reconnect.delay_max_ms (" ++ toString f.delayMaxMs ++ ")"

/-- **The settings, if they make sense.** -/
def check (s : Settings) : Except Fault Settings :=
  if s.reconnect.delayMs > s.reconnect.delayMaxMs then
    .error { delayMs := s.reconnect.delayMs, delayMaxMs := s.reconnect.delayMaxMs }
  else .ok s

def policy (s : Settings) : ReconnectPolicy :=
  .new s.reconnect.attempts (.ofMillis s.reconnect.delayMs) (.ofMillis s.reconnect.delayMaxMs)

end Settings

end RealtimeClient
