import RealtimeClient.Settings.File

/-!
# Settings of a console

A console has the settings of its client, beside them the events that it shows, and whether it
publishes its metrics.  All of them stand in one file.

```text
url = "http://localhost:3000"
[subscribe]
"/chat" = ["message", "typing"]
[metrics]
enabled = true
```

* `Console.Settings` — the settings; `Console.Settings.ofTable?` — those in a table.
* `Console.Settings.ofFile`, `Console.Settings.load` — those in a file, or in the first one that
  exists.
-/

namespace RealtimeClient.Console

/-- Whether metrics are published, and at which port. -/
structure MetricsSettings where
  enabled : Bool := false
  port : Nat := 9091
  deriving DecidableEq, Repr

/-- **The settings of a console.**  `subscribe` has the events that are shown, by namespace. -/
structure Settings where
  client : RealtimeClient.Settings
  subscribe : Dict (List String) := .nil
  metrics : MetricsSettings := {}
  deriving DecidableEq

def MetricsSettings.fields : List String := ["enabled", "port"]

def MetricsSettings.ofToml? (v : Toml) : Option MetricsSettings := do
  let t ← v.asRecord? false fields
  let standard : MetricsSettings := {}
  let enabled ← Toml.entry? t "enabled" Toml.asBoolean? standard.enabled
  let port ← Toml.entry? t "port" (Toml.asNatural? UInt16.size) standard.port
  return { enabled, port }

namespace Settings

/-- The settings without a file. -/
def standard (environmentUrl : Option String) : Settings :=
  { client := .standard environmentUrl }

/-- The events of each namespace in a value. -/
def events? (v : Toml) : Option (Dict (List String)) := do
  (← v.asTable?).mapM? Toml.asStrings?

/-- **The settings in a table.**  Those of the client are read strictly. -/
def ofTable? (environmentUrl : Option String) (t : Toml.Table) : Option Settings := do
  let subscribe ← Toml.entry? t "subscribe" events? .nil
  let metrics ← Toml.entry? t "metrics" MetricsSettings.ofToml? {}
  let client ← RealtimeClient.Settings.ofTable? true environmentUrl t
  return { client, subscribe, metrics }

/-- The settings, if those of the client make sense. -/
def check (s : Settings) : Except RealtimeClient.Settings.Fault Settings :=
  s.client.check.map fun client => { s with client }

/-- **The settings in a file** with the given content; without content there is no file. -/
def ofFile (environmentUrl : Option String) (content : Option Bytes) :
    Except RealtimeClient.Settings.LoadFault Settings :=
  match RealtimeClient.Settings.tableOf content with
  | .error fault => .error fault
  | .ok t =>
    match ofTable? environmentUrl t with
    | none => .error .malformed
    | some s => s.check.mapError .invalid

/-- **The settings in the first file that exists**, or the standard ones. -/
def load (environmentUrl : Option String) (contents : List (Option Bytes)) :
    Except RealtimeClient.Settings.LoadFault Settings :=
  match contents.findSome? id with
  | none => .ok (standard environmentUrl)
  | some content => ofFile environmentUrl (some content)

end Settings

end RealtimeClient.Console
