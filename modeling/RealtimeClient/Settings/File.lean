import RealtimeClient.Settings
import RealtimeClient.Toml.Reader

/-!
# Settings in files

Settings are kept in a configuration file.  Each of them may be missing; keys that mean nothing are
ignored.

```text
url = "https://example.com"
[reconnect]
attempts = 3
delay_ms = 1000
[query]
token = "abc"
```

* `Settings.LoadFault` — why a file gives no settings.
* `Settings.ofTable?` — the settings in a table.
* `Settings.ofFile` — the settings in a file.
* `Settings.load` — the settings in the first file that exists.
-/

namespace RealtimeClient

def ReconnectSettings.fields : List String := ["attempts", "delay_ms", "delay_max_ms"]

def ReconnectSettings.ofToml? (strict : Bool) (v : Toml) : Option ReconnectSettings := do
  let t ← v.asRecord? strict fields
  let standard : ReconnectSettings := {}
  let attempts ← Toml.entry? t "attempts" (fun v => (v.asNatural? UInt32.size).map some)
    standard.attempts
  let delayMs ← Toml.entry? t "delay_ms" (Toml.asNatural? UInt64.size) standard.delayMs
  let delayMaxMs ← Toml.entry? t "delay_max_ms" (Toml.asNatural? UInt64.size) standard.delayMaxMs
  return { attempts, delayMs, delayMaxMs }

def Revision.ofToml? (v : Toml) : Option Revision := do
  (Revision.ofNumber (← v.asNatural? 256)).toOption

def EngineSettings.fields : List String := ["revision", "path"]

def EngineSettings.ofToml? (strict : Bool) (v : Toml) : Option EngineSettings := do
  let t ← v.asRecord? strict fields
  let standard : EngineSettings := {}
  let revision ← Toml.entry? t "revision" Revision.ofToml? standard.revision
  let path ← Toml.entry? t "path" Toml.asString? standard.path
  return { revision, path }

namespace Settings

/-- The address that is used where neither the surroundings nor a file names one. -/
def standardUrl : String := "http://127.0.0.1:3000"

/-- The settings without a file.  The surroundings may name the address. -/
def standard (environmentUrl : Option String) : Settings :=
  { url := environmentUrl.getD standardUrl }

def texts? (v : Toml) : Option (Dict String) := do (← v.asTable?).mapM? Toml.asString?

/-- **The settings in a table.**  A strict reader takes no list in place of a record that is longer
than the record. -/
def ofTable? (strict : Bool) (environmentUrl : Option String) (t : Toml.Table) :
    Option Settings := do
  let standard := standard environmentUrl
  let url ← Toml.entry? t "url" Toml.asString? standard.url
  let reconnect ←
    Toml.entry? t "reconnect" (ReconnectSettings.ofToml? strict) standard.reconnect
  let engine ← Toml.entry? t "engine" (EngineSettings.ofToml? strict) standard.engine
  let query ← Toml.entry? t "query" texts? standard.query
  let headers ← Toml.entry? t "headers" texts? standard.headers
  return { url, reconnect, engine, query, headers }

/-- **Why a file gives no settings.** -/
inductive LoadFault
  /-- The file is not there, or is no text. -/
  | unreadable
  /-- The file breaks the rules, or has a value of the wrong kind. -/
  | malformed
  | invalid (fault : Fault)
  deriving DecidableEq, Repr

/-- The table of a file with the given content; without content there is no file. -/
def tableOf (content : Option Bytes) : Except LoadFault Toml.Table :=
  match content.bind fun bytes => String.fromUTF8? ⟨bytes.toArray⟩ with
  | none => .error .unreadable
  | some text =>
    match Toml.read? text.toList with
    | none => .error .malformed
    | some t => .ok t

/-- **The settings in a file** with the given content; without content there is no file. -/
def ofFile (environmentUrl : Option String) (content : Option Bytes) :
    Except LoadFault Settings :=
  match tableOf content with
  | .error fault => .error fault
  | .ok t =>
    match ofTable? false environmentUrl t with
    | none => .error .malformed
    | some s => s.check.mapError .invalid

/-- **The settings in the first file that exists**, or the standard ones. -/
def load (environmentUrl : Option String) (contents : List (Option Bytes)) :
    Except LoadFault Settings :=
  match contents.findSome? id with
  | none => .ok (standard environmentUrl)
  | some content => ofFile environmentUrl (some content)

end Settings

end RealtimeClient
