import RealtimeClient.Console.Session

/-!
# The command line

Reads the settings, starts a session and passes the lines that are typed on to it.  Events and
replies go to the standard output, remarks to the other one.

The program has no network of its own: a connection that the session asks for is reported as lost,
as it is where no server can be reached.
-/

namespace RealtimeClient.Console

/-- What the arguments ask for: a file of settings, or the first of the usual ones. -/
def configuration? : List String → Except String (Option String)
  | [] => .ok none
  | ["--config"] => .error (unexpected "--config")
  | "--config" :: path :: _ => .ok (some path)
  | other :: _ => .error (unexpected other)
where
  /-- The complaint about an argument. -/
  unexpected (argument : String) : String :=
    "Unexpected argument: " ++ argument ++ " (usage: sockio [--config PATH])"

/-- Where the settings are looked for, in order. -/
def usualPaths (home : Option String) : List String :=
  ["sockio.toml", "/etc/sockio/sockio.toml"] ++
    (home.map (· ++ "/.config/sockio/sockio.toml")).toList

/-- Why the file at a path gives no settings. -/
def loadMessage (path : String) : RealtimeClient.Settings.LoadFault → String
  | .unreadable => "Failed to read config file: " ++ path
  | .malformed => "Failed to parse config file: " ++ path
  | .invalid _ => "Invalid config file: " ++ path

/-- Why a session cannot be started. -/
def startMessage : Client.StartFault → String
  | .settings fault => fault.message
  | .endpoint target fault => fault.message target

def contentOf (path : String) : IO (Option Bytes) := do
  try return some (← IO.FS.readBinFile path).toList
  catch _ => return none

/-- The settings that the arguments ask for. -/
def settingsFor (args : List String) : IO (Except String Settings) := do
  let url ← IO.getEnv "SOCKIO_URL"
  match configuration? args with
  | .error message => return .error message
  | .ok (some path) =>
    return (Settings.ofFile url (← contentOf path)).mapError (loadMessage path)
  | .ok none =>
    for path in usualPaths (← IO.getEnv "HOME") do
      if let some content ← contentOf path then
        return (Settings.ofFile url (some content)).mapError (loadMessage path)
    return .ok (.standard url)

def print : Shown → IO Unit
  | .result text => IO.println text
  | .remark text => IO.eprintln text

/-- Pass an input on, and show what comes of it. -/
def advance (s : Session) (i : Session.Input) : IO Session := do
  let (s, shown) := s.step i
  shown.forM print
  return s

/-- Take lines until there are none, or until no session came about. -/
partial def loop (started : Nat) (lines : IO.FS.Stream) (s : Session) : IO Session := do
  if s.failed then return s
  else if s.client.transport.state = .opening then
    loop started lines (← advance s (.observed (.closed false)))
  else
    let line ← lines.getLine
    let s ← advance s (.time ((← IO.monoMsNow) - started))
    if line = "" then advance s .interrupt else loop started lines (← advance s (.line line))

/-- Run a session with some settings.  Gives why it came to a bad end, if it did. -/
def runSession (settings : Settings) : IO (Option String) := do
  match Session.start settings 0 with
  | .error fault => return some (startMessage fault)
  | .ok s =>
    let s ← loop (← IO.monoMsNow) (← IO.getStdin) s
    return if s.failed then some s.failureMessage else none

/-- Run with some arguments.  Gives what went wrong, if anything did. -/
def run (args : List String) : IO (Option String) := do
  match ← settingsFor args with
  | .error message => return some message
  | .ok settings => runSession settings

end RealtimeClient.Console

/-- **The program.**  It exits with 1 if something went wrong. -/
def main (args : List String) : IO UInt32 := do
  match ← RealtimeClient.Console.run args with
  | none => return 0
  | some message =>
    IO.eprintln ("Error: " ++ message)
    return 1
