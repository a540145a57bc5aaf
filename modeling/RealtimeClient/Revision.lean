import RealtimeClient.Decimal
import RealtimeClient.Text.Blank

/-!
# Protocol revisions

Two revisions of the session layer are in use.  They differ in who drives the heartbeat, in how
binary frames are marked, and in whether the default namespace has to be requested.
-/

namespace RealtimeClient

/-- **A revision of the session layer.** -/
inductive Revision
  | v3
  | v4
  deriving DecidableEq, Repr

namespace Revision

instance : Inhabited Revision := ⟨.v4⟩

/-- The revision in use unless another one is asked for. -/
def default : Revision := .v4

/-- The number by which a server knows the revision. -/
def number : Revision → Nat
  | .v3 => 3
  | .v4 => 4

/-- Whether the server sends the heartbeat. -/
def serverPings (r : Revision) : Bool := r = .v4

/-- Whether binary frames carry a leading type byte. -/
def prefixesBinary (r : Revision) : Bool := r = .v3

/-- Whether the default namespace has to be requested. -/
def connectsDefaultNamespace (r : Revision) : Bool := r = .v4

/-- **Why no revision is meant.** -/
inductive Fault
  | notNumber
  | unsupported
  deriving DecidableEq, Repr

def Fault.message : Fault → String
  | .notNumber => "Invalid protocol revision"
  | .unsupported => "Unsupported protocol revision"

def ofNumber : Nat → Except Fault Revision
  | 3 => .ok .v3
  | 4 => .ok .v4
  | _ => .error .unsupported

/-- The revision that a text names by its number of eight bits; blanks around it do not count. -/
def ofText (text : String) : Except Fault Revision :=
  match Decimal.readSigned? 256 (Text.trim text.toList) with
  | some n => ofNumber n
  | none => .error .notNumber

/-- Every revision is found by its number. -/
theorem ofNumber_number (r : Revision) : ofNumber r.number = .ok r := by cases r <;> rfl

end Revision

end RealtimeClient
