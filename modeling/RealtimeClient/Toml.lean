import RealtimeClient.Dict
import RealtimeClient.Toml.Moment

/-!
# TOML

The tree of a configuration file: a table whose values are texts, numbers, truth values, moments,
lists and tables again.

* `Toml` — a value.  How it was written, in a section of its own or in line, makes no difference.
* `Toml.Table` — the values of a table by key.
* `Toml.asString?` … `Toml.asRecord?` — a value where something of one kind is asked for.
-/

namespace RealtimeClient

/-- **A value of a configuration file.** -/
inductive Toml
  | string (s : String)
  | integer (i : Int64)
  | float (x : Float)
  | boolean (b : Bool)
  | moment (m : Toml.Moment)
  | array (items : List Toml)
  | table (members : Dict.From Toml none)

namespace Toml

instance : Inhabited Toml := ⟨.boolean false⟩

/-- **A table.** -/
abbrev Table : Type := Dict Toml

def asString? : Toml → Option String
  | .string s => some s
  | _ => none

def asBoolean? : Toml → Option Bool
  | .boolean b => some b
  | _ => none

/-- A value that is a natural number below a bound. -/
def asNatural? (bound : Nat) : Toml → Option Nat
  | .integer i => if 0 ≤ i.toInt ∧ i.toInt < bound then some i.toInt.toNat else none
  | _ => none

def asStrings? : Toml → Option (List String)
  | .array items => items.mapM asString?
  | _ => none

/-- The key under which a moment's text is found where a table is asked for. -/
def momentKey : String := "$__toml_private_datetime"

/-- **A value where a table is asked for.**  A moment is a table with its text as the only entry. -/
def asTable? : Toml → Option Table
  | .table members => some members
  | .moment m => some (Dict.ofList [(momentKey, .string (String.ofList m.write))])
  | _ => none

/-- **A value where a record is asked for**: a table, or a list of the fields in their order.  A
strict reader takes no list that is longer than the record. -/
def asRecord? (strict : Bool) (fields : List String) : Toml → Option Table
  | .array items =>
    if strict ∧ fields.length < items.length then none else some (Dict.ofList (fields.zip items))
  | v => v.asTable?

/-- The entry of a table, or a default if there is none. -/
def entry? {α : Type} (t : Table) (key : String) (content? : Toml → Option α) (default : α) :
    Option α :=
  match t.get? key with
  | none => some default
  | some v => content? v

end Toml

end RealtimeClient
