import RealtimeClient.Toml

/-!
# Tables under construction

A file defines its tables piece by piece: by headers, by keys with dots, and by headers of lists.  A
table can be defined in one way only and only once, so a draft remembers how each table came about.

* `Toml.Draft` — a table under construction; `Toml.Draft.Node` is one of its entries.
* `Toml.Draft.define?` — a value under a path of keys.
* `Toml.Draft.openTable?`, `Toml.Draft.openItem?` — the headers of a table and of a list's next item.
* `Toml.Draft.toTable` — the table that was constructed.
-/

namespace RealtimeClient.Toml

/-- **How a table came about**: by its own header, on the way to another header's table, or on the
way of a key with dots. -/
inductive Draft.Origin
  | header
  | implied
  | dotted
  deriving DecidableEq, Repr

/-- **An entry of a table under construction.**  A list of tables has its latest item apart. -/
inductive Draft.Node
  | value (v : Toml)
  | table (origin : Draft.Origin) (members : Dict.From Draft.Node none)
  | tables (latest : Dict.From Draft.Node none) (earlier : List (Dict.From Draft.Node none))

/-- **A table under construction.** -/
abbrev Draft : Type := Dict Draft.Node

namespace Draft

/-- **Change the table at a path.**  Tables on the way that are missing are made; of a list of tables
the latest one is meant.  `origin` is how this table came about.  A key with dots does not lead into
a table that has a header. -/
def modifyAt? (dotted : Bool) (change : Origin → Draft → Option Draft) :
    (path : List String) → (origin : Origin) → Draft → Option Draft
  | [], origin, d => change origin d
  | key :: path, _, d => do
    let made : Origin := if dotted then .dotted else .implied
    let node ← match d.get? key with
      | none => (modifyAt? dotted change path made .nil).map (.table made)
      | some (.value _) => none
      | some (.tables latest earlier) =>
        (modifyAt? dotted change path .header latest).map fun t => .tables t earlier
      | some (.table origin t) =>
        if dotted ∧ origin = .header then none
        else (modifyAt? dotted change path origin t).map (.table origin)
    return Dict.insert d key node

/-- Put a value under a key that is not there yet. -/
def addNew? (d : Draft) (key : String) (v : Toml) : Option Draft :=
  if d.contains key then none else some (Dict.insert d key (.value v))

/-- **Define a value under a path**, relative to this table.  A table is filled either under its
header or by keys with dots. -/
def define? (d : Draft) (path : List String) (key : String) (v : Toml) : Option Draft :=
  modifyAt? true
    (fun origin d => if origin = .dotted ↔ path = [] then none else d.addNew? key v)
    path .header d

/-- **The header of a table.**  A table that another header has implied may still get its own. -/
def openTable? (d : Draft) (path : List String) (key : String) : Option Draft :=
  modifyAt? false
    (fun _ d =>
      match d.get? key with
      | none => some (Dict.insert d key (.table .header .nil))
      | some (.table .implied t) => some (Dict.insert d key (.table .header t))
      | some _ => none)
    path .header d

/-- **The header of a list's next table.** -/
def openItem? (d : Draft) (path : List String) (key : String) : Option Draft :=
  modifyAt? false
    (fun _ d =>
      match d.get? key with
      | none => some (Dict.insert d key (.tables .nil []))
      | some (.tables latest earlier) =>
        some (Dict.insert d key (.tables .nil (latest :: earlier)))
      | some _ => none)
    path .header d

/-- Define a value in the table that the latest header has opened. -/
def defineIn? (d : Draft) (header path : List String) (key : String) (v : Toml) : Option Draft :=
  modifyAt? false (fun _ d => d.define? path key v) header .header d

mutual

def Node.toToml : Node → Toml
  | .value v => v
  | .table _ members => .table (tableOf members)
  | .tables latest earlier => .array ((tablesOf earlier).reverse ++ [.table (tableOf latest)])

def tableOf {lo : Option String} : Dict.From Node lo → Dict.From Toml lo
  | .nil => .nil
  | .cons key above node rest => .cons key above node.toToml (tableOf rest)

def tablesOf : List (Dict.From Node none) → List Toml
  | [] => []
  | t :: rest => .table (tableOf t) :: tablesOf rest

end

/-- **The table that was constructed.** -/
def toTable (d : Draft) : Table := tableOf d

end Draft

end RealtimeClient.Toml
