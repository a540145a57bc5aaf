import RealtimeClient.Dict

/-!
# JSON trees

A JSON document as a tree.  Numbers keep apart what a reader of the text can tell apart: natural
numbers of 64 bits, negative integers of 64 bits, and everything else as a finite double.  Objects
list their members in ascending order of the keys.

* `Json.Number` — the three kinds of number; `Json.Number.ofInt`, `Json.Number.ofFloat?` make one.
* `Json` — the tree, with decidable equality.
* `Json.depth` — how deeply containers are nested.
-/

namespace RealtimeClient

/-- **A JSON number.**  Negative zero is no integer and is kept as a double; a double is finite,
since JSON has no text for the others. -/
inductive Json.Number
  | natural (n : UInt64)
  | negative (n : Int64) (below : n < 0)
  | real (x : Float) (finite : x.isFinite = true)
  deriving DecidableEq

namespace Json.Number

/-- A signed integer as a number. -/
def ofInt (i : Int64) : Number :=
  if h : i < 0 then .negative i h else .natural i.toUInt64

/-- A double as a number, unless it is infinite or no number at all. -/
def ofFloat? (x : Float) : Option Number :=
  if h : x.isFinite = true then some (.real x h) else none

/-- The number as a signed integer, if it is one of 64 bits. -/
def toInt? : Number → Option Int64
  | .natural n => if n < 0x8000000000000000 then some n.toInt64 else none
  | .negative n _ => some n
  | .real _ _ => none

/-- The number as a natural number, if it is one. -/
def toNatural? : Number → Option UInt64
  | .natural n => some n
  | _ => none

end Json.Number

/-- The double nearest to a signed integer. -/
def floatOfInt (i : Int64) : Float :=
  if i < 0 then -(0 - i.toUInt64).toFloat else i.toUInt64.toFloat

/-- The double nearest to the number. -/
def Json.Number.toFloat : Json.Number → Float
  | .natural n => n.toFloat
  | .negative n _ => floatOfInt n
  | .real x _ => x

/-- **A JSON tree.** -/
inductive Json
  | null
  | bool (b : Bool)
  | number (n : Json.Number)
  | string (s : String)
  | array (items : List Json)
  | object (members : Dict.From Json none)

namespace Json

instance : Inhabited Json := ⟨.null⟩

mutual

def decEq : (a b : Json) → Decidable (a = b)
  | .null, .null => .isTrue rfl
  | .bool a, .bool b => if h : a = b then .isTrue (by rw [h]) else .isFalse (by simp [h])
  | .number a, .number b => if h : a = b then .isTrue (by rw [h]) else .isFalse (by simp [h])
  | .string a, .string b => if h : a = b then .isTrue (by rw [h]) else .isFalse (by simp [h])
  | .array a, .array b =>
    match decEqItems a b with
    | .isTrue h => .isTrue (by rw [h])
    | .isFalse h => .isFalse (by simp [h])
  | .object a, .object b =>
    match decEqMembers a b with
    | .isTrue h => .isTrue (by rw [h])
    | .isFalse h => .isFalse (by simp [h])
  | .null, .bool _ | .null, .number _ | .null, .string _ | .null, .array _ | .null, .object _ =>
    .isFalse nofun
  | .bool _, .null | .bool _, .number _ | .bool _, .string _ | .bool _, .array _
  | .bool _, .object _ => .isFalse nofun
  | .number _, .null | .number _, .bool _ | .number _, .string _ | .number _, .array _
  | .number _, .object _ => .isFalse nofun
  | .string _, .null | .string _, .bool _ | .string _, .number _ | .string _, .array _
  | .string _, .object _ => .isFalse nofun
  | .array _, .null | .array _, .bool _ | .array _, .number _ | .array _, .string _
  | .array _, .object _ => .isFalse nofun
  | .object _, .null | .object _, .bool _ | .object _, .number _ | .object _, .string _
  | .object _, .array _ => .isFalse nofun

def decEqItems : (a b : List Json) → Decidable (a = b)
  | [], [] => .isTrue rfl
  | [], _ :: _ | _ :: _, [] => .isFalse nofun
  | a :: as, b :: bs =>
    match decEq a b, decEqItems as bs with
    | .isTrue h, .isTrue hs => .isTrue (by rw [h, hs])
    | .isFalse h, _ => .isFalse (by simp [h])
    | _, .isFalse hs => .isFalse (by simp [hs])

def decEqMembers {lo : Option String} : (a b : Dict.From Json lo) → Decidable (a = b)
  | .nil, .nil => .isTrue rfl
  | .nil, .cons .. | .cons .., .nil => .isFalse nofun
  | .cons k _ v r, .cons k' _ v' r' =>
    if hk : k = k' then by
      subst hk
      exact match decEq v v', decEqMembers r r' with
        | .isTrue h, .isTrue hs => .isTrue (by rw [h, hs])
        | .isFalse h, _ => .isFalse (by simp [h])
        | _, .isFalse hs => .isFalse (by simp [hs])
    else .isFalse (by simp [hk])

end

instance : DecidableEq Json := decEq

mutual

/-- The greatest number of containers around any part of the tree, the tree itself counted. -/
def depth : Json → Nat
  | .array items => depthOfItems items + 1
  | .object members => depthOfMembers members + 1
  | _ => 0

def depthOfItems : List Json → Nat
  | [] => 0
  | item :: rest => max item.depth (depthOfItems rest)

def depthOfMembers {lo : Option String} : Dict.From Json lo → Nat
  | .nil => 0
  | .cons _ _ value rest => max value.depth (depthOfMembers rest)

end

end Json

end RealtimeClient
