import RealtimeClient.Json

/-!
# Values

A `Value` is the tree that a packet carries: JSON with one addition, the byte buffer, which travels
beside the text.

* `Value`, `Value.Kind`, `Value.kind` — the tree and the kind of its root.
* `Value.asBool` … `Value.asObject` — the content of a value of one kind; `Value.TypeMismatch` says
  what was found instead.
* `Value.buffers` — the buffers in the order in which they are numbered: a container's parts in
  order, the members of an object by ascending keys.
* `Value.binaryCount` — how many buffers there are.
-/

namespace RealtimeClient

/-- A byte buffer. -/
abbrev Bytes : Type := List UInt8

/-- **A value.** -/
inductive Value
  | null
  | bool (b : Bool)
  | int (i : Int64)
  | double (x : Float)
  | string (s : String)
  | binary (data : Bytes)
  | array (items : List Value)
  | object (members : Dict.From Value none)

namespace Value

instance : Inhabited Value := ⟨.null⟩

/-- The kinds of value. -/
inductive Kind
  | null
  | bool
  | int
  | double
  | string
  | binary
  | array
  | object
  deriving DecidableEq, Repr

def Kind.name : Kind → String
  | .null => "null"
  | .bool => "bool"
  | .int => "int"
  | .double => "double"
  | .string => "string"
  | .binary => "binary"
  | .array => "array"
  | .object => "object"

def kind : Value → Kind
  | .null => .null
  | .bool _ => .bool
  | .int _ => .int
  | .double _ => .double
  | .string _ => .string
  | .binary _ => .binary
  | .array _ => .array
  | .object _ => .object

def isNull (v : Value) : Bool := v.kind = .null

/-! ## Equality -/

mutual

def decEq : (a b : Value) → Decidable (a = b)
  | .null, .null => .isTrue rfl
  | .bool a, .bool b => if h : a = b then .isTrue (by rw [h]) else .isFalse (by simp [h])
  | .int a, .int b => if h : a = b then .isTrue (by rw [h]) else .isFalse (by simp [h])
  | .double a, .double b => if h : a = b then .isTrue (by rw [h]) else .isFalse (by simp [h])
  | .string a, .string b => if h : a = b then .isTrue (by rw [h]) else .isFalse (by simp [h])
  | .binary a, .binary b => if h : a = b then .isTrue (by rw [h]) else .isFalse (by simp [h])
  | .array a, .array b =>
    match decEqItems a b with
    | .isTrue h => .isTrue (by rw [h])
    | .isFalse h => .isFalse (by simp [h])
  | .object a, .object b =>
    match decEqMembers a b with
    | .isTrue h => .isTrue (by rw [h])
    | .isFalse h => .isFalse (by simp [h])
  | .null, .bool _ | .null, .int _ | .null, .double _ | .null, .string _ | .null, .binary _
  | .null, .array _ | .null, .object _ => .isFalse nofun
  | .bool _, .null | .bool _, .int _ | .bool _, .double _ | .bool _, .string _
  | .bool _, .binary _ | .bool _, .array _ | .bool _, .object _ => .isFalse nofun
  | .int _, .null | .int _, .bool _ | .int _, .double _ | .int _, .string _ | .int _, .binary _
  | .int _, .array _ | .int _, .object _ => .isFalse nofun
  | .double _, .null | .double _, .bool _ | .double _, .int _ | .double _, .string _
  | .double _, .binary _ | .double _, .array _ | .double _, .object _ => .isFalse nofun
  | .string _, .null | .string _, .bool _ | .string _, .int _ | .string _, .double _
  | .string _, .binary _ | .string _, .array _ | .string _, .object _ => .isFalse nofun
  | .binary _, .null | .binary _, .bool _ | .binary _, .int _ | .binary _, .double _
  | .binary _, .string _ | .binary _, .array _ | .binary _, .object _ => .isFalse nofun
  | .array _, .null | .array _, .bool _ | .array _, .int _ | .array _, .double _
  | .array _, .string _ | .array _, .binary _ | .array _, .object _ => .isFalse nofun
  | .object _, .null | .object _, .bool _ | .object _, .int _ | .object _, .double _
  | .object _, .string _ | .object _, .binary _ | .object _, .array _ => .isFalse nofun

def decEqItems : (a b : List Value) → Decidable (a = b)
  | [], [] => .isTrue rfl
  | [], _ :: _ | _ :: _, [] => .isFalse nofun
  | a :: as, b :: bs =>
    match decEq a b, decEqItems as bs with
    | .isTrue h, .isTrue hs => .isTrue (by rw [h, hs])
    | .isFalse h, _ => .isFalse (by simp [h])
    | _, .isFalse hs => .isFalse (by simp [hs])

def decEqMembers {lo : Option String} : (a b : Dict.From Value lo) → Decidable (a = b)
  | .nil, .nil => .isTrue rfl
  | .nil, .cons .. | .cons .., .nil => .isFalse nofun
  | .cons k _ v r, .cons k' _ v' r' =>
    if hk : k = k' then by
      subst hk
      exact match decEq v v', decEqMembers r r' with
        | .isTrue h, .isTrue hs => .isTrue (by rw [h, hs])
        | .isFalse h, _ => .isFalse (by simp [h])
        | _, .isFalse hs => .isFalse (by simp [hs])
    else .isFalse (by simp [hk])

end

instance : DecidableEq Value := decEq

/-! ## Access -/

/-- **A value is of another kind than asked for.** -/
structure TypeMismatch where
  expected : Kind
  found : Kind
  deriving DecidableEq, Repr

def TypeMismatch.message (e : TypeMismatch) : String :=
  "Type mismatch: expected " ++ e.expected.name ++ ", found " ++ e.found.name

/-- The refusal of a value that is not of the kind asked for. -/
def mismatch (v : Value) (expected : Kind) : TypeMismatch := { expected, found := v.kind }

def asBool : Value → Except TypeMismatch Bool
  | .bool b => .ok b
  | v => .error (v.mismatch .bool)

def asInt : Value → Except TypeMismatch Int64
  | .int i => .ok i
  | v => .error (v.mismatch .int)

/-- The content of a double; an integer is widened. -/
def asFloat : Value → Except TypeMismatch Float
  | .double x => .ok x
  | .int i => .ok (floatOfInt i)
  | v => .error (v.mismatch .double)

def asString : Value → Except TypeMismatch String
  | .string s => .ok s
  | v => .error (v.mismatch .string)

def asBinary : Value → Except TypeMismatch Bytes
  | .binary data => .ok data
  | v => .error (v.mismatch .binary)

def asArray : Value → Except TypeMismatch (List Value)
  | .array items => .ok items
  | v => .error (v.mismatch .array)

def asObject : Value → Except TypeMismatch (Dict Value)
  | .object members => .ok members
  | v => .error (v.mismatch .object)

/-- The member of an object; other values have none. -/
def get? (key : String) : Value → Option Value
  | .object members => members.get? key
  | _ => none

/-- Change the items of an array. -/
def modifyItems (f : List Value → List Value) (v : Value) : Except TypeMismatch Value :=
  v.asArray.map fun items => .array (f items)

/-- Change the members of an object. -/
def modifyMembers (f : Dict Value → Dict Value) (v : Value) : Except TypeMismatch Value :=
  v.asObject.map fun members => .object (f members)

/-! ## Buffers -/

mutual

/-- **The buffers of a value in the order of their numbers.** -/
def buffers : Value → List Bytes
  | .binary data => [data]
  | .array items => buffersOfItems items
  | .object members => buffersOfMembers members
  | _ => []

def buffersOfItems : List Value → List Bytes
  | [] => []
  | item :: rest => item.buffers ++ buffersOfItems rest

def buffersOfMembers {lo : Option String} : Dict.From Value lo → List Bytes
  | .nil => []
  | .cons _ _ value rest => value.buffers ++ buffersOfMembers rest

end

mutual

/-- **The number of buffers in a value.** -/
def binaryCount : Value → Nat
  | .binary _ => 1
  | .array items => binaryCountOfItems items
  | .object members => binaryCountOfMembers members
  | _ => 0

def binaryCountOfItems : List Value → Nat
  | [] => 0
  | item :: rest => item.binaryCount + binaryCountOfItems rest

def binaryCountOfMembers {lo : Option String} : Dict.From Value lo → Nat
  | .nil => 0
  | .cons _ _ value rest => value.binaryCount + binaryCountOfMembers rest

end

end Value

end RealtimeClient
