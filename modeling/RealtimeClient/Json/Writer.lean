import RealtimeClient.Binary64.Shortest
import RealtimeClient.Decimal
import RealtimeClient.Json

/-!
# Writing JSON

The compact text of a JSON tree: no blanks, members in the order of their keys, and the fewest
characters escaped.

* `Json.escape` — a character inside a string.
* `Json.writeReal` — a double by its shortest digits, positional while its first digit stands
  between 10⁻⁵ and 10¹⁵.
* `Json.write`, `Json.text` — the text of a tree.
-/

namespace RealtimeClient.Json

/-- One lower-case hexadecimal digit. -/
def hexDigit (n : Nat) : Char := Nat.digitChar (n % 16)

/-- **A character inside a string.**  Quotation mark and backslash take a backslash; control
characters take their short escape if there is one, else `\u` and four hexadecimal digits; all else
stands for itself. -/
def escape (c : Char) : List Char :=
  match c with
  | '"' => ['\\', '"']
  | '\\' => ['\\', '\\']
  | '\x08' => ['\\', 'b']
  | '\x0c' => ['\\', 'f']
  | '\n' => ['\\', 'n']
  | '\r' => ['\\', 'r']
  | '\t' => ['\\', 't']
  | c =>
    if c.toNat < 0x20 then ['\\', 'u', '0', '0', hexDigit (c.toNat / 16), hexDigit c.toNat] else [c]

def writeString (s : String) : List Char := '"' :: (s.toList.flatMap escape ++ ['"'])

/-- Where positional notation of doubles begins and ends, as powers of ten of the first digit. -/
structure RealLayout where
  leastPositional : Int
  leastExponential : Int

/-- Doubles from 0.00001 up to below 10¹⁶ are written positionally. -/
def realLayout : RealLayout := { leastPositional := -5, leastExponential := 16 }

/-- Digits whose first one stands at the power `e` of ten, in positional notation with at least one
digit on each side of the point. -/
def positional (digits : List Char) (e : Int) : List Char :=
  if e < 0 then '0' :: '.' :: (List.replicate (-e - 1).toNat '0' ++ digits)
  else
    let whole := e.toNat + 1
    let fraction := digits.drop whole
    digits.take whole ++ List.replicate (whole - digits.length) '0' ++ '.' ::
      (if fraction = [] then ['0'] else fraction)

/-- Digits whose first one stands at the power `e` of ten, in exponential notation. -/
def exponential (digits : List Char) (e : Int) : List Char :=
  let fraction := digits.drop 1
  digits.take 1 ++ (if fraction = [] then [] else '.' :: fraction) ++ 'e' ::
    (if e < 0 then '-' else '+') :: Decimal.write e.natAbs

/-- **A finite double.**  Its sign, and its shortest digits laid out by `realLayout`. -/
def writeReal (x : Float) : List Char :=
  let sign := if x.toBits < 0x8000000000000000 then [] else ['-']
  sign ++
    if x == 0 then ['0', '.', '0']
    else
      let (digits, e) := Binary64.shortest x
      if realLayout.leastPositional ≤ e ∧ e < realLayout.leastExponential then positional digits e
      else exponential digits e

def Number.write : Number → List Char
  | .natural n => Decimal.write n.toNat
  | .negative n _ => Decimal.writeInt n.toInt
  | .real x _ => writeReal x

mutual

/-- **The text of a tree.** -/
def write : Json → List Char
  | .null => ['n', 'u', 'l', 'l']
  | .bool true => ['t', 'r', 'u', 'e']
  | .bool false => ['f', 'a', 'l', 's', 'e']
  | .number n => n.write
  | .string s => writeString s
  | .array [] => ['[', ']']
  | .array (item :: rest) => '[' :: (item.write ++ writeItems rest ++ [']'])
  | .object .nil => ['{', '}']
  | .object (.cons key _ value rest) =>
    '{' :: (writeString key ++ ':' :: (value.write ++ writeMembers rest ++ ['}']))

/-- The text of the items after the first one, each with its comma. -/
def writeItems : List Json → List Char
  | [] => []
  | item :: rest => ',' :: (item.write ++ writeItems rest)

/-- The text of the members after the first one, each with its comma. -/
def writeMembers {lo : Option String} : Dict.From Json lo → List Char
  | .nil => []
  | .cons key _ value rest =>
    ',' :: (writeString key ++ ':' :: (value.write ++ writeMembers rest))

end

def text (j : Json) : String := String.ofList j.write

end RealtimeClient.Json
