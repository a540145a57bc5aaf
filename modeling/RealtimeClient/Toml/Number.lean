import RealtimeClient.Decimal
import RealtimeClient.Text.Digit

/-!
# Numbers in configuration files

Digits may be grouped by underscores, each between two digits.  Integers are decimal with an
optional sign and without leading zeros, or hexadecimal, octal or binary; they fit 64 bits with a
sign.  Floats have a fraction, an exponent or both.

* `Toml.readInteger?`, `Toml.readFloat?` — the number at the start of a text, and the rest of it.
-/

namespace RealtimeClient.Toml

/-- The digits behind a digit, without the underscores between them, and the rest of the text. -/
def moreDigits (isDigit : Char → Bool) : List Char → List Char × List Char
  | '_' :: c :: rest =>
    if isDigit c then
      let (digits, rest) := moreDigits isDigit rest
      (c :: digits, rest)
    else ([], '_' :: c :: rest)
  | c :: rest =>
    if isDigit c then
      let (digits, rest) := moreDigits isDigit rest
      (c :: digits, rest)
    else ([], c :: rest)
  | [] => ([], [])

/-- A run of digits, and the rest of the text. -/
def readDigits? (isDigit : Char → Bool) : List Char → Option (List Char × List Char)
  | c :: rest =>
    if isDigit c then
      let (digits, rest) := moreDigits isDigit rest
      some (c :: digits, rest)
    else none
  | [] => none

/-- Whether a text starts with a minus sign, and the text without its sign. -/
def readSign : List Char → Bool × List Char
  | '-' :: rest => (true, rest)
  | '+' :: rest => (false, rest)
  | text => (false, text)

/-- Decimal digits without leading zero, and the rest of the text. -/
def readPlainDigits? : List Char → Option (List Char × List Char)
  | '0' :: rest => some (['0'], rest)
  | text => readDigits? Char.isDigit text

/-! ## Integers -/

/-- The base that the start of a text announces, and the rest of the text. -/
def announcedBase? : List Char → Option (Nat × List Char)
  | '0' :: 'x' :: rest => some (16, rest)
  | '0' :: 'o' :: rest => some (8, rest)
  | '0' :: 'b' :: rest => some (2, rest)
  | _ => none

/-- The number of values of 64 bits without their sign. -/
def signBound : Nat := UInt64.size / 2

def toInt64? (negative : Bool) (n : Nat) : Option Int64 :=
  if n < signBound ∨ (negative ∧ n = signBound) then
    some (Int64.ofInt (if negative then -n else n))
  else none

/-- **The integer at the start of a text**, and the rest of the text. -/
def readInteger? (text : List Char) : Option (Int64 × List Char) :=
  match announcedBase? text with
  | some (base, rest) => do
    let (digits, rest) ← readDigits? (Text.isDigitIn base) rest
    return (← toInt64? false (← Text.number? base digits), rest)
  | none => do
    let (negative, text) := readSign text
    let (digits, rest) ← readPlainDigits? text
    return (← toInt64? negative (Decimal.value digits), rest)

/-! ## Floats -/

/-- The digits of a fraction, if there is one, and the rest of the text. -/
def readFractionDigits (text : List Char) : Option (List Char) × List Char :=
  match text with
  | '.' :: rest =>
    match readDigits? Char.isDigit rest with
    | some (digits, rest) => (some digits, rest)
    | none => (none, text)
  | _ => (none, text)

/-- An exponent, if there is one, and the rest of the text. -/
def readExponent (text : List Char) : Option Int × List Char :=
  match text with
  | c :: rest =>
    if c ≠ 'e' ∧ c ≠ 'E' then (none, text)
    else
      let (negative, rest) := readSign rest
      match readDigits? Char.isDigit rest with
      | some (digits, rest) =>
        let n := Decimal.value digits
        (some (if negative then -n else n), rest)
      | none => (none, text)
  | [] => (none, text)

/-- Beyond so many digits before or behind the point every number is infinite or zero. -/
def floatReach : Int := 400

/-- The double next to `digits · 10 ^ exponent`. -/
def nearestFloat (digits : List Char) (exponent : Int) : Float :=
  let n := Decimal.value digits
  let size := (Decimal.write n).length + exponent
  if n = 0 ∨ size < -floatReach then 0
  else if floatReach < size then Float.ofScientific 1 false floatReach.toNat
  else Float.ofScientific n (exponent < 0) exponent.natAbs

/-- A float with digits, and the rest of the text.  A number that is too large is refused, unless it
has a minus sign. -/
def readFiniteFloat? (text : List Char) : Option (Float × List Char) := do
  let (negative, text) := readSign text
  let (whole, text) ← readPlainDigits? text
  let (fraction, text) := readFractionDigits text
  let (exponent, text) := readExponent text
  if fraction.isNone ∧ exponent.isNone then none
  let fraction := fraction.getD []
  let x := nearestFloat (whole ++ fraction) (exponent.getD 0 - fraction.length)
  if negative then return (-x, text)
  else if x.isInf then none
  else return (x, text)

/-- A float without digits, and the rest of the text. -/
def readSpecialFloat? (text : List Char) : Option (Float × List Char) :=
  let (negative, text) := readSign text
  let signed (x : Float) : Float := if negative then -x else x
  match text with
  | 'i' :: 'n' :: 'f' :: rest => some (signed (1.0 / 0.0), rest)
  | 'n' :: 'a' :: 'n' :: rest => some (signed (0.0 / 0.0), rest)
  | _ => none

/-- **The float at the start of a text**, and the rest of the text. -/
def readFloat? (text : List Char) : Option (Float × List Char) :=
  (readFiniteFloat? text).orElse fun _ => readSpecialFloat? text

end RealtimeClient.Toml
