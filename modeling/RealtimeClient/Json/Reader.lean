import RealtimeClient.Json
import RealtimeClient.Text.Digit

/-!
# Reading JSON

A reader that takes one character at a time.  Its state is the stack of the containers that are
open and the place inside the innermost one; reading a text is folding the characters into the
state, so the state after two texts in a row is the state after the second, started from the state
after the first.

* `Json.Fault` — why a text is refused: it ends too early, or it breaks the rules.
* `Json.Numeral` — the parts of a number in text form, and `Json.Numeral.value?`, its value.
* `Json.Reader`, `Json.Reader.step` — the state and its reaction to a character.
* `Json.read` — the tree of a text.

Of two members with one key the later one counts.  Containers may be nested up to
`Json.Reader.depthLimit` deep.
-/

namespace RealtimeClient.Json

/-- **Why a text is refused.**  Either it ends where more has to follow, or it has something that
no text can have at that place. -/
inductive Fault
  | incomplete
  | malformed
  deriving DecidableEq, Repr, Inhabited

/-! ## Numbers -/

/-- **A number in text form.**  The digits before the point, those after it, and the exponent with
its sign; `fraction` and `exponent` are absent where the text has none. -/
structure Numeral where
  negative : Bool := false
  whole : List Char := []
  fraction : Option (List Char) := none
  exponent : Option (Bool × List Char) := none
  deriving DecidableEq, Repr, Inhabited

namespace Numeral

def digitValue (c : Char) : Nat := c.toNat - '0'.toNat

/-- **Digits into a significand.**  Digits are taken until one would push the significand out of 64
bits; from that one on they are left.  Gives the significand and the numbers of digits taken and
left. -/
def accumulate (significand : Nat) : List Char → Nat × Nat × Nat
  | [] => (significand, 0, 0)
  | c :: rest =>
    let next := significand * 10 + digitValue c
    if next < UInt64.size then
      let (s, taken, left) := accumulate next rest
      (s, taken + 1, left)
    else (significand, 0, rest.length + 1)

/-- The largest power of ten that a double is multiplied by in one step. -/
def powerStep : Nat := 308

/-- **A significand times a power of ten**, by repeated multiplication or division, each rounded.
There is no value when it grows beyond every double. -/
def scale (f : Float) (e : Int) : Option Float :=
  if _h : e.natAbs ≤ powerStep then
    if e < 0 then some (f / Float.ofScientific 1 false e.natAbs)
    else
      let product := f * Float.ofScientific 1 false e.natAbs
      if product.isInf then none else some product
  else if f == 0 then some f
  else if 0 < e then none
  else scale (f / Float.ofScientific 1 false powerStep) (e + powerStep)
termination_by e.natAbs
decreasing_by simp only [powerStep] at *; omega

/-- Exponents have 31 bits beside their sign. -/
def exponentBound : Nat := UInt32.size / 2

/-- The value of an exponent's digits, if it is within the bound. -/
def exponentValue? (digits : List Char) : Option Nat :=
  let n := digits.foldl (fun n c => n * 10 + digitValue c) 0
  if n < exponentBound then some n else none

/-- An exponent kept within 32 bits. -/
def clampExponent (e : Int) : Int := max (-exponentBound) (min e (exponentBound - 1))

/-- The magnitude of a number with a point or an exponent, or with too many digits. -/
def magnitude? (n : Numeral) : Option Float :=
  let (whole, _, left) := accumulate 0 n.whole
  let (significand, taken, _) := accumulate whole (n.fraction.getD [])
  let start : Int := left - taken
  let f := significand.toUInt64.toFloat
  match n.exponent with
  | none => scale f start
  | some (below, digits) =>
    match exponentValue? digits with
    | some e => scale f (clampExponent (if below then start - e else start + e))
    | none => if significand = 0 ∨ below then some 0 else none

/-- A magnitude with its sign. -/
def real? (negative : Bool) (x : Float) : Option Number :=
  Number.ofFloat? (if negative then -x else x)

/-- **The value of a number.**  Without point and exponent it is an integer if it fits 64 bits,
negative zero excepted; everything else is a double, if it is in their range. -/
def value? (n : Numeral) : Option Number :=
  let (whole, _, left) := accumulate 0 n.whole
  if n.fraction = none ∧ n.exponent = none ∧ left = 0 then
    if n.negative then
      let i := -(Int64.ofNat whole)
      if h : i < 0 ∧ whole ≤ UInt64.size / 2 then some (.negative i h.1)
      else real? true whole.toUInt64.toFloat
    else some (.natural whole.toUInt64)
  else n.magnitude?.bind (real? n.negative)

end Numeral

/-- **The place inside a number.** -/
inductive NumeralPlace
  /-- After a minus sign, before any digit. -/
  | start
  /-- After a leading zero. -/
  | zero
  /-- Among the digits before the point. -/
  | whole
  /-- After the point, before any digit. -/
  | point
  /-- Among the digits after the point. -/
  | fraction
  /-- After the mark of the exponent. -/
  | mark
  /-- After the sign of the exponent, before any digit. -/
  | sign
  /-- Among the digits of the exponent. -/
  | exponent
  deriving DecidableEq, Repr

/-- Whether a number may end at the place. -/
def NumeralPlace.mayEnd : NumeralPlace → Bool
  | .zero | .whole | .fraction | .exponent => true
  | _ => false

/-- What a character does to a number: it belongs to it, it comes after it, or it breaks it. -/
inductive NumeralStep
  | more (n : Numeral) (place : NumeralPlace)
  | ended
  | broken

/-- **One character of a number.** -/
def Numeral.step (n : Numeral) (place : NumeralPlace) (c : Char) : NumeralStep :=
  let isMark := c = 'e' ∨ c = 'E'
  match place with
  | .start =>
    if c = '0' then .more { n with whole := [c] } .zero
    else if c.isDigit then .more { n with whole := [c] } .whole
    else .broken
  | .zero =>
    if c.isDigit then .broken
    else if c = '.' then .more { n with fraction := some [] } .point
    else if isMark then .more { n with exponent := some (false, []) } .mark
    else .ended
  | .whole =>
    if c.isDigit then .more { n with whole := n.whole ++ [c] } .whole
    else if c = '.' then .more { n with fraction := some [] } .point
    else if isMark then .more { n with exponent := some (false, []) } .mark
    else .ended
  | .point =>
    if c.isDigit then .more { n with fraction := some [c] } .fraction else .broken
  | .fraction =>
    if c.isDigit then .more { n with fraction := some (n.fraction.getD [] ++ [c]) } .fraction
    else if isMark then .more { n with exponent := some (false, []) } .mark
    else .ended
  | .mark =>
    if c = '+' then .more n .sign
    else if c = '-' then .more { n with exponent := some (true, []) } .sign
    else if c.isDigit then .more { n with exponent := some (false, [c]) } .exponent
    else .broken
  | .sign =>
    if c.isDigit then
      .more { n with exponent := n.exponent.map fun (below, ds) => (below, ds ++ [c]) } .exponent
    else .broken
  | .exponent =>
    if c.isDigit then
      .more { n with exponent := n.exponent.map fun (below, ds) => (below, ds ++ [c]) } .exponent
    else .ended

/-! ## Strings -/

/-- **The place inside a string.** -/
inductive TextPlace
  /-- Among plain characters. -/
  | plain
  /-- After a backslash. -/
  | escape
  /-- Inside the four digits after `\u`; `high` is the first half of a pair, if one came before.
  `digits` digits have come so far, with the value `code`. -/
  | unicode (high : Option Nat) (digits : Nat) (code : Nat)
  /-- After a bad digit of `\u`, with `bytes` bytes of the four still to come. -/
  | badUnicode (bytes : Nat)
  /-- After the first half of a pair: a backslash has to follow. -/
  | pairBackslash (high : Nat)
  /-- After the backslash between two halves: `u` has to follow. -/
  | pairLetter (high : Nat)
  deriving DecidableEq, Repr

/-- What a character does to a string: it goes on, it ends, or it is broken. -/
inductive TextStep
  | more (rev : List Char) (place : TextPlace)
  | ended
  | broken

/-- What the four digits of `\u` stand for.  A second half needs a first one before it and a first
half a second one after it. -/
def unicodeEnd (rev : List Char) (high : Option Nat) (code : Nat) : TextStep :=
  match high with
  | some h =>
    if 0xDC00 ≤ code ∧ code < 0xE000 then
      .more (Char.ofNat (0x10000 + (h - 0xD800) * 0x400 + (code - 0xDC00)) :: rev) .plain
    else .broken
  | none =>
    if 0xD800 ≤ code ∧ code < 0xDC00 then .more rev (.pairBackslash code)
    else if 0xDC00 ≤ code ∧ code < 0xE000 then .broken
    else .more (Char.ofNat code :: rev) .plain

/-- The place after one more character of `\u` whose digits are bad: when all four bytes have been
seen, the string is broken. -/
def badUnicodeStep (rev : List Char) (bytes : Nat) (c : Char) : TextStep :=
  if bytes ≤ c.utf8Size then .broken else .more rev (.badUnicode (bytes - c.utf8Size))

/-- **One character of a string**, with the characters so far in reverse.  `\u` looks at four
bytes: a text that ends before them is incomplete, also when a digit among them is bad. -/
def textStep (rev : List Char) (place : TextPlace) (c : Char) : TextStep :=
  match place with
  | .plain =>
    if c = '"' then .ended
    else if c = '\\' then .more rev .escape
    else if c.toNat < 0x20 then .broken
    else .more (c :: rev) .plain
  | .escape =>
    match c with
    | '"' => .more ('"' :: rev) .plain
    | '\\' => .more ('\\' :: rev) .plain
    | '/' => .more ('/' :: rev) .plain
    | 'b' => .more ('\x08' :: rev) .plain
    | 'f' => .more ('\x0c' :: rev) .plain
    | 'n' => .more ('\n' :: rev) .plain
    | 'r' => .more ('\r' :: rev) .plain
    | 't' => .more ('\t' :: rev) .plain
    | 'u' => .more rev (.unicode none 0 0)
    | _ => .broken
  | .unicode high digits code =>
    match Text.digitValue? 16 c with
    | none => badUnicodeStep rev (4 - digits) c
    | some d =>
      if digits = 3 then unicodeEnd rev high (code * 16 + d)
      else .more rev (.unicode high (digits + 1) (code * 16 + d))
  | .badUnicode bytes => badUnicodeStep rev bytes c
  | .pairBackslash high => if c = '\\' then .more rev (.pairLetter high) else .broken
  | .pairLetter high => if c = 'u' then .more rev (.unicode (some high) 0 0) else .broken

/-! ## The reader -/

/-- **A container that is still open.**  An array with its items so far in reverse, or an object
with its members so far and the key of the next one. -/
inductive Open
  | array (rev : List Json)
  | object (members : Dict Json) (key : String)

/-- **The place inside the innermost container.** -/
inductive Place
  /-- A value has to follow. -/
  | value
  /-- A value or the end of the array has to follow. -/
  | firstItem
  /-- A key has to follow. -/
  | key
  /-- A key or the end of the object has to follow. -/
  | firstKey
  /-- A colon has to follow. -/
  | colon
  /-- A comma or the end of the container has to follow; outside of all containers, the end. -/
  | after
  /-- Inside a word that stands for a value. -/
  | word (rest : List Char) (result : Json)
  /-- Inside a string, which is a key or a value. -/
  | text (isKey : Bool) (rev : List Char) (place : TextPlace)
  /-- Inside a number. -/
  | numeral (n : Numeral) (place : NumeralPlace)
  /-- The text breaks the rules. -/
  | broken

/-- **The state of reading.**  The open containers, innermost first, the place, and the last value
read outside of all containers. -/
structure Reader where
  stack : List Open := []
  place : Place := .value
  result : Json := .null

namespace Reader

/-- How deeply containers may be nested. -/
def depthLimit : Nat := 127

/-- Blanks between the parts of a text. -/
def isBlank (c : Char) : Bool := c = ' ' || c = '\n' || c = '\t' || c = '\r'

def fail (r : Reader) : Reader := { r with place := .broken }

/-- A value is complete: it goes into the innermost container. -/
def push (r : Reader) (j : Json) : Reader :=
  match r.stack with
  | [] => { r with place := .after, result := j }
  | .array rev :: rest => { r with stack := .array (j :: rev) :: rest, place := .after }
  | .object members key :: rest =>
    { r with stack := .object (members.insert key j) key :: rest, place := .after }

/-- A container begins. -/
def enter (r : Reader) (container : Open) (place : Place) : Reader :=
  if r.stack.length < depthLimit then { r with stack := container :: r.stack, place }
  else r.fail

/-- The array in front of the stack ends. -/
def closeArray (r : Reader) : Reader :=
  match r.stack with
  | .array rev :: rest => { r with stack := rest }.push (.array rev.reverse)
  | _ => r.fail

/-- The object in front of the stack ends. -/
def closeObject (r : Reader) : Reader :=
  match r.stack with
  | .object members _ :: rest => { r with stack := rest }.push (.object members)
  | _ => r.fail

/-- The first character of a value. -/
def startValue (r : Reader) (c : Char) : Reader :=
  match c with
  | 'n' => { r with place := .word ['u', 'l', 'l'] .null }
  | 't' => { r with place := .word ['r', 'u', 'e'] (.bool true) }
  | 'f' => { r with place := .word ['a', 'l', 's', 'e'] (.bool false) }
  | '"' => { r with place := .text false [] .plain }
  | '[' => r.enter (.array []) .firstItem
  | '{' => r.enter (.object .empty "") .firstKey
  | '-' => { r with place := .numeral { negative := true } .start }
  | '0' => { r with place := .numeral { whole := ['0'] } .zero }
  | c => if c.isDigit then { r with place := .numeral { whole := [c] } .whole } else r.fail

/-- The character after a complete value. -/
def afterValue (r : Reader) (c : Char) : Reader :=
  match r.stack, c with
  | .array _ :: _, ',' => { r with place := .value }
  | .array _ :: _, ']' => r.closeArray
  | .object .. :: _, ',' => { r with place := .key }
  | .object .. :: _, '}' => r.closeObject
  | _, _ => r.fail

/-- A key is complete. -/
def nameMember (r : Reader) (key : String) : Reader :=
  match r.stack with
  | .object members _ :: rest => { r with stack := .object members key :: rest, place := .colon }
  | _ => r.fail

/-- A string is complete. -/
def endText (r : Reader) (isKey : Bool) (rev : List Char) : Reader :=
  let s := String.ofList rev.reverse
  if isKey then r.nameMember s else r.push (.string s)

/-- A number is complete. -/
def endNumeral (r : Reader) (n : Numeral) : Reader :=
  match n.value? with
  | some value => r.push (.number value)
  | none => r.fail

/-- **One character.** -/
def step (r : Reader) (c : Char) : Reader :=
  match r.place with
  | .broken => r
  | .value => if isBlank c then r else r.startValue c
  | .firstItem =>
    if isBlank c then r else if c = ']' then r.closeArray else r.startValue c
  | .key =>
    if isBlank c then r else if c = '"' then { r with place := .text true [] .plain } else r.fail
  | .firstKey =>
    if isBlank c then r
    else if c = '"' then { r with place := .text true [] .plain }
    else if c = '}' then r.closeObject
    else r.fail
  | .colon =>
    if isBlank c then r else if c = ':' then { r with place := .value } else r.fail
  | .after => if isBlank c then r else r.afterValue c
  | .word rest result =>
    match rest with
    | [] => r.fail
    | [last] => if c = last then r.push result else r.fail
    | next :: rest => if c = next then { r with place := .word rest result } else r.fail
  | .text isKey rev place =>
    match textStep rev place c with
    | .more rev place => { r with place := .text isKey rev place }
    | .ended => r.endText isKey rev
    | .broken => r.fail
  | .numeral n place =>
    match n.step place c with
    | .more n place => { r with place := .numeral n place }
    | .broken => r.fail
    | .ended =>
      let r := r.endNumeral n
      match r.place with
      | .after => if isBlank c then r else r.afterValue c
      | _ => r

/-- The end of the text: a number at the end is complete now. -/
def finish (r : Reader) : Except Fault Json :=
  let r := match r.place with
    | .numeral n place => if place.mayEnd then r.endNumeral n else r
    | _ => r
  match r.place, r.stack with
  | .broken, _ => .error .malformed
  | .after, [] => .ok r.result
  | _, _ => .error .incomplete

end Reader

/-- **The tree of a text.** -/
def read (text : List Char) : Except Fault Json :=
  (text.foldl Reader.step {}).finish

end RealtimeClient.Json
