/-!
# Labels in ASCII letters

A part of a host name with other than ASCII characters is sent as its ASCII characters, a hyphen, and
the others in the order of their codes.  Each of these is written as the distance from the one
before, counting all the places where it could stand; numbers have digits `a` to `z` and `0` to `9`,
and the size of their digits follows the distances seen so far.

* `Idna.Punycode.encode` — the ASCII form.
* `Idna.Punycode.decode?` — the characters of an ASCII form.
-/

namespace RealtimeClient.Idna.Punycode

def base : Nat := 36

/-- The threshold of the first digits of small numbers. -/
def lowThreshold : Nat := 1

/-- The threshold of the last digits of large numbers. -/
def highThreshold : Nat := 26

/-- The bias before any distance has been seen. -/
def firstBias : Nat := 72

/-- The code from which on characters are written as distances. -/
def firstCode : Nat := 128

def digitChar (d : Nat) : Char :=
  if d < 26 then Char.ofNat ('a'.toNat + d) else Char.ofNat ('0'.toNat + (d - 26))

def digitValue? (c : Char) : Option Nat :=
  if 'a' ≤ c ∧ c ≤ 'z' then some (c.toNat - 'a'.toNat)
  else if 'A' ≤ c ∧ c ≤ 'Z' then some (c.toNat - 'A'.toNat)
  else if c.isDigit then some (c.toNat - '0'.toNat + 26)
  else none

/-- The value from which on a digit at a place is not the last one. -/
def threshold (bias place : Nat) : Nat :=
  if place ≤ bias then lowThreshold
  else if bias + highThreshold ≤ place then highThreshold
  else place - bias

/-- The largest distance that is not scaled down. -/
def scaleLimit : Nat := (base - lowThreshold) * highThreshold / 2

/-- A distance scaled down below the limit, and by how many digits; for as many rounds at most. -/
def scaleDown : (rounds distance digits : Nat) → Nat × Nat
  | 0, distance, digits => (distance, digits)
  | rounds + 1, distance, digits =>
    if scaleLimit < distance then
      scaleDown rounds (distance / (base - lowThreshold)) (digits + base)
    else (distance, digits)

/-- **The bias after a distance**, with so many characters placed. -/
def adapt (distance placed : Nat) (isFirst : Bool) : Nat :=
  let halved := if isFirst then distance / 700 else distance / 2
  let (scaled, digits) := scaleDown distance (halved + halved / placed) 0
  digits + (base - lowThreshold + 1) * scaled / (scaled + 38)

/-! ## Encoding -/

/-- The digits of a number from a place on; for as many rounds at most. -/
def writeNumber (bias : Nat) : (rounds place n : Nat) → List Char
  | 0, _, _ => []
  | rounds + 1, place, n =>
    let t := threshold bias place
    if n < t then [digitChar n]
    else
      digitChar (t + (n - t) % (base - t)) ::
        writeNumber bias rounds (place + base) ((n - t) / (base - t))

/-- **What has been encoded so far**: the digits in reverse, the distance since the last character,
the bias, and how many characters are placed. -/
structure Encoding where
  rev : List Char := []
  distance : Nat := 0
  bias : Nat := firstBias
  placed : Nat

/-- One character of the text is passed while the characters with a code are placed. -/
def Encoding.pass (basic code : Nat) (s : Encoding) (c : Char) : Encoding :=
  if c.toNat < code then { s with distance := s.distance + 1 }
  else if c.toNat = code then
    { rev := (writeNumber s.bias (s.distance + 1) base s.distance).reverse ++ s.rev
      distance := 0
      bias := adapt s.distance (s.placed + 1) (s.placed = basic)
      placed := s.placed + 1 }
  else s

/-- All characters with a code are placed; those with codes below `reached` are placed already. -/
def Encoding.place (text : List Char) (basic : Nat) (state : Encoding × Nat) (code : Nat) :
    Encoding × Nat :=
  let (s, reached) := state
  let s := { s with distance := s.distance + (code - reached) * (s.placed + 1) }
  let s := text.foldl (Encoding.pass basic code) s
  ({ s with distance := s.distance + 1 }, code + 1)

/-- The codes of a text beyond ASCII, each once, in ascending order. -/
def codesOf (text : List Char) : List Nat :=
  (((text.map Char.toNat).filter (firstCode ≤ ·)).mergeSort (· ≤ ·)).eraseDups

/-- **The ASCII form of a text.** -/
def encode (text : List Char) : List Char :=
  let basic := text.filter (·.toNat < firstCode)
  let start : Encoding := { placed := basic.length }
  let (s, _) := (codesOf text).foldl (Encoding.place text basic.length) (start, firstCode)
  basic ++ (if basic = [] then [] else ['-']) ++ s.rev.reverse

/-! ## Decoding -/

/-- The number at the start of a text, and the rest of the text; `weight` is that of the place. -/
def readNumber? (bias : Nat) : (place weight : Nat) → List Char → Option (Nat × List Char)
  | _, _, [] => none
  | place, weight, c :: rest => do
    let d ← digitValue? c
    let t := threshold bias place
    if d < t then return (d * weight, rest)
    let (n, rest) ← readNumber? bias (place + base) (weight * (base - t)) rest
    return (d * weight + n, rest)

/-- The characters that the rest of an ASCII form puts among those placed.  `code` is the code and
`index` the place that have been reached.  Each round takes one number. -/
def readCharacters? : (rounds : Nat) → (bias code index : Nat) → (placed : List Char) →
    List Char → Option (List Char)
  | _, _, _, _, placed, [] => some placed
  | 0, _, _, _, _, _ => none
  | rounds + 1, bias, code, index, placed, text => do
    let (distance, rest) ← readNumber? bias base 1 text
    let places := placed.length + 1
    let code' := code + (index + distance) / places
    let index' := (index + distance) % places
    if ¬code'.isValidChar then none
    else
      readCharacters? rounds (adapt distance places (index = 0)) code' (index' + 1)
        (placed.insertIdx index' (Char.ofNat code')) rest

/-- The characters before and after the last hyphen; a hyphen at the start does not count. -/
def splitBasic (text : List Char) : List Char × List Char :=
  let behind := (text.reverse.takeWhile (· ≠ '-')).reverse
  let basic := text.take (text.length - behind.length - 1)
  if basic = [] then ([], text) else (basic, behind)

/-- **The characters of an ASCII form.** -/
def decode? (text : List Char) : Option (List Char) :=
  let (basic, rest) := splitBasic text
  readCharacters? rest.length firstBias firstCode 0 basic rest

end RealtimeClient.Idna.Punycode
