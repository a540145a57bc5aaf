import RealtimeClient.Text.Digit
import RealtimeClient.Text.Split

/-!
# Numeric hosts

Hosts that are addresses rather than names.

* `Url.readIpv4?` — an address of four bytes from up to four numbers, each decimal, octal or
  hexadecimal; the last number fills the bytes that are left.
* `Url.endsInNumber` — whether a host has to be read so.
* `Url.readIpv6?` — an address of eight pieces, where a run of zeros may be left out once and the
  last two pieces may be an address of four bytes.
* `Url.writeIpv4`, `Url.writeIpv6` — the usual text of an address; the longest run of zero pieces is
  left out.
-/

namespace RealtimeClient.Url

/-! ## Four bytes -/

/-- One number of an address of four bytes: hexadecimal after `0x`, octal after another `0`. -/
def ipv4Number? : List Char → Option Nat
  | [] => none
  | '0' :: 'x' :: digits | '0' :: 'X' :: digits => Text.number? 16 digits
  | '0' :: d :: digits => Text.number? 8 (d :: digits)
  | digits => Text.number? 10 digits

/-- The parts of a host between its dots; one dot at the end does not count. -/
def ipv4Parts (host : List Char) : List (List Char) :=
  let parts := Text.splitWhere (· = '.') host
  if parts.getLast? = some [] then parts.dropLast else parts

/-- Whether the last part of a host is a number, so that the whole must be an address. -/
def endsInNumber (host : List Char) : Bool :=
  match (ipv4Parts host).getLast? with
  | none => false
  | some last => (last ≠ [] && last.all Char.isDigit) || (ipv4Number? last).isSome

/-- The numbers before the last one of an address: each is one byte. -/
def ipv4Bytes (numbers : List Nat) : Nat :=
  numbers.zipIdx.foldl (fun n (b, i) => n + b * Nat.pow 256 (3 - i)) 0

/-- **An address of four bytes.** -/
def readIpv4? (host : List Char) : Option Nat := do
  let numbers ← (ipv4Parts host).mapM ipv4Number?
  let last ← numbers.getLast?
  let bytes := numbers.dropLast
  if bytes.length < 4 ∧ last < Nat.pow 256 (4 - bytes.length) ∧ bytes.all (· < 256) then
    some (ipv4Bytes bytes + last)
  else none

def writeIpv4 (n : Nat) : List Char :=
  let byte (i : Nat) := Nat.toDigits 10 (n / Nat.pow 256 i % 256)
  byte 3 ++ '.' :: byte 2 ++ '.' :: byte 1 ++ '.' :: byte 0

/-! ## Eight pieces -/

/-- A number of at most 255 in decimal digits without leading zero, and the rest of the text. -/
def ipv6Byte? (text : List Char) : Option (Nat × List Char) :=
  let digits := text.takeWhile Char.isDigit
  let n := Nat.ofDigitChars 10 digits 0
  if digits = [] ∨ (digits.length > 1 ∧ digits.head? = some '0') ∨ n > 255 then none
  else some (n, text.dropWhile Char.isDigit)

/-- The last two pieces of an address, written as four bytes. -/
def ipv6Tail? (text : List Char) : Option (Nat × Nat) := do
  let (a, text) ← ipv6Byte? text
  let text ← dot? text
  let (b, text) ← ipv6Byte? text
  let text ← dot? text
  let (c, text) ← ipv6Byte? text
  let text ← dot? text
  let (d, text) ← ipv6Byte? text
  if text = [] then some (a * 256 + b, c * 256 + d) else none
where
  dot? : List Char → Option (List Char)
    | '.' :: rest => some rest
    | _ => none

/-- The pieces of an address from some place on, and the place of the run of zeros among all of
them.  `pieces` are those before the place, in reverse. -/
def ipv6Pieces? (pieces : List Nat) (gap : Option Nat) :
    (rounds : Nat) → List Char → Option (List Nat × Option Nat)
  | _, [] => some (pieces.reverse, gap)
  | 0, _ => none
  | rounds + 1, text =>
    if pieces.length = 8 then none
    else
      match text with
      | ':' :: rest =>
        if gap.isSome then none
        else ipv6Pieces? (0 :: pieces) (some (pieces.length + 1)) rounds rest
      | text =>
        let digits := (text.take 4).takeWhile (Text.isDigitIn 16)
        let value := (Text.number? 16 digits).getD 0
        match text.drop digits.length with
        | [] => ipv6Pieces? (value :: pieces) gap rounds []
        | ':' :: rest => if rest = [] then none else ipv6Pieces? (value :: pieces) gap rounds rest
        | '.' :: _ =>
          if digits = [] ∨ pieces.length > 6 then none
          else (ipv6Tail? text).map fun (a, b) => ((b :: a :: pieces).reverse, gap)
        | _ => none

/-- All eight pieces: the run of zeros that was left out is filled in at its place. -/
def fillGap? (pieces : List Nat) : Option Nat → Option (List Nat)
  | none => if pieces.length = 8 then some pieces else none
  | some gap =>
    if pieces.length ≤ 8 then
      some (pieces.take gap ++ List.replicate (8 - pieces.length) 0 ++ pieces.drop gap)
    else none

/-- **An address of eight pieces.** -/
def readIpv6? (text : List Char) : Option (List Nat) := do
  let (pieces, gap) ← match text with
    | ':' :: ':' :: rest => ipv6Pieces? [0] (some 1) text.length rest
    | ':' :: _ | [] | [_] => none
    | text => ipv6Pieces? [] none text.length text
  fillGap? pieces gap

/-- The pieces as text with a mark between them. -/
def joinPieces (pieces : List Nat) : List Char :=
  List.intercalate [':'] (pieces.map (Nat.toDigits 16))

/-- The length of the run of zeros at the start. -/
def zeroRun (pieces : List Nat) : Nat := (pieces.takeWhile (· = 0)).length

/-- The first of the longest runs of zeros, as its place and length. -/
def longestZeroRun (pieces : List Nat) : Nat × Nat :=
  (List.range pieces.length).foldl
    (fun best i =>
      let n := zeroRun (pieces.drop i)
      if best.2 < n then (i, n) else best)
    (0, 0)

/-- **The text of an address of eight pieces.**  One that holds an address of four bytes shows it;
otherwise the first of the longest runs of at least two zeros is left out. -/
def writeIpv6 (pieces : List Nat) : List Char :=
  match pieces with
  | [0, 0, 0, 0, 0, 0xffff, high, low] =>
    [':', ':', 'f', 'f', 'f', 'f', ':'] ++ writeIpv4 (high * 65536 + low)
  | pieces =>
    let (place, length) := longestZeroRun pieces
    if length > 1 then
      joinPieces (pieces.take place) ++ ':' :: ':' :: joinPieces (pieces.drop (place + length))
    else joinPieces pieces

end RealtimeClient.Url
