import RealtimeClient.Decimal

/-!
# Dates and times

A moment is a date, a time of day, or both, and then perhaps with the distance to universal time.

* `Toml.Moment` — a moment; `Toml.Date`, `Toml.Time`, `Toml.Offset` are its parts.
* `Toml.Moment.read?` — the moment at the start of a text, and the rest of the text.
* `Toml.Moment.write` — the text of a moment.
-/

namespace RealtimeClient.Toml

structure Date where
  year : Nat
  month : Nat
  day : Nat
  deriving DecidableEq, Repr

structure Time where
  hour : Nat
  minute : Nat
  second : Nat
  nanos : Nat
  deriving DecidableEq, Repr

inductive Offset
  | zero
  | minutes (m : Int)
  deriving DecidableEq, Repr

/-- **A moment.** -/
inductive Moment
  | date (d : Date)
  | time (t : Time)
  | dateTime (d : Date) (t : Time) (offset : Option Offset)
  deriving DecidableEq, Repr

/-! ## Reading -/

/-- The text behind a mark. -/
def behind? (mark : Char) : List Char → Option (List Char)
  | c :: rest => if c = mark then some rest else none
  | [] => none

def twoDigits? (low high : Nat) : List Char → Option (Nat × List Char)
  | a :: b :: rest =>
    let n := Decimal.value [a, b]
    if a.isDigit ∧ b.isDigit ∧ low ≤ n ∧ n ≤ high then some (n, rest) else none
  | _ => none

def fourDigits? : List Char → Option (Nat × List Char)
  | a :: b :: c :: d :: rest =>
    if [a, b, c, d].all Char.isDigit then some (Decimal.value [a, b, c, d], rest) else none
  | _ => none

/-- Whether a year has a day more than others. -/
def isLeapYear (year : Nat) : Bool := year % 4 = 0 && (year % 100 ≠ 0 || year % 400 = 0)

def daysIn (year month : Nat) : Nat :=
  if month = 2 then (if isLeapYear year then 29 else 28)
  else if month = 4 ∨ month = 6 ∨ month = 9 ∨ month = 11 then 30
  else 31

def Date.read? (text : List Char) : Option (Date × List Char) := do
  let (year, text) ← fourDigits? text
  let (month, text) ← twoDigits? 1 12 (← behind? '-' text)
  let (day, text) ← twoDigits? 1 (daysIn year month) (← behind? '-' text)
  return ({ year, month, day }, text)

/-- The number of digits of a second's fraction that count. -/
def fractionDigits : Nat := 9

/-- The nanoseconds that a fraction of a second stands for; digits beyond the ninth do not count. -/
def fractionNanos (digits : List Char) : Nat :=
  let taken := digits.take fractionDigits
  Decimal.value taken * Nat.pow 10 (fractionDigits - taken.length)

/-- The fraction of a second, if there is one, and the rest of the text. -/
def readFraction (text : List Char) : Nat × List Char :=
  match text with
  | '.' :: rest =>
    let digits := rest.takeWhile Char.isDigit
    if digits = [] then (0, text) else (fractionNanos digits, rest.dropWhile Char.isDigit)
  | _ => (0, text)

def Time.read? (text : List Char) : Option (Time × List Char) := do
  let (hour, text) ← twoDigits? 0 23 text
  let (minute, text) ← twoDigits? 0 59 (← behind? ':' text)
  let (second, text) ← twoDigits? 0 60 (← behind? ':' text)
  let (nanos, text) := readFraction text
  return ({ hour, minute, second, nanos }, text)

def Offset.read? : List Char → Option (Offset × List Char)
  | 'Z' :: rest | 'z' :: rest => some (.zero, rest)
  | sign :: rest => do
    if sign ≠ '+' ∧ sign ≠ '-' then none
    let (hours, text) ← twoDigits? 0 23 rest
    let (rest, text) ← twoDigits? 0 59 (← behind? ':' text)
    let distance : Int := hours * 60 + rest
    return (.minutes (if sign = '-' then -distance else distance), text)
  | [] => none

/-- Whether a character stands between a date and a time. -/
def isDelimiter (c : Char) : Bool := c = 'T' || c = 't' || c = ' '

/-- The time of day behind a date, if there is one, and the rest of the text. -/
def timeAfterDate? : List Char → Option (Time × List Char)
  | c :: rest => if isDelimiter c then Time.read? rest else none
  | [] => none

/-- **The moment at the start of a text**, and the rest of the text. -/
def Moment.read? (text : List Char) : Option (Moment × List Char) :=
  match Date.read? text with
  | none => (Time.read? text).map fun (t, rest) => (.time t, rest)
  | some (d, rest) =>
    match timeAfterDate? rest with
    | none => some (.date d, rest)
    | some (t, rest) =>
      match Offset.read? rest with
      | none => some (.dateTime d t none, rest)
      | some (offset, rest) => some (.dateTime d t (some offset), rest)

/-! ## Writing -/

/-- A number with zeros in front up to a width. -/
def padded (width n : Nat) : List Char :=
  let digits := Decimal.write n
  List.replicate (width - digits.length) '0' ++ digits

def Date.write (d : Date) : List Char :=
  padded 4 d.year ++ '-' :: padded 2 d.month ++ '-' :: padded 2 d.day

/-- The fraction of a second, without zeros at its end. -/
def writeFraction (nanos : Nat) : List Char :=
  if nanos = 0 then []
  else '.' :: ((padded fractionDigits nanos).reverse.dropWhile (· = '0')).reverse

def Time.write (t : Time) : List Char :=
  padded 2 t.hour ++ ':' :: padded 2 t.minute ++ ':' :: padded 2 t.second ++ writeFraction t.nanos

def Offset.write : Offset → List Char
  | .zero => ['Z']
  | .minutes m =>
    (if m < 0 then '-' else '+') :: padded 2 (m.natAbs / 60) ++ ':' :: padded 2 (m.natAbs % 60)

/-- **The text of a moment.** -/
def Moment.write : Moment → List Char
  | .date d => d.write
  | .time t => t.write
  | .dateTime d t offset =>
    d.write ++ 'T' :: t.write ++
      (match offset with
        | some o => o.write
        | none => [])

end RealtimeClient.Toml
