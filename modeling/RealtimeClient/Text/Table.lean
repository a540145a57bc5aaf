import RealtimeClient.Text.Digit
import RealtimeClient.Text.Split

/-!
# Tables of characters

Properties of characters are kept as texts of rows.  A row starts with a number in hexadecimal
digits with capital letters, and its content follows.

* `Text.Table` — a table that has been read; the numbers ascend.
* `Text.Table.ofRows` — the table of a text.
* `Text.Table.floor?` — the last row whose number is not above a number.
* `Text.Table.get?` — the row with a number.
-/

namespace RealtimeClient.Text

/-- **A table that has been read**: rows with ascending numbers. -/
abbrev Table (α : Type) : Type := Array (Nat × α)

/-- Whether a character belongs to the number of a row. -/
def isRowDigit (c : Char) : Bool := c.isDigit || ('A' ≤ c && c ≤ 'F')

/-- A number in hexadecimal digits; something else is zero. -/
def hexNumber (digits : List Char) : Nat := (number? 16 digits).getD 0

/-- The characters whose codes stand in a text with dots between them. -/
def codes (text : List Char) : List Char :=
  (splitWhere (· = '.') text).map fun digits => Char.ofNat (hexNumber digits)

namespace Table

variable {α : Type}

/-- The content of a row that says yes or no. -/
def flag? : List Char → Option Bool
  | ['y'] => some true
  | ['n'] => some false
  | _ => none

/-- A row; one without content is none. -/
def readRow? (content? : List Char → Option α) (word : List Char) : Option (Nat × α) :=
  (content? (word.dropWhile isRowDigit)).map fun content =>
    (hexNumber (word.takeWhile isRowDigit), content)

/-- **The table of a text.** -/
def ofRows (content? : List Char → Option α) (rows : String) : Table α :=
  ((words rows.toList).filterMap (readRow? content?)).toArray

/-- The last row from `low` on and before `high` whose number is at most `n`, if the first of them
is not above it; for as many rounds as the distance can be halved. -/
def search (t : Table α) (n : Nat) : (rounds low high : Nat) → Option (Nat × α)
  | 0, low, _ => t[low]?
  | rounds + 1, low, high =>
    if high ≤ low + 1 then t[low]?
    else
      let middle := (low + high) / 2
      match t[middle]? with
      | none => none
      | some row =>
        if row.1 ≤ n then t.search n rounds middle high else t.search n rounds low middle

/-- **The last row whose number is at most `n`.** -/
def floor? (t : Table α) (n : Nat) : Option (Nat × α) :=
  (t.search n t.size 0 t.size).filter fun row => row.1 ≤ n

/-- The content of the row with a number. -/
def get? (t : Table α) (n : Nat) : Option α :=
  ((t.floor? n).filter fun row => row.1 = n).map (·.2)

end Table

end RealtimeClient.Text
