/-!
# Decimal numerals

Numbers written with the digits `0` to `9`.

* `Decimal.write` — the digits of a number, without leading zeros.
* `Decimal.read?` — a non-empty run of digits as a number below a bound; leading zeros count for
  nothing.
* `Decimal.readSigned?` — the same with one `+` allowed in front.
* `Decimal.writeInt` — an integer, with `-` in front of a negative one.
-/

namespace RealtimeClient.Decimal

def write (n : Nat) : List Char := Nat.toDigits 10 n

/-- The digits of an integer, with `-` in front of a negative one. -/
def writeInt (i : Int) : List Char :=
  if i < 0 then '-' :: write i.natAbs else write i.natAbs

def value (digits : List Char) : Nat := Nat.ofDigitChars 10 digits 0

/-- A non-empty run of digits, as a number below `bound`. -/
def read? (bound : Nat) (text : List Char) : Option Nat :=
  if text ≠ [] ∧ text.all Char.isDigit ∧ value text < bound then some (value text) else none

/-- A run of digits with an optional `+` in front. -/
def readSigned? (bound : Nat) : List Char → Option Nat
  | '+' :: text => read? bound text
  | text => read? bound text

/-- Reading what was written gives the number back. -/
theorem value_write (n : Nat) : value (write n) = n :=
  Nat.ofDigitChars_toDigits (by decide) (by decide)

/-- Every number below the bound is read from its own digits. -/
theorem read?_write {bound n : Nat} (h : n < bound) : read? bound (write n) = some n := by
  have hd : (write n).all Char.isDigit = true :=
    List.all_eq_true.2 fun c hc => Nat.isDigit_of_mem_toDigits (by decide) (by decide) hc
  have hne : write n ≠ [] := Nat.toDigits_ne_nil
  simp [read?, hd, hne, value_write, h]

end RealtimeClient.Decimal
