/-!
# Digits

Digits in bases up to sixteen, with letters of either case, and the numbers that runs of them stand
for.

* `Text.digitValue?` — the value of a digit.
* `Text.number?` — the value of a run of digits.
-/

namespace RealtimeClient.Text

/-- **The value of a digit** in a base up to sixteen. -/
def digitValue? (base : Nat) (c : Char) : Option Nat :=
  let value :=
    if c.isDigit then some (c.toNat - '0'.toNat)
    else if 'a' ≤ c ∧ c ≤ 'f' then some (c.toNat - 'a'.toNat + 10)
    else if 'A' ≤ c ∧ c ≤ 'F' then some (c.toNat - 'A'.toNat + 10)
    else none
  value.filter (· < base)

/-- Whether a character is a digit in a base. -/
def isDigitIn (base : Nat) (c : Char) : Bool := (digitValue? base c).isSome

/-- The number that digits stand for; there is none if one of them is no digit. -/
def number? (base : Nat) (digits : List Char) : Option Nat :=
  digits.foldl (fun n c => do return (← n) * base + (← digitValue? base c)) (some 0)

end RealtimeClient.Text
