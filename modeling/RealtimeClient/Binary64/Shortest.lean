/-!
# The shortest decimal that reads back

A finite double stands for all the reals that round to it.  Its shortest decimal is the one with
the fewest digits among those reals, and of several with that many digits the one nearest to the
double; of two equally near ones, the one with the even last digit.

* `Binary64.decode` — a double's magnitude as `m · 2 ^ q`.
* `Binary64.Span` — the reals that round to a double, over a common denominator.
* `Binary64.Span.candidate?` — the decimal with a given last place that lies in the span and is
  nearest to the double.
* `Binary64.shortest` — the digits and the power of ten of the first digit.

Everything is computed with natural numbers.
-/

namespace RealtimeClient.Binary64

/-- The magnitude of a finite double as `m · 2 ^ q`, and whether the next smaller double is half a
step away, which is so at a power of two. -/
def decode (x : Float) : Nat × Int × Bool :=
  let bits := x.toBits.toNat % (UInt64.size / 2)
  let exponent : Nat := bits / Nat.pow 2 52
  let fraction : Nat := bits % Nat.pow 2 52
  if exponent = 0 then (fraction, -1074, false)
  else (fraction + Nat.pow 2 52, Int.ofNat exponent - 1075, fraction = 0 && exponent ≠ 1)

/-- **The reals that round to a double.**  They lie between `low / den` and `high / den`, the double
itself is `mid / den`, and the two ends belong to them when `closed` holds. -/
structure Span where
  low : Nat
  mid : Nat
  high : Nat
  den : Nat
  closed : Bool
  deriving DecidableEq, Repr

/-- The span of `m · 2 ^ q`: half a step to each side, or a quarter step below a power of two. -/
def Span.ofBinary (m : Nat) (q : Int) (narrow : Bool) : Span :=
  let up := Nat.pow 2 (q - 2).toNat
  { low := (4 * m - if narrow then 1 else 2) * up
    mid := 4 * m * up
    high := (4 * m + 2) * up
    den := Nat.pow 2 (2 - q).toNat
    closed := m % 2 = 0 }

/-- The power of ten of the first digit of `num / den`. -/
def leadingPower (num den : Nat) : Int :=
  if den ≤ num then (Nat.toDigits 10 (num / den)).length - 1
  else -(Nat.toDigits 10 ((den + num - 1) / num - 1)).length

namespace Span

/-- The span in units of `10 ^ k`. -/
def inUnits (s : Span) (k : Int) : Span :=
  let up := Nat.pow 10 (-k).toNat
  { s with
    low := s.low * up
    mid := s.mid * up
    high := s.high * up
    den := s.den * Nat.pow 10 k.toNat }

/-- Whether a whole number of units lies in the span. -/
def Contains (s : Span) (n : Nat) : Prop :=
  if s.closed then s.low ≤ n * s.den ∧ n * s.den ≤ s.high
  else s.low < n * s.den ∧ n * s.den < s.high

instance (s : Span) (n : Nat) : Decidable (s.Contains n) := by
  unfold Contains; infer_instance

/-- Whether the next whole number is to be preferred to `n`, the last one not above the double: it
is nearer, or equally near and even. -/
def PrefersNext (s : Span) (n : Nat) : Prop :=
  s.den < 2 * (s.mid - n * s.den) ∨ s.den = 2 * (s.mid - n * s.den) ∧ n % 2 = 1

instance (s : Span) (n : Nat) : Decidable (s.PrefersNext n) := by
  unfold PrefersNext; infer_instance

/-- The number of units in the span that is nearest to the double.  If any number of units is in
the span, then one of the double's two neighbours is. -/
def candidate? (s : Span) : Option Nat :=
  let n := s.mid / s.den
  if s.Contains n then
    if s.Contains (n + 1) ∧ s.PrefersNext n then some (n + 1) else some n
  else if s.Contains (n + 1) then some (n + 1)
  else none

/-- The first of `places` grids that has a decimal in the span, from the power `k` downwards, with
that decimal's number of units. -/
def firstHit (s : Span) (k : Int) : Nat → Nat × Int
  | 0 => ((s.inUnits k).mid / (s.inUnits k).den, k)
  | places + 1 =>
    match (s.inUnits k).candidate? with
    | some n => (n, k)
    | none => s.firstHit (k - 1) places

end Span

/-- Leave out the zeros at the end. -/
def dropTrailingZeros (digits : List Char) : List Char :=
  (digits.reverse.dropWhile (· = '0')).reverse

/-- **The shortest decimal of a double other than zero.**  Its digits, without zeros at the end,
and the power of ten of the first one.  Seventeen digits always suffice. -/
def shortest (x : Float) : List Char × Int :=
  let (m, q, narrow) := decode x
  let span := Span.ofBinary m q narrow
  let (n, k) := span.firstHit (leadingPower span.mid span.den) 17
  let digits := Nat.toDigits 10 n
  (dropTrailingZeros digits, k + digits.length - 1)

end RealtimeClient.Binary64
