/-!
# Rounding to a double's precision

A double holds 53 significant bits.  `Binary64.roundNat` is the natural number nearest to a given
one among those with 53 significant bits; of two equally near ones it is the one whose last
significant bit is zero.
-/

namespace RealtimeClient.Binary64

/-- The significant bits of a double. -/
def precision : Nat := 53

/-- The distance between neighbours of 53 significant bits around a number. -/
def unitInLastPlace (n : Nat) : Nat := Nat.pow 2 (n.log2 + 1 - precision)

/-- **The nearest number of 53 significant bits.** -/
def roundNat (n : Nat) : Nat :=
  let u := unitInLastPlace n
  let q := n / u
  let r := n % u
  if u < 2 * r ∨ u = 2 * r ∧ q % 2 = 1 then (q + 1) * u else q * u

/-- Numbers of at most 53 bits are kept. -/
theorem roundNat_of_lt {n : Nat} (h : n < Nat.pow 2 precision) : roundNat n = n := by
  have hu : unitInLastPlace n = 1 := by
    have hl : n.log2 + 1 - precision = 0 := by
      by_cases h0 : n = 0
      · subst h0; decide
      · have : n.log2 < precision := (Nat.log2_lt h0).2 h
        omega
    simp [unitInLastPlace, hl]
  simp [roundNat, hu, Nat.mod_one]

end RealtimeClient.Binary64
