import Mathlib
import RealtimeClient.Json.Reader
import RealtimeClient.Json.Writer
import RealtimeClient.Proofs.Binary64.Magnitude
import RealtimeClient.Proofs.Binary64.Shortest

/-!
# The numbers that are written

A number is written as the digits of an integer, or as the digits of a decimal with a point or an exponent.
The parts of a number give its text, and its text is read as those parts, so what a number is read as is the
value of its parts.  For an integer this is the integer.  For a double it is some double: it need not be the
same one, since the reader multiplies and divides what has been rounded already, but it is never beyond the
largest one, although the digits of the largest double stand for more than it.

* `Numeral.write`, `Numeral.Proper` — the text of a number, and the parts that have one.
* `Numeral.accumulate_of_lt` — the significand of digits that fit 64 bits.
* `Numeral.exists_scale_of_neg`, `Numeral.exists_scale_of_nonneg` — **scaling stays within the doubles**.
* `Number.numeral`, `Number.write_eq`, `Number.proper_numeral` — the parts of a number.
* `Number.reread`, `Number.value?_numeral` — **every number that is written has a value**.
-/

namespace RealtimeClient.Json

open Binary64

/-- Numbers of a tree that have a text of digits only. -/
def Number.isInteger : Number → Bool
  | .real _ _ => false
  | _ => true

namespace Numeral

/-! ## The text -/

def signText (negative : Bool) : List Char := if negative then ['-'] else []

def fractionText : Option (List Char) → List Char
  | none => []
  | some digits => '.' :: digits

def exponentText : Option (Bool × List Char) → List Char
  | none => []
  | some (below, digits) => 'e' :: (if below then '-' else '+') :: digits

/-- **The text of a number.** -/
def write (n : Numeral) : List Char :=
  signText n.negative ++ (n.whole ++ (fractionText n.fraction ++ exponentText n.exponent))

/-- **Parts that have a text**: there are digits wherever there may be some, and a zero in front stands
alone. -/
structure Proper (n : Numeral) : Prop where
  whole : Decimal.IsRun n.whole
  zero : n.whole.head? = some '0' → n.whole = ['0']
  fraction : ∀ digits, n.fraction = some digits → Decimal.IsRun digits
  exponent : ∀ below digits, n.exponent = some (below, digits) → Decimal.IsRun digits

/-! ## The significand -/

/-- Digits whose number has 64 bits are all taken. -/
theorem accumulate_of_lt (digits : List Char) (n : Nat)
    (h : Nat.ofDigitChars 10 digits n < UInt64.size) :
    accumulate n digits = (Nat.ofDigitChars 10 digits n, digits.length, 0) := by
  induction digits generalizing n with
  | nil => simp [accumulate]
  | cons c rest ih =>
    have hnext : n * 10 + digitValue c = 10 * n + (c.toNat - '0'.toNat) := by
      rw [digitValue, Nat.mul_comm]
    rw [Nat.ofDigitChars_cons] at h ⊢
    have hlt := Nat.lt_of_le_of_lt (Decimal.le_ofDigitChars rest _) h
    simp only [accumulate, hnext, if_pos hlt, ih _ h, List.length_cons]

theorem accumulate_write {n : Nat} (h : n < UInt64.size) :
    accumulate 0 (Decimal.write n) = (n, (Decimal.write n).length, 0) := by
  have hv : Nat.ofDigitChars 10 (Decimal.write n) 0 = n := Decimal.value_write n
  rw [accumulate_of_lt _ _ (by rwa [hv]), hv]

theorem value?_natural (n : UInt64) :
    value? { whole := Decimal.write n.toNat } = some (.natural n) := by
  simp [value?, accumulate_write n.toNat_lt]

theorem value?_negative (n : Int64) (below : n < 0) :
    value? { negative := true, whole := Decimal.write n.toInt.natAbs } =
      some (.negative n below) := by
  have hneg : n.toInt < 0 := by simpa using Int64.lt_iff_toInt_lt.1 below
  have hle : -2 ^ 63 ≤ n.toInt := n.le_toInt
  have habs : n.toInt.natAbs ≤ UInt64.size / 2 := by
    simp only [UInt64.size]
    omega
  have hval : -(Int64.ofNat n.toInt.natAbs) = n := by
    have hcast : (n.toInt.natAbs : Int) = -n.toInt := by omega
    rw [← Int64.ofInt_eq_ofNat, hcast, Int64.ofInt_neg, Int64.neg_neg, Int64.ofInt_toInt]
  have hsig : n.toInt.natAbs < UInt64.size := by
    simp only [UInt64.size] at habs ⊢
    omega
  simp only [value?, accumulate_write hsig, hval]
  simp [below, habs]

/-- An exponent of a few digits is taken as it is. -/
theorem exponentValue?_write {e : Nat} (h : e < exponentBound) : exponentValue? (Decimal.write e) = some e := by
  have hfold : (Decimal.write e).foldl (fun n c => n * 10 + digitValue c) 0 = e := by
    have hstep : (fun (n : Nat) c => n * 10 + digitValue c) = fun n c => 10 * n + (c.toNat - '0'.toNat) := by
      funext n c
      rw [digitValue, Nat.mul_comm]
    rw [hstep]
    exact Decimal.value_write e
  simp only [exponentValue?, hfold, if_pos h]

/-- Eighteen digits have 64 bits. -/
theorem size_of_length {digits : List Char} (h : ∀ c ∈ digits, c.isDigit = true) (hlength : digits.length ≤ 18) :
    Decimal.value digits < UInt64.size :=
  (Decimal.value_lt h).trans_le
    ((Nat.pow_le_pow_right (by decide) hlength).trans (by decide : 10 ^ 18 ≤ UInt64.size))

section Significand

variable {n : Numeral} {fraction : List Char} (hfraction : n.fraction.getD [] = fraction)
  (h : Decimal.value (n.whole ++ fraction) < UInt64.size)

include hfraction h

/-- The digits on both sides of the point make one significand, and those behind it are counted. -/
theorem magnitude?_of_none (hexponent : n.exponent = none) :
    n.magnitude? = scale (Decimal.value (n.whole ++ fraction)).toUInt64.toFloat (-fraction.length) := by
  subst hfraction
  rw [Decimal.value, Nat.ofDigitChars_append] at h ⊢
  have hwhole := accumulate_of_lt n.whole 0 ((Decimal.le_ofDigitChars _ _).trans_lt h)
  simp only [magnitude?, hwhole, accumulate_of_lt _ _ h, hexponent, Nat.cast_zero, zero_sub]

/-- An exponent is counted in, and none that is written is too large for that. -/
theorem magnitude?_of_some {below : Bool} {a : Nat} (hexponent : n.exponent = some (below, Decimal.write a))
    (hbound : fraction.length + a < exponentBound) :
    n.magnitude? = scale (Decimal.value (n.whole ++ fraction)).toUInt64.toFloat
      (-fraction.length + if below then -(a : Int) else a) := by
  subst hfraction
  rw [Decimal.value, Nat.ofDigitChars_append] at h ⊢
  have hwhole := accumulate_of_lt n.whole 0 ((Decimal.le_ofDigitChars _ _).trans_lt h)
  have hclamp {e : Int} (he : e.natAbs < exponentBound) : clampExponent e = e := by
    simp only [clampExponent]
    omega
  simp only [magnitude?, hwhole, accumulate_of_lt _ _ h, hexponent, exponentValue?_write (e := a) (by omega),
    Nat.cast_zero, zero_sub]
  rw [hclamp (by split <;> omega)]
  congr 1
  split <;> omega

end Significand

/-! ## Scaling -/

/-- A quotient by more than one is no larger. -/
theorem boundedBy_div {x y : Float} (hx : BoundedBy (2 ^ 64) x) (hy : AtLeast 2 y.toModel.unpack) :
    BoundedBy (2 ^ 64) (x / y) := by
  have hbound : ((2 ^ 53 : Nat) : ℚ) * 2 ^ (11 : Int) = 2 ^ 64 := by norm_num
  rw [← hbound]
  refine hx.div le_rfl (by decide) ?_ hy (by decide) ?_
  · rw [hbound]
    exact pow_lt_pow_right₀ (by norm_num) (by norm_num)
  · rw [hbound]
    norm_num

/-- A quotient by a power of ten. -/
theorem boundedBy_div_power {f : Float} (hf : BoundedBy (2 ^ 64) f) {k : Nat} (hk : k ≤ powerStep)
    (hne : k ≠ 0) : BoundedBy (2 ^ 64) (f / Float.ofScientific 1 false k) :=
  boundedBy_div hf ((atMost_power hk).2 hne)

/-- **Division stays within the doubles**, however often it is done. -/
theorem exists_scale_of_neg {f : Float} (hf : BoundedBy (2 ^ 64) f) {e : Int} (he : e < 0) :
    ∃ y, scale f e = some y ∧ BoundedBy (2 ^ 64) y := by
  induction f, e using scale.induct with
  | case1 f e hle _ =>
    rw [scale, dif_pos hle, if_pos he]
    exact ⟨_, rfl, boundedBy_div_power hf hle (by omega)⟩
  | case2 => omega
  | case3 => omega
  | case4 f e hle hzero =>
    rw [scale, dif_neg hle, if_pos hzero]
    exact ⟨f, rfl, hf⟩
  | case5 => omega
  | case6 f e hle hzero hpos ih =>
    rw [scale, dif_neg hle, if_neg hzero, if_neg hpos]
    refine ih (boundedBy_div_power hf le_rfl (by decide)) ?_
    simp only [powerStep] at hle ⊢
    omega

/-- The largest double. -/
def largest : ℚ := (2 ^ 53 - 1 : Nat) * 2 ^ (971 : Int)

theorem largest_lt : largest < 2 ^ 1024 := by
  rw [largest, ← zpow_natCast (2 : ℚ) 1024, show ((1024 : Nat) : Int) = 53 + 971 by rfl, zpow_add₀ (by decide)]
  gcongr
  norm_num

theorem size_le_largest : (2 : ℚ) ^ 64 ≤ largest := by
  rw [largest, ← zpow_natCast, ← one_mul ((2 : ℚ) ^ ((64 : Nat) : Int))]
  gcongr
  · norm_num
  · norm_num
  · norm_num

/-- A product that is a double is the scaled number. -/
theorem scale_of_nonneg {f : Float} {k : Nat} (hk : k ≤ powerStep)
    (hf : BoundedBy largest (f * Float.ofScientific 1 false k)) :
    scale f k = some (f * Float.ofScientific 1 false k) := by
  rw [scale, dif_pos (by rwa [Int.natAbs_natCast]), if_neg (by omega)]
  simp only [Int.natAbs_natCast, hf.isFinite.2]
  rfl

/-- A number below the largest double by a few of its last digits. -/
theorem boundedBy_scaled {n k : Nat} (hn : 0 < n) (hsize : n < UInt64.size) (hk : k ≤ powerStep)
    (hle : (n : ℚ) * 10 ^ k ≤ (2 ^ 53 - 11 / 2) * 2 ^ (971 : Int)) :
    BoundedBy largest (n.toUInt64.toFloat * Float.ofScientific 1 false k) := by
  have hnat : n.toUInt64.toNat = n := Nat.mod_eq_of_lt hsize
  obtain ⟨M, E, hM, hE, hlt, hclose⟩ := exists_double_above hn.ne'
  have hten : (1 : ℚ) ≤ 10 ^ k := one_le_pow₀ (by norm_num)
  have hproduct : (M : ℚ) * 2 ^ E * (10 ^ k * (1 + 2 ^ (-52 : Int))) < largest :=
    calc (M : ℚ) * 2 ^ E * (10 ^ k * (1 + 2 ^ (-52 : Int)))
        ≤ n * (1 + 2 ^ (-52 : Int)) * (10 ^ k * (1 + 2 ^ (-52 : Int))) := by gcongr
      _ = n * 10 ^ k * (1 + 2 ^ (-52 : Int)) ^ 2 := by ring
      _ ≤ (2 ^ 53 - 11 / 2) * 2 ^ (971 : Int) * (1 + 2 ^ (-52 : Int)) ^ 2 := by gcongr
      _ = (2 ^ 53 - 11 / 2) * (1 + 2 ^ (-52 : Int)) ^ 2 * 2 ^ (971 : Int) := by ring
      _ < largest := by
        rw [largest]
        gcongr
        norm_num
  have hfar : (M : ℚ) * 2 ^ E < 2 ^ 1024 := by
    refine lt_of_le_of_lt ?_ (hproduct.trans largest_lt)
    refine le_mul_of_one_le_right (by positivity) (one_le_mul_of_one_le_of_one_le hten ?_)
    norm_num
  have hfloat := boundedBy_toFloat hM hE hfar (n := n.toUInt64) (by rwa [hnat])
  exact BoundedBy.mul (by decide) (by decide) largest_lt hfloat (atMost_power hk).1 hproduct

/-- **The largest doubles**, up to either sign: what is rounded twice on the way is not rounded up twice. -/
theorem boundedBy_top {x : Float} (hlow : 2 ^ 53 - 5 ≤ (decode x).1) (hhigh : (decode x).1 < 2 ^ 53)
    (hq : (decode x).2.1 = 971) :
    BoundedBy largest ((Decimal.value (shortest x).1).toUInt64.toFloat *
      Float.ofScientific 1 false ((shortest x).2 + 1 - (shortest x).1.length).toNat) := by
  have hall : ∀ d < 5, ∀ narrow : Bool,
      let span := Span.ofBinary (2 ^ 53 - 5 + d) 971 narrow
      let hit := span.firstHit (leadingPower span.mid span.den) 17
      let digits := Nat.toDigits 10 hit.1
      BoundedBy largest ((Decimal.value (dropTrailingZeros digits)).toUInt64.toFloat *
        Float.ofScientific 1 false
          (hit.2 + digits.length - 1 + 1 - (dropTrailingZeros digits).length).toNat) := by
    decide +kernel
  unfold shortest
  generalize decode x = parts at *
  obtain ⟨m, q, narrow⟩ := parts
  dsimp only at hlow hhigh hq ⊢
  subst hq
  obtain ⟨d, hd, rfl⟩ : ∃ d < 5, m = 2 ^ 53 - 5 + d := ⟨m - (2 ^ 53 - 5), by omega, by omega⟩
  exact hall d hd narrow

theorem le_powerStep {n k : Nat} (hn : 0 < n) (hlt : (n : ℚ) * 10 ^ k < 2 ^ 1024) : k ≤ powerStep := by
  by_contra hfar
  have hlarge : 2 ^ 1024 ≤ 10 ^ (powerStep + 1) := by decide +kernel
  have hpower : 10 ^ (powerStep + 1) ≤ 10 ^ k := Nat.pow_le_pow_right (by decide) (not_le.1 hfar)
  have hnat : n * 10 ^ k < 2 ^ 1024 := by exact_mod_cast hlt
  exact absurd (Nat.le_mul_of_pos_left (10 ^ k) hn) (not_le.2 (hnat.trans_le (hlarge.trans hpower)))

section Upper

variable {m : Nat} {q : Int} (hm : m < 2 ^ 53) (hq : q ≤ 971)

include hm hq

/-- What rounds to a double is below the first power of two beyond the format. -/
theorem upper_lt : ((m : ℚ) + 1 / 2) * 2 ^ q < 2 ^ 1024 := by
  have hm' : (m : ℚ) + 1 ≤ 2 ^ 53 := by exact_mod_cast hm
  calc ((m : ℚ) + 1 / 2) * 2 ^ q < 2 ^ 53 * 2 ^ q := by
        gcongr
        linarith
    _ ≤ 2 ^ 53 * 2 ^ (971 : Int) := by
        gcongr
        norm_num
    _ = 2 ^ 1024 := by
        rw [← zpow_natCast, ← zpow_natCast, ← zpow_add₀ (by decide)]
        rfl

/-- Below the largest doubles there is room for rounding. -/
theorem upper_le (htop : 2 ^ 53 - 5 ≤ m → q ≠ 971) :
    ((m : ℚ) + 1 / 2) * 2 ^ q ≤ (2 ^ 53 - 11 / 2) * 2 ^ (971 : Int) := by
  by_cases hlow : 2 ^ 53 - 5 ≤ m
  · have hq' : q ≤ 970 := by
      have := htop hlow
      omega
    have hm' : (m : ℚ) + 1 ≤ 2 ^ 53 := by exact_mod_cast hm
    calc ((m : ℚ) + 1 / 2) * 2 ^ q ≤ 2 ^ 53 * 2 ^ (970 : Int) := by
          gcongr
          · linarith
          · norm_num
      _ = 2 ^ 52 * 2 ^ (971 : Int) := by
          rw [← zpow_natCast, ← zpow_natCast, ← zpow_add₀ (by decide), ← zpow_add₀ (by decide)]
          rfl
      _ ≤ (2 ^ 53 - 11 / 2) * 2 ^ (971 : Int) := by
          gcongr
          norm_num
  · have hm' : (m : ℚ) + 6 ≤ 2 ^ 53 := by
      have hnat : m + 6 ≤ 2 ^ 53 := by omega
      exact_mod_cast hnat
    gcongr
    · linarith
    · norm_num

end Upper

/-- **The digits that are written for a double are scaled to some double.** -/
theorem exists_scale_shortest {x : Float} (hfinite : x.isFinite = true) (hzero : (x == 0) = false) :
    (shortest x).2 + 1 - (shortest x).1.length ≤ powerStep ∧
      ∃ y, scale (Decimal.value (shortest x).1).toUInt64.toFloat
        ((shortest x).2 + 1 - (shortest x).1.length) = some y ∧ BoundedBy largest y := by
  have hdecimal := isDecimal_shortest hfinite hzero
  obtain ⟨-, hhigh, -, hq⟩ := decode_spec hfinite hzero
  have hpos := hdecimal.pos
  have hsize := size_of_length hdecimal.run.2 hdecimal.length
  have hle := hdecimal.le_bound
  generalize hk : (shortest x).2 + 1 - ((shortest x).1.length : Int) = k at *
  by_cases hneg : k < 0
  · obtain ⟨y, hy, hbound⟩ := exists_scale_of_neg (boundedBy_toFloat_size _) hneg
    exact ⟨by omega, y, hy, hbound.mono size_le_largest⟩
  · obtain ⟨k, rfl⟩ := Int.eq_ofNat_of_zero_le (not_lt.1 hneg)
    rw [zpow_natCast] at hle
    have hsmall : k ≤ powerStep := le_powerStep hpos (hle.trans_lt (upper_lt hhigh hq))
    suffices hbound : BoundedBy largest
        ((Decimal.value (shortest x).1).toUInt64.toFloat * Float.ofScientific 1 false k) from
      ⟨by exact_mod_cast hsmall, _, scale_of_nonneg hsmall hbound, hbound⟩
    by_cases htop : 2 ^ 53 - 5 ≤ (decode x).1 ∧ (decode x).2.1 = 971
    · have hproduct := boundedBy_top htop.1 hhigh htop.2
      rwa [hk, Int.toNat_natCast] at hproduct
    · refine boundedBy_scaled hpos hsize hsmall (hle.trans ?_)
      exact upper_le hhigh hq fun h => not_and.1 htop h

/-! ## The parts of a double -/

/-- Digits whose first one stands at the power `e` of ten, in positional notation. -/
def positional (negative : Bool) (digits : List Char) (e : Int) : Numeral :=
  if e < 0 then
    { negative, whole := ['0'], fraction := some (List.replicate (-e - 1).toNat '0' ++ digits) }
  else
    let fraction := digits.drop (e.toNat + 1)
    { negative
      whole := digits.take (e.toNat + 1) ++ List.replicate (e.toNat + 1 - digits.length) '0'
      fraction := some (if fraction = [] then ['0'] else fraction) }

/-- Digits whose first one stands at the power `e` of ten, in exponential notation. -/
def exponential (negative : Bool) (digits : List Char) (e : Int) : Numeral :=
  let fraction := digits.drop 1
  { negative
    whole := digits.take 1
    fraction := if fraction = [] then none else some fraction
    exponent := some (decide (e < 0), Decimal.write e.natAbs) }

/-- **The parts of a double.** -/
def ofReal (x : Float) : Numeral :=
  let negative := !decide (x.toBits < 0x8000000000000000)
  if x == 0 then { negative, whole := ['0'], fraction := some ['0'] }
  else
    let (digits, e) := shortest x
    if realLayout.leastPositional ≤ e ∧ e < realLayout.leastExponential then positional negative digits e
    else exponential negative digits e

theorem write_positional (negative : Bool) (digits : List Char) (e : Int) :
    (positional negative digits e).write = signText negative ++ Json.positional digits e := by
  unfold positional Json.positional
  by_cases he : e < 0
  · rw [if_pos he, if_pos he]
    simp only [write, fractionText, exponentText, List.append_nil]
    rfl
  · rw [if_neg he, if_neg he]
    simp only [write, fractionText, exponentText, List.append_nil, List.append_assoc]

theorem write_exponential (negative : Bool) (digits : List Char) (e : Int) :
    (exponential negative digits e).write = signText negative ++ Json.exponential digits e := by
  have hfraction : fractionText (if digits.drop 1 = [] then none else some (digits.drop 1)) =
      if digits.drop 1 = [] then [] else '.' :: digits.drop 1 := by
    split_ifs <;> rfl
  simp only [write, exponential, Json.exponential, hfraction, exponentText, decide_eq_true_eq,
    List.append_assoc]

/-- They give its text. -/
theorem writeReal_eq (x : Float) : writeReal x = (ofReal x).write := by
  have hsign : signText (!decide (x.toBits < 0x8000000000000000)) =
      if x.toBits < 0x8000000000000000 then [] else ['-'] := by
    by_cases hbits : x.toBits < 0x8000000000000000 <;> simp [signText, hbits]
  unfold writeReal ofReal
  dsimp only
  rw [← hsign]
  split_ifs
  · rfl
  · exact (write_positional _ _ _).symm
  · exact (write_exponential _ _ _).symm

/-! ## The value of a double -/

/-- With a point or an exponent a number is a double, if it is within their range. -/
theorem exists_value {n : Numeral} (hparts : n.fraction ≠ none ∨ n.exponent ≠ none)
    (h : ∃ y, n.magnitude? = some y ∧ BoundedBy largest y) : ∃ y hy, n.value? = some (.real y hy) := by
  obtain ⟨y, hy, hbound⟩ := h
  have hinteger (left : Nat) : ¬(n.fraction = none ∧ n.exponent = none ∧ left = 0) := by
    rintro ⟨hfraction, hexponent, -⟩
    exact hparts.elim (fun h => h hfraction) fun h => h hexponent
  have hsigned : BoundedBy largest (if n.negative then -y else y) := by
    split
    · exact hbound.neg largest_lt
    · exact hbound
  refine ⟨_, hsigned.isFinite.1, ?_⟩
  simp only [value?, if_neg (hinteger _), hy, Option.bind_some, real?, Number.ofFloat?,
    dif_pos hsigned.isFinite.1]

/-- Digits behind a point are divided by. -/
theorem exists_magnitude {n : Numeral} {fraction : List Char} (hfraction : n.fraction = some fraction)
    (hne : fraction ≠ []) (hexponent : n.exponent = none)
    (hsize : Decimal.value (n.whole ++ fraction) < UInt64.size) :
    ∃ y, n.magnitude? = some y ∧ BoundedBy largest y := by
  have hlength := List.length_pos_of_ne_nil hne
  rw [magnitude?_of_none (by rw [hfraction]; rfl) hsize hexponent]
  obtain ⟨y, hy, hbound⟩ := exists_scale_of_neg
    (boundedBy_toFloat_size (Decimal.value (n.whole ++ fraction)).toUInt64)
    (e := -fraction.length) (by omega)
  exact ⟨y, hy, hbound.mono size_le_largest⟩

/-- Zeros in front count for nothing. -/
theorem value_zeros_append (zeros : Nat) (digits : List Char) :
    Decimal.value (List.replicate zeros '0' ++ digits) = Decimal.value digits := by
  rw [Decimal.value, Nat.ofDigitChars_append, Nat.ofDigitChars_replicate_zero, Nat.mul_zero]
  rfl

theorem isDigit_of_mem_zeros (zeros : Nat) : ∀ c ∈ List.replicate zeros '0', c.isDigit = true := by
  intro c hc
  rw [List.eq_of_mem_replicate hc]
  rfl

theorem isRun_zero : Decimal.IsRun ['0'] := ⟨by simp, by simp⟩

section Layouts

variable {bound : ℚ} {digits : List Char} {e : Int} (h : IsDecimal bound digits e) (negative : Bool)

include h

/-- **Positional notation**, where it is used, has no more digits than there may be. -/
theorem positional_spec (he : e < 16) :
    (positional negative digits e).Proper ∧
      ∃ y, (positional negative digits e).magnitude? = some y ∧ BoundedBy largest y := by
  obtain ⟨hne, hdigits⟩ := h.run
  have hlength := h.length
  unfold positional
  by_cases hneg : e < 0
  · rw [if_pos hneg]
    have hrun : Decimal.IsRun (List.replicate (-e - 1).toNat '0' ++ digits) :=
      ⟨by simp [hne], List.forall_mem_append.2 ⟨isDigit_of_mem_zeros _, hdigits⟩⟩
    refine ⟨⟨isRun_zero, fun _ => rfl, fun _ heq => Option.some.inj heq ▸ hrun, nofun⟩, ?_⟩
    refine exists_magnitude rfl hrun.1 rfl ?_
    have hvalue := value_zeros_append ((-e - 1).toNat + 1) digits
    rw [List.replicate_succ, List.cons_append] at hvalue
    exact hvalue ▸ size_of_length hdigits hlength
  · rw [if_neg hneg]
    dsimp only
    generalize hplaces : e.toNat + 1 = places
    obtain ⟨c, rest, rfl⟩ := List.exists_cons_of_ne_nil hne
    have hhead : (List.take places (c :: rest) ++ List.replicate (places - (c :: rest).length) '0').head? =
        some c := by
      rw [← hplaces]
      rfl
    have hwhole : Decimal.IsRun
        (List.take places (c :: rest) ++ List.replicate (places - (c :: rest).length) '0') := by
      refine ⟨fun hnil => ?_, List.forall_mem_append.2
        ⟨fun d hd => hdigits d (List.mem_of_mem_take hd), isDigit_of_mem_zeros _⟩⟩
      rw [hnil] at hhead
      cases hhead
    have hfraction : Decimal.IsRun
        (if List.drop places (c :: rest) = [] then ['0'] else List.drop places (c :: rest)) := by
      split_ifs with hdrop
      · exact isRun_zero
      · exact ⟨hdrop, fun d hd => hdigits d (List.mem_of_mem_drop hd)⟩
    refine ⟨⟨hwhole, fun hzero => ?_, fun _ heq => Option.some.inj heq ▸ hfraction, nofun⟩,
      exists_magnitude rfl hfraction.1 rfl ?_⟩
    · exact absurd (hhead.symm.trans hzero) (by simpa using h.head)
    · refine size_of_length (List.forall_mem_append.2 ⟨hwhole.2, hfraction.2⟩) ?_
      split_ifs with hdrop
      · rw [List.drop_eq_nil_iff] at hdrop
        simp only [List.length_append, List.length_take, List.length_replicate, List.length_singleton]
        omega
      · rw [List.drop_eq_nil_iff, not_le] at hdrop
        simp only [List.length_append, List.length_take, List.length_replicate, List.length_drop]
        omega

/-- **Exponential notation** has the digits and nothing else. -/
theorem exponential_spec (hmost : e + 1 - digits.length ≤ powerStep)
    (hscale : ∃ y, scale (Decimal.value digits).toUInt64.toFloat (e + 1 - digits.length) = some y ∧
      BoundedBy largest y) :
    (exponential negative digits e).Proper ∧
      ∃ y, (exponential negative digits e).magnitude? = some y ∧ BoundedBy largest y := by
  obtain ⟨hne, hdigits⟩ := h.run
  have hlength := h.length
  have hleast := h.least
  obtain ⟨c, rest, rfl⟩ := List.exists_cons_of_ne_nil hne
  have hparts : (exponential negative (c :: rest) e).fraction.getD [] = rest := by
    cases rest <;> rfl
  constructor
  · refine ⟨⟨List.cons_ne_nil _ _, ?_⟩, fun hzero => ?_, fun fraction heq => ?_, fun _ _ heq => ?_⟩
    · intro d hd
      exact hdigits d (List.mem_of_mem_take hd)
    · exact absurd hzero h.head
    · cases rest with
      | nil => cases heq
      | cons d rest =>
        obtain rfl := Option.some.inj heq
        exact ⟨List.cons_ne_nil _ _, fun a ha => hdigits a (.tail _ ha)⟩
    · obtain ⟨-, rfl⟩ := Prod.mk.inj (Option.some.inj heq)
      exact Decimal.isRun_write _
  · have hvalue : (exponential negative (c :: rest) e).whole ++ rest = c :: rest := rfl
    rw [List.length_cons] at hscale hmost hlength
    have hbound : rest.length + e.natAbs < exponentBound := by
      simp only [powerStep, exponentBound, UInt32.size] at hmost ⊢
      omega
    rw [magnitude?_of_some hparts (hvalue ▸ size_of_length hdigits h.length) rfl hbound, hvalue]
    have hplace : -(rest.length : Int) + (if decide (e < 0) = true then -(e.natAbs : Int) else e.natAbs) =
        e + 1 - ((rest.length + 1 : Nat) : Int) := by
      simp only [decide_eq_true_eq]
      split <;> omega
    rwa [hplace]

end Layouts

/-- **The parts of a finite double have a text, and a value within the doubles.** -/
theorem ofReal_spec {x : Float} (hfinite : x.isFinite = true) :
    (ofReal x).Proper ∧ ∃ y hy, (ofReal x).value? = some (.real y hy) := by
  unfold ofReal
  cases hzero : x == 0 with
  | true =>
    rw [if_pos rfl]
    refine ⟨⟨isRun_zero, fun _ => rfl, fun _ heq => Option.some.inj heq ▸ isRun_zero, nofun⟩, ?_⟩
    have hsize : Decimal.value ['0', '0'] < UInt64.size := by decide
    exact exists_value (.inl nofun) (exists_magnitude rfl isRun_zero.1 rfl hsize)
  | false =>
    have hdecimal := isDecimal_shortest hfinite hzero
    obtain ⟨hmost, hscale⟩ := exists_scale_shortest hfinite hzero
    rw [if_neg (by simp)]
    dsimp only
    split_ifs with hlayout
    · obtain ⟨hproper, hvalue⟩ := positional_spec hdecimal (!decide (x.toBits < 0x8000000000000000)) hlayout.2
      refine ⟨hproper, exists_value (.inl ?_) hvalue⟩
      unfold positional
      split <;> nofun
    · obtain ⟨hproper, hvalue⟩ := exponential_spec hdecimal (!decide (x.toBits < 0x8000000000000000)) hmost hscale
      exact ⟨hproper, exists_value (.inr nofun) hvalue⟩

end Numeral

/-! ## All numbers -/

namespace Number

/-- **The parts of a number.** -/
def numeral : Number → Numeral
  | .natural n => { whole := Decimal.write n.toNat }
  | .negative n _ => { negative := true, whole := Decimal.write n.toInt.natAbs }
  | .real x _ => .ofReal x

/-- They give its text. -/
theorem write_eq (n : Number) : n.write = n.numeral.write := by
  cases n with
  | natural n => simp [write, numeral, Numeral.write, Numeral.signText, Numeral.fractionText, Numeral.exponentText]
  | negative n below =>
    have hneg : n.toInt < 0 := by simpa using Int64.lt_iff_toInt_lt.1 below
    simp [write, numeral, Numeral.write, Numeral.signText, Numeral.fractionText, Numeral.exponentText,
      Decimal.writeInt, hneg]
  | real x finite => exact Numeral.writeReal_eq x

/-- The digits of an integer. -/
theorem proper_write (negative : Bool) (n : Nat) : ({ negative, whole := Decimal.write n } : Numeral).Proper := by
  refine ⟨Decimal.isRun_write n, fun hzero => ?_, nofun, nofun⟩
  obtain ⟨c, rest, heq, -, -, honly⟩ := Decimal.write_cons n
  dsimp only at hzero ⊢
  rw [heq] at hzero ⊢
  obtain rfl : c = '0' := Option.some.inj hzero
  rw [(honly rfl).2]

theorem proper_numeral : (n : Number) → n.numeral.Proper
  | .natural n => proper_write false n.toNat
  | .negative n _ => proper_write true n.toInt.natAbs
  | .real _ finite => (Numeral.ofReal_spec finite).1

/-- **What a number is read as** when it has been written. -/
def reread (n : Number) : Number := n.numeral.value?.getD n

/-- **Every number that is written has a value.** -/
theorem value?_numeral (n : Number) : n.numeral.value? = some n.reread := by
  have hsome : n.numeral.value?.isSome = true := by
    cases n with
    | natural n => rw [numeral, Numeral.value?_natural]; rfl
    | negative n below => rw [numeral, Numeral.value?_negative n below]; rfl
    | real x finite =>
      obtain ⟨y, hy, heq⟩ := (Numeral.ofReal_spec finite).2
      rw [numeral, heq]
      rfl
  obtain ⟨m, hm⟩ := Option.isSome_iff_exists.1 hsome
  rw [reread, hm]
  rfl

/-- An integer is read as itself. -/
theorem reread_of_isInteger {n : Number} (h : n.isInteger = true) : n.reread = n := by
  cases n with
  | natural n => rw [reread, numeral, Numeral.value?_natural]; rfl
  | negative n below => rw [reread, numeral, Numeral.value?_negative n below]; rfl
  | real x finite => cases h

/-- A double is read as a double. -/
theorem exists_reread_real {x : Float} (finite : x.isFinite = true) :
    ∃ y hy, (Number.real x finite).reread = .real y hy := by
  obtain ⟨y, hy, heq⟩ := (Numeral.ofReal_spec finite).2
  refine ⟨y, hy, ?_⟩
  rw [reread, numeral, heq]
  rfl

end Number

end RealtimeClient.Json
