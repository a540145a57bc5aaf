import Mathlib

/-!
# How large rounded numbers are

A bound on a number is a bound on the double next to it, if the bound is a double itself.  That is all that
is needed to see that arithmetic does not run away to infinity: nothing is said about which of the
neighbours of a number it is rounded to.

* `Canonical` — a mantissa and an exponent in the form of the format; `AtMost` — a finite number of that
  form with a bound on its magnitude.
* `atMost_roundWithAccuracy` — **rounding keeps to a bound that is a double**.
* `atMost_unpack_pack` — so does packing.
* `BoundedBy` — the same of doubles; `boundedBy_toFloat`, `BoundedBy.mul`, `BoundedBy.div`.
* `isFinite_toFloat` — **the double next to a natural number is finite**.
* `atMost_power` — so are the doubles next to the powers of ten, which are close above or below them.
-/

namespace RealtimeClient.Binary64

open Float.Model

/-! ## The form of the format -/

/-- **A mantissa and an exponent in the form of the format**: the mantissa is as long as it can be, unless
the exponent is the least one. -/
structure Canonical (m : Nat) (e : Int) : Prop where
  length : m < 2 ^ 53
  full : 2 ^ 52 ≤ m ∨ e = -1074
  least : -1074 ≤ e

/-- **A finite number of that form, with a bound on its magnitude.** -/
def AtMost (b : ℚ) : UnpackedFloat → Prop
  | .zero _ => True
  | .finite _ m e _ => Canonical m e ∧ (m : ℚ) * 2 ^ e ≤ b
  | _ => False

/-- **A finite number other than zero, with a bound on its magnitude from below.** -/
def AtLeast (c : ℚ) : UnpackedFloat → Prop
  | .finite _ m e _ => c ≤ (m : ℚ) * 2 ^ e
  | _ => False

theorem AtMost.mono {a b : ℚ} {u : UnpackedFloat} (h : AtMost a u) (hab : a ≤ b) : AtMost b u := by
  cases u with
  | finite s m e hm => exact ⟨h.1, h.2.trans hab⟩
  | _ => exact h

theorem AtLeast.mono {a b : ℚ} {u : UnpackedFloat} (h : AtLeast b u) (hab : a ≤ b) : AtLeast a u := by
  cases u with
  | finite s m e hm => exact hab.trans h
  | _ => exact h

/-! ## Rounding -/

/-- **Enough digits to round.**  Rounding drops digits and adds none. -/
def Enough (m : Nat) (e : Int) : Prop := 2 ^ 52 ≤ m ∨ e ≤ -1074

/-- The exponent that a number is rounded to. -/
def target (m : Nat) (e : Int) : Int := max (m.log2 + e - 52) (-1074)

theorem targetExponent_eq (m : Nat) (e : Int) :
    Format.binary64.targetExponent (totalExponent m e) = target m e := by
  simp only [Format.targetExponent, totalExponent, Format.mantissaBits, Format.minExponent, target]
  omega

theorem mantissa_shiftRight (em : UnpackedFloat.ExtendedMantissa) (k : Nat) :
    (em >>> k).mantissa = em.mantissa / 2 ^ k := by
  induction k with
  | zero => exact (Nat.div_one _).symm
  | succ k ih =>
    have hstep : (em >>> (k + 1)).mantissa = (em >>> k).mantissa / 2 := rfl
    rw [hstep, ih, Nat.div_div_eq_div_mul, pow_succ]

theorem roundedMantissa_le (em : UnpackedFloat.ExtendedMantissa) :
    em.mantissa ≤ em.roundedMantissa ∧ em.roundedMantissa ≤ em.mantissa + 1 := by
  obtain ⟨m, r, s⟩ := em
  cases r <;> cases s <;>
    simp only [UnpackedFloat.ExtendedMantissa.roundedMantissa,
      UnpackedFloat.ExtendedMantissa.accuracy, UnpackedFloat.Accuracy.roundToNearestEven] <;>
    omega

theorem mantissa_ofMantissaAndAccuracy (m : Nat) (accuracy : UnpackedFloat.Accuracy) :
    (UnpackedFloat.ExtendedMantissa.ofMantissaAndAccuracy m accuracy).mantissa = m := by
  cases accuracy with
  | exact => rfl
  | inexact o => cases o <;> rfl

/-- **A shift** drops the last digits of a mantissa. -/
theorem shift_eq (m : Nat) (e : Int) (accuracy : UnpackedFloat.Accuracy) :
    (UnpackedFloat.shiftToTargetExponent .binary64 m e accuracy).1.mantissa =
        m / 2 ^ (target m e - e).toNat ∧
      (UnpackedFloat.shiftToTargetExponent .binary64 m e accuracy).2 = e + (target m e - e).toNat := by
  simp only [UnpackedFloat.shiftToTargetExponent, UnpackedFloat.shiftToExponent, targetExponent_eq,
    mantissa_shiftRight, mantissa_ofMantissaAndAccuracy, and_self]

theorem log2_le_of_lt {m k : Nat} (h : m < 2 ^ (k + 1)) : m.log2 ≤ k := by
  by_cases hm : m = 0
  · simp [hm]
  · exact Nat.lt_succ_iff.1 ((Nat.log2_lt hm).2 h)

/-- What is left of a mantissa after a shift has the form of the format. -/
theorem canonical_of_enough {m : Nat} {e : Int} (h : Enough m e) :
    e ≤ target m e ∧ Canonical (m / 2 ^ (target m e - e).toNat) (target m e) := by
  have hlog : m ≠ 0 → 2 ^ m.log2 ≤ m := Nat.log2_self_le
  have hle : e ≤ target m e := by
    rcases h with hm | he
    · have := (Nat.le_log2 (by omega)).2 hm
      simp only [target]
      omega
    · simp only [target]
      omega
  refine ⟨hle, ?_, ?_, le_max_right _ _⟩
  · rw [Nat.div_lt_iff_lt_mul (Nat.two_pow_pos _), ← pow_add]
    refine Nat.lt_log2_self.trans_le (Nat.pow_le_pow_right (by decide) ?_)
    simp only [target]
    omega
  · by_cases hmin : target m e = -1074
    · exact .inr hmin
    · left
      have hlength : m.log2 = 52 + (target m e - e).toNat := by
        simp only [target] at hmin hle ⊢
        omega
      have hm : m ≠ 0 := by
        rintro rfl
        simp only [Nat.log2_zero] at hlength
        omega
      rw [Nat.le_div_iff_mul_le (Nat.two_pow_pos _), ← pow_add, ← hlength]
      exact hlog hm

/-- **A mantissa that rounding has made one digit too long** loses a zero at the end, and any other stays
as it is. -/
theorem shift_rounded {r : Nat} {t : Int} (hr : r ≤ 2 ^ 53) (hfull : 2 ^ 52 ≤ r ∨ t = -1074)
    (ht : -1074 ≤ t) :
    Canonical (UnpackedFloat.shiftToTargetExponent .binary64 r t .exact).1.mantissa
        (UnpackedFloat.shiftToTargetExponent .binary64 r t .exact).2 ∧
      ((UnpackedFloat.shiftToTargetExponent .binary64 r t .exact).1.mantissa : ℚ) *
        2 ^ (UnpackedFloat.shiftToTargetExponent .binary64 r t .exact).2 = r * 2 ^ t := by
  obtain ⟨hmantissa, hexponent⟩ := shift_eq r t .exact
  rw [hmantissa, hexponent]
  rcases hr.lt_or_eq with hlt | rfl
  · have hzero : (target r t - t).toNat = 0 := by
      have := log2_le_of_lt (k := 52) hlt
      simp only [target]
      omega
    rw [hzero]
    simp only [pow_zero, Nat.div_one, Nat.cast_zero, add_zero, and_true]
    exact ⟨hlt, hfull, ht⟩
  · have hone : (target (2 ^ 53) t - t).toNat = 1 := by
      simp only [target, Nat.log2_two_pow]
      omega
    rw [hone]
    refine ⟨⟨by decide, .inl (by decide), by omega⟩, ?_⟩
    rw [Nat.cast_one, zpow_add_one₀ (by decide)]
    norm_num
    ring

/-- A power of two below a number, with room for a whole mantissa. -/
theorem not_lt_of_target {m M : Nat} {e E : Int} (h : Enough m e) (hM : M ≤ 2 ^ 53) (hE : -1074 ≤ E)
    (hlt : E < target m e) : ¬(m : ℚ) * 2 ^ e < M * 2 ^ E := by
  have hm : m ≠ 0 := by
    rintro rfl
    simp only [target, Enough] at hlt h
    simp at hlt h
    omega
  have htarget : target m e = m.log2 + e - 52 := by
    simp only [target] at hlt ⊢
    omega
  rw [not_lt]
  calc (M : ℚ) * 2 ^ E ≤ 2 ^ (53 : Nat) * 2 ^ E := by
        gcongr
        exact_mod_cast hM
    _ = 2 ^ (53 + E) := by rw [zpow_add₀ (by decide), ← zpow_natCast, Nat.cast_ofNat]
    _ ≤ 2 ^ ((m.log2 : Int) + e) := zpow_le_zpow_right₀ (by decide) (by omega)
    _ = 2 ^ m.log2 * 2 ^ e := by rw [zpow_add₀ (by decide), zpow_natCast]
    _ ≤ m * 2 ^ e := by
        gcongr
        exact_mod_cast Nat.log2_self_le hm

/-- A number below a multiple of a unit, counted in that unit. -/
theorem div_lt_of_lt {m M k d : Nat} {e t E : Int} (ht : t = e + k) (hE : E = t + d)
    (hlt : (m : ℚ) * 2 ^ e < M * 2 ^ E) : m / 2 ^ k < M * 2 ^ d := by
  rw [Nat.div_lt_iff_lt_mul (Nat.two_pow_pos k)]
  have hpow : (M : ℚ) * 2 ^ E = (M * 2 ^ d * 2 ^ k : Nat) * 2 ^ e := by
    rw [hE, ht, zpow_add₀ (by decide), zpow_add₀ (by decide), zpow_natCast, zpow_natCast]
    push_cast
    ring
  rw [hpow] at hlt
  exact_mod_cast lt_of_mul_lt_mul_right hlt (zpow_pos (by norm_num) e).le

/-- **What is left after rounding**: a mantissa that was cut, or the next one. -/
theorem exists_rounded (s : UnpackedFloat.Sign) {m : Nat} {e : Int} (accuracy : UnpackedFloat.Accuracy)
    (h : Enough m e) :
    ∃ r : Nat, m / 2 ^ (target m e - e).toNat ≤ r ∧ r ≤ m / 2 ^ (target m e - e).toNat + 1 ∧
      ((r = 0 ∧ UnpackedFloat.roundWithAccuracy .binary64 s m e accuracy = .zero s) ∨
        ∃ m' e' hm', UnpackedFloat.roundWithAccuracy .binary64 s m e accuracy = .finite s m' e' hm' ∧
          Canonical m' e' ∧ (m' : ℚ) * 2 ^ e' = r * 2 ^ target m e) := by
  obtain ⟨hle, hcanonical⟩ := canonical_of_enough h
  obtain ⟨hmantissa, hexponent⟩ := shift_eq m e accuracy
  have hsum : e + ((target m e - e).toNat : Int) = target m e := by omega
  rw [hsum] at hexponent
  have hround := roundedMantissa_le (UnpackedFloat.shiftToTargetExponent .binary64 m e accuracy).1
  rw [hmantissa] at hround
  generalize hfirst : UnpackedFloat.shiftToTargetExponent .binary64 m e accuracy = first at *
  obtain ⟨em, t⟩ := first
  simp only at hmantissa hexponent hround
  subst hexponent
  have hlength := hcanonical.length
  obtain ⟨hform, hvalue⟩ := shift_rounded (r := em.roundedMantissa) (by omega)
    (hcanonical.full.imp_left fun hq => by omega) hcanonical.least
  refine ⟨em.roundedMantissa, hround.1, hround.2, ?_⟩
  rw [UnpackedFloat.roundWithAccuracy, hfirst]
  simp only
  split
  · next hzero =>
    rw [hzero, Nat.cast_zero, zero_mul, eq_comm, mul_eq_zero] at hvalue
    have hr : em.roundedMantissa = 0 := by
      have hpow : (2 : ℚ) ^ target m e ≠ 0 := zpow_ne_zero _ (by decide)
      exact_mod_cast hvalue.resolve_right hpow
    exact .inl ⟨hr, rfl⟩
  · next hpos => exact .inr ⟨_, _, Nat.pos_of_ne_zero hpos, rfl, hform, hvalue⟩

/-- **Rounding keeps to a bound that is a double.** -/
theorem atMost_roundWithAccuracy (s : UnpackedFloat.Sign) {m : Nat} {e : Int}
    (accuracy : UnpackedFloat.Accuracy) (h : Enough m e) {M : Nat} {E : Int} (hM : M ≤ 2 ^ 53)
    (hE : -1074 ≤ E) (hlt : (m : ℚ) * 2 ^ e < M * 2 ^ E) :
    AtMost (M * 2 ^ E) (UnpackedFloat.roundWithAccuracy .binary64 s m e accuracy) := by
  have htarget : target m e ≤ E := by
    by_contra hnot
    exact not_lt_of_target h hM hE (not_le.1 hnot) hlt
  have hle := (canonical_of_enough h).1
  obtain ⟨r, -, hr, ⟨-, heq⟩ | ⟨m', e', hm', heq, hform, hvalue⟩⟩ := exists_rounded s accuracy h
  · rw [heq]
    trivial
  · rw [heq]
    refine ⟨hform, hvalue.trans_le ?_⟩
    have hbound : r ≤ M * 2 ^ (E - target m e).toNat := by
      have := div_lt_of_lt (k := (target m e - e).toNat) (d := (E - target m e).toNat)
        (t := target m e) (by omega) (by omega) hlt
      omega
    have hpow : (2 : ℚ) ^ E = 2 ^ (E - target m e).toNat * 2 ^ target m e := by
      rw [← zpow_natCast, ← zpow_add₀ (by decide)]
      congr 1
      omega
    rw [hpow, ← mul_assoc]
    gcongr
    exact_mod_cast hbound

/-- **Rounding takes away less than half** of a number that has enough digits. -/
theorem atLeast_roundWithAccuracy (s : UnpackedFloat.Sign) {m : Nat} {e : Int}
    (accuracy : UnpackedFloat.Accuracy) (h : 2 ^ 52 ≤ m) (he : -1074 ≤ e) :
    AtLeast (m * 2 ^ e / 2) (UnpackedFloat.roundWithAccuracy .binary64 s m e accuracy) := by
  obtain ⟨hle, hcanonical⟩ := canonical_of_enough (e := e) (.inl h)
  have htarget : target m e = e + (target m e - e).toNat := by omega
  have hpos : 0 < m / 2 ^ (target m e - e).toNat := by
    have hlog := (Nat.le_log2 (by omega)).2 h
    refine Nat.div_pos ((Nat.pow_le_pow_right (by decide) ?_).trans (Nat.log2_self_le (by omega)))
      (Nat.two_pow_pos _)
    simp only [target]
    omega
  obtain ⟨r, hr, -, ⟨rfl, -⟩ | ⟨m', e', hm', heq, -, hvalue⟩⟩ := exists_rounded s accuracy (e := e) (.inl h)
  · omega
  · rw [heq, AtLeast, hvalue]
    generalize hk : (target m e - e).toNat = k at *
    have htwice : m ≤ 2 * (r * 2 ^ k) := by
      have hmod := Nat.mod_lt m (Nat.two_pow_pos k)
      have hdiv := Nat.div_add_mod m (2 ^ k)
      have hone := Nat.mul_le_mul_right (2 ^ k) hpos
      have hcut := Nat.mul_le_mul_right (2 ^ k) hr
      rw [Nat.mul_comm] at hdiv
      omega
    have hcast : (m : ℚ) ≤ 2 * (r * 2 ^ k) := by exact_mod_cast htwice
    rw [htarget, zpow_add₀ (by decide), zpow_natCast, div_le_iff₀ (by decide)]
    calc (m : ℚ) * 2 ^ e ≤ 2 * (r * 2 ^ k) * 2 ^ e := by gcongr
      _ = r * (2 ^ e * 2 ^ k) * 2 := by ring

/-- **There is a double close above every number** that is not zero. -/
theorem exists_double_above {n : Nat} (hn : n ≠ 0) :
    ∃ (M : Nat) (E : Int), M ≤ 2 ^ 53 ∧ -1074 ≤ E ∧ (n : ℚ) < M * 2 ^ E ∧
      (M : ℚ) * 2 ^ E ≤ n * (1 + 2 ^ (-52 : Int)) := by
  have hpos : (0 : ℚ) < 2 ^ ((n.log2 : Int) - 52) := zpow_pos (by norm_num) _
  have hlow : (2 : ℚ) ^ ((n.log2 : Int) - 52) ≤ n * 2 ^ (-52 : Int) := by
    rw [sub_eq_add_neg, zpow_add₀ (by decide), zpow_natCast]
    gcongr
    exact_mod_cast Nat.log2_self_le hn
  have hhigh : (n : ℚ) / 2 ^ ((n.log2 : Int) - 52) < (2 ^ 53 : Nat) := by
    rw [div_lt_iff₀ hpos]
    calc (n : ℚ) < 2 ^ (n.log2 + 1) := by exact_mod_cast Nat.lt_log2_self
      _ = (2 ^ 53 : Nat) * 2 ^ ((n.log2 : Int) - 52) := by
        rw [Nat.cast_pow, Nat.cast_ofNat, ← zpow_natCast, ← zpow_natCast, ← zpow_add₀ (by decide)]
        congr 1
        omega
  refine ⟨⌊(n : ℚ) / 2 ^ ((n.log2 : Int) - 52)⌋₊ + 1, n.log2 - 52, ?_, by omega, ?_, ?_⟩
  · exact Nat.succ_le_of_lt ((Nat.floor_lt (by positivity)).2 hhigh)
  · rw [← div_lt_iff₀ hpos]
    exact_mod_cast Nat.lt_floor_add_one _
  · have hfloor : (⌊(n : ℚ) / 2 ^ ((n.log2 : Int) - 52)⌋₊ : ℚ) * 2 ^ ((n.log2 : Int) - 52) ≤ n :=
      (le_div_iff₀ hpos).1 (Nat.floor_le (by positivity))
    rw [Nat.cast_add, Nat.cast_one, add_mul, one_mul, mul_add, mul_one]
    exact add_le_add hfloor hlow

/-! ## Numbers, products and quotients -/

/-- A natural number is given digits at the end until they are enough. -/
theorem atMost_ofUInt64 (n : UInt64) {M : Nat} {E : Int} (hM : M ≤ 2 ^ 53) (hE : -1074 ≤ E)
    (hlt : (n.toNat : ℚ) < M * 2 ^ E) : AtMost (M * 2 ^ E) (UnpackedFloat.ofUInt64 .binary64 n) := by
  simp only [UnpackedFloat.ofUInt64, UnpackedFloat.ofNat, UnpackedFloat.ofInt,
    UnpackedFloat.normalize]
  split
  · next hneg =>
    have := Int.compare_eq_lt.1 hneg
    omega
  · trivial
  · next hpos =>
    have hn : n.toNat ≠ 0 := by
      have := Int.compare_eq_gt.1 hpos
      omega
    simp only [Int.toNat_natCast, UnpackedFloat.round, UnpackedFloat.decreaseExponent, targetExponent_eq]
    generalize hk : (0 - target n.toNat 0).toNat = k
    refine atMost_roundWithAccuracy _ _ (.inl ?_) hM hE ?_
    · have hlength : 52 ≤ n.toNat.log2 + k := by
        simp only [target] at hk
        omega
      calc 2 ^ 52 ≤ 2 ^ (n.toNat.log2 + k) := Nat.pow_le_pow_right (by decide) hlength
        _ = 2 ^ n.toNat.log2 * 2 ^ k := pow_add ..
        _ ≤ n.toNat * 2 ^ k := Nat.mul_le_mul_right _ (Nat.log2_self_le hn)
        _ = n.toNat <<< k := (Nat.shiftLeft_eq ..).symm
    · rw [Nat.shiftLeft_eq, zero_sub, zpow_neg, zpow_natCast]
      push_cast
      rwa [mul_assoc, mul_inv_cancel₀ (by positivity), mul_one]

/-- Two mantissas in the form of the format have enough digits together. -/
theorem Canonical.enough {m m' : Nat} {e e' : Int} (h : Canonical m e) (h' : Canonical m' e') (hm : 0 < m)
    (hm' : 0 < m') : Enough (m * m') (e + e') := by
  rcases h.full with hfull | he
  · exact .inl (hfull.trans (Nat.le_mul_of_pos_right m hm'))
  · rcases h'.full with hfull | he'
    · exact .inl (hfull.trans (Nat.le_mul_of_pos_left m' hm))
    · exact .inr (by omega)

/-- **A product keeps to a bound on the product of the bounds.** -/
theorem atMost_mul {u v : UnpackedFloat} {a b : ℚ} (hu : AtMost a u) (hv : AtMost b v) {M : Nat} {E : Int}
    (hM : M ≤ 2 ^ 53) (hE : -1074 ≤ E) (hlt : a * b < M * 2 ^ E) :
    AtMost (M * 2 ^ E) (UnpackedFloat.mul .binary64 u v) := by
  cases u with
  | zero s =>
    cases v with
    | zero | finite => trivial
    | _ => exact hv.elim
  | finite s m e hm =>
    cases v with
    | zero s' => trivial
    | finite s' m' e' hm' =>
      obtain ⟨hform, hle⟩ := hu
      obtain ⟨hform', hle'⟩ := hv
      refine atMost_roundWithAccuracy _ _ (hform.enough hform' hm hm') hM hE (lt_of_le_of_lt ?_ hlt)
      calc ((m * m' : Nat) : ℚ) * 2 ^ (e + e') = (m * 2 ^ e) * (m' * 2 ^ e') := by
            rw [zpow_add₀ (by decide)]
            push_cast
            ring
        _ ≤ a * b := by
            have hnonneg : (0 : ℚ) ≤ m * 2 ^ e := by positivity
            gcongr
            exact hnonneg.trans hle
    | _ => cases hv
  | _ => cases hu

/-- A quotient is given digits until they are enough. -/
theorem enough_divCore {m m' : Nat} (e e' : Int) (hm : 0 < m) (hm' : 0 < m') :
    Enough (UnpackedFloat.divCore .binary64 m e m' e').1 (UnpackedFloat.divCore .binary64 m e m' e').2.1 := by
  have htarget (t : Int) : Format.binary64.targetExponent t = max (t - 53) (-1074) := by
    simp only [Format.targetExponent, Format.mantissaBits, Format.minExponent]
    omega
  simp only [UnpackedFloat.divCore, totalExponent, htarget]
  by_cases hleast : min (e - e') (max ((m.log2 : Int) + 1 + e - (m'.log2 + 1 + e') - 53) (-1074)) ≤ -1074
  · exact .inr hleast
  · refine .inl ?_
    generalize ht : min (e - e') (max ((m.log2 : Int) + 1 + e - (m'.log2 + 1 + e') - 53) (-1074)) = t at *
    rw [Nat.le_div_iff_mul_le hm', Nat.shiftLeft_eq]
    have hlength : 53 + m'.log2 ≤ m.log2 + (e - e' - t).toNat := by omega
    calc 2 ^ 52 * m' ≤ 2 ^ 52 * 2 ^ (m'.log2 + 1) := Nat.mul_le_mul_left _ Nat.lt_log2_self.le
      _ = 2 ^ (53 + m'.log2) := by rw [← pow_add]; congr 1; omega
      _ ≤ 2 ^ (m.log2 + (e - e' - t).toNat) := Nat.pow_le_pow_right (by decide) hlength
      _ = 2 ^ m.log2 * 2 ^ (e - e' - t).toNat := pow_add ..
      _ ≤ m * 2 ^ (e - e' - t).toNat := Nat.mul_le_mul_right _ (Nat.log2_self_le hm.ne')

/-- The digits that are left out make the quotient no larger. -/
theorem divCore_le {m m' : Nat} (e e' : Int) (hm' : 0 < m') :
    ((UnpackedFloat.divCore .binary64 m e m' e').1 : ℚ) *
      2 ^ (UnpackedFloat.divCore .binary64 m e m' e').2.1 ≤ (m * 2 ^ e) / (m' * 2 ^ e') := by
  simp only [UnpackedFloat.divCore]
  generalize ht : min (e - e') (Format.binary64.targetExponent (totalExponent m e - totalExponent m' e')) = t
  have hle : t ≤ e - e' := ht ▸ min_le_left _ _
  have hfloor : ((m <<< (e - e' - t).toNat / m' : Nat) : ℚ) ≤ (m * 2 ^ (e - e' - t)) / m' := by
    refine Nat.cast_div_le.trans (le_of_eq ?_)
    rw [Nat.shiftLeft_eq]
    push_cast
    rw [← zpow_natCast, Int.toNat_of_nonneg (by omega)]
  calc _ ≤ (m * 2 ^ (e - e' - t)) / m' * (2 : ℚ) ^ t := by gcongr
    _ = (m * 2 ^ e) / (m' * 2 ^ e') := by
      have hm : (m' : ℚ) ≠ 0 := by exact_mod_cast hm'.ne'
      rw [zpow_sub₀ (by decide), zpow_sub₀ (by decide)]
      field_simp

/-- **A quotient keeps to a bound on the quotient of the bounds.** -/
theorem atMost_div {u v : UnpackedFloat} {a c : ℚ} (hu : AtMost a u) (hv : AtLeast c v) (hc : 0 < c)
    {M : Nat} {E : Int} (hM : M ≤ 2 ^ 53) (hE : -1074 ≤ E) (hlt : a / c < M * 2 ^ E) :
    AtMost (M * 2 ^ E) (UnpackedFloat.div .binary64 u v) := by
  cases v with
  | finite s' m' e' hm' =>
    cases u with
    | zero s => trivial
    | finite s m e hm =>
      refine atMost_roundWithAccuracy _ _ (enough_divCore e e' hm hm') hM hE (lt_of_le_of_lt ?_ hlt)
      refine (divCore_le e e' hm').trans ?_
      have hnonneg : (0 : ℚ) ≤ m * 2 ^ e := by positivity
      exact div_le_div₀ (hnonneg.trans hu.2) hu.2 hc hv
    | _ => cases hu
  | _ => cases hv

/-! ## Packing -/

/-- The exponent of a number below the first power of two beyond the format. -/
theorem Canonical.exponent_le {m : Nat} {e : Int} (h : Canonical m e) (hlt : (m : ℚ) * 2 ^ e < 2 ^ 1024) :
    e ≤ 971 := by
  by_contra hnot
  have hfull : 2 ^ 52 ≤ m := h.full.resolve_right (by omega)
  refine absurd hlt (not_lt.2 ?_)
  calc (2 : ℚ) ^ 1024 = (2 : ℚ) ^ 52 * (2 : ℚ) ^ (972 : Int) := by
        rw [← zpow_natCast, ← zpow_natCast, ← zpow_add₀ (by decide)]
        rfl
    _ ≤ (m : ℚ) * 2 ^ e := by
      gcongr
      · exact_mod_cast hfull
      · norm_num
      · omega

/-- A packed number whose exponent is not the least one has a leading digit that is not written. -/
theorem unpack_normal (s : UnpackedFloat.Sign) {x : BitVec 11} (hones : x ≠ -1#11) (hzeros : x ≠ 0#11)
    (y : BitVec 52) :
    ∃ s' h, UnpackedFloat.unpack .binary64 (UnpackedFloat.packComponents .binary64 s x y) =
      .finite s' (2 ^ 52 + y.toNat) (x.toNat - 1075) h := by
  have hmantissa : (1#1 ++ y).toNat = 2 ^ 52 + y.toNat := by
    rw [BitVec.toNat_append, ← Nat.shiftLeft_add_eq_or_of_lt y.isLt]
    rfl
  have hbias : Format.binary64.exponentBias = 1023 := by decide
  have hexponent : (x.toNat : Int) - ((1023 : Nat) + (52 : Nat)) = x.toNat - 1075 := by omega
  simp only [UnpackedFloat.unpack, UnpackedFloat.unpackMantissa_packComponents,
    UnpackedFloat.unpackExponent_packComponents, if_neg hones, if_neg hzeros, hmantissa, hbias,
    hexponent]
  exact ⟨_, by omega, rfl⟩

/-- One with the least exponent has not. -/
theorem unpack_subnormal (s : UnpackedFloat.Sign) {y : BitVec 52} (hy : y ≠ 0#52) :
    ∃ s' h, UnpackedFloat.unpack .binary64 (UnpackedFloat.packComponents .binary64 s 0#11 y) =
      .finite s' y.toNat (-1074) h := by
  have hones : (0#11 : BitVec 11) ≠ -1#11 := by decide
  have hpos : 0 < y.toNat := by
    rw [BitVec.toNat_pos]
    exact (BitVec.pos_iff_ne_zero y).2 hy
  simp only [UnpackedFloat.unpack, UnpackedFloat.unpackMantissa_packComponents,
    UnpackedFloat.unpackExponent_packComponents, if_neg hones, if_true, dif_neg hy]
  exact ⟨_, hpos, rfl⟩

/-- **A number of the format is packed as it is**, but for its sign. -/
theorem unpack_pack (s : UnpackedFloat.Sign) {m : Nat} {e : Int} (hm : 0 < m) (h : Canonical m e)
    (hupper : e ≤ 971) :
    ∃ s', UnpackedFloat.unpack .binary64 (UnpackedFloat.pack .binary64 (.finite s m e hm)) =
      .finite s' m e hm := by
  have hbias : Format.binary64.exponentBias = 1023 := by decide
  have hlower := h.least
  have hlength := h.length
  have hinf : ¬2 ^ 11 ≤ (e + 1023 + 52).toNat + 1 := by omega
  simp only [UnpackedFloat.pack, hbias, Nat.cast_ofNat, if_neg hinf]
  by_cases hfull : 2 ^ 52 ≤ m
  · have hlog : m.log2 + 1 = Format.binary64.mantissaBits :=
      congrArg (· + 1) ((Nat.log2_eq_iff hm.ne').2 ⟨hfull, hlength⟩)
    have hexponent : (BitVec.ofNat 11 (e + 1023 + 52).toNat).toNat = (e + 1023 + 52).toNat := by
      rw [BitVec.toNat_ofNat]
      omega
    obtain ⟨s', h', heq⟩ := unpack_normal s (x := BitVec.ofNat 11 (e + 1023 + 52).toNat)
      (by rw [ne_eq, ← BitVec.toNat_inj, hexponent, show (-1#11).toNat = 2047 by decide]; omega)
      (by rw [ne_eq, ← BitVec.toNat_inj, hexponent, BitVec.toNat_ofNat]; omega) (BitVec.ofNat 52 m)
    have hmantissa : 2 ^ 52 + (BitVec.ofNat 52 m).toNat = m := by
      rw [BitVec.toNat_ofNat]
      omega
    have hvalue : ((BitVec.ofNat 11 (e + 1023 + 52).toNat).toNat : Int) - 1075 = e := by
      rw [hexponent]
      omega
    simp only [hmantissa, hvalue] at heq
    exact ⟨s', (congrArg _ (if_pos hlog)).trans heq⟩
  · obtain rfl : e = -1074 := h.full.resolve_left hfull
    have hlog : m.log2 + 1 ≠ Format.binary64.mantissaBits := by
      have := log2_le_of_lt (m := m) (k := 51) (by omega)
      simp only [Format.mantissaBits]
      omega
    have hmantissa : (BitVec.ofNat 52 m).toNat = m := by
      rw [BitVec.toNat_ofNat]
      omega
    obtain ⟨s', h', heq⟩ := unpack_subnormal s (y := BitVec.ofNat 52 m)
      (by rw [ne_eq, ← BitVec.toNat_inj, hmantissa]; exact hm.ne')
    simp only [hmantissa] at heq
    exact ⟨s', (congrArg _ (if_neg hlog)).trans heq⟩

variable {u : UnpackedFloat} {b c : ℚ}

/-- **What keeps to a bound within the format keeps to it when it is packed.** -/
theorem atMost_unpack_pack (h : AtMost b u) (hb : b < 2 ^ 1024) :
    AtMost b (UnpackedFloat.unpack .binary64 (UnpackedFloat.pack .binary64 u)) := by
  cases u with
  | zero s => simp [UnpackedFloat.pack, UnpackedFloat.packedZero, UnpackedFloat.unpack, AtMost]
  | finite s m e hm =>
    obtain ⟨s', heq⟩ := unpack_pack s hm h.1 (h.1.exponent_le (h.2.trans_lt hb))
    rw [heq]
    exact h
  | _ => exact h.elim

theorem atLeast_unpack_pack (h : AtMost b u) (hb : b < 2 ^ 1024) (hc : AtLeast c u) :
    AtLeast c (UnpackedFloat.unpack .binary64 (UnpackedFloat.pack .binary64 u)) := by
  cases u with
  | finite s m e hm =>
    obtain ⟨s', heq⟩ := unpack_pack s hm h.1 (h.1.exponent_le (h.2.trans_lt hb))
    rw [heq]
    exact hc
  | _ => exact hc.elim

/-! ## Doubles -/

/-- **A finite double with a bound on its magnitude.** -/
def BoundedBy (b : ℚ) (x : Float) : Prop := AtMost b x.toModel.unpack

theorem BoundedBy.isFinite {b : ℚ} {x : Float} (h : BoundedBy b x) :
    x.isFinite = true ∧ x.isInf = false := by
  show x.toModel.unpack.isFinite = true ∧ x.toModel.unpack.isInf = false
  unfold BoundedBy at h
  cases hx : x.toModel.unpack with
  | zero | finite => exact ⟨rfl, rfl⟩
  | _ =>
    rw [hx] at h
    exact h.elim

theorem BoundedBy.mono {a b : ℚ} {x : Float} (h : BoundedBy a x) (hab : a ≤ b) : BoundedBy b x :=
  AtMost.mono h hab

/-- The sign makes no difference. -/
theorem BoundedBy.neg {b : ℚ} {x : Float} (h : BoundedBy b x) (hb : b < 2 ^ 1024) : BoundedBy b (-x) := by
  refine atMost_unpack_pack ?_ hb
  unfold BoundedBy at h
  cases hx : x.toModel.unpack with
  | zero s => trivial
  | finite s m e hm =>
    rw [hx] at h
    exact h
  | _ =>
    rw [hx] at h
    exact h.elim

section

variable {M : Nat} {E : Int} (hM : M ≤ 2 ^ 53) (hE : -1074 ≤ E) (hb : (M : ℚ) * 2 ^ E < 2 ^ 1024)

include hM hE hb

theorem boundedBy_toFloat {n : UInt64} (hlt : (n.toNat : ℚ) < M * 2 ^ E) :
    BoundedBy (M * 2 ^ E) n.toFloat :=
  atMost_unpack_pack (atMost_ofUInt64 n hM hE hlt) hb

theorem BoundedBy.mul {a b : ℚ} {x y : Float} (hx : BoundedBy a x) (hy : BoundedBy b y)
    (hlt : a * b < M * 2 ^ E) : BoundedBy (M * 2 ^ E) (x * y) :=
  atMost_unpack_pack (atMost_mul hx hy hM hE hlt) hb

theorem BoundedBy.div {a c : ℚ} {x y : Float} (hx : BoundedBy a x) (hy : AtLeast c y.toModel.unpack)
    (hc : 0 < c) (hlt : a / c < M * 2 ^ E) : BoundedBy (M * 2 ^ E) (x / y) :=
  atMost_unpack_pack (atMost_div hx hy hc hM hE hlt) hb

end

/-- Natural numbers of 64 bits are far below the largest double. -/
theorem boundedBy_toFloat_size (n : UInt64) : BoundedBy (2 ^ 64) n.toFloat := by
  have hbound : ((2 ^ 53 : Nat) : ℚ) * 2 ^ (11 : Int) = 2 ^ 64 := by norm_num
  have hn : (n.toNat : ℚ) < 2 ^ 64 := by exact_mod_cast n.toNat_lt
  rw [← hbound] at hn ⊢
  refine boundedBy_toFloat le_rfl (by decide) ?_ hn
  rw [hbound]
  exact pow_lt_pow_right₀ (by norm_num) (by norm_num)

/-- **The double next to a natural number is finite.** -/
theorem isFinite_toFloat (n : UInt64) : n.toFloat.isFinite = true :=
  (boundedBy_toFloat_size n).isFinite.1

/-! ## Powers of ten -/

instance (m : Nat) (e : Int) : Decidable (Canonical m e) :=
  decidable_of_iff (m < 2 ^ 53 ∧ (2 ^ 52 ≤ m ∨ e = -1074) ∧ -1074 ≤ e)
    ⟨fun h => ⟨h.1, h.2.1, h.2.2⟩, fun h => ⟨h.length, h.full, h.least⟩⟩

instance (b : ℚ) : (u : UnpackedFloat) → Decidable (AtMost b u)
  | .zero _ => .isTrue trivial
  | .finite _ m e _ => inferInstanceAs (Decidable (Canonical m e ∧ (m : ℚ) * 2 ^ e ≤ b))
  | .infinity _ | .notANumber => .isFalse id

instance (b : ℚ) : (u : UnpackedFloat) → Decidable (AtLeast b u)
  | .finite _ m e _ => inferInstanceAs (Decidable (b ≤ (m : ℚ) * 2 ^ e))
  | .zero _ | .infinity _ | .notANumber => .isFalse id

instance (b : ℚ) (x : Float) : Decidable (BoundedBy b x) :=
  inferInstanceAs (Decidable (AtMost b x.toModel.unpack))

/-- Large powers of ten are rounded from the integer. -/
theorem toModel_power {k : Nat} (hlow : 22 < k) (hk : k ≤ 308) :
    (Float.ofScientific 1 false k).toModel =
      .pack (UnpackedFloat.roundWithAccuracy .binary64 .positive (2 ^ 53 * 10 ^ k) (-53) .exact) := by
  have hlarge : ¬((k : Int) > 2 ^ 11) := by omega
  have hneg : ¬((k : Int) < -(2 ^ 11 + (Nat.log2 1 : Int))) := by
    rw [show Nat.log2 1 = 0 by decide]
    omega
  have hnonneg : 0 ≤ (k : Int) := by omega
  rw [Float.ofScientific, dif_neg (by omega)]
  show Float.Model.pack (UnpackedFloat.ofScientific .binary64 1 (k : Int)) = _
  rw [UnpackedFloat.ofScientific, dif_neg (by decide), if_neg hlarge, if_neg hneg, if_pos hnonneg]
  rfl

theorem power_lt : (10 : ℚ) ^ 308 * (3 / 2) < 2 ^ 1024 := by
  have hnat : 10 ^ 308 * 3 < 2 ^ 1024 * 2 := by decide +kernel
  rw [← mul_div_assoc, div_lt_iff₀ (by norm_num)]
  exact_mod_cast hnat

/-- **The double next to a power of ten** is about as large. -/
theorem atMost_power {k : Nat} (hk : k ≤ 308) :
    AtMost (10 ^ k * (1 + 2 ^ (-52 : Int))) (Float.ofScientific 1 false k).toModel.unpack ∧
      (k ≠ 0 → AtLeast 2 (Float.ofScientific 1 false k).toModel.unpack) := by
  by_cases hsmall : k ≤ 22
  · have hall : ∀ k ≤ 22,
        AtMost (10 ^ k * (1 + 2 ^ (-52 : Int))) (Float.ofScientific 1 false k).toModel.unpack ∧
          (k ≠ 0 → AtLeast 2 (Float.ofScientific 1 false k).toModel.unpack) := by
      decide +kernel
    exact hall k hsmall
  · rw [toModel_power (by omega) hk]
    obtain ⟨M, E, hM, hE, hlt, hle⟩ := exists_double_above (n := 10 ^ k) (Nat.pow_pos (by decide)).ne'
    push_cast at hlt hle
    have hvalue : ((2 ^ 53 * 10 ^ k : Nat) : ℚ) * 2 ^ (-53 : Int) = 10 ^ k := by
      push_cast
      rw [mul_right_comm]
      norm_num
    have hmantissa : 2 ^ 52 ≤ 2 ^ 53 * 10 ^ k :=
      (by decide : 2 ^ 52 ≤ 2 ^ 53).trans (Nat.le_mul_of_pos_right _ (Nat.pow_pos (by decide)))
    have hround : AtMost (10 ^ k * (1 + 2 ^ (-52 : Int))) (UnpackedFloat.roundWithAccuracy .binary64
        .positive (2 ^ 53 * 10 ^ k) (-53) .exact) :=
      (atMost_roundWithAccuracy _ _ (.inl hmantissa) hM hE (hvalue.trans_lt hlt)).mono hle
    have hfar : (10 : ℚ) ^ k * (1 + 2 ^ (-52 : Int)) < 2 ^ 1024 :=
      calc (10 : ℚ) ^ k * (1 + 2 ^ (-52 : Int)) ≤ 10 ^ 308 * (3 / 2) := by
            gcongr
            · norm_num
            · norm_num
        _ < 2 ^ 1024 := power_lt
    refine ⟨atMost_unpack_pack hround hfar, fun hk0 => atLeast_unpack_pack hround hfar ?_⟩
    have hhalf := atLeast_roundWithAccuracy .positive .exact hmantissa (e := -53) (by decide)
    rw [hvalue] at hhalf
    refine hhalf.mono ?_
    have hten : (10 : ℚ) ^ 1 ≤ 10 ^ k := pow_le_pow_right₀ (by norm_num) (by omega)
    linarith

end RealtimeClient.Binary64
