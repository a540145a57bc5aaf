import Mathlib
import RealtimeClient.Binary64.Shortest
import RealtimeClient.Proofs.Decimal

/-!
# The digits that are written for a double

Which decimal is found for a double does not matter to a reader as much as how large it is, and how long.
It lies in the span of the double, so it is no larger than the upper end of the span.  It has one digit at
least and eighteen at most, since the search begins where the double has its first digit.

* `Span.Proper` — the ends are apart from zero and in their order.
* `leadingPower_spec` — where the first digit stands.
* `Span.firstHit_spec` — **the decimal that is found**: more than nothing, and not above the span.
* `IsDecimal`, `isDecimal_shortest` — the digits that are written.
-/

namespace RealtimeClient.Binary64

/-! ## The first digit -/

theorem lt_pow_length_toDigits (n : Nat) : n < 10 ^ (Nat.toDigits 10 n).length :=
  (Nat.length_toDigits_le_iff (by decide) Nat.length_toDigits_pos).1 le_rfl

theorem pow_length_toDigits_le {n : Nat} (hn : 0 < n) : 10 ^ ((Nat.toDigits 10 n).length - 1) ≤ n := by
  by_cases hone : (Nat.toDigits 10 n).length - 1 = 0
  · rw [hone]
    exact hn
  · by_contra hlt
    have := (Nat.length_toDigits_le_iff (by decide) (Nat.pos_of_ne_zero hone)).2 (not_le.1 hlt)
    omega

/-- **The power of ten of the first digit.** -/
theorem leadingPower_spec {num den : Nat} (hnum : 0 < num) (hden : 0 < den) :
    (10 : ℚ) ^ leadingPower num den ≤ num / den ∧ (num : ℚ) / den < 10 ^ (leadingPower num den + 1) := by
  have hnum' : (0 : ℚ) < num := by exact_mod_cast hnum
  have hden' : (0 : ℚ) < den := by exact_mod_cast hden
  unfold leadingPower
  split_ifs with h
  · have hlow := pow_length_toDigits_le (Nat.div_pos h hden)
    have hhigh := lt_pow_length_toDigits (num / den)
    have hlength : 0 < (Nat.toDigits 10 (num / den)).length := Nat.length_toDigits_pos
    generalize (Nat.toDigits 10 (num / den)).length = n at *
    rw [Nat.le_div_iff_mul_le hden] at hlow
    rw [Nat.div_lt_iff_lt_mul hden] at hhigh
    rw [sub_add_cancel, zpow_natCast, le_div_iff₀ hden', div_lt_iff₀ hden',
      show ((n : Int) - 1) = ((n - 1 : Nat) : Int) by omega, zpow_natCast]
    exact ⟨by exact_mod_cast hlow, by exact_mod_cast hhigh⟩
  · have hcut : (den + num - 1) / num - 1 = (den - 1) / num := by
      rw [show den + num - 1 = den - 1 + num by omega, Nat.add_div_right _ hnum, Nat.add_sub_cancel]
    rw [hcut]
    have hlow := pow_length_toDigits_le (Nat.div_pos (by omega : num ≤ den - 1) hnum)
    have hhigh := lt_pow_length_toDigits ((den - 1) / num)
    have hlength : 0 < (Nat.toDigits 10 ((den - 1) / num)).length := Nat.length_toDigits_pos
    generalize (Nat.toDigits 10 ((den - 1) / num)).length = n at *
    rw [Nat.le_div_iff_mul_le hnum] at hlow
    rw [Nat.div_lt_iff_lt_mul hnum] at hhigh
    have hten : (0 : ℚ) < 10 ^ n := by positivity
    rw [show -(n : Int) + 1 = -((n - 1 : Nat) : Int) by omega, zpow_neg, zpow_neg, zpow_natCast, zpow_natCast,
      div_lt_iff₀ hden', le_div_iff₀ hden', inv_mul_le_iff₀ hten, lt_inv_mul_iff₀ (by positivity)]
    exact ⟨by exact_mod_cast (by omega : den ≤ 10 ^ n * num),
      by exact_mod_cast (by omega : 10 ^ (n - 1) * num < den)⟩

namespace Span

variable {s : Span} {n : Nat} {k : Int}

/-! ## The decimal -/

/-- **A span of numbers above zero.** -/
structure Proper (s : Span) : Prop where
  low : 0 < s.low
  low_le : s.low ≤ s.mid
  le_high : s.mid ≤ s.high
  den : 0 < s.den

/-- The double itself. -/
def value (s : Span) : ℚ := s.mid / s.den

/-- The upper end. -/
def upper (s : Span) : ℚ := s.high / s.den

theorem Proper.inUnits (h : s.Proper) (k : Int) : (s.inUnits k).Proper where
  low := Nat.mul_pos h.low (Nat.pow_pos (by decide))
  low_le := Nat.mul_le_mul_right _ h.low_le
  le_high := Nat.mul_le_mul_right _ h.le_high
  den := Nat.mul_pos h.den (Nat.pow_pos (by decide))

/-- A quotient in units of a power of ten. -/
theorem quotient_inUnits (a b : Nat) (k : Int) :
    ((a * Nat.pow 10 (-k).toNat : Nat) : ℚ) / (b * Nat.pow 10 k.toNat : Nat) = a / b * 10 ^ (-k) := by
  have hpow : (10 : ℚ) ^ (-k) = 10 ^ (-k).toNat / 10 ^ k.toNat := by
    rw [← zpow_natCast, ← zpow_natCast, ← zpow_sub₀ (by decide)]
    congr 1
    omega
  rw [hpow, Nat.pow_eq, Nat.pow_eq]
  push_cast
  exact mul_div_mul_comm (a : ℚ) _ _ _

theorem value_inUnits (s : Span) (k : Int) : (s.inUnits k).value = s.value * 10 ^ (-k) :=
  quotient_inUnits s.mid s.den k

theorem upper_inUnits (s : Span) (k : Int) : (s.inUnits k).upper = s.upper * 10 ^ (-k) :=
  quotient_inUnits s.high s.den k

/-- **A number of units in the span** is not zero, not above the span, and next to the double. -/
theorem candidate?_spec (h : s.Proper) (hn : s.candidate? = some n) :
    0 < n ∧ (n : ℚ) ≤ s.upper ∧ n ≤ s.mid / s.den + 1 := by
  have hden : (0 : ℚ) < s.den := by exact_mod_cast h.den
  have hcontains {n : Nat} (hn : s.Contains n) : 0 < n ∧ (n : ℚ) ≤ s.upper := by
    have hends : s.low ≤ n * s.den ∧ n * s.den ≤ s.high := by
      unfold Contains at hn
      split at hn
      · exact hn
      · exact ⟨hn.1.le, hn.2.le⟩
    have hlow := h.low
    refine ⟨Nat.pos_of_ne_zero ?_, ?_⟩
    · rintro rfl
      omega
    · rw [upper, le_div_iff₀ hden]
      exact_mod_cast hends.2
  unfold candidate? at hn
  dsimp only at hn
  split_ifs at hn with hfloor hnext hnext <;> obtain rfl := Option.some.inj hn
  · exact ⟨(hcontains hnext.1).1, (hcontains hnext.1).2, le_rfl⟩
  · exact ⟨(hcontains hfloor).1, (hcontains hfloor).2, Nat.le_succ _⟩
  · exact ⟨(hcontains hnext).1, (hcontains hnext).2, le_rfl⟩

/-- The search gives the first hit, or the last grid. -/
theorem firstHit_eq (s : Span) (k : Int) (places : Nat) :
    (k - places < (s.firstHit k places).2 ∧ (s.firstHit k places).2 ≤ k ∧
      (s.inUnits (s.firstHit k places).2).candidate? = some (s.firstHit k places).1) ∨
    s.firstHit k places =
      ((s.inUnits (k - places)).mid / (s.inUnits (k - places)).den, k - places) := by
  induction places generalizing k with
  | zero =>
    right
    rw [firstHit, Nat.cast_zero, sub_zero]
  | succ places ih =>
    rw [firstHit]
    cases hcandidate : (s.inUnits k).candidate? with
    | some n =>
      left
      dsimp only
      exact ⟨by push_cast; omega, le_rfl, hcandidate⟩
    | none =>
      dsimp only
      have hsub : k - 1 - (places : Int) = k - ((places + 1 : Nat) : Int) := by push_cast; ring
      rcases ih (k - 1) with ⟨hlow, hhigh, hit⟩ | hlast
      · exact .inl ⟨by omega, by omega, hit⟩
      · rw [hsub] at hlast
        exact .inr hlast

/-- What is counted in units of a power of ten. -/
theorem mul_pow_le_iff {a b : ℚ} {j : Int} : a * 10 ^ j ≤ b ↔ a ≤ b * 10 ^ (-j) := by
  rw [zpow_neg, ← div_eq_mul_inv, le_div_iff₀ (zpow_pos (by decide) j)]

/-- **The decimal that is found.**  The search begins where the double has its first digit, so the last
grid still has a number of units below the double. -/
theorem firstHit_spec (h : s.Proper) (hk : (10 : ℚ) ^ k ≤ s.value) (hk' : s.value < 10 ^ (k + 1))
    (places : Nat) :
    0 < (s.firstHit k places).1 ∧ (s.firstHit k places).1 < 10 ^ (places + 1) ∧
      ((s.firstHit k places).1 : ℚ) * 10 ^ (s.firstHit k places).2 ≤ s.upper ∧
        k - places ≤ (s.firstHit k places).2 := by
  have hten : (1 : ℚ) < 10 := by decide
  have hfloor (j : Int) : (((s.inUnits j).mid / (s.inUnits j).den : Nat) : ℚ) ≤ s.value * 10 ^ (-j) :=
    Nat.cast_div_le.trans_eq (value_inUnits s j)
  have hunits {j : Int} {d : Nat} (hj : k + 1 - j ≤ d) :
      (s.inUnits j).mid / (s.inUnits j).den < 10 ^ d := by
    have hlt : s.value * 10 ^ (-j) < 10 ^ (d : Int) := by
      calc s.value * 10 ^ (-j) < 10 ^ (k + 1) * 10 ^ (-j) := by gcongr
        _ = 10 ^ (k + 1 - j) := by rw [← zpow_add₀ (by decide), sub_eq_add_neg]
        _ ≤ 10 ^ (d : Int) := zpow_le_zpow_right₀ hten.le hj
    exact_mod_cast (hfloor j).trans_lt hlt
  rcases firstHit_eq s k places with ⟨hlow, -, hit⟩ | hlast
  · obtain ⟨hpos, hle, hnext⟩ := candidate?_spec (h.inUnits _) hit
    rw [upper_inUnits] at hle
    refine ⟨hpos, ?_, mul_pow_le_iff.2 hle, hlow.le⟩
    have hcut := hunits (j := (s.firstHit k places).2) (d := places) (by omega)
    rw [pow_succ]
    omega
  · rw [hlast]
    dsimp only
    have hcut := hunits (j := k - places) (d := places + 1) (by push_cast; omega)
    have hvalue : s.value ≤ s.upper := by
      have hle : (s.mid : ℚ) ≤ s.high := by exact_mod_cast h.le_high
      unfold value upper
      gcongr
    refine ⟨Nat.div_pos ?_ (h.inUnits _).den, hcut,
      mul_pow_le_iff.2 ((hfloor _).trans (by gcongr)), le_rfl⟩
    have hone : (1 : ℚ) ≤ (s.inUnits (k - places)).value := by
      rw [value_inUnits]
      calc (1 : ℚ) ≤ 10 ^ places := one_le_pow₀ hten.le
        _ = 10 ^ k * 10 ^ (-(k - places)) := by
          rw [← zpow_add₀ (by decide), ← zpow_natCast]
          congr 1
          ring
        _ ≤ s.value * 10 ^ (-(k - places)) := by gcongr
    rw [value, one_le_div (by exact_mod_cast (h.inUnits _).den)] at hone
    exact_mod_cast hone

end Span

/-! ## The digits -/

/-- Zeros at the end are left out. -/
theorem exists_dropTrailingZeros (digits : List Char) :
    ∃ zeros, digits = dropTrailingZeros digits ++ List.replicate zeros '0' := by
  refine ⟨(digits.reverse.takeWhile (· = '0')).length, ?_⟩
  have hzeros : digits.reverse.takeWhile (· = '0') =
      List.replicate (digits.reverse.takeWhile (· = '0')).length '0' := by
    rw [List.eq_replicate_iff]
    exact ⟨rfl, fun c hc => by simpa using List.mem_takeWhile_imp hc⟩
  have hsplit := congrArg List.reverse (List.takeWhile_append_dropWhile (p := (· = '0')) (l := digits.reverse))
  rw [List.reverse_append, List.reverse_reverse, hzeros, List.reverse_replicate] at hsplit
  exact hsplit.symm

theorem value_append_zeros (digits : List Char) (zeros : Nat) :
    Decimal.value (digits ++ List.replicate zeros '0') = Decimal.value digits * 10 ^ zeros := by
  rw [Decimal.value, Nat.ofDigitChars_append, Nat.ofDigitChars_replicate_zero, Nat.mul_comm]
  rfl

/-- **The digits of a decimal**, of which the first one stands at the power `e` of ten: no zero in front,
eighteen digits at most, and no more than a bound. -/
structure IsDecimal (bound : ℚ) (digits : List Char) (e : Int) : Prop where
  run : Decimal.IsRun digits
  head : digits.head? ≠ some '0'
  pos : 0 < Decimal.value digits
  length : digits.length ≤ 18
  least : -1100 ≤ e
  le_bound : (Decimal.value digits : ℚ) * 10 ^ (e + 1 - digits.length) ≤ bound

/-- The digits of a number of units. -/
theorem isDecimal_dropTrailingZeros {n : Nat} {k : Int} {bound : ℚ} (hpos : 0 < n) (hlt : n < 10 ^ 18)
    (hk : -1100 ≤ k) (hle : (n : ℚ) * 10 ^ k ≤ bound) :
    IsDecimal bound (dropTrailingZeros (Nat.toDigits 10 n)) (k + (Nat.toDigits 10 n).length - 1) := by
  have hlength : (Nat.toDigits 10 n).length ≤ 18 := (Nat.length_toDigits_le_iff (by decide) (by decide)).2 hlt
  obtain ⟨c, rest, hwrite, hc, -, hzero⟩ := Decimal.write_cons n
  have hc0 : c ≠ '0' := fun h => hpos.ne' (hzero h).1
  have hdigits := (Decimal.isRun_write n).2
  have hvalue := Decimal.value_write n
  obtain ⟨zeros, heq⟩ := exists_dropTrailingZeros (Nat.toDigits 10 n)
  generalize dropTrailingZeros (Nat.toDigits 10 n) = digits at *
  rw [Decimal.write] at hwrite hdigits hvalue
  have hne : digits ≠ [] := by
    rintro rfl
    rw [hwrite, List.nil_append] at heq
    exact hc0 (List.eq_of_mem_replicate (heq ▸ List.mem_cons_self))
  obtain ⟨d, more, rfl⟩ := List.exists_cons_of_ne_nil hne
  have hhead : c = d := by
    rw [hwrite, List.cons_append] at heq
    exact (List.cons.inj heq).1
  have hsum : (Nat.toDigits 10 n).length = (d :: more).length + zeros := by
    rw [heq, List.length_append, List.length_replicate]
  have hone : 0 < (d :: more).length := List.length_pos_of_ne_nil hne
  rw [heq, value_append_zeros] at hvalue
  refine ⟨⟨hne, fun a ha => hdigits a (heq ▸ List.mem_append_left _ ha)⟩, ?_,
    Nat.pos_of_mul_pos_right (hvalue ▸ hpos), by omega, by omega, ?_⟩
  · simpa [← hhead] using hc0
  · have hplace : k + ((Nat.toDigits 10 n).length : Int) - 1 + 1 - ((d :: more).length : Int) = zeros + k := by
      rw [hsum]
      push_cast
      ring
    rw [hplace, zpow_add₀ (by decide), zpow_natCast, ← mul_assoc]
    rw [← hvalue] at hle
    exact_mod_cast hle

/-! ## The double -/

/-- The span of a number in binary. -/
theorem proper_ofBinary {m : Nat} (hm : 0 < m) (q : Int) (narrow : Bool) :
    (Span.ofBinary m q narrow).Proper := by
  have hup : 0 < Nat.pow 2 (q - 2).toNat := Nat.pow_pos (by decide)
  refine ⟨Nat.mul_pos ?_ hup, Nat.mul_le_mul_right _ ?_, Nat.mul_le_mul_right _ ?_, Nat.pow_pos (by decide)⟩
  · split <;> omega
  · omega
  · omega

theorem quotient_ofBinary (a : Nat) (q : Int) :
    ((a * Nat.pow 2 (q - 2).toNat : Nat) : ℚ) / (Nat.pow 2 (2 - q).toNat : Nat) = a * 2 ^ (q - 2) := by
  have hpow : (2 : ℚ) ^ (q - 2) = 2 ^ (q - 2).toNat / 2 ^ (2 - q).toNat := by
    rw [← zpow_natCast, ← zpow_natCast, ← zpow_sub₀ (by decide)]
    congr 1
    omega
  rw [hpow, Nat.pow_eq, Nat.pow_eq]
  push_cast
  exact mul_div_assoc (a : ℚ) _ _

theorem value_ofBinary (m : Nat) (q : Int) (narrow : Bool) :
    (Span.ofBinary m q narrow).value = m * 2 ^ q := by
  have h := quotient_ofBinary (4 * m) q
  rw [Span.value]
  refine h.trans ?_
  rw [zpow_sub₀ (by decide)]
  push_cast
  ring

theorem upper_ofBinary (m : Nat) (q : Int) (narrow : Bool) :
    (Span.ofBinary m q narrow).upper = (m + 1 / 2) * 2 ^ q := by
  have h := quotient_ofBinary (4 * m + 2) q
  rw [Span.upper]
  refine h.trans ?_
  rw [zpow_sub₀ (by decide)]
  push_cast
  ring

open Float.Model in
/-- The parts of a double, from its bits. -/
theorem toNat_unpackExponent (x : Float) :
    (@UnpackedFloat.unpackExponent .binary64 x.toModel.toBits.toBitVec).toNat =
        x.toBits.toNat % 2 ^ 63 / 2 ^ 52 ∧
      (@UnpackedFloat.unpackMantissa .binary64 x.toModel.toBits.toBitVec).toNat =
        x.toBits.toNat % 2 ^ 63 % 2 ^ 52 := by
  have hbits : x.toModel.toBits.toBitVec.toNat = x.toBits.toNat := rfl
  constructor
  · simp only [UnpackedFloat.unpackExponent, BitVec.toNat_cast, BitVec.extractLsb_toNat, hbits,
      Nat.shiftRight_eq_div_pow]
    omega
  · simp only [UnpackedFloat.unpackMantissa, BitVec.toNat_cast, BitVec.extractLsb_toNat, hbits,
      Nat.shiftRight_eq_div_pow]
    omega

open Float.Model in
/-- **The parts of a finite double other than zero.** -/
theorem decode_spec {x : Float} (hfinite : x.isFinite = true) (hzero : (x == 0) = false) :
    0 < (decode x).1 ∧ (decode x).1 < 2 ^ 53 ∧ -1074 ≤ (decode x).2.1 ∧ (decode x).2.1 ≤ 971 := by
  obtain ⟨hexponent, hmantissa⟩ := toNat_unpackExponent x
  have hfinite : (UnpackedFloat.unpack .binary64 x.toModel.toBits.toBitVec).isFinite = true := hfinite
  have hexp : x.toBits.toNat % 2 ^ 63 / 2 ^ 52 ≠ 2047 := by
    intro hones
    have hvec : @UnpackedFloat.unpackExponent .binary64 x.toModel.toBits.toBitVec = -1#_ :=
      BitVec.eq_of_toNat_eq (hexponent.trans hones)
    simp only [UnpackedFloat.unpack, hvec, if_true] at hfinite
    split at hfinite <;> cases hfinite
  have hnonzero : x.toBits.toNat % 2 ^ 63 ≠ 0 := by
    intro hbits
    have hvec : @UnpackedFloat.unpackExponent .binary64 x.toModel.toBits.toBitVec = 0#_ :=
      BitVec.eq_of_toNat_eq (hexponent.trans (by rw [hbits]; rfl))
    have hvec' : @UnpackedFloat.unpackMantissa .binary64 x.toModel.toBits.toBitVec = 0#_ :=
      BitVec.eq_of_toNat_eq (hmantissa.trans (by rw [hbits]; rfl))
    have hunpack : ∃ s, x.toModel.unpack = .zero s := by
      rw [Float.Model.unpack, UnpackedFloat.unpack]
      simp only [hvec, hvec']
      exact ⟨_, rfl⟩
    obtain ⟨s, hs⟩ := hunpack
    have hequal : (x == 0) = x.toModel.unpack.beq (.zero .positive) := rfl
    rw [hequal, hs] at hzero
    cases hzero
  have hsize : UInt64.size / 2 = 2 ^ 63 := rfl
  simp only [decode, hsize, Nat.pow_eq]
  split_ifs with h
  · dsimp only
    omega
  · simp only [Int.ofNat_eq_natCast]
    omega

/-- **The digits that are written for a double** are those of a decimal no larger than the upper end of its
span. -/
theorem isDecimal_shortest {x : Float} (hfinite : x.isFinite = true) (hzero : (x == 0) = false) :
    IsDecimal (((decode x).1 + 1 / 2) * 2 ^ (decode x).2.1) (shortest x).1 (shortest x).2 := by
  obtain ⟨hm, -, hq, -⟩ := decode_spec hfinite hzero
  unfold shortest
  generalize decode x = parts at *
  obtain ⟨m, q, narrow⟩ := parts
  dsimp only at hm hq ⊢
  have hproper := proper_ofBinary hm q narrow
  obtain ⟨hlow, hhigh⟩ := leadingPower_spec (hproper.low.trans_le hproper.low_le) hproper.den
  obtain ⟨hpos, hlt, hle, hk⟩ := Span.firstHit_spec hproper hlow hhigh 17
  rw [upper_ofBinary] at hle
  refine isDecimal_dropTrailingZeros hpos hlt ?_ hle
  have hleast : -1075 ≤ leadingPower (Span.ofBinary m q narrow).mid (Span.ofBinary m q narrow).den := by
    by_contra hfar
    have hsmall : (m : ℚ) * 2 ^ q < 10 ^ (-1075 : Int) := by
      rw [← value_ofBinary m q narrow]
      exact hhigh.trans_le (zpow_le_zpow_right₀ (by decide) (by omega))
    have hlarge : (10 : ℚ) ^ (-1075 : Int) ≤ m * 2 ^ q :=
      calc (10 : ℚ) ^ (-1075 : Int) ≤ 2 ^ (-1075 : Int) := by
            rw [zpow_neg, zpow_neg]
            exact inv_anti₀ (by positivity) (zpow_le_zpow_left₀ (by decide) (by decide) (by decide))
        _ ≤ 1 * 2 ^ q := by
            rw [one_mul]
            exact zpow_le_zpow_right₀ (by decide) (by omega)
        _ ≤ m * 2 ^ q := by
            gcongr
            exact_mod_cast hm
    exact absurd hsmall (not_lt.2 hlarge)
  push_cast at hk
  omega

end RealtimeClient.Binary64
