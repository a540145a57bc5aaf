import Mathlib
import RealtimeClient.Decimal

/-!
# Decimal numerals as they are written

What a reader can rely on when it meets the digits that `Decimal.write` gives: they are digits,
there is at least one, and a zero in front stands alone.  And what it makes of any text: a run of digits
is read if it keeps to the bound, and nothing else is.

* `Decimal.write_cons` — the first digit of a number, and the others.
* `Decimal.readSigned?_write` — the reader that allows a sign in front takes the digits alone too.
* `Decimal.lt_of_readSigned?` — what is read keeps to the bound.
* `Decimal.value_lt` — a number is bounded by the length of its digits.
* `Decimal.IsRun`, `Decimal.read?_eq_some_iff` — **the texts that are read**;
  `Decimal.readSigned?_eq_some_iff` — with or without a plus sign.
* `Decimal.readSigned?_write_of_le` — a number beyond the bound is not read.
-/

namespace RealtimeClient.Decimal

theorem isDigit_of_mem_write {n : Nat} {c : Char} (h : c ∈ write n) : c.isDigit = true :=
  Nat.isDigit_of_mem_toDigits (by decide) (by decide) h

/-- **Only zero begins with a zero.** -/
theorem write_cons (n : Nat) :
    ∃ c rest, write n = c :: rest ∧ c.isDigit = true ∧ (∀ d ∈ rest, d.isDigit = true) ∧
      (c = '0' → n = 0 ∧ rest = []) := by
  induction n using Nat.strongRecOn with
  | ind n ih =>
    by_cases hn : n < 10
    · refine ⟨n.digitChar, [], Nat.toDigits_of_lt_base hn, ?_, by simp, ?_⟩
      · simpa using hn
      · intro h
        exact ⟨by simpa using h, rfl⟩
    · obtain ⟨c, rest, heq, hc, -, hz⟩ := ih (n / 10) (by omega)
      have hw : write n = c :: (rest ++ [(n % 10).digitChar]) := by
        rw [write, Nat.toDigits_of_base_le (by decide) (by omega)]
        exact congrArg (· ++ [(n % 10).digitChar]) heq
      refine ⟨c, _, hw, hc, fun d hd => ?_, fun h => ?_⟩
      · have hmem : d ∈ write n := hw ▸ List.mem_cons_of_mem c hd
        exact isDigit_of_mem_write hmem
      · have := (hz h).1
        omega

/-- A sign is no digit, so the reader that allows one in front takes digits as they are. -/
theorem readSigned?_write {bound n : Nat} (h : n < bound) : readSigned? bound (write n) = some n := by
  obtain ⟨c, rest, heq, hc, -⟩ := write_cons n
  have hplus : c ≠ '+' := by
    rintro rfl
    simp at hc
  have hread : readSigned? bound (c :: rest) = read? bound (c :: rest) := by
    simp only [readSigned?]
    split
    · next hp => exact absurd (List.cons.inj hp).1 hplus
    · rfl
  rw [heq, hread, ← heq, read?_write h]

theorem lt_of_read? {bound n : Nat} {text : List Char} (h : read? bound text = some n) :
    n < bound := by
  rw [read?] at h
  split at h
  · next hread =>
    cases h
    exact hread.2.2
  · cases h

/-- **A number that is read keeps to the bound**, with a sign in front or without. -/
theorem lt_of_readSigned? {bound n : Nat} {text : List Char}
    (h : readSigned? bound text = some n) : n < bound := by
  unfold readSigned? at h
  split at h <;> exact lt_of_read? h

/-- Further digits never lower a number. -/
theorem le_ofDigitChars (digits : List Char) (n : Nat) : n ≤ Nat.ofDigitChars 10 digits n := by
  rw [Nat.ofDigitChars_eq_ofDigitChars_zero]
  have := Nat.le_mul_of_pos_left n (Nat.pow_pos (n := digits.length) (show 0 < 10 by decide))
  omega

/-! ## What is read -/

/-- **A run of digits**, at least one. -/
def IsRun (text : List Char) : Prop := text ≠ [] ∧ ∀ c ∈ text, c.isDigit = true

/-- Its length is a bound on its number. -/
theorem value_lt {digits : List Char} (h : ∀ c ∈ digits, c.isDigit = true) :
    value digits < 10 ^ digits.length := by
  induction digits using List.reverseRecOn with
  | nil => exact Nat.one_pos
  | append_singleton digits c ih =>
    have hc := Char.isDigit_iff_toNat.1 (h c (by simp))
    have hlt := ih fun d hd => h d (List.mem_append_left _ hd)
    rw [value, Nat.ofDigitChars_append, Nat.ofDigitChars_cons, Nat.ofDigitChars_nil, List.length_append,
      List.length_singleton, pow_succ]
    simp only [Char.reduceToNat] at hc ⊢
    simp only [value] at hlt
    omega

theorem read?_eq_some_iff {bound n : Nat} {text : List Char} :
    read? bound text = some n ↔ IsRun text ∧ value text < bound ∧ n = value text := by
  rw [read?]
  split_ifs with h
  · rw [List.all_eq_true] at h
    exact ⟨fun heq => ⟨⟨h.1, h.2.1⟩, h.2.2, (Option.some.inj heq).symm⟩, fun heq => by rw [heq.2.2]⟩
  · refine ⟨by simp, fun heq => absurd ⟨heq.1.1, ?_, heq.2.1⟩ h⟩
    exact List.all_eq_true.2 heq.1.2

theorem isRun_write (n : Nat) : IsRun (write n) := ⟨Nat.toDigits_ne_nil, fun _ => isDigit_of_mem_write⟩

/-- There are no signs in a run of digits. -/
theorem IsRun.not_mem {text : List Char} {c : Char} (h : IsRun text) (hc : c.isDigit = false) :
    c ∉ text := by
  intro hm
  have hdigit := h.2 c hm
  simp [hc] at hdigit

/-- **A number with or without a plus sign.** -/
theorem readSigned?_eq_some_iff {bound n : Nat} {text : List Char} :
    readSigned? bound text = some n ↔
      ∃ sign run, (sign = [] ∨ sign = ['+']) ∧ text = sign ++ run ∧ read? bound run = some n := by
  constructor
  · intro h
    unfold readSigned? at h
    split at h
    · exact ⟨['+'], _, .inr rfl, rfl, h⟩
    · exact ⟨[], _, .inl rfl, rfl, h⟩
  · rintro ⟨sign, run, rfl | rfl, rfl, h⟩
    · unfold readSigned?
      split
      · exact absurd List.mem_cons_self ((read?_eq_some_iff.1 h).1.not_mem (by decide))
      · exact h
    · exact h

/-- A number beyond the bound is not read from its digits. -/
theorem readSigned?_write_of_le {bound n : Nat} (h : bound ≤ n) : readSigned? bound (write n) = none := by
  refine Option.eq_none_iff_forall_ne_some.2 fun m hread => ?_
  obtain ⟨sign, run, rfl | rfl, heq, hread⟩ := readSigned?_eq_some_iff.1 hread
  · rw [List.nil_append] at heq
    have hlt := (read?_eq_some_iff.1 hread).2.1
    rw [← heq, value_write] at hlt
    omega
  · have hplus : '+' ∈ write n := by simp [heq]
    exact (isRun_write n).not_mem (by decide) hplus

end RealtimeClient.Decimal
