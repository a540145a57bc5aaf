import Mathlib
import RealtimeClient.Proofs.Json.Numerals

/-!
# Written strings and numbers, read again

What the reader makes of the text of one string or one number.  A string ends with its own mark; a
number ends with whatever comes after it, so after a number the reader is not yet where it is after
other values.  It behaves as if it were, though: `Reader.Alike` is that likeness.

* `Reader.Alike` — two readers that neither a delimiter nor the end of the text tells apart.
* `Reader.foldl_string_rest` — a string; `Reader.endText_value`, `Reader.endText_key` — as a value, as a key.
* `Reader.foldl_write_numeral` — **the text of a number is read as its parts**.
* `Reader.alike_foldl_write_number` — a number.
-/

namespace RealtimeClient.Json

namespace Reader

variable (stack : List Open) (result : Json)

/-! ## Likeness -/

/-- The characters that can follow a value. -/
def delimiters : List Char := [',', ']', '}']

/-- **Two readers that behave alike** where a value has come to its end: at a delimiter, and at the
end of the text. -/
structure Alike (r r' : Reader) : Prop where
  step : ∀ c ∈ delimiters, r.step c = r'.step c
  finish : r.finish = r'.finish

@[refl] theorem Alike.refl (r : Reader) : Alike r r := ⟨fun _ _ => rfl, rfl⟩

theorem isBlank_of_mem_delimiters {c : Char} (h : c ∈ delimiters) : isBlank c = false := by
  simp only [delimiters, List.mem_cons, List.not_mem_nil, or_false] at h
  rcases h with rfl | rfl | rfl <;> decide

/-- Where a value is put does not depend on where the reader was inside it. -/
theorem push_mk (place : Place) (j : Json) :
    push ⟨stack, place, result⟩ j = push ⟨stack, .after, result⟩ j := by
  cases stack with
  | nil => rfl
  | cons container _ => cases container <;> rfl

/-- After a value, the end of its container or of the text may follow. -/
@[simp] theorem push_place (r : Reader) (j : Json) : (r.push j).place = .after := by
  rw [push]
  split <;> rfl

/-- After a value, a delimiter is looked at as such. -/
theorem step_push (r : Reader) (j : Json) {c : Char} (h : isBlank c = false) :
    (r.push j).step c = (r.push j).afterValue c := by
  simp [step, h]

/-! ## Strings -/

/-- A hexadecimal digit is read with the value it was written for. -/
theorem digitValue?_hexDigit (n : Nat) : Text.digitValue? 16 (hexDigit n) = some (n % 16) := by
  have h : ∀ d < 16, Text.digitValue? 16 (Nat.digitChar d) = some d := by decide
  exact h (n % 16) (Nat.mod_lt n (by decide))

/-- **An escaped character is read as itself.** -/
theorem foldl_escape (isKey : Bool) (rev : List Char) (c : Char) :
    (escape c).foldl step ⟨stack, .text isKey rev .plain, result⟩ =
      ⟨stack, .text isKey (c :: rev) .plain, result⟩ := by
  simp only [escape]
  split
  case h_8 hquote hback _ _ _ _ _ =>
    split
    · next hlow =>
      have hzero : Text.digitValue? 16 '0' = some 0 := by decide
      have hcode : c.toNat / 16 % 16 * 16 + c.toNat % 16 = c.toNat := by omega
      have hplain : unicodeEnd rev none c.toNat = .more (c :: rev) .plain := by
        rw [unicodeEnd, if_neg (by omega), if_neg (by omega), Char.ofNat_toNat]
      simp [step, textStep, hzero, digitValue?_hexDigit, hcode, hplain]
    · next hlow =>
      have hplain : textStep rev .plain c = .more (c :: rev) .plain := by
        rw [textStep, if_neg hquote, if_neg hback, if_neg hlow]
      simp [step, hplain]
  all_goals rfl

/-- So is a text of them. -/
theorem foldl_escapes (isKey : Bool) (rev text : List Char) :
    (text.flatMap escape).foldl step ⟨stack, .text isKey rev .plain, result⟩ =
      ⟨stack, .text isKey (text.reverse ++ rev) .plain, result⟩ := by
  induction text generalizing rev with
  | nil => rfl
  | cons c rest ih =>
    rw [List.flatMap_cons, List.foldl_append, foldl_escape, ih]
    simp

/-- After its first mark a string is read up to its last one. -/
theorem foldl_string_rest (isKey : Bool) (s : String) :
    (s.toList.flatMap escape ++ ['"']).foldl step ⟨stack, .text isKey [] .plain, result⟩ =
      endText ⟨stack, .text isKey s.toList.reverse .plain, result⟩ isKey s.toList.reverse := by
  rw [List.foldl_append, foldl_escapes]
  simp [step, textStep]

theorem endText_value (place : Place) (s : String) :
    endText ⟨stack, place, result⟩ false s.toList.reverse =
      push ⟨stack, .after, result⟩ (.string s) := by
  rw [← push_mk stack result place]
  simp [endText]

theorem endText_key (members : Dict Json) (old : String) (place : Place) (s : String) :
    endText ⟨.object members old :: stack, place, result⟩ true s.toList.reverse =
      ⟨.object members s :: stack, .colon, result⟩ := by
  simp [endText, nameMember]

/-! ## Where a value begins -/

/-- **A value may begin here.** -/
def Ready (r : Reader) : Prop := r.place = .value ∨ r.place = .firstItem

/-- The first character of a value is looked at as such. -/
theorem Ready.step {r : Reader} (h : Ready r) {c : Char} (hblank : isBlank c = false)
    (hend : c ≠ ']') : r.step c = r.startValue c := by
  rcases h with h | h <;> simp [Reader.step, h, hblank, hend]

/-! ## Numbers -/

/-- A digit other than zero begins a number. -/
theorem startValue_digit (r : Reader) {c : Char} (hc : c.isDigit = true) (hne : c ≠ '0') :
    r.startValue c = { r with place := .numeral { whole := [c] } .whole } := by
  simp only [startValue]
  split
  case h_8 => exact absurd rfl hne
  case h_9 => rw [if_pos hc]
  all_goals simp at hc

theorem isBlank_of_isDigit {c : Char} (hc : c.isDigit = true) : isBlank c = false := by
  by_contra hb
  simp only [isBlank, Bool.not_eq_false, Bool.or_eq_true, decide_eq_true_eq] at hb
  rcases hb with ((rfl | rfl) | rfl) | rfl <;> simp at hc

/-- A digit in front begins a number. -/
theorem Ready.step_digit {r : Reader} (h : Ready r) {c : Char} (hc : c.isDigit = true) :
    r.step c = { r with place := .numeral { whole := [c] } (if c = '0' then .zero else .whole) } := by
  have hend : c ≠ ']' := by
    rintro rfl
    simp at hc
  rw [h.step (isBlank_of_isDigit hc) hend]
  split_ifs with hc0
  · subst hc0
    rfl
  · exact startValue_digit r hc hc0

/-- **Digits are taken one after the other**, wherever in a number they stand. -/
theorem foldl_digits {place : NumeralPlace} (put : List Char → Numeral)
    (hput : ∀ taken c, c.isDigit = true → (put taken).step place c = .more (put (taken ++ [c])) place)
    (digits taken : List Char) (hd : ∀ c ∈ digits, c.isDigit = true) :
    digits.foldl step ⟨stack, .numeral (put taken) place, result⟩ =
      ⟨stack, .numeral (put (taken ++ digits)) place, result⟩ := by
  induction digits generalizing taken with
  | nil => rw [List.append_nil]; rfl
  | cons c rest ih =>
    have hstep : step ⟨stack, .numeral (put taken) place, result⟩ c =
        ⟨stack, .numeral (put (taken ++ [c])) place, result⟩ := by
      simp only [step, hput taken c (hd c List.mem_cons_self)]
    rw [List.foldl_cons, hstep, ih _ fun d hd' => hd d (.tail _ hd'), List.append_assoc]
    rfl

/-- The sign and the digits before the point. -/
theorem foldl_whole {r : Reader} (hr : Ready r) {n : Numeral} (h : n.Proper) :
    ∃ place, (place = .zero ∨ place = .whole) ∧
      (Numeral.signText n.negative ++ n.whole).foldl step r =
        ⟨r.stack, .numeral { negative := n.negative, whole := n.whole } place, r.result⟩ := by
  obtain ⟨stack, place, result⟩ := r
  obtain ⟨negative, whole, fraction, exponent⟩ := n
  obtain ⟨⟨hne, hdigits⟩, hzero, -, -⟩ := h
  obtain ⟨c, rest, rfl⟩ := List.exists_cons_of_ne_nil hne
  have hc := hdigits c List.mem_cons_self
  have hfirst : (Numeral.signText negative ++ [c]).foldl step ⟨stack, place, result⟩ =
      ⟨stack, .numeral { negative, whole := [c] } (if c = '0' then .zero else .whole), result⟩ := by
    cases negative with
    | false => exact hr.step_digit hc
    | true =>
      have hsign : step ⟨stack, place, result⟩ '-' = ⟨stack, .numeral { negative := true } .start, result⟩ :=
        hr.step (by decide) (by decide)
      rw [show Numeral.signText true ++ [c] = ['-', c] from rfl, List.foldl_cons, hsign]
      by_cases hc0 : c = '0' <;> simp [step, Numeral.step, hc0, hc]
  rw [← List.singleton_append, ← List.append_assoc, List.foldl_append, hfirst]
  by_cases hc0 : c = '0'
  · obtain rfl : rest = [] := (List.cons.inj (hzero (by rw [hc0]; rfl))).2
    exact ⟨.zero, .inl rfl, by rw [if_pos hc0]; rfl⟩
  · rw [if_neg hc0]
    refine ⟨.whole, .inr rfl, ?_⟩
    exact foldl_digits stack result (fun whole => { negative, whole })
      (fun taken d hd => by simp [Numeral.step, hd]) rest [c] fun d hd => hdigits d (.tail _ hd)

/-- The point and the digits behind it. -/
theorem foldl_fractionText {n : Numeral} {place : NumeralPlace} (hplace : place = .zero ∨ place = .whole)
    (hnone : n.fraction = none) {fraction : Option (List Char)}
    (hrun : ∀ digits, fraction = some digits → Decimal.IsRun digits) :
    ∃ place', (place' = .zero ∨ place' = .whole ∨ place' = .fraction) ∧
      (Numeral.fractionText fraction).foldl step ⟨stack, .numeral n place, result⟩ =
        ⟨stack, .numeral { n with fraction } place', result⟩ := by
  obtain ⟨negative, whole, none', exponent⟩ := n
  obtain rfl : none' = none := hnone
  cases fraction with
  | none => exact ⟨place, hplace.imp_right .inl, rfl⟩
  | some digits =>
    obtain ⟨hne, hdigits⟩ := hrun digits rfl
    obtain ⟨c, rest, rfl⟩ := List.exists_cons_of_ne_nil hne
    have hc := hdigits c List.mem_cons_self
    have hpoint : step ⟨stack, .numeral { negative, whole, exponent } place, result⟩ '.' =
        ⟨stack, .numeral { negative, whole, fraction := some [], exponent } .point, result⟩ := by
      rcases hplace with rfl | rfl <;> simp [step, Numeral.step]
    have hfirst : step ⟨stack, .numeral { negative, whole, fraction := some [], exponent } .point, result⟩ c =
        ⟨stack, .numeral { negative, whole, fraction := some [c], exponent } .fraction, result⟩ := by
      simp [step, Numeral.step, hc]
    refine ⟨.fraction, .inr (.inr rfl), ?_⟩
    rw [Numeral.fractionText, List.foldl_cons, hpoint, List.foldl_cons, hfirst]
    exact foldl_digits stack result (fun digits => { negative, whole, fraction := some digits, exponent })
      (fun taken d hd => by simp [Numeral.step, hd]) rest [c] fun d hd => hdigits d (.tail _ hd)

/-- The exponent with its sign. -/
theorem foldl_exponentText {n : Numeral} {place : NumeralPlace}
    (hplace : place = .zero ∨ place = .whole ∨ place = .fraction) (hnone : n.exponent = none)
    {exponent : Option (Bool × List Char)}
    (hrun : ∀ below digits, exponent = some (below, digits) → Decimal.IsRun digits) :
    ∃ place', place'.mayEnd = true ∧
      (Numeral.exponentText exponent).foldl step ⟨stack, .numeral n place, result⟩ =
        ⟨stack, .numeral { n with exponent } place', result⟩ := by
  obtain ⟨negative, whole, fraction, none'⟩ := n
  obtain rfl : none' = none := hnone
  cases exponent with
  | none =>
    refine ⟨place, ?_, rfl⟩
    rcases hplace with rfl | rfl | rfl <;> rfl
  | some part =>
    obtain ⟨below, digits⟩ := part
    obtain ⟨hne, hdigits⟩ := hrun below digits rfl
    obtain ⟨c, rest, rfl⟩ := List.exists_cons_of_ne_nil hne
    have hc := hdigits c List.mem_cons_self
    have hmark : step ⟨stack, .numeral { negative, whole, fraction } place, result⟩ 'e' =
        ⟨stack, .numeral { negative, whole, fraction, exponent := some (false, []) } .mark, result⟩ := by
      rcases hplace with rfl | rfl | rfl <;> simp [step, Numeral.step]
    have hsign :
        step ⟨stack, .numeral { negative, whole, fraction, exponent := some (false, []) } .mark, result⟩
          (if below then '-' else '+') =
        ⟨stack, .numeral { negative, whole, fraction, exponent := some (below, []) } .sign, result⟩ := by
      cases below <;> simp [step, Numeral.step]
    have hfirst :
        step ⟨stack, .numeral { negative, whole, fraction, exponent := some (below, []) } .sign, result⟩ c =
        ⟨stack, .numeral { negative, whole, fraction, exponent := some (below, [c]) } .exponent, result⟩ := by
      simp [step, Numeral.step, hc]
    refine ⟨.exponent, rfl, ?_⟩
    rw [Numeral.exponentText, List.foldl_cons, hmark, List.foldl_cons, hsign, List.foldl_cons, hfirst]
    exact foldl_digits stack result (fun digits => { negative, whole, fraction, exponent := some (below, digits) })
      (fun taken d hd => by simp [Numeral.step, hd]) rest [c] fun d hd => hdigits d (.tail _ hd)

/-- **The text of a number is read as its parts.** -/
theorem foldl_write_numeral {r : Reader} (hr : Ready r) {n : Numeral} (h : n.Proper) :
    ∃ place, place.mayEnd = true ∧ n.write.foldl step r = ⟨r.stack, .numeral n place, r.result⟩ := by
  obtain ⟨place, hplace, hwhole⟩ := foldl_whole hr h
  obtain ⟨place', hplace', hfraction⟩ := foldl_fractionText r.stack r.result hplace
    (n := { negative := n.negative, whole := n.whole }) rfl h.fraction
  obtain ⟨place'', hend, hexponent⟩ := foldl_exponentText r.stack r.result hplace'
    (n := { negative := n.negative, whole := n.whole, fraction := n.fraction }) rfl h.exponent
  refine ⟨place'', hend, ?_⟩
  rw [Numeral.write, ← List.append_assoc, List.foldl_append, hwhole, List.foldl_append, hfraction, hexponent]

/-- **A number that may end here behaves like a value that is complete.** -/
theorem alike_numeral {n : Numeral} {place : NumeralPlace} (hp : place.mayEnd = true)
    {v : Number} (hv : n.value? = some v) :
    Alike ⟨stack, .numeral n place, result⟩ (push ⟨stack, .after, result⟩ (.number v)) := by
  have hend : endNumeral ⟨stack, .numeral n place, result⟩ n =
      push ⟨stack, .after, result⟩ (.number v) := by
    rw [endNumeral, hv]
    exact push_mk _ _ _ _
  refine ⟨fun c hc => ?_, ?_⟩
  · have hblank := isBlank_of_mem_delimiters hc
    have hstep : n.step place c = .ended := by
      simp only [delimiters, List.mem_cons, List.not_mem_nil, or_false] at hc
      cases place with
      | zero | whole | fraction | exponent => rcases hc with rfl | rfl | rfl <;> simp [Numeral.step]
      | _ => cases hp
    rw [step_push _ _ hblank]
    simp [step, hstep, hend, hblank]
  · have hplace : (push ⟨stack, .after, result⟩ (.number v)).place = .after := push_place _ _
    simp only [finish, hp, if_true, hend, hplace]

/-- **A number is read as the value of its parts**, up to what comes after it. -/
theorem alike_foldl_write_number {r : Reader} (hr : Ready r) (n : Number) :
    Alike (n.write.foldl step r) (r.push (.number n.reread)) := by
  obtain ⟨place, hend, hfold⟩ := foldl_write_numeral hr n.proper_numeral
  rw [n.write_eq, hfold]
  obtain ⟨stack, place', result⟩ := r
  rw [push_mk]
  exact alike_numeral stack result hend n.value?_numeral

end Reader

end RealtimeClient.Json
