import Mathlib
import RealtimeClient.Url

/-!
# Percent-encoded texts

What is percent-encoded has letters, digits and `%` only, and stands for the bytes of the text again.
A reader may refuse a `%` without its digits or take it for itself: there is none, so both kinds of
reader get the same bytes.

* `Text.utf8_injective` — different texts have different bytes.
* `Escaped`, `escaped_encode` — **the form of an encoded text**: single letters and digits, and `%` with
  two upper-case digits.
* `decode?_encode`, `percentDecode_encode` — **an encoded text stands for the bytes of the text**.
* `IsCode`, `encode_faithful` — **encoding is a faithful code**, which goes through a text character by
  character.
* `IsUnescaped`, `percentDecode_eq_utf8_iff` — **the texts that stand for their own bytes** without
  being encoded: those without escapes.
-/

namespace RealtimeClient

namespace Text

/-- **Different texts have different bytes.** -/
theorem utf8_injective : Function.Injective utf8 := by
  intro a b h
  have hbytes : a.utf8Encode = b.utf8Encode := congrArg List.toByteArray h
  have hdecoded := congrArg ByteArray.utf8Decode? hbytes
  rw [List.utf8Decode?_utf8Encode, List.utf8Decode?_utf8Encode] at hdecoded
  simpa using hdecoded

/-- The bytes are those in which the standard library holds a text. -/
theorem toByteArray_utf8 (text : List Char) : (utf8 text).toByteArray = (String.ofList text).toUTF8 := rfl

end Text

namespace PercentEncoding

/-! ## The form of an encoded text -/

/-- Whether a character is an upper-case hexadecimal digit. -/
def isUpperHex (c : Char) : Bool := c.isDigit || ('A' ≤ c && c ≤ 'F')

theorem isAlphanum_of_isUpperHex {c : Char} (h : isUpperHex c = true) : c.isAlphanum = true := by
  simp only [isUpperHex, Bool.or_eq_true, Bool.and_eq_true, decide_eq_true_eq] at h
  obtain hdigit | ⟨hlow, hhigh⟩ := h
  · simp [Char.isAlphanum, hdigit]
  · have hupper : c.isUpper = true := by
      simp only [Char.isUpper, ge_iff_le, decide_eq_true_eq]
      exact ⟨hlow, hhigh.trans (by decide)⟩
    simp [Char.isAlphanum, Char.isAlpha, hupper]

theorem isUpperHex_upperHexDigit {n : Nat} (h : n < 16) : isUpperHex (upperHexDigit n) = true := by
  have hall : ∀ n < 16, isUpperHex (upperHexDigit n) = true := by decide
  exact hall n h

theorem digitValue?_upperHexDigit {n : Nat} (h : n < 16) :
    Text.digitValue? 16 (upperHexDigit n) = some n := by
  have hall : ∀ n < 16, Text.digitValue? 16 (upperHexDigit n) = some n := by decide
  exact hall n h

/-- **A plain byte is a letter or a digit**, and the only byte of that character. -/
theorem plain_byte {b : UInt8} (h : isPlain b = true) :
    (Char.ofNat b.toNat).isAlphanum = true ∧ String.utf8EncodeChar (Char.ofNat b.toNat) = [b] := by
  have hall : ∀ n < 256, isPlain (UInt8.ofNat n) = true →
      (Char.ofNat n).isAlphanum = true ∧ String.utf8EncodeChar (Char.ofNat n) = [UInt8.ofNat n] := by
    decide +kernel
  have hbyte := hall b.toNat b.toNat_lt
  rw [UInt8.ofNat_toNat] at hbyte
  exact hbyte h

/-- **The form of an encoded text**: letters and digits stand for themselves, and a `%` has two digits
behind it that belong to it. -/
inductive Escaped : List Char → Prop
  | nil : Escaped []
  | plain (c : Char) (rest : List Char) (alphanum : c.isAlphanum = true) (tail : Escaped rest) :
      Escaped (c :: rest)
  | escape (high low : Char) (rest : List Char)
      (digits : isUpperHex high = true ∧ isUpperHex low = true) (tail : Escaped rest) :
      Escaped ('%' :: high :: low :: rest)

namespace Escaped

variable {text : List Char}

theorem encodeByte_append (b : UInt8) (h : Escaped text) : Escaped (encodeByte b ++ text) := by
  have hlt := b.toNat_lt
  rw [encodeByte]
  split
  · next hplain => exact .plain _ _ (plain_byte hplain).1 h
  · have hhigh := isUpperHex_upperHexDigit (show b.toNat / 16 < 16 by omega)
    have hlow := isUpperHex_upperHexDigit (show b.toNat % 16 < 16 by omega)
    exact .escape _ _ _ ⟨hhigh, hlow⟩ h

/-- **There are letters, digits and `%` only.** -/
theorem isAlphanum_or (h : Escaped text) {c : Char} (hc : c ∈ text) : c.isAlphanum = true ∨ c = '%' := by
  induction h with
  | nil => cases hc
  | plain c' rest alphanum _ ih =>
    obtain rfl | hc := List.mem_cons.1 hc
    · exact .inl alphanum
    · exact ih hc
  | escape high low rest digits _ ih =>
    simp only [List.mem_cons] at hc
    obtain rfl | rfl | rfl | hc := hc
    · exact .inr rfl
    · exact .inl (isAlphanum_of_isUpperHex digits.1)
    · exact .inl (isAlphanum_of_isUpperHex digits.2)
    · exact ih hc

/-- **Behind a `%` are its two digits**, and behind these the form starts anew. -/
theorem digits_of_percent (h : Escaped text) {after : List Char} (hafter : '%' :: after <:+ text) :
    ∃ high low rest, after = high :: low :: rest ∧ isUpperHex high = true ∧ isUpperHex low = true ∧
      Escaped rest := by
  induction h with
  | nil => cases List.eq_nil_of_suffix_nil hafter
  | plain c rest alphanum _ ih =>
    obtain heq | hsuffix := List.suffix_cons_iff.1 hafter
    · cases heq
      exact absurd alphanum (by decide)
    · exact ih hsuffix
  | escape high low rest digits tail ih =>
    -- the `%` is the first character, or it stands behind the two digits, since it is none of them
    simp only [List.suffix_cons_iff, List.cons.injEq] at hafter
    obtain ⟨-, rfl⟩ | ⟨rfl, -⟩ | ⟨rfl, -⟩ | hsuffix := hafter
    · exact ⟨high, low, rest, rfl, digits.1, digits.2, tail⟩
    · exact absurd digits.1 (by decide)
    · exact absurd digits.2 (by decide)
    · exact ih hsuffix

end Escaped

/-- **An encoded text has this form.** -/
theorem escaped_encode (text : List Char) : Escaped (encode text) := by
  rw [encode]
  induction Text.utf8 text with
  | nil => exact .nil
  | cons b rest ih => exact ih.encodeByte_append b

theorem isAlphanum_or_of_mem_encode {text : List Char} {c : Char} (h : c ∈ encode text) :
    c.isAlphanum = true ∨ c = '%' := (escaped_encode text).isAlphanum_or h

/-! ## Back to the bytes -/

/-- A character that is no `%` stands for its own bytes. -/
theorem decode?_cons {c : Char} (h : c ≠ '%') (rest : List Char) :
    decode? (c :: rest) = (decode? rest).map (String.utf8EncodeChar c ++ ·) := by
  rw [decode?, if_neg h]
  intro a b rest' hc
  exact absurd hc h

/-- The text of a byte stands for that byte. -/
theorem decode?_encodeByte (b : UInt8) (rest : List Char) :
    decode? (encodeByte b ++ rest) = (decode? rest).map (b :: ·) := by
  rw [encodeByte]
  split
  · next hplain =>
    have hne : Char.ofNat b.toNat ≠ '%' := fun heq => by
      have halnum := (plain_byte hplain).1
      rw [heq] at halnum
      exact absurd halnum (by decide)
    rw [List.singleton_append, decode?_cons hne, (plain_byte hplain).2]
    rfl
  · have hlt := b.toNat_lt
    have hhigh := digitValue?_upperHexDigit (show b.toNat / 16 < 16 by omega)
    have hlow := digitValue?_upperHexDigit (show b.toNat % 16 < 16 by omega)
    have hbyte : (b.toNat / 16 * 16 + b.toNat % 16).toUInt8 = b := by
      rw [Nat.div_add_mod']
      simp
    simp only [escapeByte, List.cons_append, List.nil_append, decode?, hhigh, hlow, Option.bind_eq_bind,
      Option.bind_some, hbyte]
    cases decode? rest <;> rfl

/-- **An encoded text stands for the bytes of the text.** -/
theorem decode?_encode (text : List Char) : decode? (encode text) = some (Text.utf8 text) := by
  rw [encode]
  induction Text.utf8 text with
  | nil => rfl
  | cons b rest ih => rw [List.flatMap_cons, decode?_encodeByte, ih, Option.map_some]

/-- Where each `%` has its digits, it does not matter what else a reader makes of a `%`. -/
theorem percentDecode_of_decode? {code : List Char} {bytes : Bytes} (h : decode? code = some bytes) :
    Url.percentDecode code = bytes := by
  induction code using decode?.induct generalizing bytes with
  | case1 => exact Option.some.inj h
  | case2 a b rest ih =>
    simp only [decode?, Option.bind_eq_bind, Option.bind_eq_some_iff, Option.pure_def,
      Option.some.injEq] at h
    obtain ⟨high, hhigh, low, hlow, bytes', hbytes, rfl⟩ := h
    simp only [Url.percentDecode, hhigh, hlow, ih hbytes]
  | case3 rest hdigits =>
    simp [decode?] at h
  | case4 c rest _ hne ih =>
    rw [decode?_cons hne] at h
    obtain ⟨bytes', hbytes, rfl⟩ := Option.map_eq_some_iff.1 h
    rw [Url.percentDecode, ih hbytes]
    intro a b rest' hc
    exact absurd hc hne

theorem percentDecode_encode (text : List Char) : Url.percentDecode (encode text) = Text.utf8 text :=
  percentDecode_of_decode? (decode?_encode text)

/-! ## A faithful code -/

/-- **A text and its code.** -/
structure IsCode (text code : List Char) : Prop where
  /-- The code has letters, digits and `%` only. -/
  characters : ∀ c ∈ code, c.isAlphanum = true ∨ c = '%'
  /-- Behind each `%` are two upper-case digits, and behind these the form starts anew. -/
  digits : ∀ after, '%' :: after <:+ code →
    ∃ high low rest, after = high :: low :: rest ∧ isUpperHex high = true ∧ isUpperHex low = true ∧ Escaped rest
  /-- A reader that refuses a `%` without its digits gets the bytes of the text, -/
  strict : (decode? code).map List.toByteArray = some (String.ofList text).toUTF8
  /-- and so does a reader that takes such a `%` for itself. -/
  lenient : (Url.percentDecode code).toByteArray = (String.ofList text).toUTF8

theorem isCode_encode (text : List Char) : IsCode text (encode text) where
  characters _ := isAlphanum_or_of_mem_encode
  digits _ := (escaped_encode text).digits_of_percent
  strict := by rw [decode?_encode, Option.map_some, Text.toByteArray_utf8]
  lenient := by rw [percentDecode_encode, Text.toByteArray_utf8]

theorem encode_append (text more : List Char) : encode (text ++ more) = encode text ++ encode more := by
  rw [encode, Text.utf8, List.flatMap_append, List.flatMap_append]
  rfl

theorem encode_injective : Function.Injective encode := by
  intro text other h
  have hbytes := congrArg decode? h
  rw [decode?_encode, decode?_encode] at hbytes
  exact Text.utf8_injective (Option.some.inj hbytes)

theorem toNat_lt_of_isAlphanum {c : Char} (h : c.isAlphanum = true) : c.toNat < 128 := by
  simp only [Char.isAlphanum, Char.isAlpha, Char.isUpper, Char.isLower, Char.isDigit, Bool.or_eq_true,
    Bool.and_eq_true, decide_eq_true_eq] at h
  have hle : c.val ≤ 'z'.val := by
    obtain (⟨-, h⟩ | ⟨-, h⟩) | ⟨-, h⟩ := h
    · exact UInt32.le_trans h (by decide)
    · exact h
    · exact UInt32.le_trans h (by decide)
  exact Nat.lt_of_le_of_lt (UInt32.le_iff_toNat_le.1 hle) (by decide)

/-- Letters and digits are written as they are, and nothing else is. -/
theorem encode_singleton_iff (c : Char) : encode [c] = [c] ↔ c.isAlphanum = true := by
  constructor
  · intro h
    have hform := h ▸ escaped_encode [c]
    cases hform with
    | plain _ _ alphanum => exact alphanum
  · intro h
    have hall : ∀ n < 128, (Char.ofNat n).isAlphanum = true → encode [Char.ofNat n] = [Char.ofNat n] := by
      decide
    have hc := hall c.toNat (toNat_lt_of_isAlphanum h)
    rw [Char.ofNat_toNat] at hc
    exact hc h

/-- **Encoding is a faithful code.**  It goes through a text character by character, leaves letters and
digits as they are, and gives different texts different codes. -/
theorem encode_faithful :
    (∀ text, IsCode text (encode text)) ∧
      (∀ text more, encode (text ++ more) = encode text ++ encode more) ∧
      (∀ c, encode [c] = [c] ↔ c.isAlphanum = true) ∧
      ∀ text other, encode text = encode other → text = other :=
  ⟨isCode_encode, encode_append, encode_singleton_iff, fun _ _ h => encode_injective h⟩

/-- A text that is a code itself is not taken for one. -/
theorem encode_faithful_twice :
    encode "a%C3é".toList = "a%25C3%C3%A9".toList ∧
      IsCode "a%C3é".toList "a%25C3%C3%A9".toList ∧
      encode "a%C3é".toList = encode "a".toList ++ encode "%C3é".toList ∧
      encode "aÃé".toList ≠ encode "a%C3é".toList := by
  have hcode : encode "a%C3é".toList = "a%25C3%C3%A9".toList := by decide +kernel
  obtain ⟨hisCode, happend, -, hinjective⟩ := encode_faithful
  refine ⟨hcode, hcode ▸ hisCode _, happend "a".toList "%C3é".toList, fun h => ?_⟩
  exact absurd (hinjective _ _ h) (by decide +kernel)

/-! ## Texts that stand for themselves -/

/-- **A `%` with two digits**, which stands for a byte. -/
def IsEscape (text : List Char) : Prop :=
  ∃ a b, Text.isDigitIn 16 a = true ∧ Text.isDigitIn 16 b = true ∧ text = ['%', a, b]

/-- **A text without escapes.** -/
def IsUnescaped (text : List Char) : Prop := ∀ part, IsEscape part → ¬part <:+: text

theorem isUnescaped_of_percent_not_mem {text : List Char} (h : '%' ∉ text) : IsUnescaped text := by
  rintro part ⟨a, b, -, -, rfl⟩ hpart
  exact h (hpart.subset List.mem_cons_self)

/-- A text that does not start with an escape. -/
def StartsPlain (text : List Char) : Prop := ∀ part, IsEscape part → ¬part <+: text

theorem startsPlain_of_digits {a b : Char} {rest : List Char}
    (h : ∀ high low, Text.digitValue? 16 a = some high → Text.digitValue? 16 b = some low → False) :
    StartsPlain ('%' :: a :: b :: rest) := by
  rintro part ⟨a', b', ha, hb, rfl⟩ ⟨after, heq⟩
  simp only [List.cons_append, List.nil_append, List.cons.injEq, true_and] at heq
  obtain ⟨rfl, rfl, -⟩ := heq
  obtain ⟨high, hhigh⟩ := Option.isSome_iff_exists.1 ha
  obtain ⟨low, hlow⟩ := Option.isSome_iff_exists.1 hb
  exact h high low hhigh hlow

theorem startsPlain_of_cons {c : Char} {rest : List Char}
    (h : ∀ a b rest', c = '%' → rest = a :: b :: rest' → False) : StartsPlain (c :: rest) := by
  rintro part ⟨a, b, -, -, rfl⟩ ⟨after, heq⟩
  simp only [List.cons_append, List.nil_append, List.cons.injEq] at heq
  exact h a b after heq.1.symm heq.2.symm

theorem isUnescaped_cons_iff {c : Char} {rest : List Char} (h : StartsPlain (c :: rest)) :
    IsUnescaped (c :: rest) ↔ IsUnescaped rest := by
  refine forall₂_congr fun part hpart => ?_
  rw [List.infix_cons_iff, not_or, and_iff_right (h part hpart)]

/-- **A text is read escape by escape**, and character by character where none starts. -/
theorem escape_induction {motive : List Char → Prop} (nil : motive [])
    (escape : ∀ a b rest, Text.isDigitIn 16 a = true → Text.isDigitIn 16 b = true → motive rest →
      motive ('%' :: a :: b :: rest))
    (cons : ∀ c rest, StartsPlain (c :: rest) → motive rest → motive (c :: rest))
    (text : List Char) : motive text := by
  -- a `%` without its digits and any other character are two cases of the decoder, and one of these
  induction text using Url.percentDecode.induct with
  | case1 => exact nil
  | case2 a b rest high low hlow hhigh ih =>
    exact escape a b rest (Option.isSome_iff_exists.2 ⟨high, hhigh⟩)
      (Option.isSome_iff_exists.2 ⟨low, hlow⟩) ih
  | case3 a b rest hdigits ih => exact cons _ _ (startsPlain_of_digits hdigits) ih
  | case4 c rest hc ih => exact cons c rest (startsPlain_of_cons hc) ih

theorem percentDecode_escape {a b : Char} (ha : Text.isDigitIn 16 a = true)
    (hb : Text.isDigitIn 16 b = true) (rest : List Char) :
    ∃ byte, Url.percentDecode ('%' :: a :: b :: rest) = byte :: Url.percentDecode rest := by
  obtain ⟨high, hhigh⟩ := Option.isSome_iff_exists.1 ha
  obtain ⟨low, hlow⟩ := Option.isSome_iff_exists.1 hb
  exact ⟨(high * 16 + low).toUInt8, by rw [Url.percentDecode, hhigh, hlow]⟩

theorem percentDecode_of_startsPlain {c : Char} {rest : List Char} (h : StartsPlain (c :: rest)) :
    Url.percentDecode (c :: rest) = String.utf8EncodeChar c ++ Url.percentDecode rest := by
  rw [Url.percentDecode.eq_def]
  split
  · next heq => cases heq
  · next a b rest' heq =>
    cases heq
    split
    · next high low hhigh hlow =>
      exact absurd (List.prefix_append ['%', a, b] rest')
        (h _ ⟨a, b, Option.isSome_iff_exists.2 ⟨high, hhigh⟩, Option.isSome_iff_exists.2 ⟨low, hlow⟩,
          rfl⟩)
    · rfl
  · next heq =>
    cases heq
    rfl

theorem utf8_cons (c : Char) (rest : List Char) :
    Text.utf8 (c :: rest) = String.utf8EncodeChar c ++ Text.utf8 rest := rfl

/-- The three characters of an escape have more bytes than the one it stands for. -/
theorem length_utf8_escape (a b : Char) (rest : List Char) :
    (Text.utf8 rest).length + 1 < (Text.utf8 ('%' :: a :: b :: rest)).length := by
  have hlength (c : Char) : 0 < (String.utf8EncodeChar c).length := by
    rw [String.length_utf8EncodeChar]
    exact c.utf8Size_pos
  have hmark := hlength '%'
  have hfirst := hlength a
  have hsecond := hlength b
  simp only [utf8_cons, List.length_append]
  omega

theorem length_percentDecode_le (text : List Char) :
    (Url.percentDecode text).length ≤ (Text.utf8 text).length := by
  induction text using escape_induction with
  | nil => exact Nat.le_refl 0
  | escape a b rest ha hb ih =>
    obtain ⟨byte, hbyte⟩ := percentDecode_escape ha hb rest
    have hlt := length_utf8_escape a b rest
    rw [hbyte, List.length_cons]
    omega
  | cons c rest h ih =>
    rw [percentDecode_of_startsPlain h, utf8_cons, List.length_append, List.length_append]
    omega

/-- **The texts that stand for their own bytes** are those without escapes. -/
theorem percentDecode_eq_utf8_iff (text : List Char) :
    Url.percentDecode text = Text.utf8 text ↔ IsUnescaped text := by
  induction text using escape_induction with
  | nil =>
    exact iff_of_true rfl (isUnescaped_of_percent_not_mem List.not_mem_nil)
  | escape a b rest ha hb ih =>
    refine iff_of_false (fun heq => ?_) fun hclean => ?_
    · obtain ⟨byte, hbyte⟩ := percentDecode_escape ha hb rest
      have hlt := length_utf8_escape a b rest
      have hle := length_percentDecode_le rest
      rw [← heq, hbyte, List.length_cons] at hlt
      omega
    · exact hclean ['%', a, b] ⟨a, b, ha, hb, rfl⟩ (List.prefix_append _ rest).isInfix
  | cons c rest h ih =>
    rw [percentDecode_of_startsPlain h, utf8_cons, List.append_cancel_left_eq, ih,
      isUnescaped_cons_iff h]

end PercentEncoding

end RealtimeClient
