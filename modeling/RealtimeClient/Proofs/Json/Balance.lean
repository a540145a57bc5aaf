import Mathlib
import RealtimeClient.Json.Reader
import RealtimeClient.Json.Writer
import RealtimeClient.Proofs.Json.Tokens

/-!
# Brackets and quotation marks

A scanner that knows nothing of JSON but its brackets, its commas and its quotation marks sees already
that some texts hold no tree.  The reader is stricter than the scanner and never gets further, so a text
that is read leaves the scanner where it began: outside of all strings and all brackets, and no comma was
met there on the way.  A text that the writer makes passes the scanner on every level.  It does so from
the inside of a string too, where its strings and what is between them change places: there the scanner
fails, or it ends inside of a string again.

* `Spot`, `scan` — the scanner.
* `Reader.Tracked` — a reader that got no further than a scanner; `Reader.Tracked.step` — one character.
* `scan_of_read` — **a text that is read passes the scanner**.
* `Even` — texts that the scanner takes as a whole; `even_write` — **written trees are such texts**.
* `not_read_after_comma` — nothing is read where such a text follows a comma; `not_read_after_minus` —
  nor where no digit follows a minus sign.
-/

namespace RealtimeClient.Json

/-! ## The scanner -/

/-- **The place of the scanner**: outside of strings, inside of one, or right after a backslash there,
with the number of open brackets. -/
inductive Spot
  | outside (level : Nat)
  | inside (level : Nat)
  | escaped (level : Nat)
  deriving DecidableEq, Repr

/-- **One character.**  Outside of strings there is no backslash, and outside of brackets no comma. -/
def Spot.step : Spot → Char → Option Spot
  | .outside n, c =>
    if c = '"' then some (.inside n)
    else if c = '\\' then none
    else if c = '[' ∨ c = '{' then some (.outside (n + 1))
    else if c = ']' ∨ c = '}' then (if n = 0 then none else some (.outside (n - 1)))
    else if c = ',' ∧ n = 0 then none
    else some (.outside n)
  | .inside n, c =>
    if c = '"' then some (.outside n) else if c = '\\' then some (.escaped n) else some (.inside n)
  | .escaped n, _ => some (.inside n)

/-- **A text.** -/
def scan (s : Spot) (text : List Char) : Option Spot := text.foldlM Spot.step s

@[simp] theorem scan_nil (s : Spot) : scan s [] = some s := rfl

@[simp] theorem scan_cons (s : Spot) (c : Char) (rest : List Char) :
    scan s (c :: rest) = (s.step c).bind (scan · rest) := rfl

@[simp] theorem scan_append (s : Spot) (text more : List Char) :
    scan s (text ++ more) = (scan s text).bind (scan · more) := by
  simp only [scan, List.foldlM_append]
  rfl

/-- The characters that the scanner looks at, the comma left aside. -/
def marks : List Char := ['"', '\\', '[', ']', '{', '}']

/-- Other characters change nothing, inside of brackets. -/
theorem Spot.step_outside_succ {c : Char} (h : c ∉ marks) (n : Nat) :
    (Spot.outside (n + 1)).step c = some (.outside (n + 1)) := by
  simp only [marks, List.mem_cons, List.not_mem_nil, or_false, not_or] at h
  simp [Spot.step, h]

/-- Other characters and no comma change nothing anywhere. -/
theorem Spot.step_outside {c : Char} (h : c ∉ marks) (hcomma : c ≠ ',') (n : Nat) :
    (Spot.outside n).step c = some (.outside n) := by
  simp only [marks, List.mem_cons, List.not_mem_nil, or_false, not_or] at h
  simp [Spot.step, h, hcomma]

theorem Spot.step_inside {c : Char} (h : c ∉ marks) (n : Nat) :
    (Spot.inside n).step c = some (.inside n) := by
  simp only [marks, List.mem_cons, List.not_mem_nil, or_false, not_or] at h
  simp [Spot.step, h]

/-! ## The reader beside the scanner -/

/-- The scanner's place when the reader is at a place inside a string.  There is none where the string
is bound to be broken. -/
def TextPlace.spot? (level : Nat) : TextPlace → Option Spot
  | .badUnicode _ => none
  | .escape | .pairLetter _ => some (.escaped level)
  | .plain | .unicode .. | .pairBackslash _ => some (.inside level)

/-- The scanner's place when the reader is at a place. -/
def Place.spot? (level : Nat) : Place → Option Spot
  | .broken => none
  | .text _ _ place => place.spot? level
  | _ => some (.outside level)

section Strings

variable {rev rev' : List Char} {place place' : TextPlace} {c : Char}

/-- What the digits of a character lead to is inside of a string. -/
theorem unicodeEnd_spot? {high : Option Nat} {code : Nat} (h : unicodeEnd rev high code = .more rev' place')
    (level : Nat) : place'.spot? level = some (.inside level) := by
  unfold unicodeEnd at h
  split at h
  · split_ifs at h
    cases h
    rfl
  · split_ifs at h <;> cases h <;> rfl

theorem badUnicodeStep_spot? {bytes : Nat} (h : badUnicodeStep rev bytes c = .more rev' place')
    (level : Nat) : place'.spot? level = none := by
  unfold badUnicodeStep at h
  split_ifs at h
  cases h
  rfl

/-- A hexadecimal digit is nothing to the scanner. -/
theorem step_inside_of_digitValue? {d : Nat} (h : Text.digitValue? 16 c = some d) (level : Nat) :
    (Spot.inside level).step c = some (.inside level) := by
  have hnone : Text.digitValue? 16 '"' = none ∧ Text.digitValue? 16 '\\' = none := by decide
  have hquote : c ≠ '"' := by
    rintro rfl
    simp [hnone.1] at h
  have hback : c ≠ '\\' := by
    rintro rfl
    simp [hnone.2] at h
  simp [Spot.step, hquote, hback]

/-- **A string that goes on** goes on for the scanner. -/
theorem textStep_more (h : textStep rev place c = .more rev' place') {level : Nat} {s : Spot}
    (hs : place'.spot? level = some s) : (place.spot? level).bind (·.step c) = some s := by
  cases place with
  | plain =>
    simp only [textStep] at h
    split_ifs at h with hquote hback hlow
    · cases h
      simpa [TextPlace.spot?, Spot.step, hback] using hs
    · cases h
      simpa [TextPlace.spot?, Spot.step, hquote, hback] using hs
  | escape =>
    have hinside : place'.spot? level = some (.inside level) := by
      simp only [textStep] at h
      split at h <;> cases h <;> rfl
    exact hinside.symm.trans hs
  | unicode high digits code =>
    simp only [textStep] at h
    split at h
    · rw [badUnicodeStep_spot? h] at hs
      cases hs
    · next d hd =>
      have hinside : place'.spot? level = some (.inside level) := by
        split_ifs at h
        · exact unicodeEnd_spot? h level
        · cases h
          rfl
      rw [← hs, hinside]
      exact step_inside_of_digitValue? hd level
  | badUnicode bytes =>
    rw [badUnicodeStep_spot? h] at hs
    cases hs
  | pairBackslash high =>
    simp only [textStep] at h
    split_ifs at h with hback
    cases h
    simpa [TextPlace.spot?, Spot.step, hback] using hs
  | pairLetter high =>
    simp only [textStep] at h
    split_ifs at h
    cases h
    exact hs

/-- **A string that ends** ends for the scanner. -/
theorem textStep_ended (h : textStep rev place c = .ended) (level : Nat) :
    (place.spot? level).bind (·.step c) = some (.outside level) := by
  cases place with
  | plain =>
    simp only [textStep] at h
    split_ifs at h with hquote
    simp [TextPlace.spot?, Spot.step, hquote]
  | escape =>
    simp only [textStep] at h
    split at h <;> cases h
  | unicode high digits code =>
    simp only [textStep, badUnicodeStep, unicodeEnd] at h
    split at h
    · split_ifs at h
    · split at h
      · split at h <;> split_ifs at h
      · cases h
  | badUnicode bytes =>
    simp only [textStep, badUnicodeStep] at h
    split_ifs at h
  | pairBackslash high =>
    simp only [textStep] at h
    split_ifs at h
  | pairLetter high =>
    simp only [textStep] at h
    split_ifs at h

end Strings

namespace Reader

/-- **The scanner's place when the reader is in a state.** -/
def spot? (r : Reader) : Option Spot := r.place.spot? r.stack.length

/-- **A reader that got no further than a scanner.**  If its text is not broken, then the scanner is at
the same place. -/
structure Tracked (r : Reader) (o : Option Spot) : Prop where
  spot : ∀ s, r.spot? = some s → o = some s
  /-- The words of JSON have letters only. -/
  letters : ∀ rest j, r.place = .word rest j → ∀ c ∈ rest, c.isAlpha = true

variable {r : Reader} {o : Option Spot}

theorem tracked_fail (r : Reader) (o : Option Spot) : Tracked r.fail o := ⟨nofun, nofun⟩

/-- A reader outside of words. -/
theorem tracked_of_spot {s : Spot} (hs : r.spot? = some s) (hplace : ∀ rest j, r.place ≠ .word rest j) :
    Tracked r (some s) :=
  ⟨fun _ hs' => hs.symm.trans hs', fun rest j hj => absurd hj (hplace rest j)⟩

/-- A reader in the middle of a word. -/
theorem tracked_word (r : Reader) (rest : List Char) (j : Json) (hrest : ∀ c ∈ rest, c.isAlpha = true) :
    Tracked { r with place := .word rest j } (some (.outside r.stack.length)) := by
  refine ⟨fun s hs => hs, ?_⟩
  intro rest' j' h
  obtain ⟨rfl, -⟩ := Place.word.inj h
  exact hrest

theorem tracked_push (r : Reader) (j : Json) : Tracked (r.push j) (some (.outside r.stack.length)) := by
  unfold push
  split
  · next hstack => exact tracked_of_spot (by simp [spot?, Place.spot?, hstack]) (by simp)
  · next hstack => exact tracked_of_spot (by simp [spot?, Place.spot?, hstack]) (by simp)
  · next hstack => exact tracked_of_spot (by simp [spot?, Place.spot?, hstack]) (by simp)

theorem tracked_enter (r : Reader) (container : Open) {place : Place}
    (hspot : place.spot? (r.stack.length + 1) = some (.outside (r.stack.length + 1)))
    (hplace : ∀ rest j, place ≠ .word rest j) :
    Tracked (r.enter container place) (some (.outside (r.stack.length + 1))) := by
  unfold enter
  split
  · exact tracked_of_spot hspot hplace
  · exact tracked_fail r _

theorem tracked_closeArray (r : Reader) : Tracked r.closeArray ((Spot.outside r.stack.length).step ']') := by
  unfold closeArray
  split
  · next rev rest hstack =>
    have h := tracked_push { r with stack := rest } (.array rev.reverse)
    simpa [Spot.step, hstack] using h
  · exact tracked_fail r _

theorem tracked_closeObject (r : Reader) :
    Tracked r.closeObject ((Spot.outside r.stack.length).step '}') := by
  unfold closeObject
  split
  · next members key rest hstack =>
    have h := tracked_push { r with stack := rest } (.object members)
    simpa [Spot.step, hstack] using h
  · exact tracked_fail r _

theorem not_mem_marks_of_isDigit {c : Char} (h : c.isDigit = true) : c ∉ marks ∧ c ≠ ',' := by
  constructor
  · intro hm
    simp only [marks, List.mem_cons, List.not_mem_nil, or_false] at hm
    rcases hm with rfl | rfl | rfl | rfl | rfl | rfl <;> simp at h
  · rintro rfl
    simp at h

theorem tracked_startValue (r : Reader) (c : Char) :
    Tracked (r.startValue c) ((Spot.outside r.stack.length).step c) := by
  unfold startValue
  split
  · exact tracked_word r ['u', 'l', 'l'] .null (by simp)
  · exact tracked_word r ['r', 'u', 'e'] (.bool true) (by simp)
  · exact tracked_word r ['a', 'l', 's', 'e'] (.bool false) (by simp)
  · exact tracked_of_spot rfl (by simp)
  · exact tracked_enter r _ rfl (by simp)
  · exact tracked_enter r _ rfl (by simp)
  · exact tracked_of_spot rfl (by simp)
  · exact tracked_of_spot rfl (by simp)
  · split
    · next hdigit =>
      obtain ⟨hmark, hcomma⟩ := not_mem_marks_of_isDigit hdigit
      rw [Spot.step_outside hmark hcomma]
      exact tracked_of_spot rfl (by simp)
    · exact tracked_fail r _

theorem tracked_afterValue (r : Reader) (c : Char) :
    Tracked (r.afterValue c) ((Spot.outside r.stack.length).step c) := by
  unfold afterValue
  split
  · next hstack =>
    have hcomma : (Spot.outside r.stack.length).step ',' = some (.outside r.stack.length) := by
      simp [Spot.step, hstack]
    rw [hcomma]
    exact tracked_of_spot rfl (by simp)
  · exact tracked_closeArray r
  · next hstack =>
    have hcomma : (Spot.outside r.stack.length).step ',' = some (.outside r.stack.length) := by
      simp [Spot.step, hstack]
    rw [hcomma]
    exact tracked_of_spot rfl (by simp)
  · exact tracked_closeObject r
  · exact tracked_fail r _

theorem tracked_endText (r : Reader) (isKey : Bool) (rev : List Char) :
    Tracked (r.endText isKey rev) (some (.outside r.stack.length)) := by
  unfold endText
  dsimp only
  split
  · unfold nameMember
    split
    · next hstack => exact tracked_of_spot (by simp [spot?, Place.spot?, hstack]) (by simp)
    · exact tracked_fail r _
  · exact tracked_push r _

/-- A number comes to its end as a value, or it breaks the text. -/
theorem endNumeral_cases (r : Reader) (n : Numeral) :
    (∃ v, r.endNumeral n = r.push (.number v)) ∨ r.endNumeral n = r.fail := by
  unfold endNumeral
  split
  · exact .inl ⟨_, rfl⟩
  · exact .inr rfl

@[simp] theorem length_push (r : Reader) (j : Json) : (r.push j).stack.length = r.stack.length := by
  unfold push
  split
  · rfl
  · next hstack => simp [hstack]
  · next hstack => simp [hstack]

/-- A blank is nothing to the scanner. -/
theorem step_outside_of_isBlank {c : Char} (h : isBlank c = true) (n : Nat) :
    (Spot.outside n).step c = some (.outside n) := by
  simp only [isBlank, Bool.or_eq_true, decide_eq_true_eq] at h
  rcases h with ((rfl | rfl) | rfl) | rfl <;> simp [Spot.step]

/-- A letter is nothing to the scanner. -/
theorem step_outside_of_isAlpha {c : Char} (h : c.isAlpha = true) (n : Nat) :
    (Spot.outside n).step c = some (.outside n) := by
  refine Spot.step_outside ?_ ?_ n
  · intro hm
    simp only [marks, List.mem_cons, List.not_mem_nil, or_false] at hm
    rcases hm with rfl | rfl | rfl | rfl | rfl | rfl <;> simp at h
  · rintro rfl
    simp at h

/-- What belongs to a number is nothing to the scanner. -/
theorem step_outside_of_more {n n' : Numeral} {place place' : NumeralPlace} {c : Char}
    (h : n.step place c = .more n' place') (level : Nat) :
    (Spot.outside level).step c = some (.outside level) := by
  by_cases hdigit : c.isDigit = true
  · obtain ⟨hmark, hcomma⟩ := not_mem_marks_of_isDigit hdigit
    exact Spot.step_outside hmark hcomma level
  · have hc : c = '.' ∨ c = 'e' ∨ c = 'E' ∨ c = '+' ∨ c = '-' := by
      by_contra hno
      simp only [not_or] at hno
      have hzero : c ≠ '0' := by
        rintro rfl
        simp at hdigit
      cases place <;> simp [Numeral.step, hdigit, hno, hzero] at h
    rcases hc with rfl | rfl | rfl | rfl | rfl <;> simp [Spot.step]

/-- The scanner's next place follows from the reader's. -/
theorem Tracked.next (h : Tracked r o) {c : Char} {s : Spot} (hs : r.spot?.bind (·.step c) = some s) :
    o.bind (·.step c) = some s := by
  obtain ⟨s₀, hs₀, hstep⟩ := Option.bind_eq_some_iff.1 hs
  rw [h.spot s₀ hs₀]
  exact hstep

/-- Blanks between the parts of a text are passed over. -/
theorem tracked_unless_blank {r' : Reader} {level : Nat} {c : Char}
    (hr : Tracked r (some (.outside level))) (h : Tracked r' ((Spot.outside level).step c)) :
    Tracked (if isBlank c then r else r') ((Spot.outside level).step c) := by
  split_ifs with hblank
  · rw [step_outside_of_isBlank hblank]
    exact hr
  · exact h

/-- **One character leaves the reader no further than the scanner.** -/
theorem Tracked.step (h : Tracked r o) (c : Char) : Tracked (r.step c) (o.bind (·.step c)) := by
  obtain ⟨stack, place, result⟩ := r
  cases place with
  | broken => exact tracked_fail ⟨stack, .broken, result⟩ _
  | value =>
    obtain rfl := h.spot _ rfl
    exact tracked_unless_blank h (tracked_startValue _ c)
  | firstItem =>
    obtain rfl := h.spot _ rfl
    refine tracked_unless_blank h ?_
    split_ifs with hend
    · rw [hend]
      exact tracked_closeArray _
    · exact tracked_startValue _ c
  | key =>
    obtain rfl := h.spot _ rfl
    refine tracked_unless_blank h ?_
    split_ifs with hquote
    · rw [hquote]
      exact tracked_of_spot rfl (by simp)
    · exact tracked_fail _ _
  | firstKey =>
    obtain rfl := h.spot _ rfl
    refine tracked_unless_blank h ?_
    split_ifs with hquote hend
    · rw [hquote]
      exact tracked_of_spot rfl (by simp)
    · rw [hend]
      exact tracked_closeObject _
    · exact tracked_fail _ _
  | colon =>
    obtain rfl := h.spot _ rfl
    refine tracked_unless_blank h ?_
    split_ifs with hcolon
    · rw [hcolon]
      exact tracked_of_spot rfl (by simp)
    · exact tracked_fail _ _
  | after =>
    obtain rfl := h.spot _ rfl
    exact tracked_unless_blank h (tracked_afterValue _ c)
  | word rest j =>
    have hletters := h.letters rest j rfl
    obtain rfl := h.spot _ rfl
    simp only [Reader.step, Option.bind_some]
    split
    · exact tracked_fail _ _
    · next last =>
      split_ifs with hc
      · rw [hc, step_outside_of_isAlpha (hletters last List.mem_cons_self)]
        exact tracked_push _ j
      · exact tracked_fail _ _
    · next next rest _ =>
      split_ifs with hc
      · rw [hc, step_outside_of_isAlpha (hletters next List.mem_cons_self)]
        exact tracked_word ⟨stack, .broken, result⟩ rest j fun d hd => hletters d (.tail _ hd)
      · exact tracked_fail _ _
  | text isKey rev place =>
    simp only [Reader.step]
    split
    · next hstep => exact ⟨fun s hs => h.next (textStep_more hstep hs), by simp⟩
    · next hstep =>
      rw [h.next (textStep_ended hstep stack.length)]
      exact tracked_endText _ isKey _
    · exact tracked_fail _ _
  | numeral n place =>
    obtain rfl := h.spot _ rfl
    simp only [Reader.step, Option.bind_some]
    split
    · next hstep =>
      rw [step_outside_of_more hstep]
      exact tracked_of_spot rfl (by simp)
    · exact tracked_fail _ _
    · -- The character after a number is looked at as the one after a value.
      obtain ⟨v, hend⟩ | hend := endNumeral_cases ⟨stack, .numeral n place, result⟩ n
      · have hpush := tracked_push ⟨stack, .numeral n place, result⟩ (.number v)
        have hafter := tracked_afterValue (push ⟨stack, .numeral n place, result⟩ (.number v)) c
        rw [length_push] at hafter
        rw [hend]
        simp only [push_place]
        exact tracked_unless_blank hpush hafter
      · rw [hend]
        exact tracked_fail _ _

theorem Tracked.foldl (h : Tracked r o) (text : List Char) :
    Tracked (text.foldl Reader.step r) (o.bind (scan · text)) := by
  induction text generalizing r o with
  | nil => simpa using h
  | cons c rest ih => simpa [Option.bind_assoc] using ih (h.step c)

/-- Where the reader ends with a tree, the scanner is outside of everything. -/
theorem Tracked.finish (h : Tracked r o) {j : Json} (hj : r.finish = .ok j) :
    o = some (.outside 0) := by
  obtain ⟨stack, place, result⟩ := r
  cases place with
  | after =>
    cases stack with
    | nil => exact h.spot _ rfl
    | cons container rest => cases hj
  | numeral n place =>
    cases stack with
    | nil => exact h.spot _ rfl
    | cons container rest =>
      -- A number at the end of the text is a value in an open container.
      simp only [Reader.finish] at hj
      split_ifs at hj
      · obtain ⟨v, hend⟩ | hend := endNumeral_cases ⟨container :: rest, .numeral n place, result⟩ n
        · rw [hend] at hj
          cases container <;> cases hj
        · rw [hend] at hj
          cases hj
  | _ => cases hj

end Reader

/-- **A text that is read passes the scanner**, from outside of everything to there. -/
theorem scan_of_read {text : List Char} {j : Json} (h : read text = .ok j) :
    scan (.outside 0) text = some (.outside 0) :=
  ((Reader.tracked_of_spot rfl (by simp) : Reader.Tracked {} (some (.outside 0))).foldl text).finish h

/-! ## Written texts -/

/-- **A text that the scanner takes as a whole.**  Inside of brackets it leaves the level as it was, and
from the inside of a string it leads nowhere else. -/
structure Even (text : List Char) : Prop where
  outside : ∀ n, scan (.outside (n + 1)) text = some (.outside (n + 1))
  inside : ∀ n s, scan (.inside n) text = some s → ∃ m, s = .inside m

theorem even_nil : Even [] where
  outside _ := rfl
  inside n _ h := ⟨n, (Option.some.inj h).symm⟩

theorem Even.append {text more : List Char} (h : Even text) (h' : Even more) : Even (text ++ more) where
  outside n := by simp [h.outside, h'.outside]
  inside n s hs := by
    rw [scan_append] at hs
    obtain ⟨s', hs', hmore⟩ := Option.bind_eq_some_iff.1 hs
    obtain ⟨m, rfl⟩ := h.inside n s' hs'
    exact h'.inside m s hmore

theorem scan_inside_of_forall {text : List Char} (h : ∀ c ∈ text, c ∉ marks) (n : Nat) :
    scan (.inside n) text = some (.inside n) := by
  induction text with
  | nil => rfl
  | cons c rest ih =>
    simpa [Spot.step_inside (h c List.mem_cons_self)] using ih fun d hd => h d (.tail _ hd)

theorem scan_outside_of_forall {text : List Char} (h : ∀ c ∈ text, c ∉ marks) (n : Nat) :
    scan (.outside (n + 1)) text = some (.outside (n + 1)) := by
  induction text with
  | nil => rfl
  | cons c rest ih =>
    simpa [Spot.step_outside_succ (h c List.mem_cons_self)] using ih fun d hd => h d (.tail _ hd)

/-- Characters that the scanner does not look at, and commas. -/
theorem even_of_forall {text : List Char} (h : ∀ c ∈ text, c ∉ marks) : Even text where
  outside := scan_outside_of_forall h
  inside n _ hs := ⟨n, Option.some.inj (hs.symm.trans (scan_inside_of_forall h n))⟩

theorem Even.cons {text : List Char} (h : Even text) {c : Char} (hc : c ∉ marks) : Even (c :: text) := by
  have hsingle : Even [c] := even_of_forall (by simpa using hc)
  exact hsingle.append h

/-- Brackets around such a text. -/
theorem Even.bracketed {text : List Char} (h : Even text) {left right : Char}
    (hleft : left = '[' ∨ left = '{') (hright : right = ']' ∨ right = '}') :
    Even (left :: (text ++ [right])) := by
  refine ⟨fun n => ?_, fun n s hs => ?_⟩
  · rcases hleft with rfl | rfl <;> rcases hright with rfl | rfl <;> simp [Spot.step, h.outside]
  · have hl : (Spot.inside n).step left = some (.inside n) := by
      rcases hleft with rfl | rfl <;> rfl
    have hr (m : Nat) : (Spot.inside m).step right = some (.inside m) := by
      rcases hright with rfl | rfl <;> rfl
    rw [scan_cons, hl, Option.bind_some, scan_append] at hs
    obtain ⟨s', hs', hend⟩ := Option.bind_eq_some_iff.1 hs
    obtain ⟨m, rfl⟩ := h.inside n s' hs'
    exact ⟨m, by simpa [hr] using hend.symm⟩

/-! ### Strings -/

theorem hexDigit_not_mem_marks (n : Nat) : hexDigit n ∉ marks := by
  have h : ∀ d < 16, Nat.digitChar d ∉ marks := by decide
  exact h (n % 16) (Nat.mod_lt n (by decide))

/-- **An escaped character** begins with a backslash, or it is one that strings have as it is. -/
theorem escape_cases (c : Char) :
    (∃ d rest, escape c = '\\' :: d :: rest ∧ ∀ e ∈ rest, e ∉ marks) ∨
      (escape c = [c] ∧ c ≠ '"' ∧ c ≠ '\\') := by
  unfold escape
  split
  case h_8 hquote hback _ _ _ _ _ =>
    split
    · refine .inl ⟨'u', _, rfl, ?_⟩
      simp only [List.forall_mem_cons, hexDigit_not_mem_marks, not_false_iff, true_and]
      exact ⟨by decide, by decide, by simp⟩
    · exact .inr ⟨rfl, hquote, hback⟩
  all_goals exact .inl ⟨_, [], rfl, by simp⟩

/-- It stands inside of a string. -/
theorem scan_inside_escape (c : Char) (n : Nat) : scan (.inside n) (escape c) = some (.inside n) := by
  obtain ⟨d, rest, heq, hrest⟩ | ⟨heq, hquote, hback⟩ := escape_cases c
  · simpa [heq, Spot.step] using scan_inside_of_forall hrest n
  · simp [heq, Spot.step, hquote, hback]

/-- Outside of strings there is none with a backslash. -/
theorem scan_outside_escape {c : Char} {n : Nat} {s : Spot} (h : scan (.outside n) (escape c) = some s) :
    ∃ m, s = .outside m := by
  obtain ⟨d, rest, heq, -⟩ | ⟨heq, hquote, hback⟩ := escape_cases c
  · simp [heq, Spot.step] at h
  · simp only [heq, scan_cons, scan_nil, Spot.step, hquote, hback, if_false] at h
    split_ifs at h <;> simp at h <;> exact ⟨_, h.symm⟩

theorem even_writeString (s : String) : Even (writeString s) := by
  have hinside (text : List Char) (n : Nat) :
      scan (.inside n) (text.flatMap escape) = some (.inside n) := by
    induction text with
    | nil => rfl
    | cons c rest ih => simp [scan_inside_escape, ih]
  have houtside (text : List Char) (n : Nat) (s : Spot)
      (h : scan (.outside n) (text.flatMap escape) = some s) : ∃ m, s = .outside m := by
    induction text generalizing n with
    | nil => exact ⟨n, (Option.some.inj h).symm⟩
    | cons c rest ih =>
      rw [List.flatMap_cons, scan_append] at h
      obtain ⟨s', hs', hrest⟩ := Option.bind_eq_some_iff.1 h
      obtain ⟨m, rfl⟩ := scan_outside_escape hs'
      exact ih m hrest
  refine ⟨fun n => ?_, fun n t ht => ?_⟩
  · simp [writeString, Spot.step, hinside]
  · have hquote : (Spot.inside n).step '"' = some (.outside n) := rfl
    rw [writeString, scan_cons, hquote, Option.bind_some, scan_append] at ht
    obtain ⟨t', ht', hend⟩ := Option.bind_eq_some_iff.1 ht
    obtain ⟨m, rfl⟩ := houtside s.toList n t' ht'
    exact ⟨m, by simpa [Spot.step] using hend.symm⟩

/-! ### Numbers -/

theorem even_digits {digits : List Char} (h : ∀ c ∈ digits, c.isDigit = true) : Even digits :=
  even_of_forall fun c hc => (Reader.not_mem_marks_of_isDigit (h c hc)).1

theorem even_decimal (n : Nat) : Even (Decimal.write n) :=
  even_digits fun _ => Decimal.isDigit_of_mem_write

theorem even_writeInt (i : Int) : Even (Decimal.writeInt i) := by
  unfold Decimal.writeInt
  split_ifs
  · exact (even_decimal _).cons (by decide)
  · exact even_decimal _

/-- The shortest digits of a double are digits. -/
theorem isDigit_of_mem_shortest {x : Float} {c : Char} (h : c ∈ (Binary64.shortest x).1) :
    c.isDigit = true := by
  simp only [Binary64.shortest, Binary64.dropTrailingZeros, List.mem_reverse] at h
  have hmem := List.mem_reverse.1 ((List.dropWhile_sublist _).mem h)
  exact Nat.isDigit_of_mem_toDigits (by decide) (by decide) hmem

section Reals

variable {digits : List Char} (h : ∀ c ∈ digits, c.isDigit = true) (e : Int)

include h

theorem even_positional : Even (positional digits e) := by
  have hzeros (n : Nat) : Even (List.replicate n '0') :=
    even_digits fun c hc => by simp [List.eq_of_mem_replicate hc]
  have htake (n : Nat) : Even (digits.take n) := even_digits fun c hc => h c (List.mem_of_mem_take hc)
  have hdrop (n : Nat) : Even (digits.drop n) := even_digits fun c hc => h c (List.mem_of_mem_drop hc)
  unfold positional
  dsimp only
  split_ifs
  · exact (((hzeros _).append (even_digits h)).cons (by decide)).cons (by decide)
  · exact ((htake _).append (hzeros _)).append ((hzeros 1).cons (by decide))
  · exact ((htake _).append (hzeros _)).append ((hdrop _).cons (by decide))

theorem even_exponential : Even (exponential digits e) := by
  have htake : Even (digits.take 1) := even_digits fun c hc => h c (List.mem_of_mem_take hc)
  have hdrop : Even (digits.drop 1) := even_digits fun c hc => h c (List.mem_of_mem_drop hc)
  have hsign (c : Char) (hc : c ∉ marks) : Even ('e' :: c :: Decimal.write e.natAbs) :=
    ((even_decimal _).cons hc).cons (by decide)
  unfold exponential
  dsimp only
  split_ifs
  · exact (htake.append even_nil).append (hsign '-' (by decide))
  · exact (htake.append even_nil).append (hsign '+' (by decide))
  · exact (htake.append (hdrop.cons (by decide))).append (hsign '-' (by decide))
  · exact (htake.append (hdrop.cons (by decide))).append (hsign '+' (by decide))

end Reals

theorem even_writeReal (x : Float) : Even (writeReal x) := by
  have hsign : Even (if x.toBits < 0x8000000000000000 then [] else ['-']) := by
    split_ifs
    · exact even_nil
    · exact even_nil.cons (by decide)
  unfold writeReal
  refine hsign.append ?_
  split_ifs
  · exact even_of_forall (by simp [marks])
  · dsimp only
    split_ifs
    · exact even_positional (fun _ => isDigit_of_mem_shortest) _
    · exact even_exponential (fun _ => isDigit_of_mem_shortest) _

theorem even_write_number : (n : Number) → Even n.write
  | .natural n => even_decimal n.toNat
  | .negative n _ => even_writeInt n.toInt
  | .real x _ => even_writeReal x

/-! ### Trees -/

mutual

/-- **A written tree** is taken as a whole. -/
theorem even_write : (j : Json) → Even j.write
  | .null => even_of_forall (by simp [write, marks])
  | .bool true => even_of_forall (by simp [write, marks])
  | .bool false => even_of_forall (by simp [write, marks])
  | .number n => even_write_number n
  | .string s => even_writeString s
  | .array [] => even_nil.bracketed (.inl rfl) (.inl rfl)
  | .array (item :: rest) =>
      ((even_write item).append (even_writeItems rest)).bracketed (.inl rfl) (.inl rfl)
  | .object .nil => even_nil.bracketed (.inr rfl) (.inr rfl)
  | .object (.cons key _ value rest) => by
      have hvalue := ((even_write value).append (even_writeMembers rest)).cons (c := ':') (by decide)
      simpa [write] using ((even_writeString key).append hvalue).bracketed (.inr rfl) (.inr rfl)

theorem even_writeItems : (items : List Json) → Even (writeItems items)
  | [] => even_nil
  | item :: rest => ((even_write item).append (even_writeItems rest)).cons (by decide)

theorem even_writeMembers : {lo : Option String} → (members : Dict.From Json lo) →
    Even (writeMembers members)
  | _, .nil => even_nil
  | _, .cons key _ value rest => by
      have hvalue := ((even_write value).append (even_writeMembers rest)).cons (c := ':') (by decide)
      exact ((even_writeString key).append hvalue).cons (by decide)

end

/-- **Nothing is read where such a text follows a comma**, whatever stands in front. -/
theorem not_read_after_comma (before : List Char) {after : List Char} (h : Even after) (j : Json) :
    read (before ++ ',' :: after) ≠ .ok j := by
  intro hread
  have hscan := scan_of_read hread
  rw [scan_append] at hscan
  obtain ⟨s, -, hs⟩ := Option.bind_eq_some_iff.1 hscan
  cases s with
  | outside n =>
    cases n with
    | zero => simp [Spot.step] at hs
    | succ n => simp [Spot.step, h.outside] at hs
  | inside n | escaped n =>
    obtain ⟨m, hm⟩ := h.inside n _ (by simpa [Spot.step] using hs)
    cases hm

/-- **Nothing is read where no digit follows a minus sign.** -/
theorem not_read_after_minus {c : Char} (hc : c.isDigit = false) (rest : List Char) (j : Json) :
    read ('-' :: c :: rest) ≠ .ok j := by
  intro hread
  have hzero : c ≠ '0' := by
    rintro rfl
    simp at hc
  have hfail : Reader.step (Reader.step {} '-') c = Reader.fail (Reader.step {} '-') := by
    simp [Reader.step, Reader.isBlank, Reader.startValue, Numeral.step, hzero, hc]
  rw [read, List.foldl_cons, List.foldl_cons, hfail] at hread
  cases ((Reader.tracked_fail (Reader.step {} '-') none).foldl rest).finish hread

end RealtimeClient.Json
