import Mathlib
import RealtimeClient.Text.Blank

/-!
# Texts between blanks

What trimming and splitting make of a text that is put together from blanks and of parts that have none
where they are joined.

* `Blanks`, `Inked`, `Tight` — texts of blanks only, texts without a blank, and texts without one at
  their ends.
* `trimStart_append`, `trim_append` — blanks around a tight text are all that is trimmed.
* `splitBlank?_append`, `splitBlank?_eq_none` — the first blank ends the first word.
-/

namespace RealtimeClient.Text

/-- **A text of blanks only.** -/
def Blanks (text : List Char) : Prop := ∀ c ∈ text, isBlank c = true

/-- **A text without blanks.** -/
def Inked (text : List Char) : Prop := ∀ c ∈ text, isBlank c = false

/-- **A text without blanks at its ends.** -/
structure Tight (text : List Char) : Prop where
  head : ∀ c ∈ text.head?, isBlank c = false
  last : ∀ c ∈ text.getLast?, isBlank c = false

instance (text : List Char) : Decidable (Blanks text) :=
  decidable_of_iff (text.all isBlank = true) List.all_eq_true

instance (text : List Char) : Decidable (Inked text) :=
  decidable_of_iff (text.all (fun c => !isBlank c) = true) (by simp [Inked])

theorem Inked.append {a b : List Char} (ha : Inked a) (hb : Inked b) : Inked (a ++ b) := by
  intro c hc
  exact (List.mem_append.1 hc).elim (ha c) (hb c)

theorem Inked.tight {text : List Char} (h : Inked text) : Tight text where
  head c hc := h c (List.mem_of_mem_head? hc)
  last c hc := h c (List.mem_of_mem_getLast? hc)

/-- What stands between two tight texts makes no difference to the ends. -/
theorem Tight.append {a b : List Char} (ha : Tight a) (hb : Tight b) (hane : a ≠ []) (hbne : b ≠ [])
    (between : List Char) : Tight (a ++ between ++ b) where
  head c hc := by
    rw [List.append_assoc, List.head?_append_of_ne_nil _ hane] at hc
    exact ha.head c hc
  last c hc := by
    rw [List.getLast?_append_of_ne_nil _ hbne] at hc
    exact hb.last c hc

/-! ## Trimming -/

theorem trimStart_of_tight {text : List Char} (h : ∀ c ∈ text.head?, isBlank c = false) :
    trimStart text = text := by
  cases text with
  | nil => rfl
  | cons c rest => exact List.dropWhile_cons_of_neg (by simp [h c rfl])

/-- Blanks in front are left out. -/
theorem trimStart_append {blanks text : List Char} (hblanks : Blanks blanks)
    (htext : ∀ c ∈ text.head?, isBlank c = false) : trimStart (blanks ++ text) = text := by
  rw [trimStart, List.dropWhile_append_of_pos hblanks]
  exact trimStart_of_tight htext

/-- **Blanks around a tight text are left out.** -/
theorem trim_append {before text after : List Char} (hbefore : Blanks before) (htext : Tight text)
    (hafter : Blanks after) : trim (before ++ text ++ after) = text := by
  by_cases hne : text = []
  · subst hne
    have hall : Blanks (before ++ after) := fun c hc => (List.mem_append.1 hc).elim (hbefore c) (hafter c)
    have hnil : trimStart (before ++ after ++ []) = [] := trimStart_append hall nofun
    rw [List.append_nil] at hnil ⊢
    rw [trim, hnil]
    rfl
  · have hfront : trimStart (before ++ text ++ after) = text ++ after := by
      rw [List.append_assoc]
      refine trimStart_append hbefore fun c hc => htext.head c ?_
      rwa [List.head?_append_of_ne_nil _ hne] at hc
    have hback : trimStart (after.reverse ++ text.reverse) = text.reverse :=
      trimStart_append (fun c hc => hafter c (List.mem_reverse.1 hc)) fun c hc =>
        htext.last c (by rwa [List.head?_reverse] at hc)
    rw [trim, hfront, List.reverse_append, hback, List.reverse_reverse]

/-! ## The first word -/

/-- **The first blank ends the first word.** -/
theorem splitBlank?_append {word : List Char} (hword : Inked word) {c : Char} (hc : isBlank c = true)
    (rest : List Char) : splitBlank? (word ++ c :: rest) = some (word, rest) := by
  induction word with
  | nil => simp [splitBlank?, hc]
  | cons d word ih =>
    have hd := hword d List.mem_cons_self
    have hrest := ih fun e he => hword e (List.mem_cons_of_mem d he)
    simp [splitBlank?, hd, hrest]

theorem splitBlank?_eq_none {word : List Char} (hword : Inked word) : splitBlank? word = none := by
  induction word with
  | nil => rfl
  | cons d word ih =>
    have hd := hword d List.mem_cons_self
    have hrest := ih fun e he => hword e (List.mem_cons_of_mem d he)
    simp [splitBlank?, hd, hrest]

end RealtimeClient.Text
