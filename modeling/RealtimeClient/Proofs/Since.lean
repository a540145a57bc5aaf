import Mathlib

/-!
# Histories

A history is a list of what has happened, the latest last, and grows at its end.

* `split_append` — where an entry of a longer history is.
* `Since` — something has happened, and nothing that would stop it has happened since; `since_append` —
  so it is in a longer history.
-/

namespace RealtimeClient

variable {α : Type} {stops holds : α → Prop} {history more earlier later : List α} {x : α}

/-- **An entry of a longer history** was there before, or is one of the new ones. -/
theorem split_append (h : history ++ more = earlier ++ x :: later) :
    (∃ between, history = earlier ++ x :: between ∧ later = between ++ more) ∨
      ∃ between, earlier = history ++ between ∧ more = between ++ x :: later := by
  rcases List.append_eq_append_iff.1 h with ⟨between, hearlier, hmore⟩ | ⟨between, hhistory, hlater⟩
  · exact .inr ⟨between, hearlier, hmore⟩
  · cases between with
    | nil => exact .inr ⟨[], by simpa using hhistory.symm, hlater.symm⟩
    | cons y between =>
      obtain ⟨rfl, hrest⟩ := List.cons.inj hlater
      exact .inl ⟨between, hhistory, hrest⟩

/-- **Something has happened, and nothing that stops it has happened since.** -/
def Since (stops holds : α → Prop) (history : List α) : Prop :=
  ∃ earlier x later, history = earlier ++ x :: later ∧ holds x ∧ ∀ y ∈ later, ¬stops y

theorem since_append :
    Since stops holds (history ++ more) ↔
      Since stops holds more ∨ Since stops holds history ∧ ∀ y ∈ more, ¬stops y := by
  constructor
  · rintro ⟨earlier, x, later, heq, hx, hlater⟩
    rcases split_append heq with ⟨between, hhistory, rfl⟩ | ⟨between, -, hmore⟩
    · rw [List.forall_mem_append] at hlater
      exact .inr ⟨⟨earlier, x, between, hhistory, hx, hlater.1⟩, hlater.2⟩
    · exact .inl ⟨between, x, later, hmore, hx, hlater⟩
  · rintro (⟨earlier, x, later, rfl, hx, hlater⟩ | ⟨⟨earlier, x, later, rfl, hx, hlater⟩, hmore⟩)
    · exact ⟨history ++ earlier, x, later, (List.append_assoc ..).symm, hx, hlater⟩
    · exact ⟨earlier, x, later ++ more, by simp, hx, List.forall_mem_append.2 ⟨hlater, hmore⟩⟩

theorem since_of_mem (hmem : x ∈ history) (hx : holds x) (h : ∀ y ∈ history, ¬stops y) :
    Since stops holds history := by
  obtain ⟨earlier, later, rfl⟩ := List.append_of_mem hmem
  exact ⟨earlier, x, later, rfl, hx, fun y hy =>
    h y (List.mem_append_right _ (List.mem_cons_of_mem x hy))⟩

theorem Since.exists_mem (h : Since stops holds history) : ∃ x ∈ history, holds x := by
  obtain ⟨earlier, x, later, rfl, hx, -⟩ := h
  exact ⟨x, by simp, hx⟩

end RealtimeClient
