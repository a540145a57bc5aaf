import Mathlib
import RealtimeClient.Json.Reader
import RealtimeClient.Proofs.Dict

/-!
# How deep a text can nest

The reader refuses to open more than `Reader.depthLimit` containers at a time, and that bounds the
tree that comes out.  A tree goes into the container it stands in when it is complete, so what has
to be carried along is the room that is left there: the more containers are open around a place, the
less deep the trees in it are.

* `depthOfItems_le_iff`, `depthOfMembers_le_iff` — a container is as deep as the deepest of its parts.
* `Reader.Roomy` — what the open containers hold is as deep as their places allow.
* `Reader.Bounded` — the same of a whole state; `Reader.Bounded.step` — one character keeps it.
* `depth_le_of_read` — **a text that is read gives a tree within the limit**.
-/

namespace RealtimeClient.Json

/-! ## The depth of parts -/

theorem depthOfItems_le_iff {items : List Json} {n : Nat} :
    depthOfItems items ≤ n ↔ ∀ j ∈ items, j.depth ≤ n := by
  induction items with
  | nil => simp [depthOfItems]
  | cons item rest ih => simp [depthOfItems, ih]

theorem depthOfMembers_le_iff {n : Nat} : {lo : Option String} → {members : Dict.From Json lo} →
    (depthOfMembers members ≤ n ↔ ∀ j ∈ members.values, j.depth ≤ n)
  | _, .nil => by simp [depthOfMembers, Dict.From.values, Dict.From.toList]
  | _, .cons key above value rest => by
      have ih : depthOfMembers rest ≤ n ↔ ∀ j ∈ rest.values, j.depth ≤ n := depthOfMembers_le_iff
      simp only [Dict.From.values] at ih
      simp [depthOfMembers, Dict.From.values, Dict.From.toList, ih]

/-- How deep the parts of an open container are so far. -/
def Open.depth : Open → Nat
  | .array rev => depthOfItems rev
  | .object members _ => depthOfMembers members

namespace Reader

/-- **Open containers, innermost first, whose parts keep to the limit**: each part is as deep at
most as the containers around it leave room for. -/
def Roomy : List Open → Prop
  | [] => True
  | container :: rest => container.depth + rest.length + 1 ≤ depthLimit ∧ Roomy rest

/-- **A state in which nothing is too deep.**  A word that is being read stands for a value without
containers. -/
structure Bounded (r : Reader) : Prop where
  stack : Roomy r.stack
  result : r.result.depth ≤ depthLimit
  word : ∀ rest j, r.place = .word rest j → j.depth = 0

namespace Bounded

variable {r : Reader}

theorem start : Bounded {} := ⟨trivial, Nat.zero_le _, nofun⟩

/-- The place does not count, outside of words. -/
theorem move (h : Bounded r) {place : Place} (hplace : ∀ rest j, place ≠ .word rest j) :
    Bounded { r with place } :=
  ⟨h.stack, h.result, fun rest j hj => absurd hj (hplace rest j)⟩

theorem fail (h : Bounded r) : Bounded r.fail := h.move nofun

/-- **A complete value** goes in where there is room for it. -/
theorem push (h : Bounded r) {j : Json} (hj : j.depth + r.stack.length ≤ depthLimit) :
    Bounded (r.push j) := by
  obtain ⟨stack, place, result⟩ := r
  cases stack with
  | nil => exact ⟨trivial, hj, nofun⟩
  | cons container rest =>
    obtain ⟨hcontainer, hrest⟩ := h.stack
    rw [List.length_cons] at hj
    cases container with
    | array rev =>
      refine ⟨⟨?_, hrest⟩, h.result, nofun⟩
      simp only [Open.depth, depthOfItems] at hcontainer ⊢
      omega
    | object members key =>
      refine ⟨⟨?_, hrest⟩, h.result, nofun⟩
      have hmembers : depthOfMembers members ≤ depthLimit - rest.length - 1 := by
        simp only [Open.depth] at hcontainer
        omega
      have hinsert : depthOfMembers (members.insert key j) ≤ depthLimit - rest.length - 1 := by
        rw [depthOfMembers_le_iff] at hmembers ⊢
        intro w hw
        rcases Dict.From.mem_values_insert _ hw with rfl | hw
        · omega
        · exact hmembers w hw
      simp only [Open.depth]
      omega

/-- A value without containers fits anywhere. -/
theorem push_leaf (h : Bounded r) {j : Json} (hj : j.depth = 0) : Bounded (r.push j) := by
  refine h.push ?_
  obtain ⟨stack, place, result⟩ := r
  cases stack with
  | nil => simp [hj]
  | cons container rest =>
    have hcontainer := h.stack.1
    simp only [List.length_cons, hj]
    omega

theorem enter (h : Bounded r) {container : Open} (hempty : container.depth = 0) {place : Place}
    (hplace : ∀ rest j, place ≠ .word rest j) : Bounded (r.enter container place) := by
  unfold Reader.enter
  split
  · next hlt =>
    refine ⟨⟨?_, h.stack⟩, h.result, fun rest j hj => absurd hj (hplace rest j)⟩
    rw [hempty]
    omega
  · exact h.fail

/-- The innermost container keeps to its room, and without it the state is within the limit too. -/
theorem pop (h : Bounded r) {container : Open} {rest : List Open}
    (hstack : r.stack = container :: rest) :
    container.depth + rest.length + 1 ≤ depthLimit ∧ Bounded { r with stack := rest } := by
  have hroomy := h.stack
  rw [hstack] at hroomy
  exact ⟨hroomy.1, hroomy.2, h.result, h.word⟩

theorem closeArray (h : Bounded r) : Bounded r.closeArray := by
  unfold Reader.closeArray
  split
  · next rev rest hstack =>
    obtain ⟨hdepth, hbelow⟩ := h.pop hstack
    refine hbelow.push ?_
    have hrev : depthOfItems rev.reverse ≤ depthOfItems rev :=
      depthOfItems_le_iff.2 fun j hj => depthOfItems_le_iff.1 le_rfl j (List.mem_reverse.1 hj)
    simp only [Open.depth] at hdepth
    simp only [Json.depth]
    omega
  · exact h.fail

theorem closeObject (h : Bounded r) : Bounded r.closeObject := by
  unfold Reader.closeObject
  split
  · next members key rest hstack =>
    obtain ⟨hdepth, hbelow⟩ := h.pop hstack
    refine hbelow.push ?_
    simp only [Open.depth] at hdepth
    simp only [Json.depth]
    omega
  · exact h.fail

/-- A word stands for a value without containers. -/
theorem atWord (h : Bounded r) (rest : List Char) {j : Json} (hj : j.depth = 0) :
    Bounded { r with place := .word rest j } := by
  refine ⟨h.stack, h.result, fun rest' j' heq => ?_⟩
  obtain ⟨-, rfl⟩ := Place.word.inj heq
  exact hj

theorem startValue (h : Bounded r) (c : Char) : Bounded (r.startValue c) := by
  unfold Reader.startValue
  split
  · exact h.atWord _ rfl
  · exact h.atWord _ rfl
  · exact h.atWord _ rfl
  · exact h.move nofun
  · exact h.enter rfl nofun
  · exact h.enter rfl nofun
  · exact h.move nofun
  · exact h.move nofun
  · split
    · exact h.move nofun
    · exact h.fail

theorem afterValue (h : Bounded r) (c : Char) : Bounded (r.afterValue c) := by
  unfold Reader.afterValue
  split
  · exact h.move nofun
  · exact h.closeArray
  · exact h.move nofun
  · exact h.closeObject
  · exact h.fail

theorem endText (h : Bounded r) (isKey : Bool) (rev : List Char) : Bounded (r.endText isKey rev) := by
  unfold Reader.endText
  dsimp only
  split
  · unfold Reader.nameMember
    split
    · next members key rest hstack =>
      have hroomy := h.stack
      rw [hstack] at hroomy
      exact ⟨hroomy, h.result, nofun⟩
    · exact h.fail
  · exact h.push_leaf rfl

theorem endNumeral (h : Bounded r) (n : Numeral) : Bounded (r.endNumeral n) := by
  unfold Reader.endNumeral
  split
  · exact h.push_leaf rfl
  · exact h.fail

/-- **One character keeps everything within the limit.** -/
theorem step (h : Bounded r) (c : Char) : Bounded (r.step c) := by
  cases hplace : r.place with
  | broken =>
    simp only [Reader.step, hplace]
    exact h
  | value =>
    simp only [Reader.step, hplace]
    split_ifs
    · exact h
    · exact h.startValue c
  | firstItem =>
    simp only [Reader.step, hplace]
    split_ifs
    · exact h
    · exact h.closeArray
    · exact h.startValue c
  | key | colon =>
    simp only [Reader.step, hplace]
    split_ifs
    · exact h
    · exact h.move nofun
    · exact h.fail
  | firstKey =>
    simp only [Reader.step, hplace]
    split_ifs
    · exact h
    · exact h.move nofun
    · exact h.closeObject
    · exact h.fail
  | after =>
    simp only [Reader.step, hplace]
    split_ifs
    · exact h
    · exact h.afterValue c
  | word rest j =>
    have hj : j.depth = 0 := h.word rest j hplace
    simp only [Reader.step, hplace]
    split
    · exact h.fail
    · split_ifs
      · exact h.push_leaf hj
      · exact h.fail
    · split_ifs
      · exact h.atWord _ hj
      · exact h.fail
  | text isKey rev place =>
    simp only [Reader.step, hplace]
    split
    · exact h.move nofun
    · exact h.endText isKey rev
    · exact h.fail
  | numeral n place =>
    simp only [Reader.step, hplace]
    split
    · exact h.move nofun
    · exact h.fail
    · -- the character after a number is looked at as the one after a value
      have hend := h.endNumeral n
      split
      · split_ifs
        · exact hend
        · exact hend.afterValue c
      · exact hend

theorem foldl (h : Bounded r) (text : List Char) : Bounded (text.foldl Reader.step r) := by
  induction text generalizing r with
  | nil => exact h
  | cons c rest ih => exact ih (h.step c)

theorem finish (h : Bounded r) {j : Json} (hj : r.finish = .ok j) : j.depth ≤ depthLimit := by
  unfold Reader.finish at hj
  dsimp only at hj
  split at hj
  · cases hj
  · cases hj
    -- A number may have come to its end with the text.
    split
    · split_ifs
      · exact (h.endNumeral _).result
      · exact h.result
    · exact h.result
  · cases hj

end Bounded

end Reader

/-- **A text that is read gives a tree within the limit of nesting.** -/
theorem depth_le_of_read {text : List Char} {j : Json} (h : read text = .ok j) :
    j.depth ≤ Reader.depthLimit :=
  (Reader.Bounded.start.foldl text).finish h

end RealtimeClient.Json
