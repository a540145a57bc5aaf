import Mathlib
import RealtimeClient.Value

/-!
# The parts of a value

* `Value.all` — a property of every part of a value, the value itself included;
  `Value.all_mono` — a weaker property follows.
* `Value.length_buffers` — the buffers are as many as `binaryCount` says.
-/

namespace RealtimeClient.Value

mutual

/-- **Whether every part of a value has a property**, the value itself included. -/
def all (p : Value → Bool) : Value → Bool
  | .array items => p (.array items) && allItems p items
  | .object members => p (.object members) && allMembers p members
  | v => p v

/-- The same of the parts of a list of values. -/
def allItems (p : Value → Bool) : List Value → Bool
  | [] => true
  | item :: rest => item.all p && allItems p rest

/-- The same of the parts of members. -/
def allMembers (p : Value → Bool) {lo : Option String} : Dict.From Value lo → Bool
  | .nil => true
  | .cons _ _ value rest => value.all p && allMembers p rest

end

section Mono

variable {p q : Value → Bool}

mutual

/-- What follows from a property of the parts is a property of the parts. -/
theorem all_mono (hpq : ∀ v, p v = true → q v = true) :
    (v : Value) → v.all p = true → v.all q = true
  | .null, h => hpq _ h
  | .bool _, h => hpq _ h
  | .int _, h => hpq _ h
  | .double _, h => hpq _ h
  | .string _, h => hpq _ h
  | .binary _, h => hpq _ h
  | .array items, h => by
      simp only [all, Bool.and_eq_true] at h ⊢
      exact ⟨hpq _ h.1, allItems_mono hpq items h.2⟩
  | .object members, h => by
      simp only [all, Bool.and_eq_true] at h ⊢
      exact ⟨hpq _ h.1, allMembers_mono hpq members h.2⟩

theorem allItems_mono (hpq : ∀ v, p v = true → q v = true) :
    (items : List Value) → allItems p items = true → allItems q items = true
  | [], _ => rfl
  | item :: rest, h => by
      simp only [allItems, Bool.and_eq_true] at h ⊢
      exact ⟨all_mono hpq item h.1, allItems_mono hpq rest h.2⟩

theorem allMembers_mono (hpq : ∀ v, p v = true → q v = true) :
    {lo : Option String} → (members : Dict.From Value lo) →
      allMembers p members = true → allMembers q members = true
  | _, .nil, _ => rfl
  | _, .cons _ _ value rest, h => by
      simp only [allMembers, Bool.and_eq_true] at h ⊢
      exact ⟨all_mono hpq value h.1, allMembers_mono hpq rest h.2⟩

end

end Mono

/-- Whether the value is a double. -/
def isDouble : Value → Bool
  | .double _ => true
  | _ => false

mutual

/-- **There are as many buffers as are counted.** -/
theorem length_buffers : (v : Value) → v.buffers.length = v.binaryCount
  | .null => rfl
  | .bool _ => rfl
  | .int _ => rfl
  | .double _ => rfl
  | .string _ => rfl
  | .binary _ => rfl
  | .array items => length_buffersOfItems items
  | .object members => length_buffersOfMembers members

theorem length_buffersOfItems : (items : List Value) →
    (buffersOfItems items).length = binaryCountOfItems items
  | [] => rfl
  | item :: rest => by
      rw [buffersOfItems, binaryCountOfItems, List.length_append, length_buffers item,
        length_buffersOfItems rest]

theorem length_buffersOfMembers : {lo : Option String} → (members : Dict.From Value lo) →
    (buffersOfMembers members).length = binaryCountOfMembers members
  | _, .nil => rfl
  | _, .cons _ _ value rest => by
      rw [buffersOfMembers, binaryCountOfMembers, List.length_append, length_buffers value,
        length_buffersOfMembers rest]

end

end RealtimeClient.Value
