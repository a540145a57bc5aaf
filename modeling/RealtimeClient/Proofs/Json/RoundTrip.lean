import Mathlib
import RealtimeClient.Proofs.Dict
import RealtimeClient.Proofs.Json.Tokens

/-!
# Reading what was written

Every text that the writer makes is read, unless its tree is nested too deeply.  What comes back is the tree
with each double as the reader makes it of its text, so a tree without doubles comes back as it was.  Since
the reader takes one character at a time, the statement to carry through a tree is about the reader in the
middle of a text: after the text of a value it behaves as if what is read of the value had been pushed.

* `Json.isFloatFree` — no number of the tree is a double.
* `Json.reread` — what a tree is read as when it has been written.
* `Reader.alike_foldl_write`, `Reader.broken_foldl_write` — a value in the middle of a text, where there is
  room for it and where there is none.
* `read_write_reread`, `read_write_of_lt` — **a whole text**; `read_write` — without doubles.
-/

namespace RealtimeClient.Json

mutual

/-- **No number of the tree is a double.** -/
def isFloatFree : Json → Bool
  | .number n => n.isInteger
  | .array items => areFloatFree items
  | .object members => membersFloatFree members
  | _ => true

/-- The same of a list of trees. -/
def areFloatFree : List Json → Bool
  | [] => true
  | item :: rest => item.isFloatFree && areFloatFree rest

/-- The same of the values of members. -/
def membersFloatFree {lo : Option String} : Dict.From Json lo → Bool
  | .nil => true
  | .cons _ _ value rest => value.isFloatFree && membersFloatFree rest

end

mutual

/-- **What a tree is read as** when it has been written: each number is what its own text is read as. -/
def reread : Json → Json
  | .null => .null
  | .bool b => .bool b
  | .number n => .number n.reread
  | .string s => .string s
  | .array items => .array (rereadItems items)
  | .object members => .object (rereadMembers members)

/-- The same of a list of trees. -/
def rereadItems : List Json → List Json
  | [] => []
  | item :: rest => item.reread :: rereadItems rest

/-- The same of the values of members. -/
def rereadMembers {lo : Option String} : Dict.From Json lo → Dict.From Json lo
  | .nil => .nil
  | .cons key above value rest => .cons key above value.reread (rereadMembers rest)

end

mutual

/-- **Without doubles a tree is read as itself.** -/
theorem reread_of_isFloatFree : (j : Json) → j.isFloatFree = true → j.reread = j
  | .null, _ => rfl
  | .bool _, _ => rfl
  | .number _, h => congrArg number (Number.reread_of_isInteger h)
  | .string _, _ => rfl
  | .array items, h => congrArg array (rereadItems_of_areFloatFree items h)
  | .object members, h => congrArg object (rereadMembers_of_membersFloatFree members h)

theorem rereadItems_of_areFloatFree : (items : List Json) → areFloatFree items = true →
    rereadItems items = items
  | [], _ => rfl
  | item :: rest, h => by
      simp only [areFloatFree, Bool.and_eq_true] at h
      rw [rereadItems, reread_of_isFloatFree item h.1, rereadItems_of_areFloatFree rest h.2]

theorem rereadMembers_of_membersFloatFree : {lo : Option String} → (members : Dict.From Json lo) →
    membersFloatFree members = true → rereadMembers members = members
  | _, .nil, _ => rfl
  | _, .cons key above value rest, h => by
      simp only [membersFloatFree, Bool.and_eq_true] at h
      rw [rereadMembers, reread_of_isFloatFree value h.1, rereadMembers_of_membersFloatFree rest h.2]

end

namespace Reader

/-! ## Words -/

theorem foldl_word (stack : List Open) (result : Json) (last : Char) (j : Json) :
    (word : List Char) →
      (word ++ [last]).foldl step ⟨stack, .word (word ++ [last]) j, result⟩ =
        push ⟨stack, .after, result⟩ j
  | [] => by
      rw [← push_mk stack result (.word [last] j)]
      simp [step]
  | c :: rest => by
      have hstep : step ⟨stack, .word (c :: (rest ++ [last])) j, result⟩ c =
          ⟨stack, .word (rest ++ [last]) j, result⟩ := by
        cases rest <;> simp [step]
      rw [List.cons_append, List.foldl_cons, hstep]
      exact foldl_word stack result last j rest

/-! ## Containers -/

/-- A container begins, unless too many are open. -/
theorem enter_of_lt {stack : List Open} (hlt : stack.length < depthLimit) (place place' : Place)
    (result : Json) (container : Open) :
    enter ⟨stack, place, result⟩ container place' = ⟨container :: stack, place', result⟩ :=
  if_pos hlt

/-- What comes after an item of an array, for every reader that behaves like one with that item. -/
theorem Alike.step_array {r : Reader} {rev : List Json} {stack : List Open} {result : Json}
    (h : Alike r ⟨.array rev :: stack, .after, result⟩) :
    r.step ',' = ⟨.array rev :: stack, .value, result⟩ ∧
      r.step ']' = push ⟨stack, .after, result⟩ (.array rev.reverse) :=
  ⟨h.step ',' (by decide), h.step ']' (by decide)⟩

/-- What comes after a member of an object, for every reader that behaves like one with that
member. -/
theorem Alike.step_object {r : Reader} {members : Dict Json} {key : String} {stack : List Open}
    {result : Json} (h : Alike r ⟨.object members key :: stack, .after, result⟩) :
    r.step ',' = ⟨.object members key :: stack, .key, result⟩ ∧
      r.step '}' = push ⟨stack, .after, result⟩ (.object members) :=
  ⟨h.step ',' (by decide), h.step '}' (by decide)⟩

/-- A key with its colon leads to the place of its value. -/
theorem foldl_writeString_key {place : Place} (hp : place = .key ∨ place = .firstKey)
    (members : Dict Json) (old key : String) (stack : List Open) (result : Json)
    (rest : List Char) :
    (writeString key ++ ':' :: rest).foldl step ⟨.object members old :: stack, place, result⟩ =
      rest.foldl step ⟨.object members key :: stack, .value, result⟩ := by
  have hmark : step ⟨.object members old :: stack, place, result⟩ '"' =
      ⟨.object members old :: stack, .text true [] .plain, result⟩ := by
    rcases hp with rfl | rfl <;> rfl
  rw [writeString, List.cons_append, List.foldl_cons, hmark, List.foldl_append, foldl_string_rest,
    endText_key, List.foldl_cons]
  rfl

/-! ## Trees

The induction is on the tree.  Inside of an array the reader holds the items so far, inside of an
object the members so far, and the room left on the stack covers the depth of what is to come.
-/

mutual

/-- **After the text of a value the reader behaves as if the value had been pushed.** -/
theorem alike_foldl_write : (j : Json) → (r : Reader) → Ready r →
    r.stack.length + j.depth ≤ depthLimit → Alike (j.write.foldl step r) (r.push j.reread)
  | .null, ⟨stack, place, result⟩, hr, _ => by
      have hword := foldl_word stack result 'l' .null ['u', 'l']
      rw [push_mk, reread, write, List.foldl_cons, hr.step (by decide) (by decide)]
      rw [← hword]
      rfl
  | .bool true, ⟨stack, place, result⟩, hr, _ => by
      have hword := foldl_word stack result 'e' (.bool true) ['r', 'u']
      rw [push_mk, reread, write, List.foldl_cons, hr.step (by decide) (by decide)]
      rw [← hword]
      rfl
  | .bool false, ⟨stack, place, result⟩, hr, _ => by
      have hword := foldl_word stack result 'e' (.bool false) ['a', 'l', 's']
      rw [push_mk, reread, write, List.foldl_cons, hr.step (by decide) (by decide)]
      rw [← hword]
      rfl
  | .number n, r, hr, _ => alike_foldl_write_number hr n
  | .string s, ⟨stack, place, result⟩, hr, _ => by
      have hrest := foldl_string_rest stack result false s
      rw [endText_value] at hrest
      rw [push_mk, reread, write, writeString, List.foldl_cons, hr.step (by decide) (by decide), ← hrest]
      rfl
  | .array [], ⟨stack, place, result⟩, hr, hd => by
      have hlt : stack.length < depthLimit := by
        simp only [depth, depthOfItems] at hd
        omega
      rw [push_mk, write, List.foldl_cons, hr.step (by decide) (by decide)]
      rw [show startValue _ '[' = _ from enter_of_lt hlt place .firstItem result (.array [])]
      rw [← push_mk stack result .firstItem]
      rfl
  | .array (item :: rest), ⟨stack, place, result⟩, hr, hd => by
      simp only [depth, depthOfItems] at hd
      have hlt : stack.length < depthLimit := by omega
      have hitem := alike_foldl_write item ⟨.array [] :: stack, .firstItem, result⟩ (.inr rfl)
        (by simp only [List.length_cons]; omega)
      have hrest := foldl_writeItems rest [item.reread] stack result _ hitem (by omega)
      rw [push_mk, write, List.foldl_cons, hr.step (by decide) (by decide)]
      rw [show startValue _ '[' = _ from enter_of_lt hlt place .firstItem result (.array [])]
      rw [List.append_assoc, List.foldl_append, hrest]
      rfl
  | .object .nil, ⟨stack, place, result⟩, hr, hd => by
      have hlt : stack.length < depthLimit := by
        simp only [depth, depthOfMembers] at hd
        omega
      rw [push_mk, write, List.foldl_cons, hr.step (by decide) (by decide)]
      rw [show startValue _ '{' = _ from enter_of_lt hlt place .firstKey result (.object .empty "")]
      rw [← push_mk stack result .firstKey]
      rfl
  | .object (.cons key above value rest), ⟨stack, place, result⟩, hr, hd => by
      simp only [depth, depthOfMembers] at hd
      have hlt : stack.length < depthLimit := by omega
      have hvalue := alike_foldl_write value ⟨.object .empty key :: stack, .value, result⟩ (.inl rfl)
        (by simp only [List.length_cons]; omega)
      have hrest := foldl_writeMembers rest (Dict.empty.insert key value.reread) key stack result _
        hvalue (by omega)
      have hmembers : (rereadMembers rest).toList.foldl (fun m p => Dict.insert m p.1 p.2)
          (Dict.empty.insert key value.reread) = .cons key above value.reread (rereadMembers rest) :=
        Dict.ofList_toList (.cons key above value.reread (rereadMembers rest))
      rw [push_mk, write, List.foldl_cons, hr.step (by decide) (by decide)]
      rw [show startValue _ '{' = _ from enter_of_lt hlt place .firstKey result (.object .empty "")]
      rw [foldl_writeString_key (.inr rfl), List.append_assoc, List.foldl_append, hrest, hmembers]
      rfl

/-- The items after the first one, up to the end of their array. -/
theorem foldl_writeItems : (items : List Json) → (rev : List Json) → (stack : List Open) →
    (result : Json) → (r : Reader) → Alike r ⟨.array rev :: stack, .after, result⟩ →
      stack.length + 1 + depthOfItems items ≤ depthLimit →
        (writeItems items ++ [']']).foldl step r =
          push ⟨stack, .after, result⟩ (.array (rev.reverse ++ rereadItems items))
  | [], rev, stack, result, r, hr, _ => by
      rw [rereadItems, List.append_nil]
      exact hr.step_array.2
  | item :: rest, rev, stack, result, r, hr, hd => by
      simp only [depthOfItems] at hd
      have hitem := alike_foldl_write item ⟨.array rev :: stack, .value, result⟩ (.inl rfl)
        (by simp only [List.length_cons]; omega)
      have hrest := foldl_writeItems rest (item.reread :: rev) stack result _ hitem (by omega)
      rw [writeItems, List.cons_append, List.foldl_cons, hr.step_array.1, List.append_assoc,
        List.foldl_append, hrest]
      simp [rereadItems]

/-- The members after the first one, up to the end of their object. -/
theorem foldl_writeMembers : {lo : Option String} → (rest : Dict.From Json lo) →
    (members : Dict Json) → (key : String) → (stack : List Open) → (result : Json) →
      (r : Reader) → Alike r ⟨.object members key :: stack, .after, result⟩ →
        stack.length + 1 + depthOfMembers rest ≤ depthLimit →
          (writeMembers rest ++ ['}']).foldl step r =
            push ⟨stack, .after, result⟩
              (.object ((rereadMembers rest).toList.foldl (fun m p => Dict.insert m p.1 p.2) members))
  | _, .nil, members, key, stack, result, r, hr, _ => hr.step_object.2
  | _, .cons next _ value rest, members, key, stack, result, r, hr, hd => by
      simp only [depthOfMembers] at hd
      have hvalue := alike_foldl_write value ⟨.object members next :: stack, .value, result⟩
        (.inl rfl) (by simp only [List.length_cons]; omega)
      have hrest := foldl_writeMembers rest (members.insert next value.reread) next stack result _
        hvalue (by omega)
      rw [writeMembers, List.cons_append, List.foldl_cons, hr.step_object.1, List.append_assoc,
        List.cons_append, foldl_writeString_key (.inl rfl), List.append_assoc, List.foldl_append,
        hrest]
      rfl

end

/-! ## Trees that are too deep

Where the stack has no more room the reader fails at the bracket that opens a container, and stays so.
-/

theorem foldl_of_broken {r : Reader} (h : r.place = .broken) (text : List Char) : text.foldl step r = r := by
  induction text with
  | nil => rfl
  | cons c rest ih =>
    have hstep : r.step c = r := by simp only [step, h]
    rw [List.foldl_cons, hstep, ih]

/-- A text that begins with a broken part is broken. -/
theorem broken_append {r : Reader} {text : List Char} (h : (text.foldl step r).place = .broken)
    (more : List Char) : ((text ++ more).foldl step r).place = .broken := by
  rw [List.foldl_append, foldl_of_broken h]
  exact h

/-- **A container that is opened without room** breaks the text. -/
theorem broken_cons {r : Reader} (hr : Ready r) {mark : Char} (hblank : isBlank mark = false)
    (hend : mark ≠ ']') {container : Open} {place : Place} (hmark : r.startValue mark = r.enter container place)
    (hfull : ¬r.stack.length < depthLimit) (more : List Char) :
    ((mark :: more).foldl step r).place = .broken := by
  rw [List.foldl_cons, hr.step hblank hend, hmark, enter, if_neg hfull, foldl_of_broken rfl]
  rfl

mutual

/-- **A value that is too deep for the room that is left** breaks the text. -/
theorem broken_foldl_write : (j : Json) → (r : Reader) → Ready r → r.stack.length ≤ depthLimit →
    depthLimit < r.stack.length + j.depth → (j.write.foldl step r).place = .broken
  | .null, _, _, hs, hd => absurd hd (Nat.not_lt.2 hs)
  | .bool _, _, _, hs, hd => absurd hd (Nat.not_lt.2 hs)
  | .number _, _, _, hs, hd => absurd hd (Nat.not_lt.2 hs)
  | .string _, _, _, hs, hd => absurd hd (Nat.not_lt.2 hs)
  | .array [], r, hr, _, hd => by
      simp only [depth, depthOfItems] at hd
      exact broken_cons hr (by decide) (by decide) rfl (by omega) _
  | .array (item :: rest), r, hr, _, hd => by
      simp only [depth, depthOfItems] at hd
      by_cases hlt : r.stack.length < depthLimit
      · obtain ⟨stack, place, result⟩ := r
        rw [write, List.foldl_cons, hr.step (by decide) (by decide)]
        rw [show startValue _ '[' = _ from enter_of_lt hlt place .firstItem result (.array [])]
        rw [List.append_assoc]
        by_cases hitem : depthLimit < stack.length + 1 + item.depth
        · exact broken_append (broken_foldl_write item ⟨.array [] :: stack, _, _⟩ (.inr rfl) hlt hitem) _
        · rw [List.foldl_append]
          refine broken_foldl_writeItems rest [item.reread] stack result _
            (alike_foldl_write item _ (.inr rfl) (Nat.not_lt.1 hitem)) hlt ?_
          simp only at hd
          omega
      · exact broken_cons hr (by decide) (by decide) rfl hlt _
  | .object .nil, r, hr, _, hd => by
      simp only [depth, depthOfMembers] at hd
      exact broken_cons hr (by decide) (by decide) rfl (by omega) _
  | .object (.cons key above value rest), r, hr, _, hd => by
      simp only [depth, depthOfMembers] at hd
      by_cases hlt : r.stack.length < depthLimit
      · obtain ⟨stack, place, result⟩ := r
        rw [write, List.foldl_cons, hr.step (by decide) (by decide)]
        rw [show startValue _ '{' = _ from enter_of_lt hlt place .firstKey result (.object .empty "")]
        rw [foldl_writeString_key (.inr rfl), List.append_assoc]
        by_cases hvalue : depthLimit < stack.length + 1 + value.depth
        · exact broken_append (broken_foldl_write value ⟨.object _ key :: stack, _, _⟩ (.inl rfl) hlt hvalue) _
        · rw [List.foldl_append]
          refine broken_foldl_writeMembers rest (Dict.empty.insert key value.reread) key stack result _
            (alike_foldl_write value _ (.inl rfl) (Nat.not_lt.1 hvalue)) hlt ?_
          simp only at hd
          omega
      · exact broken_cons hr (by decide) (by decide) rfl hlt _

/-- The items after the first one. -/
theorem broken_foldl_writeItems : (items : List Json) → (rev : List Json) → (stack : List Open) →
    (result : Json) → (r : Reader) → Alike r ⟨.array rev :: stack, .after, result⟩ →
      stack.length < depthLimit → depthLimit < stack.length + 1 + depthOfItems items →
        ((writeItems items ++ [']']).foldl step r).place = .broken
  | [], _, _, _, _, _, hs, hd => absurd hd (Nat.not_lt.2 hs)
  | item :: rest, rev, stack, result, r, hr, hs, hd => by
      simp only [depthOfItems] at hd
      rw [writeItems, List.cons_append, List.foldl_cons, hr.step_array.1, List.append_assoc]
      by_cases hitem : depthLimit < stack.length + 1 + item.depth
      · exact broken_append (broken_foldl_write item ⟨.array rev :: stack, _, _⟩ (.inl rfl) hs hitem) _
      · rw [List.foldl_append]
        exact broken_foldl_writeItems rest (item.reread :: rev) stack result _
          (alike_foldl_write item _ (.inl rfl) (Nat.not_lt.1 hitem)) hs (by omega)

/-- The members after the first one. -/
theorem broken_foldl_writeMembers : {lo : Option String} → (rest : Dict.From Json lo) →
    (members : Dict Json) → (key : String) → (stack : List Open) → (result : Json) →
      (r : Reader) → Alike r ⟨.object members key :: stack, .after, result⟩ →
        stack.length < depthLimit → depthLimit < stack.length + 1 + depthOfMembers rest →
          ((writeMembers rest ++ ['}']).foldl step r).place = .broken
  | _, .nil, _, _, _, _, _, _, hs, hd => absurd hd (Nat.not_lt.2 hs)
  | _, .cons next _ value rest, members, key, stack, result, r, hr, hs, hd => by
      simp only [depthOfMembers] at hd
      rw [writeMembers, List.cons_append, List.foldl_cons, hr.step_object.1, List.append_assoc,
        List.cons_append, foldl_writeString_key (.inl rfl), List.append_assoc]
      by_cases hvalue : depthLimit < stack.length + 1 + value.depth
      · exact broken_append (broken_foldl_write value ⟨.object members next :: stack, _, _⟩ (.inl rfl) hs hvalue) _
      · rw [List.foldl_append]
        exact broken_foldl_writeMembers rest (members.insert next value.reread) next stack result _
          (alike_foldl_write value _ (.inl rfl) (Nat.not_lt.1 hvalue)) hs (by omega)

end

end Reader

/-- **A text that was written is read**, within the limit of nesting. -/
theorem read_write_reread {j : Json} (hd : j.depth ≤ Reader.depthLimit) : read j.write = .ok j.reread := by
  have h := Reader.alike_foldl_write j {} (.inl rfl) (by simpa using hd)
  exact h.finish

/-- **A text of a tree that is too deep is refused.** -/
theorem read_write_of_lt {j : Json} (hd : Reader.depthLimit < j.depth) :
    read j.write = .error .malformed := by
  have hbroken := Reader.broken_foldl_write j {} (.inl rfl) (Nat.zero_le _) (by simpa using hd)
  simp only [read, Reader.finish, hbroken]

/-- **The reader undoes the writer** on trees without doubles, within the limit of nesting. -/
theorem read_write {j : Json} (hf : j.isFloatFree = true) (hd : j.depth ≤ Reader.depthLimit) :
    read j.write = .ok j := by
  rw [read_write_reread hd, reread_of_isFloatFree j hf]

end RealtimeClient.Json
