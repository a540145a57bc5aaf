import Mathlib
import RealtimeClient.Proofs.Codec.Filling
import RealtimeClient.Proofs.Positions

/-!
# Values that come back

A value comes back from its JSON and its buffers if it is faithful: none of its parts is a lookalike of a
placeholder or a double that is not finite.  No other value comes back, whatever buffers its JSON is filled
with, since a lookalike comes out as a buffer and a double without a text as null.  The buffers that are in
front of its own ones, or behind them, do not matter.

* `placeholderIndex?_extractMembers_eq_none_iff` — lookalikes are read as placeholders.
* `all_isFaithful_of_fill` — **only faithful values come back**.
* `Detached`, `detached_extract` — **what taking the buffers out of a value does, and what undoes it**.
-/

namespace RealtimeClient.Codec

/-! ## Only faithful values come back -/

/-- What is under a key of an object is, as JSON, under that key of its JSON. -/
theorem get?_extractMembers_of_get? {members : Dict Value} {key : String} {v : Value}
    (h : members.get? key = some v) (A : List Bytes) :
    ∃ B, (extractMembers members A).1.get? key = some (extract v B).1 := by
  obtain ⟨-, hnone⟩ | ⟨w, B, hw, hjson⟩ := get?_extractMembers key members A
  · cases hnone.symm.trans h
  · obtain rfl : w = v := Option.some.inj (hw.symm.trans h)
    exact ⟨B, hjson⟩

/-- **Lookalikes are read as placeholders**, and no other objects are. -/
theorem placeholderIndex?_extractMembers_eq_none_iff {members : Dict Value} (A : List Bytes) :
    placeholderIndex? (extractMembers members A).1 = none ↔ isLookalike (.object members) = false := by
  refine ⟨fun hnone => ?_, fun h => placeholderIndex?_extractMembers h A⟩
  rw [isLookalike]
  split
  · next i hmark hnumber =>
    obtain ⟨B, hmark⟩ := get?_extractMembers_of_get? hmark A
    obtain ⟨C, hnumber⟩ := get?_extractMembers_of_get? hnumber A
    by_contra hi
    have hi : ¬i < 0 := Int64.not_lt.2 (by simpa using hi)
    simp [placeholderIndex?, hmark, hnumber, extract, Value.toJsonWith, Json.Number.ofInt, hi,
      Json.Number.toNatural?] at hnone
  · rfl

/-- A double that is not finite comes back as null. -/
theorem isFinite_of_fill {buffers : List Bytes} {x : Float}
    (h : fill buffers (Value.jsonOfFloat x) = .double x) : x.isFinite = true := by
  by_contra hx
  rw [Value.jsonOfFloat, Json.Number.ofFloat?, dif_neg hx] at h
  cases h

section Faithful

variable (buffers : List Bytes)

mutual

/-- **Only faithful values come back**, whatever buffers there are. -/
theorem all_isFaithful_of_fill : (v : Value) → (A : List Bytes) →
    fill buffers (extract v A).1 = v → v.all isFaithful = true
  | .null, _, _ => rfl
  | .bool _, _, _ => rfl
  | .int _, _, _ => rfl
  | .double _, _, h => isFinite_of_fill h
  | .string _, _, _ => rfl
  | .binary _, _, _ => rfl
  | .array items, A, h => by
      rw [extract_array, fill, Value.array.injEq] at h
      rw [Value.all, allItems_isFaithful_of_fill items A h]
      rfl
  | .object members, A, h => by
      rw [extract_object, fill] at h
      cases hindex : placeholderIndex? (extractMembers members A).1 with
      | some index =>
        rw [hindex] at h
        cases h
      | none =>
        simp only [hindex, Value.object.injEq] at h
        have hnot := (placeholderIndex?_extractMembers_eq_none_iff A).1 hindex
        simp only [Value.all, isFaithful, hnot, allMembers_isFaithful_of_fill members A h]
        rfl

theorem allItems_isFaithful_of_fill : (items : List Value) → (A : List Bytes) →
    fillItems buffers (extractItems items A).1 = items → Value.allItems isFaithful items = true
  | [], _, _ => rfl
  | item :: rest, A, h => by
      rw [extractItems_cons, fillItems, List.cons.injEq] at h
      rw [Value.allItems, all_isFaithful_of_fill item A h.1, allItems_isFaithful_of_fill rest _ h.2]
      rfl

theorem allMembers_isFaithful_of_fill : {lo : Option String} → (members : Dict.From Value lo) →
    (A : List Bytes) → fillMembers buffers (extractMembers members A).1 = members →
      Value.allMembers isFaithful members = true
  | _, .nil, _, _ => rfl
  | _, .cons key above value rest, A, h => by
      rw [extractMembers_cons, fillMembers] at h
      obtain ⟨-, hvalue, hrest⟩ := Dict.From.cons.inj h
      rw [Value.allMembers, all_isFaithful_of_fill value A hvalue,
        allMembers_isFaithful_of_fill rest _ (eq_of_heq hrest)]
      rfl

end

end Faithful

/-- What comes back is the JSON, filled. -/
theorem fill_of_restore {buffers : List Bytes} {json : Json} {v : Value} {used used' : Nat}
    (h : restore buffers json used = .ok (v, used')) : fill buffers json = v := by
  rw [restore_eq, outcome] at h
  split at h
  · cases h
  · exact (Prod.mk.inj (Except.ok.inj h)).1

/-! ## Taking out and putting back -/

/-- **What taking the buffers out of a value does**, behind those that were taken out before, and what
undoes it. -/
structure Detached (v : Value) (before : List Bytes) (own : List (Position × Bytes)) : Prop where
  /-- These are the buffers of the value, each at its position, -/
  inside : ∀ position data, (position, data) ∈ own ↔ v.at? position = some (.binary data)
  /-- in the order of their positions, -/
  ascending : Value.Ascending own
  /-- and as many as are counted. -/
  count : own.length = v.binaryCount
  /-- They are put behind those before. -/
  appended : (extract v before).2 = before ++ own.map Prod.snd
  /-- With them in their places, a faithful value comes back, and its placeholders are counted.  The numbers
  of the buffers have 64 bits, as they have in every list that fits in memory. -/
  restored : v.all isFaithful = true → (extract v before).2.length ≤ UInt64.size →
    ∀ (after : List Bytes) (used : Nat),
      restore (before ++ own.map Prod.snd ++ after) (extract v before).1 used =
        .ok (v, used + v.binaryCount)
  /-- No other value comes back, with any buffers. -/
  faithful : ∀ (buffers : List Bytes) (used used' : Nat),
    restore buffers (extract v before).1 used = .ok (v, used') → v.all isFaithful = true

/-- **Putting back undoes taking out**, wherever the buffers of the value stand among others. -/
theorem detached_extract (v : Value) (before : List Bytes) : ∃ own, Detached v before own := by
  have hown := v.map_snd_positions
  have hlen := congrArg List.length (extract_snd v before)
  rw [List.length_append, v.length_buffers] at hlen
  exact ⟨v.positions,
    { inside := fun position data => Value.mem_positions_iff
      ascending := v.pairwise_positions
      count := v.length_positions
      appended := by rw [extract_snd, hown]
      restored := fun hv hsize after used => by
        rw [hown]
        exact restore_extract v hv before after (hlen ▸ hsize) used
      faithful := fun buffers used used' h => all_isFaithful_of_fill buffers v before (fill_of_restore h) }⟩

/-- A value with a double, and with buffers in an array and under keys. -/
def enclosed : Value :=
  .array [.double (Float.ofBits 0x3fe0000000000000),
    .object (Dict.ofList [("z", .binary [1]), ("a", .array [.binary [2, 3], .int (-1)]),
      (markKey, .bool false), (numberKey, .int 0)]),
    .binary []]

/-- A value that has a lookalike in it. -/
def disguised : Value := .array [.object (Dict.ofList [(markKey, .bool true), (numberKey, .int 0)])]

/-- The one comes back between the buffers of other values, and the other does not come back. -/
theorem detached_extract_between :
    restore [[9], [2, 3], [1], [], [7]] (extract enclosed [[9]]).1 5 = .ok (enclosed, 8) ∧
      ∀ buffers used used', restore buffers (extract disguised [[9]]).1 used ≠ .ok (disguised, used') := by
  obtain ⟨own, henclosed⟩ := detached_extract enclosed [[9]]
  obtain ⟨_, hdisguised⟩ := detached_extract disguised [[9]]
  have hbuffers : (extract enclosed [[9]]).2 = [[9], [2, 3], [1], []] := by decide +kernel
  have hrestored := henclosed.restored (by decide +kernel) (by rw [hbuffers]; decide) [[7]] 5
  rw [← henclosed.appended, hbuffers] at hrestored
  refine ⟨hrestored, fun buffers used used' h => ?_⟩
  exact absurd (hdisguised.faithful buffers used used' h) (by decide +kernel)

end RealtimeClient.Codec
