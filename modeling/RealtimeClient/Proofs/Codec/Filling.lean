import Mathlib
import RealtimeClient.Codec
import RealtimeClient.Proofs.Codec.Placeholders

/-!
# Placeholders filled with buffers

Putting buffers in place of placeholders fails at the first placeholder whose number is not that of a
buffer, and where there is none the result is a function of the tree and the buffers.  So the reader's
work is told by two things: the numbers that stand in the tree, in the order in which they are met,
and the tree with every placeholder filled.

* `placeholders` — the numbers in a tree; `fill` — the tree with its placeholders filled.
* `stray?` — the first number without a buffer.
* `restore_eq` — **putting back is filling, unless a number strays**.
* `buffers_fill` — the buffers of a filled tree are those that its numbers name, in order.
* `depth_extract_fill` — taking buffers out again makes no tree deeper.
* `Partial.finish_eq`, `Partial.finish_eq_ok` — **when a packet is put together**, and what from.
* `isLookalike_fillMembers` — what is no placeholder does not come out as a lookalike of one.
-/

namespace RealtimeClient.Codec

mutual

/-- **The numbers of the placeholders in a tree**, in the order in which they are met.  Nothing
inside of a placeholder counts. -/
def placeholders : Json → List Nat
  | .array items => placeholdersOfItems items
  | .object members =>
    match placeholderIndex? members with
    | some index => [index]
    | none => placeholdersOfMembers members
  | _ => []

def placeholdersOfItems : List Json → List Nat
  | [] => []
  | item :: rest => placeholders item ++ placeholdersOfItems rest

def placeholdersOfMembers {lo : Option String} : Dict.From Json lo → List Nat
  | .nil => []
  | .cons _ _ value rest => placeholders value ++ placeholdersOfMembers rest

end

mutual

/-- **A tree with its placeholders filled**, where a number without a buffer stands for an empty
one. -/
def fill (buffers : List Bytes) : Json → Value
  | .array items => .array (fillItems buffers items)
  | .object members =>
    match placeholderIndex? members with
    | some index => .binary (buffers.getD index [])
    | none => .object (fillMembers buffers members)
  | .null => .null
  | .bool b => .bool b
  | .number n => Value.ofNumber n
  | .string s => .string s

def fillItems (buffers : List Bytes) : List Json → List Value
  | [] => []
  | item :: rest => fill buffers item :: fillItems buffers rest

def fillMembers (buffers : List Bytes) {lo : Option String} : Dict.From Json lo → Dict.From Value lo
  | .nil => .nil
  | .cons key above value rest => .cons key above (fill buffers value) (fillMembers buffers rest)

end

variable (buffers : List Bytes)

/-! ## Putting back is filling -/

/-- The first number that is not that of a buffer. -/
def stray? (indices : List Nat) : Option Nat := indices.find? fun index => buffers.length ≤ index

/-- **What becomes of a part of a tree**: the part filled, with its placeholders counted on top of
those before, or the first number that strays. -/
def outcome {α : Type} (indices : List Nat) (filled : α) (used : Nat) : Except Error (α × Nat) :=
  match stray? buffers indices with
  | some index => .error (.placeholderOutOfRange index buffers.length)
  | none => .ok (filled, used + indices.length)

theorem outcome_map {α β : Type} (indices : List Nat) (filled : α) (used : Nat) (f : α → β) :
    (do let (a, used) ← outcome buffers indices filled used
        return (f a, used)) = outcome buffers indices (f filled) used := by
  simp only [outcome]
  cases stray? buffers indices <;> rfl

/-- Two parts in a row are one part. -/
theorem outcome_append {α β γ : Type} (indices more : List Nat) (a : α) (b : β) (used : Nat)
    (f : α → β → γ) :
    (do let (a, used) ← outcome buffers indices a used
        let (b, used) ← outcome buffers more b used
        return (f a b, used)) = outcome buffers (indices ++ more) (f a b) used := by
  simp only [outcome, stray?, List.find?_append, List.length_append, ← Nat.add_assoc]
  cases indices.find? fun index => buffers.length ≤ index with
  | some index => rfl
  | none => cases more.find? fun index => buffers.length ≤ index <;> rfl

theorem buffer_eq_outcome (index used : Nat) :
    (do return (← buffer buffers index, used + 1)) =
      outcome buffers [index] (Value.binary (buffers.getD index [])) used := by
  simp only [outcome, stray?, buffer, List.find?_singleton, decide_eq_true_eq]
  by_cases hlt : index < buffers.length
  · rw [if_neg (Nat.not_le.2 hlt), List.getElem?_eq_getElem hlt, List.getD_eq_getElem _ _ hlt]
    rfl
  · rw [if_pos (Nat.not_lt.1 hlt), List.getElem?_eq_none (Nat.not_lt.1 hlt)]
    rfl

mutual

/-- **Putting back is filling**, unless a number strays. -/
theorem restore_eq : (json : Json) → (used : Nat) →
    restore buffers json used = outcome buffers (placeholders json) (fill buffers json) used
  | .null, _ => rfl
  | .bool _, _ => rfl
  | .number _, _ => rfl
  | .string _, _ => rfl
  | .array items, used => by
      rw [restore, restoreItems_eq items used, placeholders, fill]
      exact outcome_map buffers _ _ used _
  | .object members, used => by
      rw [restore, placeholders, fill]
      cases placeholderIndex? members with
      | some index => exact buffer_eq_outcome buffers index used
      | none =>
        dsimp only
        rw [restoreMembers_eq members used]
        exact outcome_map buffers _ _ used _

theorem restoreItems_eq : (items : List Json) → (used : Nat) →
    restoreItems buffers items used =
      outcome buffers (placeholdersOfItems items) (fillItems buffers items) used
  | [], _ => rfl
  | item :: rest, used => by
      rw [restoreItems, restore_eq item used, placeholdersOfItems, fillItems]
      simp only [restoreItems_eq rest]
      exact outcome_append buffers _ _ _ _ used List.cons

theorem restoreMembers_eq : {lo : Option String} → (members : Dict.From Json lo) → (used : Nat) →
    restoreMembers buffers members used =
      outcome buffers (placeholdersOfMembers members) (fillMembers buffers members) used
  | _, .nil, _ => rfl
  | _, .cons key above value rest, used => by
      rw [restoreMembers, restore_eq value used, placeholdersOfMembers, fillMembers]
      simp only [restoreMembers_eq rest]
      exact outcome_append buffers _ _ _ _ used (Dict.From.cons key above)

end

/-! ## The buffers of a filled tree -/

theorem buffers_ofNumber (n : Json.Number) : (Value.ofNumber n).buffers = [] := by
  rw [Value.ofNumber]
  split <;> rfl

mutual

/-- **The buffers of a filled tree** are those that its numbers name, in order. -/
theorem buffers_fill : (json : Json) →
    (fill buffers json).buffers = (placeholders json).map fun index => buffers.getD index []
  | .null => rfl
  | .bool _ => rfl
  | .number n => by
      rw [fill, buffers_ofNumber]
      rfl
  | .string _ => rfl
  | .array items => by
      rw [fill, placeholders, Value.buffers, buffers_fillItems items]
  | .object members => by
      rw [fill, placeholders]
      cases placeholderIndex? members with
      | some index => rfl
      | none => exact buffers_fillMembers members

theorem buffers_fillItems : (items : List Json) →
    Value.buffersOfItems (fillItems buffers items) =
      (placeholdersOfItems items).map fun index => buffers.getD index []
  | [] => rfl
  | item :: rest => by
      rw [fillItems, placeholdersOfItems, Value.buffersOfItems, buffers_fill item,
        buffers_fillItems rest, List.map_append]

theorem buffers_fillMembers : {lo : Option String} → (members : Dict.From Json lo) →
    Value.buffersOfMembers (fillMembers buffers members) =
      (placeholdersOfMembers members).map fun index => buffers.getD index []
  | _, .nil => rfl
  | _, .cons _ _ value rest => by
      rw [fillMembers, placeholdersOfMembers, Value.buffersOfMembers, buffers_fill value,
        buffers_fillMembers rest, List.map_append]

end

/-! ## Packets -/

namespace Partial

variable {p : Partial} {q : Packet}

/-- The numbers of the placeholders in the payload of a packet under way. -/
def indices (p : Partial) : List Nat := (p.body.map placeholders).getD []

/-- The payload of a packet under way with its placeholders filled.  Without JSON it is what the
header holds. -/
def filledPayload (p : Partial) : Except Error (List Value) :=
  match p.body with
  | none => .ok p.header.payload
  | some json => payload p.header (fill p.buffers json)

/-- **When a packet is put together**: no number may stray, and there must be as many of them as were
announced. -/
theorem finish_eq (p : Partial) :
    p.finish =
      match stray? p.buffers p.indices with
      | some index => .error (.placeholderOutOfRange index p.buffers.length)
      | none =>
        if p.indices.length ≠ p.expected then
          .error (.attachmentMismatch p.expected p.indices.length)
        else p.filledPayload.map fun items => { p.header with payload := items } := by
  obtain ⟨header, body, expected, buffers⟩ := p
  cases body with
  | none =>
    by_cases hzero : expected = 0
    · subst hzero
      rfl
    · simp [finish, indices, stray?, hzero, Ne.symm hzero]
  | some json =>
    simp only [finish, restore_eq, outcome, indices, filledPayload, Option.map_some,
      Option.getD_some, Nat.zero_add]
    cases stray? buffers (placeholders json) with
    | some index => rfl
    | none =>
      by_cases hcount : (placeholders json).length = expected
      · simp only [bind, Except.bind, hcount, ne_eq, not_true, if_false]
        cases payload header (fill buffers json) <;> rfl
      · simp only [bind, Except.bind, ne_eq, hcount, not_false_iff, if_true]
        rfl

theorem stray?_eq_none_iff {indices : List Nat} {buffers : List Bytes} :
    stray? buffers indices = none ↔ ∀ index ∈ indices, index < buffers.length := by
  simp [stray?]

/-- **A packet that was put together** has a buffer for each of its placeholders, and as many
placeholders as were announced. -/
theorem finish_eq_ok (h : p.finish = .ok q) :
    (∀ index ∈ p.indices, index < p.buffers.length) ∧ p.indices.length = p.expected ∧
      ∃ items, p.filledPayload = .ok items ∧ q = { p.header with payload := items } := by
  rw [finish_eq] at h
  split at h
  · cases h
  · next hstray =>
    split_ifs at h with hcount
    · rw [not_not] at hcount
      refine ⟨stray?_eq_none_iff.1 hstray, hcount, ?_⟩
      cases hpayload : p.filledPayload with
      | error e => simp [hpayload, Except.map] at h
      | ok items =>
        simp only [hpayload, Except.map, Except.ok.injEq] at h
        exact ⟨items, rfl, h.symm⟩

/-- The buffers of a payload are those of its value. -/
theorem buffersOfItems_payload {header : Packet} {v : Value} {items : List Value}
    (h : payload header v = .ok items) : Value.buffersOfItems items = v.buffers := by
  unfold payload at h
  split at h
  · split at h
    · cases h
      rfl
    · cases h
  · cases h
    exact List.append_nil _

/-- **The buffers of a packet under way** are those that its numbers name, in order. -/
theorem buffersOfItems_filledPayload (hheader : Value.buffersOfItems p.header.payload = [])
    {items : List Value} (h : p.filledPayload = .ok items) :
    Value.buffersOfItems items = p.indices.map fun index => p.buffers.getD index [] := by
  unfold filledPayload at h
  rw [indices]
  cases hbody : p.body with
  | none =>
    rw [hbody] at h
    cases h
    exact hheader
  | some json =>
    rw [hbody] at h
    rw [buffersOfItems_payload h, buffers_fill]
    rfl

end Partial

/-! ## The depth of a filled tree -/

theorem depth_placeholder (index : Nat) : (placeholder index).depth = 1 := rfl

theorem depth_extract_ofNumber (n : Json.Number) (A : List Bytes) :
    (extract (Value.ofNumber n) A).1.depth = 0 := by
  rw [Value.ofNumber]
  split
  · rfl
  · simp only [extract, Value.toJsonWith, Value.jsonOfFloat]
    split <;> rfl

mutual

/-- **Taking buffers out again makes no tree deeper.**  A placeholder that is written has nothing
inside, whatever the one that was read had. -/
theorem depth_extract_fill : (json : Json) → (A : List Bytes) →
    (extract (fill buffers json) A).1.depth ≤ json.depth
  | .null, _ => le_rfl
  | .bool _, _ => le_rfl
  | .number n, A => by
      rw [fill, depth_extract_ofNumber]
      exact Nat.zero_le _
  | .string _, _ => le_rfl
  | .array items, A => by
      rw [fill, extract_array, Json.depth, Json.depth]
      exact Nat.succ_le_succ (depth_extractItems_fillItems items A)
  | .object members, A => by
      rw [fill]
      cases placeholderIndex? members with
      | some index =>
        rw [extract_binary, depth_placeholder, Json.depth]
        exact Nat.le_add_left 1 _
      | none =>
        rw [extract_object, Json.depth, Json.depth]
        exact Nat.succ_le_succ (depth_extractMembers_fillMembers members A)

theorem depth_extractItems_fillItems : (items : List Json) → (A : List Bytes) →
    Json.depthOfItems (extractItems (fillItems buffers items) A).1 ≤ Json.depthOfItems items
  | [], _ => le_rfl
  | item :: rest, A => by
      rw [fillItems, extractItems_cons, Json.depthOfItems, Json.depthOfItems]
      exact max_le_max (depth_extract_fill item A) (depth_extractItems_fillItems rest _)

theorem depth_extractMembers_fillMembers : {lo : Option String} → (members : Dict.From Json lo) →
    (A : List Bytes) →
      Json.depthOfMembers (extractMembers (fillMembers buffers members) A).1 ≤
        Json.depthOfMembers members
  | _, .nil, _ => le_rfl
  | _, .cons _ _ value rest, A => by
      rw [fillMembers, extractMembers_cons, Json.depthOfMembers, Json.depthOfMembers]
      exact max_le_max (depth_extract_fill value A) (depth_extractMembers_fillMembers rest _)

end

/-! ## What a filled tree was -/

/-- What is under a key of a filled object is what was under it, filled. -/
theorem get?_fillMembers (key : String) : {lo : Option String} → (members : Dict.From Json lo) →
    (fillMembers buffers members).get? key = (members.get? key).map (fill buffers)
  | _, .nil => rfl
  | _, .cons key' _ value rest => by
      rw [fillMembers, Dict.From.get?, Dict.From.get?]
      split
      · rfl
      · exact get?_fillMembers key rest

theorem eq_bool_of_fill {json : Json} {b : Bool} (h : fill buffers json = .bool b) :
    json = .bool b := by
  cases json with
  | bool b' => simpa [fill] using h
  | number n =>
    simp only [fill, Value.ofNumber] at h
    split at h <;> cases h
  | object members =>
    rw [fill] at h
    split at h <;> cases h
  | null | string | array => cases h

theorem eq_array_of_fill {json : Json} {items : List Value} (h : fill buffers json = .array items) :
    ∃ jsons, json = .array jsons ∧ items = fillItems buffers jsons := by
  cases json with
  | array jsons => exact ⟨jsons, rfl, (Value.array.inj h).symm⟩
  | number n =>
    simp only [fill, Value.ofNumber] at h
    split at h <;> cases h
  | object members =>
    rw [fill] at h
    split at h <;> cases h
  | null | bool | string => cases h

/-- An integer that is not negative was a natural number. -/
theorem eq_natural_of_fill {json : Json} {i : Int64} (h : fill buffers json = .int i) (hi : 0 ≤ i) :
    ∃ n, json = .number (.natural n) := by
  cases json with
  | number n =>
    cases n with
    | natural n => exact ⟨n, rfl⟩
    | negative n below =>
      obtain rfl : n = i := Value.int.inj h
      exact absurd hi (Int64.not_le.2 below)
    | real x finite => cases h
  | object members =>
    rw [fill] at h
    split at h <;> cases h
  | null | bool | string | array => cases h

/-- **An object that is no placeholder does not become a lookalike of one.** -/
theorem isLookalike_fillMembers {members : Dict Json} (h : placeholderIndex? members = none) :
    isLookalike (.object (fillMembers buffers members)) = false := by
  rw [isLookalike, get?_fillMembers, get?_fillMembers]
  split
  · next i hmark hnumber =>
    obtain ⟨mark, hmark, hbool⟩ := Option.map_eq_some_iff.1 hmark
    obtain ⟨number, hnumber, hint⟩ := Option.map_eq_some_iff.1 hnumber
    obtain rfl := eq_bool_of_fill buffers hbool
    by_contra hi
    obtain ⟨n, rfl⟩ := eq_natural_of_fill buffers hint (by simpa using hi)
    simp [placeholderIndex?, hmark, hnumber, Json.Number.toNatural?] at h
  · rfl

end RealtimeClient.Codec
