import Mathlib
import RealtimeClient.Codec.Placeholder
import RealtimeClient.Proofs.Json.RoundTrip
import RealtimeClient.Proofs.Value

/-!
# Placeholders put in and taken out

Taking the buffers out of a value and putting them back gives the value again, wherever in a longer
list of buffers its own ones stand.  A value that the reader of placeholders could mistake for one
is the only kind of value that does not come back, beside doubles without a JSON text.

* `isLookalike` — an object that is read as a placeholder.
* `extract_snd` — the buffers that are taken out.
* `restore_extract` — **taking out and putting back**.
* `isFloatFree_extract` — what is left has a text of its own, up to doubles.
-/

namespace RealtimeClient.Codec

/-! ## Taking out -/

/-- The members of an object as JSON, and their buffers after those given. -/
def extractMembers {lo : Option String} (members : Dict.From Value lo) (buffers : List Bytes) :
    Dict.From Json lo × List Bytes :=
  Value.membersToJsonWith placeBuffer members buffers

section Equations

variable (A : List Bytes)

theorem extract_binary (data : Bytes) :
    extract (.binary data) A = (placeholder A.length, A ++ [data]) := rfl

theorem extract_array (items : List Value) :
    extract (.array items) A = (.array (extractItems items A).1, (extractItems items A).2) := rfl

theorem extract_object (members : Dict Value) :
    extract (.object members) A =
      (.object (extractMembers members A).1, (extractMembers members A).2) := rfl

theorem extractItems_cons (item : Value) (rest : List Value) :
    extractItems (item :: rest) A =
      ((extract item A).1 :: (extractItems rest (extract item A).2).1,
        (extractItems rest (extract item A).2).2) := rfl

theorem extractMembers_cons {lo : Option String} (key : String) (above : Dict.Above lo key)
    (value : Value) (rest : Dict.From Value (some key)) :
    extractMembers (.cons key above value rest) A =
      (.cons key above (extract value A).1 (extractMembers rest (extract value A).2).1,
        (extractMembers rest (extract value A).2).2) := rfl

end Equations

mutual

/-- **The buffers that are taken out** are those of the value, after those given. -/
theorem extract_snd : (v : Value) → (A : List Bytes) → (extract v A).2 = A ++ v.buffers
  | .null, A => (List.append_nil A).symm
  | .bool _, A => (List.append_nil A).symm
  | .int _, A => (List.append_nil A).symm
  | .double _, A => (List.append_nil A).symm
  | .string _, A => (List.append_nil A).symm
  | .binary _, _ => rfl
  | .array items, A => extractItems_snd items A
  | .object members, A => extractMembers_snd members A

theorem extractItems_snd : (items : List Value) → (A : List Bytes) →
    (extractItems items A).2 = A ++ Value.buffersOfItems items
  | [], A => (List.append_nil A).symm
  | item :: rest, A => by
      rw [extractItems_cons, extractItems_snd rest, extract_snd item, Value.buffersOfItems,
        List.append_assoc]

theorem extractMembers_snd : {lo : Option String} → (members : Dict.From Value lo) →
    (A : List Bytes) → (extractMembers members A).2 = A ++ Value.buffersOfMembers members
  | _, .nil, A => (List.append_nil A).symm
  | _, .cons _ _ value rest, A => by
      rw [extractMembers_cons, extractMembers_snd rest, extract_snd value, Value.buffersOfMembers,
        List.append_assoc]

end

/-! ## Lookalikes -/

/-- **Whether a value is read as a placeholder**: an object whose mark is true and whose number is
an integer that is not negative. -/
def isLookalike : Value → Bool
  | .object members =>
    match members.get? markKey, members.get? numberKey with
    | some (.bool true), some (.int i) => decide (0 ≤ i)
    | _, _ => false
  | _ => false

/-- The JSON under a key comes from the value under that key. -/
theorem get?_extractMembers (key : String) : {lo : Option String} →
    (members : Dict.From Value lo) → (A : List Bytes) →
      ((extractMembers members A).1.get? key = none ∧ members.get? key = none) ∨
        ∃ v B, members.get? key = some v ∧ (extractMembers members A).1.get? key = (extract v B).1
  | _, .nil, _ => .inl ⟨rfl, rfl⟩
  | _, .cons key' _ value rest, A => by
      rw [extractMembers_cons]
      by_cases hk : key = key'
      · exact .inr ⟨value, A, by simp [Dict.From.get?, hk], by simp [Dict.From.get?, hk]⟩
      · simp only [Dict.From.get?, if_neg hk]
        exact get?_extractMembers key rest _

/-- Only a boolean becomes one. -/
theorem eq_bool_of_extract {v : Value} {A : List Bytes} {b : Bool}
    (h : (extract v A).1 = .bool b) : v = .bool b := by
  cases v with
  | bool b' => simpa [extract, Value.toJsonWith] using h
  | double x =>
    simp only [extract, Value.toJsonWith, Value.jsonOfFloat] at h
    split at h <;> cases h
  | _ => cases h

/-- Only an integer that is not negative becomes a natural number. -/
theorem eq_int_of_extract {v : Value} {A : List Bytes} {n : UInt64}
    (h : (extract v A).1 = .number (.natural n)) : ∃ i : Int64, v = .int i ∧ 0 ≤ i := by
  cases v with
  | int i =>
    refine ⟨i, rfl, ?_⟩
    simp only [extract, Value.toJsonWith, Json.Number.ofInt, Json.number.injEq] at h
    split at h
    · cases h
    · next hi => exact Int64.not_lt.1 hi
  | double x =>
    simp only [extract, Value.toJsonWith, Value.jsonOfFloat, Json.Number.ofFloat?] at h
    split at h
    · next hx =>
      split at hx
      · cases hx
        cases h
      · cases hx
    · cases h
  | _ => cases h

/-- **Nothing but a lookalike is read as a placeholder.** -/
theorem placeholderIndex?_extractMembers {members : Dict Value}
    (h : isLookalike (.object members) = false) (A : List Bytes) :
    placeholderIndex? (extractMembers members A).1 = none := by
  rw [placeholderIndex?]
  split
  · next n hmark hnumber =>
    cases n with
    | natural n =>
      obtain ⟨v, B, hv, hmark'⟩ := (get?_extractMembers markKey members A).resolve_left (by simp [hmark])
      obtain ⟨w, C, hw, hnumber'⟩ :=
        (get?_extractMembers numberKey members A).resolve_left (by simp [hnumber])
      have hv' := eq_bool_of_extract (Option.some.inj (hmark'.symm.trans hmark))
      obtain ⟨i, hi, hle⟩ := eq_int_of_extract (Option.some.inj (hnumber'.symm.trans hnumber))
      simp [isLookalike, hv, hv', hw, hi, hle] at h
    | negative n below => rfl
    | real x finite => rfl
  · rfl

/-! ## Putting back -/

/-- **Whether a value comes back as it was**: it is no lookalike, and no double without a text. -/
def isFaithful (v : Value) : Bool :=
  !isLookalike v && match v with
    | .double x => x.isFinite
    | _ => true

/-- Integers that are not negative lie in the lower half of the natural numbers. -/
theorem toUInt64_lt_of_nonneg {i : Int64} (h : 0 ≤ i) : i.toUInt64 < 0x8000000000000000 := by
  have hnonneg : 0 ≤ i.toBitVec.toInt := by simpa using Int64.le_iff_toInt_le.1 h
  have hcond := BitVec.toInt_eq_toNat_cond i.toBitVec
  have hlt := i.toBitVec.isLt
  rw [UInt64.lt_iff_toNat_lt]
  show i.toBitVec.toNat < 9223372036854775808
  split at hcond <;> omega

theorem ofNumber_ofInt (i : Int64) : Value.ofNumber (.ofInt i) = .int i := by
  rw [Json.Number.ofInt]
  split
  · rfl
  · next hi =>
    have hlt := toUInt64_lt_of_nonneg (Int64.not_lt.1 hi)
    simp [Value.ofNumber, Json.Number.toInt?, hlt]

/-- A placeholder is read with its number. -/
theorem placeholderIndex?_placeholder {index : Nat} (h : index < UInt64.size) :
    placeholderIndex? (.cons markKey trivial (.bool true)
      (.cons numberKey (.of_lt (by decide)) (.number (.natural index.toUInt64)) .nil)) = some index := by
  have hne : numberKey ≠ markKey := by decide
  simp [placeholderIndex?, Dict.From.get?, hne, Json.Number.toNatural?, Nat.mod_eq_of_lt h]

/-- The placeholder of a number stands for the buffer with that number. -/
theorem restore_placeholder (A B : List Bytes) (data : Bytes) (hlt : A.length < UInt64.size)
    (used : Nat) :
    restore (A ++ data :: B) (placeholder A.length) used = .ok (.binary data, used + 1) := by
  have hbuffer : buffer (A ++ data :: B) A.length = .ok (.binary data) := by simp [buffer]
  rw [placeholder, restore, placeholderIndex?_placeholder hlt]
  simp only [hbuffer]
  rfl

/-- A double with a text comes back from it. -/
theorem restore_jsonOfFloat {x : Float} (h : x.isFinite = true) (buffers : List Bytes)
    (used : Nat) : restore buffers (Value.jsonOfFloat x) used = .ok (.double x, used) := by
  simp [Value.jsonOfFloat, Json.Number.ofFloat?, h, restore, Value.ofNumber, Json.Number.toInt?,
    Json.Number.toFloat]

mutual

/-- **Taking out and putting back.**  With its buffers in their places, between any others, a
faithful value comes back, and its placeholders are counted. -/
theorem restore_extract : (v : Value) → v.all isFaithful = true → (A B : List Bytes) →
    A.length + v.binaryCount ≤ UInt64.size → (used : Nat) →
      restore (A ++ v.buffers ++ B) (extract v A).1 used = .ok (v, used + v.binaryCount)
  | .null, _, _, _, _, _ => rfl
  | .bool _, _, _, _, _, _ => rfl
  | .int i, _, _, _, _, used =>
      congrArg (fun v => Except.ok (v, used)) (ofNumber_ofInt i)
  | .double x, hv, A, B, _, used => by
      have hx : x.isFinite = true := by simpa [Value.all, isFaithful, isLookalike] using hv
      exact restore_jsonOfFloat hx _ used
  | .string _, _, _, _, _, _ => rfl
  | .binary data, _, A, B, hlt, used => by
      have hlt' : A.length < UInt64.size := by
        simp only [Value.binaryCount] at hlt
        omega
      simp only [extract_binary, Value.buffers, Value.binaryCount, List.append_assoc,
        List.singleton_append]
      exact restore_placeholder A B data hlt' used
  | .array items, hv, A, B, hlt, used => by
      simp only [Value.all, Bool.and_eq_true] at hv
      have hitems := restoreItems_extractItems items hv.2 A B hlt used
      simp only [extract_array, Value.buffers, restore, hitems]
      rfl
  | .object members, hv, A, B, hlt, used => by
      simp only [Value.all, Bool.and_eq_true] at hv
      have hnot : isLookalike (.object members) = false := by simpa [isFaithful] using hv.1
      have hmembers := restoreMembers_extractMembers members hv.2 A B hlt used
      simp only [extract_object, Value.buffers, restore, placeholderIndex?_extractMembers hnot,
        hmembers]
      rfl

theorem restoreItems_extractItems : (items : List Value) →
    Value.allItems isFaithful items = true → (A B : List Bytes) →
      A.length + Value.binaryCountOfItems items ≤ UInt64.size → (used : Nat) →
        restoreItems (A ++ Value.buffersOfItems items ++ B) (extractItems items A).1 used =
          .ok (items, used + Value.binaryCountOfItems items)
  | [], _, _, _, _, _ => rfl
  | item :: rest, hv, A, B, hlt, used => by
      simp only [Value.allItems, Bool.and_eq_true] at hv
      simp only [Value.binaryCountOfItems] at hlt ⊢
      have hlen := item.length_buffers
      have hitem := restore_extract item hv.1 A (Value.buffersOfItems rest ++ B) (by omega) used
      have hrest := restoreItems_extractItems rest hv.2 (A ++ item.buffers) B
        (by rw [List.length_append]; omega) (used + item.binaryCount)
      simp only [List.append_assoc] at hitem hrest
      simp only [extractItems_cons, extract_snd, Value.buffersOfItems, List.append_assoc,
        restoreItems, hitem]
      rw [← Nat.add_assoc]
      simp only [bind, Except.bind, hrest]
      rfl

theorem restoreMembers_extractMembers : {lo : Option String} → (members : Dict.From Value lo) →
    Value.allMembers isFaithful members = true → (A B : List Bytes) →
      A.length + Value.binaryCountOfMembers members ≤ UInt64.size → (used : Nat) →
        restoreMembers (A ++ Value.buffersOfMembers members ++ B) (extractMembers members A).1 used =
          .ok (members, used + Value.binaryCountOfMembers members)
  | _, .nil, _, _, _, _, _ => rfl
  | _, .cons key above value rest, hv, A, B, hlt, used => by
      simp only [Value.allMembers, Bool.and_eq_true] at hv
      simp only [Value.binaryCountOfMembers] at hlt ⊢
      have hlen := value.length_buffers
      have hvalue := restore_extract value hv.1 A (Value.buffersOfMembers rest ++ B) (by omega) used
      have hrest := restoreMembers_extractMembers rest hv.2 (A ++ value.buffers) B
        (by rw [List.length_append]; omega) (used + value.binaryCount)
      simp only [List.append_assoc] at hvalue hrest
      simp only [extractMembers_cons, extract_snd, Value.buffersOfMembers, List.append_assoc,
        restoreMembers, hvalue]
      rw [← Nat.add_assoc]
      simp only [bind, Except.bind, hrest]
      rfl

end

/-! ## The text of what is left -/

/-- Whether a value is no double. -/
def isNotDouble (v : Value) : Bool := !v.isDouble

theorem isInteger_ofInt (i : Int64) : (Json.Number.ofInt i).isInteger = true := by
  rw [Json.Number.ofInt]
  split <;> rfl

mutual

/-- **Doubles come from doubles only.** -/
theorem isFloatFree_extract : (v : Value) → v.all isNotDouble = true → (A : List Bytes) →
    (extract v A).1.isFloatFree = true
  | .null, _, _ => rfl
  | .bool _, _, _ => rfl
  | .int i, _, _ => isInteger_ofInt i
  | .double _, hv, _ => by simp [Value.all, isNotDouble, Value.isDouble] at hv
  | .string _, _, _ => rfl
  | .binary _, _, _ => rfl
  | .array items, hv, A => by
      simp only [Value.all, Bool.and_eq_true] at hv
      exact areFloatFree_extractItems items hv.2 A
  | .object members, hv, A => by
      simp only [Value.all, Bool.and_eq_true] at hv
      exact membersFloatFree_extractMembers members hv.2 A

theorem areFloatFree_extractItems : (items : List Value) →
    Value.allItems isNotDouble items = true → (A : List Bytes) →
      Json.areFloatFree (extractItems items A).1 = true
  | [], _, _ => rfl
  | item :: rest, hv, A => by
      simp only [Value.allItems, Bool.and_eq_true] at hv
      rw [extractItems_cons, Json.areFloatFree, isFloatFree_extract item hv.1 A,
        areFloatFree_extractItems rest hv.2 _]
      rfl

theorem membersFloatFree_extractMembers : {lo : Option String} → (members : Dict.From Value lo) →
    Value.allMembers isNotDouble members = true → (A : List Bytes) →
      Json.membersFloatFree (extractMembers members A).1 = true
  | _, .nil, _, _ => rfl
  | _, .cons _ _ value rest, hv, A => by
      simp only [Value.allMembers, Bool.and_eq_true] at hv
      rw [extractMembers_cons, Json.membersFloatFree, isFloatFree_extract value hv.1 A,
        membersFloatFree_extractMembers rest hv.2 _]
      rfl

end

end RealtimeClient.Codec
