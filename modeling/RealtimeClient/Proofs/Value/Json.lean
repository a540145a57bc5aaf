import Mathlib
import RealtimeClient.Proofs.Binary64.Magnitude
import RealtimeClient.Proofs.Codec.Placeholders
import RealtimeClient.Proofs.Positions

/-!
# Values and JSON, back and forth

Values and JSON trees are almost the same trees.  A value may hold buffers, and then there is no tree of
it; it may hold doubles that no JSON text can show, and these become null.  A JSON tree may hold natural
numbers beyond the signed integers, and these become doubles.  Nothing else changes, at any depth.

* `tree` — the tree of a value in which no buffers are.
* `nullNonFinite` — null in place of the doubles that are not finite; `Json.widened` — doubles in place
  of the natural numbers that are no signed integers.
* `binaryCount_pos_iff` — where a buffer is counted, there is one.
* `depth_tree`, `isFloatFree_tree` — what the tree is like.
* `ofJson_tree`, `tree_ofJson` — from a value to a tree and back, and the other way round.
* `conversions_exact` — **both conversions and their exceptions**.
-/

namespace RealtimeClient

/-! ## What changes -/

namespace Json

/-- A number with the double next to it in place of a natural number above all signed integers. -/
def Number.widened : Number → Number
  | .natural n =>
    if n < 0x8000000000000000 then .natural n else .real n.toFloat (Binary64.isFinite_toFloat n)
  | n => n

mutual

/-- **A tree with doubles in place of the natural numbers above all signed integers.** -/
def widened : Json → Json
  | .number n => .number n.widened
  | .array items => .array (widenedItems items)
  | .object members => .object (widenedMembers members)
  | j => j

/-- The same of a list of trees. -/
def widenedItems : List Json → List Json
  | [] => []
  | item :: rest => item.widened :: widenedItems rest

/-- The same of the values of members. -/
def widenedMembers {lo : Option String} : Dict.From Json lo → Dict.From Json lo
  | .nil => .nil
  | .cons key above value rest => .cons key above value.widened (widenedMembers rest)

end

end Json

namespace Value

mutual

/-- **A value with null in place of the doubles that are not finite.** -/
def nullNonFinite : Value → Value
  | .double x => if x.isFinite = true then .double x else .null
  | .array items => .array (nullNonFiniteItems items)
  | .object members => .object (nullNonFiniteMembers members)
  | v => v

/-- The same of a list of values. -/
def nullNonFiniteItems : List Value → List Value
  | [] => []
  | item :: rest => item.nullNonFinite :: nullNonFiniteItems rest

/-- The same of the values of members. -/
def nullNonFiniteMembers {lo : Option String} : Dict.From Value lo → Dict.From Value lo
  | .nil => .nil
  | .cons key above value rest => .cons key above value.nullNonFinite (nullNonFiniteMembers rest)

end

/-- Whether a value is anything but a double that is not finite. -/
def isShowable : Value → Bool
  | .double x => x.isFinite
  | _ => true

theorem isShowable_of_isNotDouble (v : Value) (h : Codec.isNotDouble v = true) : isShowable v = true := by
  cases v with
  | double x => cases h
  | _ => rfl

mutual

/-- Where all doubles are finite, nothing changes. -/
theorem nullNonFinite_eq_self : (v : Value) → v.all isShowable = true → v.nullNonFinite = v
  | .null, _ => rfl
  | .bool _, _ => rfl
  | .int _, _ => rfl
  | .double _, h => if_pos h
  | .string _, _ => rfl
  | .binary _, _ => rfl
  | .array items, h => by
      simp only [all, Bool.and_eq_true] at h
      rw [nullNonFinite, nullNonFiniteItems_eq_self items h.2]
  | .object members, h => by
      simp only [all, Bool.and_eq_true] at h
      rw [nullNonFinite, nullNonFiniteMembers_eq_self members h.2]

theorem nullNonFiniteItems_eq_self : (items : List Value) → allItems isShowable items = true →
    nullNonFiniteItems items = items
  | [], _ => rfl
  | item :: rest, h => by
      simp only [allItems, Bool.and_eq_true] at h
      rw [nullNonFiniteItems, nullNonFinite_eq_self item h.1, nullNonFiniteItems_eq_self rest h.2]

theorem nullNonFiniteMembers_eq_self : {lo : Option String} → (members : Dict.From Value lo) →
    allMembers isShowable members = true → nullNonFiniteMembers members = members
  | _, .nil, _ => rfl
  | _, .cons _ _ value rest, h => by
      simp only [allMembers, Bool.and_eq_true] at h
      rw [nullNonFiniteMembers, nullNonFinite_eq_self value h.1, nullNonFiniteMembers_eq_self rest h.2]

end

/-! ## From a value to a tree and back -/

/-- What becomes of a buffer where none should be. -/
def dropBuffer (_ : Bytes) (s : Unit) : Json × Unit := (.null, s)

/-- **The tree of a value in which no buffers are.** -/
def tree (v : Value) : Json := (v.toJsonWith dropBuffer ()).1

/-- The same of a list of values. -/
def treesOfItems (items : List Value) : List Json := (itemsToJsonWith dropBuffer items ()).1

/-- The same of the values of members. -/
def treesOfMembers {lo : Option String} (members : Dict.From Value lo) : Dict.From Json lo :=
  (membersToJsonWith dropBuffer members ()).1

theorem tree_array (items : List Value) : tree (.array items) = .array (treesOfItems items) := rfl

theorem tree_object (members : Dict Value) : tree (.object members) = .object (treesOfMembers members) := rfl

theorem treesOfItems_cons (item : Value) (rest : List Value) :
    treesOfItems (item :: rest) = item.tree :: treesOfItems rest := rfl

theorem treesOfMembers_cons {lo : Option String} (key : String) (above : Dict.Above lo key) (value : Value)
    (rest : Dict.From Value (some key)) :
    treesOfMembers (.cons key above value rest) = .cons key above value.tree (treesOfMembers rest) := rfl

/-- A finite double is a number of the tree. -/
theorem tree_double {x : Float} (h : x.isFinite = true) : tree (.double x) = .number (.real x h) := by
  show jsonOfFloat x = .number (.real x h)
  rw [jsonOfFloat, Json.Number.ofFloat?, dif_pos h]

/-- Only an array becomes an array. -/
theorem tree_ne_array {v : Value} (h : v.kind ≠ .array) (items : List Json) : v.tree ≠ .array items := by
  cases v with
  | array items => exact absurd rfl h
  | double x =>
    show jsonOfFloat x ≠ .array items
    rw [jsonOfFloat]
    split <;> exact Json.noConfusion
  | _ => exact Json.noConfusion

/-- A double as JSON, and back. -/
theorem ofJson_jsonOfFloat (x : Float) : ofJson (jsonOfFloat x) = (Value.double x).nullNonFinite := by
  rw [jsonOfFloat, Json.Number.ofFloat?, nullNonFinite]
  by_cases hx : x.isFinite = true
  · rw [dif_pos hx, if_pos hx]
    rfl
  · rw [dif_neg hx, if_neg hx]
    rfl

mutual

/-- **From a value to its tree and back**, nothing changes but the doubles that are not finite. -/
theorem ofJson_tree : (v : Value) → v.binaryCount = 0 → ofJson v.tree = v.nullNonFinite
  | .null, _ => rfl
  | .bool _, _ => rfl
  | .int i, _ => Codec.ofNumber_ofInt i
  | .double x, _ => ofJson_jsonOfFloat x
  | .string _, _ => rfl
  | .binary _, h => absurd h Nat.one_ne_zero
  | .array items, h => by
      rw [tree_array, ofJson, itemsOfJson_treesOfItems items h, nullNonFinite]
  | .object members, h => by
      rw [tree_object, ofJson, membersOfJson_treesOfMembers members h, nullNonFinite]

theorem itemsOfJson_treesOfItems : (items : List Value) → binaryCountOfItems items = 0 →
    itemsOfJson (treesOfItems items) = nullNonFiniteItems items
  | [], _ => rfl
  | item :: rest, h => by
      rw [binaryCountOfItems, Nat.add_eq_zero_iff] at h
      rw [treesOfItems_cons, itemsOfJson, ofJson_tree item h.1, itemsOfJson_treesOfItems rest h.2,
        nullNonFiniteItems]

theorem membersOfJson_treesOfMembers : {lo : Option String} → (members : Dict.From Value lo) →
    binaryCountOfMembers members = 0 →
      membersOfJson (treesOfMembers members) = nullNonFiniteMembers members
  | _, .nil, _ => rfl
  | _, .cons _ _ value rest, h => by
      rw [binaryCountOfMembers, Nat.add_eq_zero_iff] at h
      rw [treesOfMembers_cons, membersOfJson, ofJson_tree value h.1,
        membersOfJson_treesOfMembers rest h.2, nullNonFiniteMembers]

end

/-! ## What the tree is like -/

mutual

/-- How deeply arrays and objects are nested in a value, the value itself counted. -/
def depth : Value → Nat
  | .array items => depthOfItems items + 1
  | .object members => depthOfMembers members + 1
  | _ => 0

/-- The same of a list of values. -/
def depthOfItems : List Value → Nat
  | [] => 0
  | item :: rest => max item.depth (depthOfItems rest)

/-- The same of the values of members. -/
def depthOfMembers {lo : Option String} : Dict.From Value lo → Nat
  | .nil => 0
  | .cons _ _ value rest => max value.depth (depthOfMembers rest)

end

theorem depth_jsonOfFloat (x : Float) : (jsonOfFloat x).depth = 0 := by
  rw [jsonOfFloat]
  split <;> rfl

mutual

/-- The tree is nested like the value. -/
theorem depth_tree : (v : Value) → v.tree.depth = v.depth
  | .null => rfl
  | .bool _ => rfl
  | .int _ => rfl
  | .double x => depth_jsonOfFloat x
  | .string _ => rfl
  | .binary _ => rfl
  | .array items => by rw [tree_array, Json.depth, depth, depthOfItems_treesOfItems items]
  | .object members => by rw [tree_object, Json.depth, depth, depthOfMembers_treesOfMembers members]

theorem depthOfItems_treesOfItems : (items : List Value) →
    Json.depthOfItems (treesOfItems items) = depthOfItems items
  | [] => rfl
  | item :: rest => by
      rw [treesOfItems_cons, Json.depthOfItems, depthOfItems, depth_tree item,
        depthOfItems_treesOfItems rest]

theorem depthOfMembers_treesOfMembers : {lo : Option String} → (members : Dict.From Value lo) →
    Json.depthOfMembers (treesOfMembers members) = depthOfMembers members
  | _, .nil => rfl
  | _, .cons _ _ value rest => by
      rw [treesOfMembers_cons, Json.depthOfMembers, depthOfMembers, depth_tree value,
        depthOfMembers_treesOfMembers rest]

end

mutual

/-- **Where no buffers are, taking them out changes nothing.** -/
theorem extract_eq_tree : (v : Value) → v.binaryCount = 0 → (A : List Bytes) →
    (Codec.extract v A).1 = v.tree
  | .null, _, _ => rfl
  | .bool _, _, _ => rfl
  | .int _, _, _ => rfl
  | .double _, _, _ => rfl
  | .string _, _, _ => rfl
  | .binary _, h, _ => absurd h Nat.one_ne_zero
  | .array items, h, A => by
      rw [Codec.extract_array, tree_array, extractItems_eq_trees items h A]
  | .object members, h, A => by
      rw [Codec.extract_object, tree_object, extractMembers_eq_trees members h A]

theorem extractItems_eq_trees : (items : List Value) → binaryCountOfItems items = 0 →
    (A : List Bytes) → (Codec.extractItems items A).1 = treesOfItems items
  | [], _, _ => rfl
  | item :: rest, h, A => by
      rw [binaryCountOfItems, Nat.add_eq_zero_iff] at h
      rw [Codec.extractItems_cons, treesOfItems_cons, extract_eq_tree item h.1,
        extractItems_eq_trees rest h.2]

theorem extractMembers_eq_trees : {lo : Option String} → (members : Dict.From Value lo) →
    binaryCountOfMembers members = 0 → (A : List Bytes) →
      (Codec.extractMembers members A).1 = treesOfMembers members
  | _, .nil, _, _ => rfl
  | _, .cons _ _ value rest, h, A => by
      rw [binaryCountOfMembers, Nat.add_eq_zero_iff] at h
      rw [Codec.extractMembers_cons, treesOfMembers_cons, extract_eq_tree value h.1,
        extractMembers_eq_trees rest h.2]

end

/-- Without doubles and buffers in the value there are no doubles in the tree. -/
theorem isFloatFree_tree {v : Value} (hnone : v.binaryCount = 0) (h : v.all Codec.isNotDouble = true) :
    v.tree.isFloatFree = true := by
  rw [← extract_eq_tree v hnone []]
  exact Codec.isFloatFree_extract v h []

/-! ## From a tree to a value and back -/

theorem binaryCount_ofNumber (n : Json.Number) : (ofNumber n).binaryCount = 0 := by
  rw [ofNumber]
  split <;> rfl

/-- A natural number below the bound is a signed integer that is not negative. -/
theorem ofInt_toInt64 {n : UInt64} (h : n < 0x8000000000000000) :
    Json.Number.ofInt n.toInt64 = .natural n := by
  have hnonneg : ¬n.toInt64 < 0 := by
    have hlt : n.toNat < 2 ^ 63 := by simpa using UInt64.lt_iff_toNat_lt.1 h
    have hbits : n.toBitVec.toNat = n.toNat := rfl
    have hcond := BitVec.toInt_eq_toNat_cond n.toBitVec
    rw [Int64.lt_iff_toInt_lt]
    show ¬n.toBitVec.toInt < 0
    split at hcond <;> omega
  rw [Json.Number.ofInt, dif_neg hnonneg]
  rfl

/-- A number becomes an integer or a double, and stays what it is unless it is too large for an integer. -/
theorem tree_ofNumber (n : Json.Number) : (ofNumber n).tree = .number n.widened := by
  cases n with
  | natural n =>
    by_cases hn : n < 0x8000000000000000
    · simp only [ofNumber, Json.Number.toInt?, Json.Number.widened, if_pos hn]
      exact congrArg Json.number (ofInt_toInt64 hn)
    · simp only [ofNumber, Json.Number.toInt?, Json.Number.widened, if_neg hn]
      exact tree_double (Binary64.isFinite_toFloat n)
  | negative n below => exact congrArg Json.number (dif_pos below)
  | real x finite => exact tree_double finite

mutual

/-- No buffers come out of JSON. -/
theorem binaryCount_ofJson : (j : Json) → (ofJson j).binaryCount = 0
  | .null => rfl
  | .bool _ => rfl
  | .number n => binaryCount_ofNumber n
  | .string _ => rfl
  | .array items => binaryCountOfItems_itemsOfJson items
  | .object members => binaryCountOfMembers_membersOfJson members

theorem binaryCountOfItems_itemsOfJson : (items : List Json) →
    binaryCountOfItems (itemsOfJson items) = 0
  | [] => rfl
  | item :: rest => by
      rw [itemsOfJson, binaryCountOfItems, binaryCount_ofJson item, binaryCountOfItems_itemsOfJson rest]

theorem binaryCountOfMembers_membersOfJson : {lo : Option String} → (members : Dict.From Json lo) →
    binaryCountOfMembers (membersOfJson members) = 0
  | _, .nil => rfl
  | _, .cons _ _ value rest => by
      rw [membersOfJson, binaryCountOfMembers, binaryCount_ofJson value,
        binaryCountOfMembers_membersOfJson rest]

end

mutual

/-- **From a tree to a value and back**, nothing changes but the natural numbers above all signed
integers. -/
theorem tree_ofJson : (j : Json) → (ofJson j).tree = j.widened
  | .null => rfl
  | .bool _ => rfl
  | .number n => tree_ofNumber n
  | .string _ => rfl
  | .array items => by
      rw [ofJson, tree_array, treesOfItems_itemsOfJson items, Json.widened]
  | .object members => by
      rw [ofJson, tree_object, treesOfMembers_membersOfJson members, Json.widened]

theorem treesOfItems_itemsOfJson : (items : List Json) →
    treesOfItems (itemsOfJson items) = Json.widenedItems items
  | [] => rfl
  | item :: rest => by
      rw [itemsOfJson, treesOfItems_cons, tree_ofJson item, treesOfItems_itemsOfJson rest, Json.widenedItems]

theorem treesOfMembers_membersOfJson : {lo : Option String} → (members : Dict.From Json lo) →
    treesOfMembers (membersOfJson members) = Json.widenedMembers members
  | _, .nil => rfl
  | _, .cons _ _ value rest => by
      rw [membersOfJson, treesOfMembers_cons, tree_ofJson value, treesOfMembers_membersOfJson rest,
        Json.widenedMembers]

end

/-! ## Both conversions -/

/-- **Where a buffer is counted, there is one**, at some depth. -/
theorem binaryCount_pos_iff {v : Value} :
    0 < v.binaryCount ↔ ∃ position data, v.at? position = some (.binary data) := by
  rw [← length_positions, List.length_pos_iff_exists_mem, Prod.exists]
  simp only [mem_positions_iff]

theorem toJson_eq (v : Value) : v.toJson = if 0 < v.binaryCount then .error {} else .ok v.tree := rfl

theorem toJson_of_unbuffered {v : Value} (h : v.binaryCount = 0) : v.toJson = .ok v.tree := by
  rw [toJson_eq, h]
  rfl

/-- **Both conversions and their exceptions.**  A value has no tree if and only if it holds a buffer, and
its tree is it again with null in place of the doubles that are not finite; every tree is the tree of a
value, with doubles in place of the natural numbers above all signed integers. -/
theorem conversions_exact :
    (∀ v : Value,
      (v.toJson = .error {} ↔ ∃ position data, v.at? position = some (.binary data)) ∧
      ∀ j, v.toJson = .ok j →
        ofJson j = v.nullNonFinite ∧ (v.all isShowable = true → ofJson j = v)) ∧
    ∀ j : Json, (ofJson j).toJson = .ok j.widened := by
  refine ⟨fun v => ⟨?_, fun j hj => ?_⟩, fun j => ?_⟩
  · rw [← binaryCount_pos_iff, toJson_eq]
    by_cases hbuffer : 0 < v.binaryCount <;> simp [hbuffer]
  · have hnone : v.binaryCount = 0 := by
      by_contra hne
      rw [toJson_eq, if_pos (Nat.pos_of_ne_zero hne)] at hj
      cases hj
    rw [toJson_eq, hnone] at hj
    obtain rfl : v.tree = j := Except.ok.inj hj
    have hback := ofJson_tree v hnone
    exact ⟨hback, fun hall => hback.trans (nullNonFinite_eq_self v hall)⟩
  · rw [toJson_eq, binaryCount_ofJson, tree_ofJson]
    rfl

/-- A value with a finite double. -/
def half : Value := .object (Dict.ofList [("half", .double (Float.ofBits 0x3fe0000000000000))])

/-- The tree of that value. -/
def halfTree : Json :=
  .object (Dict.ofList [("half", .number (.real (Float.ofBits 0x3fe0000000000000) (by decide +kernel)))])

/-- A value with an infinite double beside the finite one. -/
def unbounded : Value := .array [.double (Float.ofBits 0x7ff0000000000000), half]

/-- The infinite double is lost, the finite one stays. -/
theorem conversions_exact_unbounded :
    unbounded.toJson = .ok (.array [.null, halfTree]) ∧
      ofJson (.array [.null, halfTree]) = .array [.null, half] ∧
      half.toJson = .ok halfTree ∧ half.all isShowable = true ∧ ofJson halfTree = half := by
  have htree : unbounded.toJson = .ok (.array [.null, halfTree]) := by decide +kernel
  have hhalf : half.toJson = .ok halfTree := by decide +kernel
  have hfinite : half.all isShowable = true := by decide +kernel
  refine ⟨htree, ?_, hhalf, hfinite, ((conversions_exact.1 half).2 halfTree hhalf).2 hfinite⟩
  have hback := ((conversions_exact.1 unbounded).2 _ htree).1
  rw [hback]
  decide +kernel

end Value

end RealtimeClient
