import Mathlib
import RealtimeClient.Proofs.Dict
import RealtimeClient.Proofs.Value

/-!
# Positions in a tree

A part of a value or of JSON is found by the steps that lead to it: into an array by an index, into an
object by a key.  Positions have an order of their own, that of the steps where two positions part, and the
buffers of a value come in that order, since the items of an array stand by their indices and the members of
an object by their keys.

* `Branch`, `Position`, `Position.Precedes` — steps, positions and their order.
* `Value.at?`, `Json.at?` — the part at a position.
* `Value.positions` — the buffers with their positions; `Value.map_snd_positions` — in the order of the
  buffers.
* `Value.mem_positions_iff` — **the positions are those where buffers are**;
  `Value.pairwise_positions` — **and they ascend**.
-/

namespace RealtimeClient

/-- **A step into a container**: to an item of an array, or to a member of an object. -/
inductive Branch
  | item (index : Nat)
  | member (key : String)
  deriving DecidableEq, Repr

/-- The order of the steps out of one container: items by their indices, members by their keys. -/
inductive Branch.Before : Branch → Branch → Prop
  | items {i j : Nat} (lt : i < j) : Before (.item i) (.item j)
  | members {k l : String} (lt : k < l) : Before (.member k) (.member l)

/-- **A position in a tree**: the steps from its root. -/
abbrev Position : Type := List Branch

/-- **The order of positions**: that of the steps where they part, and a part comes after what it is in. -/
def Position.Precedes (a b : Position) : Prop := List.Lex Branch.Before a b

theorem Position.Precedes.cons {a b : Position} (h : a.Precedes b) (step : Branch) :
    Position.Precedes (step :: a) (step :: b) := List.Lex.cons h

theorem Position.precedes_of_before {s t : Branch} (h : s.Before t) (a b : Position) :
    Position.Precedes (s :: a) (t :: b) := List.Lex.rel h

/-- The part of JSON to which one step leads. -/
def Json.child? : Json → Branch → Option Json
  | .array items, .item index => items[index]?
  | .object members, .member key => members.get? key
  | _, _ => none

/-- **The part of JSON at a position.** -/
def Json.at? (json : Json) : Position → Option Json
  | [] => some json
  | step :: rest => (json.child? step).bind fun part => part.at? rest

namespace Value

/-- The part of a value to which one step leads. -/
def child? : Value → Branch → Option Value
  | .array items, .item index => items[index]?
  | .object members, .member key => members.get? key
  | _, _ => none

/-- **The part of a value at a position.** -/
def at? (v : Value) : Position → Option Value
  | [] => some v
  | step :: rest => (v.child? step).bind fun part => part.at? rest

/-! ## The positions of the buffers -/

/-- A buffer that is one step further down. -/
def under (step : Branch) (b : Position × Bytes) : Position × Bytes := (step :: b.1, b.2)

mutual

/-- **The buffers of a value with their positions.** -/
def positions : Value → List (Position × Bytes)
  | .binary data => [([], data)]
  | .array items => positionsOfItems 0 items
  | .object members => positionsOfMembers members
  | _ => []

/-- The same of items, the first of which has the index. -/
def positionsOfItems (index : Nat) : List Value → List (Position × Bytes)
  | [] => []
  | item :: rest => item.positions.map (under (.item index)) ++ positionsOfItems (index + 1) rest

/-- The same of members. -/
def positionsOfMembers {lo : Option String} : Dict.From Value lo → List (Position × Bytes)
  | .nil => []
  | .cons key _ value rest => value.positions.map (under (.member key)) ++ positionsOfMembers rest

end

mutual

/-- **The positions are in the order of the buffers.** -/
theorem map_snd_positions : (v : Value) → v.positions.map Prod.snd = v.buffers
  | .null => rfl
  | .bool _ => rfl
  | .int _ => rfl
  | .double _ => rfl
  | .string _ => rfl
  | .binary _ => rfl
  | .array items => map_snd_positionsOfItems 0 items
  | .object members => map_snd_positionsOfMembers members

theorem map_snd_positionsOfItems : (index : Nat) → (items : List Value) →
    (positionsOfItems index items).map Prod.snd = buffersOfItems items
  | _, [] => rfl
  | index, item :: rest => by
      have hunder : Prod.snd ∘ under (.item index) = Prod.snd := rfl
      rw [positionsOfItems, buffersOfItems, List.map_append, List.map_map, hunder,
        map_snd_positions item, map_snd_positionsOfItems (index + 1) rest]

theorem map_snd_positionsOfMembers : {lo : Option String} → (members : Dict.From Value lo) →
    (positionsOfMembers members).map Prod.snd = buffersOfMembers members
  | _, .nil => rfl
  | _, .cons key _ value rest => by
      have hunder : Prod.snd ∘ under (.member key) = Prod.snd := rfl
      rw [positionsOfMembers, buffersOfMembers, List.map_append, List.map_map, hunder,
        map_snd_positions value, map_snd_positionsOfMembers rest]

end

theorem length_positions (v : Value) : v.positions.length = v.binaryCount := by
  rw [← List.length_map, map_snd_positions, length_buffers]

/-! ## Where buffers are -/

/-- The buffers of items are those of one item each. -/
theorem mem_positionsOfItems_iff {b : Position × Bytes} (index : Nat) (items : List Value) :
    b ∈ positionsOfItems index items ↔
      ∃ i item, items[i]? = some item ∧ ∃ c ∈ item.positions, b = under (.item (index + i)) c := by
  induction items generalizing index with
  | nil => simp [positionsOfItems]
  | cons item rest ih =>
    rw [positionsOfItems, List.mem_append, List.mem_map, ih]
    constructor
    · rintro (⟨c, hc, rfl⟩ | ⟨i, other, hi, c, hc, rfl⟩)
      · exact ⟨0, item, rfl, c, hc, rfl⟩
      · exact ⟨i + 1, other, hi, c, hc, by rw [Nat.add_right_comm, Nat.add_assoc]⟩
    · rintro ⟨_ | i, other, hi, c, hc, rfl⟩
      · obtain rfl : item = other := Option.some.inj hi
        exact .inl ⟨c, hc, rfl⟩
      · exact .inr ⟨i, other, hi, c, hc, by rw [Nat.add_right_comm, Nat.add_assoc]⟩

/-- The buffers of members are those of one member each. -/
theorem mem_positionsOfMembers_iff {b : Position × Bytes} :
    {lo : Option String} → (members : Dict.From Value lo) →
      (b ∈ positionsOfMembers members ↔
        ∃ key value, (key, value) ∈ members.toList ∧ ∃ c ∈ value.positions, b = under (.member key) c)
  | _, .nil => by simp [positionsOfMembers, Dict.From.toList]
  | _, .cons key _ value rest => by
      rw [positionsOfMembers, List.mem_append, List.mem_map, mem_positionsOfMembers_iff rest]
      simp only [Dict.From.toList, List.mem_cons, Prod.mk.injEq]
      constructor
      · rintro (⟨c, hc, rfl⟩ | ⟨other, value', hmem, c, hc, rfl⟩)
        · exact ⟨key, value, .inl ⟨rfl, rfl⟩, c, hc, rfl⟩
        · exact ⟨other, value', .inr hmem, c, hc, rfl⟩
      · rintro ⟨other, value', ⟨rfl, rfl⟩ | hmem, c, hc, rfl⟩
        · exact .inl ⟨c, hc, rfl⟩
        · exact .inr ⟨other, value', hmem, c, hc, rfl⟩

/-- The buffers inside of a value are those of its parts. -/
theorem cons_mem_positions_iff {step : Branch} {rest : Position} {data : Bytes} (v : Value) :
    (step :: rest, data) ∈ v.positions ↔
      ∃ part, v.child? step = some part ∧ (rest, data) ∈ part.positions := by
  cases v with
  | array items =>
    rw [positions, mem_positionsOfItems_iff]
    simp only [under, Prod.mk.injEq, List.cons.injEq, Nat.zero_add]
    constructor
    · rintro ⟨i, item, hi, c, hc, ⟨rfl, rfl⟩, rfl⟩
      exact ⟨item, hi, hc⟩
    · rintro ⟨item, hi, hc⟩
      cases step with
      | item i => exact ⟨i, item, hi, (rest, data), hc, ⟨rfl, rfl⟩, rfl⟩
      | member key => cases hi
  | object members =>
    rw [positions, mem_positionsOfMembers_iff]
    simp only [under, Prod.mk.injEq, List.cons.injEq, Dict.From.mem_toList_iff]
    constructor
    · rintro ⟨key, value, hkey, c, hc, ⟨rfl, rfl⟩, rfl⟩
      exact ⟨value, hkey, hc⟩
    · rintro ⟨value, hkey, hc⟩
      cases step with
      | item i => cases hkey
      | member key => exact ⟨key, value, hkey, (rest, data), hc, ⟨rfl, rfl⟩, rfl⟩
  | binary => simp [positions, child?]
  | null | bool | int | double | string => simp [positions, child?]

/-- **The positions are those where buffers are.** -/
theorem mem_positions_iff {position : Position} {data : Bytes} {v : Value} :
    (position, data) ∈ v.positions ↔ v.at? position = some (.binary data) := by
  induction position generalizing v with
  | nil =>
    cases v with
    | array items => simp [positions, at?, mem_positionsOfItems_iff, under]
    | object members => simp [positions, at?, mem_positionsOfMembers_iff, under]
    | binary => simp [positions, at?, eq_comm]
    | null | bool | int | double | string => simp [positions, at?]
  | cons step rest ih =>
    rw [cons_mem_positions_iff, at?, Option.bind_eq_some_iff]
    simp only [ih]

/-! ## The order of the buffers -/

/-- **Buffer by buffer the positions ascend.** -/
def Ascending (list : List (Position × Bytes)) : Prop := list.Pairwise fun a b => a.1.Precedes b.1

/-- Further down the order is the same. -/
theorem Ascending.under {list : List (Position × Bytes)} (h : Ascending list) (step : Branch) :
    Ascending (list.map (under step)) := List.Pairwise.map _ (fun _ _ hab => hab.cons step) h

mutual

/-- **The positions of the buffers ascend.** -/
theorem pairwise_positions : (v : Value) → Ascending v.positions
  | .null => .nil
  | .bool _ => .nil
  | .int _ => .nil
  | .double _ => .nil
  | .string _ => .nil
  | .binary _ => List.pairwise_singleton _ _
  | .array items => pairwise_positionsOfItems 0 items
  | .object members => pairwise_positionsOfMembers members

theorem pairwise_positionsOfItems : (index : Nat) → (items : List Value) →
    Ascending (positionsOfItems index items)
  | _, [] => .nil
  | index, item :: rest => by
      rw [positionsOfItems, Ascending, List.pairwise_append]
      refine ⟨(pairwise_positions item).under (.item index), pairwise_positionsOfItems (index + 1) rest,
        fun a ha b hb => ?_⟩
      obtain ⟨c, -, rfl⟩ := List.mem_map.1 ha
      obtain ⟨i, other, -, d, -, rfl⟩ := (mem_positionsOfItems_iff _ _).1 hb
      exact Position.precedes_of_before (.items (by omega)) _ _

theorem pairwise_positionsOfMembers : {lo : Option String} → (members : Dict.From Value lo) →
    Ascending (positionsOfMembers members)
  | _, .nil => .nil
  | _, .cons key _ value rest => by
      rw [positionsOfMembers, Ascending, List.pairwise_append]
      refine ⟨(pairwise_positions value).under (.member key), pairwise_positionsOfMembers rest,
        fun a ha b hb => ?_⟩
      obtain ⟨c, -, rfl⟩ := List.mem_map.1 ha
      obtain ⟨other, value', hmem, d, -, rfl⟩ := (mem_positionsOfMembers_iff _).1 hb
      exact Position.precedes_of_before (.members (Dict.From.above_of_mem_toList rest hmem)) _ _

end

end Value

end RealtimeClient
