/-!
# Dictionaries in key order

A `Dict α` maps strings to values of `α` and lists its members in strictly ascending order of their
keys.  The order is part of the type: a member carries the proof that its key is above the one
before it, so two dictionaries with the same members are equal, and no operation can leave one out
of order.

* `Dict.From α lo` — the members whose keys lie above the bound `lo`; `Dict α` has no bound.
* `Dict.From.get?`, `Dict.From.insert`, `Dict.From.erase`, `Dict.From.toList` — look up, put,
  remove and list.
* `Dict.ofList` — a dictionary from pairs; of two pairs with one key the later one counts.

Strings are compared by code points, which is also the order of their UTF-8 bytes.
-/

namespace RealtimeClient

/-- **The bound on a key.**  `none` admits every key, `some a` the keys above `a`. -/
def Dict.Above : Option String → String → Prop
  | none, _ => True
  | some a, k => a < k

instance Dict.decidableAbove : (lo : Option String) → (k : String) → Decidable (Dict.Above lo k)
  | none, _ => .isTrue trivial
  | some a, k => inferInstanceAs (Decidable (a < k))

/-- **Members above a bound.**  Each member's key is the bound for those after it. -/
inductive Dict.From (α : Type) : Option String → Type
  | nil {lo : Option String} : Dict.From α lo
  | cons {lo : Option String} (key : String) (above : Dict.Above lo key) (value : α)
      (rest : Dict.From α (some key)) : Dict.From α lo

/-- A dictionary: members with ascending keys and no bound below. -/
abbrev Dict (α : Type) : Type := Dict.From α none

namespace Dict

/-- A bound may be lowered. -/
theorem Above.trans {lo : Option String} {a b : String} (h : Above lo a) (hab : a < b) :
    Above lo b := by
  cases lo with
  | none => trivial
  | some l => exact String.lt_trans h hab

/-- A key may serve as the bound of any key above it. -/
theorem Above.of_lt {a b : String} (h : a < b) : Above (some a) b := h

/-- Of two different keys that are not in order, the second bounds the first. -/
theorem Above.of_not_lt {a b : String} (h : ¬a < b) (hne : a ≠ b) : Above (some b) a :=
  .of_lt (Std.lt_of_le_of_ne (String.not_lt.1 h) (Ne.symm hne))

def empty {α : Type} : Dict α := .nil

instance {α : Type} {lo : Option String} : Inhabited (From α lo) := ⟨.nil⟩

namespace From

variable {α β : Type} {lo : Option String}

/-- The members in ascending order of their keys. -/
def toList {lo : Option String} : From α lo → List (String × α)
  | .nil => []
  | .cons k _ v rest => (k, v) :: rest.toList

def keys (m : From α lo) : List String := m.toList.map (·.1)

def values (m : From α lo) : List α := m.toList.map (·.2)

/-- The value under a key. -/
def get? (k : String) {lo : Option String} : From α lo → Option α
  | .nil => none
  | .cons k' _ v rest => if k = k' then some v else rest.get? k

def contains (k : String) (m : From α lo) : Bool := (m.get? k).isSome

def size (m : From α lo) : Nat := m.toList.length

/-- Put a value under a key, in place of the one there. -/
def insert (k : String) (v : α) {lo : Option String} (h : Above lo k) : From α lo → From α lo
  | .nil => .cons k h v .nil
  | .cons k' h' v' rest =>
    if hlt : k < k' then .cons k h v (.cons k' (.of_lt hlt) v' rest)
    else if heq : k = k' then .cons k' h' v rest
    else .cons k' h' v' (rest.insert k v (.of_not_lt hlt heq))

/-- The same members under a lower bound. -/
def lower {lo : Option String} {a : String} (h : Above lo a) : From α (some a) → From α lo
  | .nil => .nil
  | .cons k hk v rest => .cons k (h.trans hk) v rest

/-- Take out the member with a key. -/
def erase (k : String) {lo : Option String} : From α lo → From α lo
  | .nil => .nil
  | .cons k' h' v' rest => if k = k' then rest.lower h' else .cons k' h' v' (rest.erase k)

def map (f : α → β) {lo : Option String} : From α lo → From β lo
  | .nil => .nil
  | .cons k h v rest => .cons k h (f v) (rest.map f)

/-- Change every value and keep the keys; nothing if a value cannot be changed. -/
def mapM? (f : α → Option β) {lo : Option String} : From α lo → Option (From β lo)
  | .nil => some .nil
  | .cons k h v rest => do return .cons k h (← f v) (← rest.mapM? f)

def decEq [DecidableEq α] {lo : Option String} : (a b : From α lo) → Decidable (a = b)
  | .nil, .nil => .isTrue rfl
  | .nil, .cons .. => .isFalse nofun
  | .cons .., .nil => .isFalse nofun
  | .cons k h v r, .cons k' h' v' r' =>
    if hk : k = k' then by
      subst hk
      exact match decEq r r' with
        | .isTrue hr => if hv : v = v' then .isTrue (by rw [hv, hr]) else .isFalse (by simp [hv])
        | .isFalse hr => .isFalse (by simp [hr])
    else .isFalse (by simp [hk])

instance [DecidableEq α] : DecidableEq (From α lo) := decEq

end From

variable {α : Type}

/-- Put a value under a key of an unbounded dictionary. -/
def insert (m : Dict α) (k : String) (v : α) : Dict α := From.insert k v trivial m

/-- **Pairs as a dictionary.**  Of two pairs with one key the later one counts. -/
def ofList (pairs : List (String × α)) : Dict α :=
  pairs.foldl (fun m p => insert m p.1 p.2) empty

/-- The members of both; where a key is in both, the second dictionary's value counts. -/
def merge (base changes : Dict α) : Dict α :=
  changes.toList.foldl (fun m p => insert m p.1 p.2) base

/-! ## Laws -/

namespace From

variable {lo : Option String}

@[simp] theorem get?_nil (k : String) : (nil : From α lo).get? k = none := rfl

/-- Every key lies above the bound. -/
theorem above_of_mem_toList {p : String × α} :
    {lo : Option String} → (m : From α lo) → p ∈ m.toList → Above lo p.1
  | _, .nil, h => by simp [toList] at h
  | _, .cons k hk v rest, h => by
      rcases List.mem_cons.1 h with rfl | h
      · exact hk
      · exact hk.trans (above_of_mem_toList rest h)

/-- **The order law.**  The keys ascend strictly. -/
theorem pairwise_toList :
    {lo : Option String} → (m : From α lo) → m.toList.Pairwise fun p q => p.1 < q.1
  | _, .nil => .nil
  | _, .cons _ _ _ rest =>
      .cons (fun _ h => above_of_mem_toList rest h) (pairwise_toList rest)

@[simp] theorem get?_insert_self (k : String) (v : α) :
    {lo : Option String} → (h : Above lo k) → (m : From α lo) → (m.insert k v h).get? k = some v
  | _, _, .nil => by simp [insert, get?]
  | _, h, .cons k' h' v' rest => by
      rw [insert]
      split
      · simp [get?]
      · split
        · next heq => simp [get?, heq]
        · next hne =>
            simp only [get?, if_neg hne]
            exact get?_insert_self k v _ rest

theorem get?_insert_of_ne {k l : String} (v : α) (hne : l ≠ k) :
    {lo : Option String} → (h : Above lo k) → (m : From α lo) →
      (m.insert k v h).get? l = m.get? l
  | _, _, .nil => by simp [insert, get?, hne]
  | _, h, .cons k' h' v' rest => by
      rw [insert]
      split
      · simp [get?, hne]
      · split
        · next heq => subst heq; simp [get?, hne]
        · simp only [get?]
          rw [get?_insert_of_ne v hne _ rest]

end From

end Dict

end RealtimeClient
