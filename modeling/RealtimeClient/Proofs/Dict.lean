import Mathlib
import RealtimeClient.Dict

/-!
# Dictionaries and lists of pairs

A dictionary is determined by its list of members, and putting members in one by one in the order
of their keys gives back the dictionary that they were listed from.

* `Dict.From.toList_inj` — equal lists of members, equal dictionaries.
* `Dict.From.mem_values_of_get?`, `Dict.From.exists_get?_of_mem_values`, `Dict.From.mem_values_insert`,
  `Dict.From.values_insert_perm` — the values are what is under the keys, and putting a value in adds no
  other.
* `Dict.From.get?_erase_self`, `Dict.From.get?_erase_of_ne` — taking out a key takes out that member
  only.
* `Dict.From.mem_toList_iff`, `Dict.From.exists_last` — the members, and the last one of some kind.
* `Dict.ofList_toList` — a dictionary is rebuilt from its list.
* `Dict.get?_merge` — two dictionaries in one.
* `Dict.lookup_filter_ne` — taking out a key from a list of pairs in no order.
-/

namespace RealtimeClient.Dict

variable {α : Type}

namespace From

variable {lo : Option String}

/-- **A dictionary is its list of members.**  The order leaves no choice. -/
theorem toList_inj : {lo : Option String} → {m m' : From α lo} → m.toList = m'.toList → m = m'
  | _, .nil, .nil, _ => rfl
  | _, .cons .., .cons .., h => by
      simp only [toList, List.cons.injEq, Prod.mk.injEq] at h
      obtain ⟨⟨rfl, rfl⟩, h⟩ := h
      rw [toList_inj h]

/-- A key above all others comes last. -/
theorem toList_insert_of_forall_lt {k : String} (v : α) :
    {lo : Option String} → (h : Above lo k) → (m : From α lo) →
      (∀ p ∈ m.toList, p.1 < k) → (m.insert k v h).toList = m.toList ++ [(k, v)]
  | _, _, .nil, _ => rfl
  | _, h, .cons k' h' v' rest, hlt => by
      have hk : k' < k := hlt (k', v') List.mem_cons_self
      have hnlt : ¬k < k' := String.lt_asymm hk
      have hne : k ≠ k' := fun heq => String.lt_irrefl k (heq ▸ hk)
      rw [insert, dif_neg hnlt, dif_neg hne]
      simp only [toList, List.cons_append, List.cons.injEq, true_and]
      exact toList_insert_of_forall_lt v _ rest fun p hp => hlt p (.tail _ hp)

theorem mem_values_of_get? {k : String} {v : α} :
    {lo : Option String} → (m : From α lo) → m.get? k = some v → v ∈ m.values
  | _, .cons k' _ v' rest, h => by
      rw [get?] at h
      split at h
      · cases h
        exact List.mem_cons_self
      · exact List.mem_cons_of_mem _ (mem_values_of_get? rest h)

@[simp] theorem get?_lower (k : String) {a : String} (h : Above lo a) (m : From α (some a)) :
    (m.lower h).get? k = m.get? k := by
  cases m <;> rfl

/-- A key lies above the bound, or there is nothing under it. -/
theorem get?_of_not_above {k : String} :
    {lo : Option String} → (m : From α lo) → ¬Above lo k → m.get? k = none
  | _, .nil, _ => rfl
  | _, .cons k' h' v' rest, hk => by
      have hne : k ≠ k' := fun heq => hk (heq ▸ h')
      rw [get?, if_neg hne]
      exact get?_of_not_above rest fun hlt => hk (h'.trans hlt)

/-- What is among the values is under a key. -/
theorem exists_get?_of_mem_values {v : α} :
    {lo : Option String} → (m : From α lo) → v ∈ m.values → ∃ k, m.get? k = some v
  | _, .cons k' _ v' rest, h => by
      rcases List.mem_cons.1 h with rfl | h
      · exact ⟨k', if_pos rfl⟩
      · obtain ⟨k, hk⟩ := exists_get?_of_mem_values rest h
        refine ⟨k, ?_⟩
        have hne : k ≠ k' := by
          rintro rfl
          rw [get?_of_not_above rest (String.lt_irrefl k)] at hk
          cases hk
        rw [get?, if_neg hne]
        exact hk

/-- Putting a value in brings in nothing else. -/
theorem mem_values_insert {k : String} {v w : α} :
    {lo : Option String} → {h : Above lo k} → (m : From α lo) → w ∈ (m.insert k v h).values →
      w = v ∨ w ∈ m.values
  | _, _, .nil, hw => .inl (List.mem_singleton.1 hw)
  | _, _, .cons k' h' v' rest, hw => by
      rw [insert] at hw
      split at hw
      · exact List.mem_cons.1 hw
      · split at hw
        · rcases List.mem_cons.1 hw with hw | hw
          · exact .inl hw
          · exact .inr (List.mem_cons_of_mem _ hw)
        · rcases List.mem_cons.1 hw with hw | hw
          · exact .inr (List.mem_cons.2 (.inl hw))
          · rcases mem_values_insert rest hw with hw | hw
            · exact .inl hw
            · exact .inr (List.mem_cons_of_mem _ hw)

/-- A new key adds its value and leaves the others. -/
theorem values_insert_perm {k : String} (v : α) :
    {lo : Option String} → (h : Above lo k) → (m : From α lo) → m.get? k = none →
      (m.insert k v h).values.Perm (v :: m.values)
  | _, _, .nil, _ => .refl _
  | _, h, .cons k' h' v' rest, hno => by
      have hne : k ≠ k' := fun heq => by simp [get?, heq] at hno
      rw [get?, if_neg hne] at hno
      rw [insert]
      split
      · exact .refl _
      · exact ((values_insert_perm v _ rest hno).cons v').trans (.swap v v' _)

theorem get?_erase_self (k : String) :
    {lo : Option String} → (m : From α lo) → (m.erase k).get? k = none
  | _, .nil => rfl
  | _, .cons k' h' v' rest => by
      rw [erase]
      split
      · next heq =>
        subst heq
        rw [get?_lower]
        exact get?_of_not_above rest (String.lt_irrefl k)
      · next hne =>
        rw [get?, if_neg hne]
        exact get?_erase_self k rest

theorem get?_erase_of_ne {k l : String} (hne : l ≠ k) :
    {lo : Option String} → (m : From α lo) → (m.erase k).get? l = m.get? l
  | _, .nil => rfl
  | _, .cons k' h' v' rest => by
      rw [erase]
      split
      · next heq =>
        subst heq
        rw [get?_lower, get?, if_neg hne]
      · rw [get?, get?, get?_erase_of_ne hne rest]

/-- **The members are what is under the keys.** -/
theorem mem_toList_iff {k : String} {v : α} :
    {lo : Option String} → (m : From α lo) → ((k, v) ∈ m.toList ↔ m.get? k = some v)
  | _, .nil => by simp [toList]
  | _, .cons k' h' v' rest => by
      rw [toList, List.mem_cons, Prod.mk.injEq, get?, mem_toList_iff rest]
      by_cases hk : k = k'
      · subst hk
        have hnone := get?_of_not_above rest (String.lt_irrefl k)
        simp [hnone, eq_comm]
      · simp [hk]

/-- Of the members with a property, if there are any, one comes last. -/
theorem exists_last {p : String × α → Prop} :
    {lo : Option String} → (m : From α lo) → (∃ a ∈ m.toList, p a) →
      ∃ a ∈ m.toList, p a ∧ ∀ b ∈ m.toList, p b → b.1 ≤ a.1
  | _, .nil, h => by simp [toList] at h
  | _, .cons k h' v rest, h => by
      by_cases hrest : ∃ a ∈ rest.toList, p a
      · obtain ⟨a, ha, hpa, hlast⟩ := exists_last rest hrest
        refine ⟨a, List.mem_cons_of_mem _ ha, hpa, fun b hb hpb => ?_⟩
        rcases List.mem_cons.1 hb with rfl | hb
        · exact String.not_lt.1 (String.lt_asymm (above_of_mem_toList rest ha))
        · exact hlast b hb hpb
      · push Not at hrest
        obtain ⟨a, ha, hpa⟩ := h
        rcases List.mem_cons.1 ha with rfl | ha
        · refine ⟨_, ha, hpa, fun b hb hpb => ?_⟩
          rcases List.mem_cons.1 hb with rfl | hb
          · exact String.not_lt.1 (String.lt_irrefl _)
          · exact absurd hpb (hrest b hb)
        · exact absurd hpa (hrest a ha)

theorem get?_foldl_insert (k : String) :
    {lo : Option String} → (changes : From α lo) → (base : Dict α) →
      (changes.toList.foldl (fun m p => Dict.insert m p.1 p.2) base).get? k =
        (changes.get? k).or (base.get? k)
  | _, .nil, base => rfl
  | _, .cons k' h' v rest, base => by
      rw [toList, List.foldl_cons, get?_foldl_insert k rest, get?, Dict.insert]
      by_cases hk : k = k'
      · subst hk
        rw [if_pos rfl, get?_of_not_above rest (String.lt_irrefl k), Option.none_or]
        exact get?_insert_self k v _ base
      · rw [if_neg hk]
        exact congrArg _ (get?_insert_of_ne v hk _ base)

end From

/-- **Members put in by ascending keys** follow those that are there. -/
theorem toList_foldl_insert (pairs : List (String × α)) (m : Dict α)
    (h : (m.toList ++ pairs).Pairwise fun p q => p.1 < q.1) :
    (pairs.foldl (fun m p => insert m p.1 p.2) m).toList = m.toList ++ pairs := by
  induction pairs generalizing m with
  | nil => simp
  | cons p rest ih =>
    have hlt : ∀ q ∈ m.toList, q.1 < p.1 := fun q hq =>
      (List.pairwise_append.1 h).2.2 q hq p List.mem_cons_self
    have hm : (insert m p.1 p.2).toList = m.toList ++ [p] := by
      rw [insert]
      exact From.toList_insert_of_forall_lt p.2 _ m hlt
    have hsplit : (m.toList ++ [p]) ++ rest = m.toList ++ p :: rest := by simp
    rw [List.foldl_cons, ih (insert m p.1 p.2) (by rwa [hm, hsplit]), hm, hsplit]

/-- **A dictionary is rebuilt from its list of members.** -/
theorem ofList_toList (m : Dict α) : ofList m.toList = m :=
  From.toList_inj (toList_foldl_insert m.toList empty (From.pairwise_toList m))

/-- **What is under a key of two dictionaries in one** is what the second has there, or else the first. -/
theorem get?_merge (base changes : Dict α) (k : String) :
    (merge base changes).get? k = (changes.get? k).or (base.get? k) :=
  From.get?_foldl_insert k changes base

/-- **A key is taken out of a list of pairs**, which need not be in order. -/
theorem lookup_filter_ne {κ : Type} [DecidableEq κ] (pairs : List (κ × α)) (k key : κ) :
    (pairs.filter fun p => p.1 ≠ k).lookup key = if key = k then none else pairs.lookup key := by
  induction pairs with
  | nil => simp
  | cons p rest ih =>
    obtain ⟨k', a⟩ := p
    rw [List.filter_cons]
    by_cases hk : k' = k
    · subst hk
      rw [if_neg (by simp), ih, List.lookup_cons]
      by_cases hkey : key = k'
      · simp only [if_pos hkey]
      · simp only [if_neg hkey, beq_false_of_ne hkey]
    · rw [if_pos (by simpa using hk), List.lookup_cons, List.lookup_cons, ih]
      by_cases hkey : key = k'
      · subst hkey
        simp only [beq_self_eq_true, if_neg hk]
      · simp only [beq_false_of_ne hkey]

end RealtimeClient.Dict
