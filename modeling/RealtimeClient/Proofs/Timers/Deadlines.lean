import Mathlib
import RealtimeClient.Proofs.Dict
import RealtimeClient.TimerSet

/-!
# Timers and their deadlines

What a set of timers stands for is a map from keys to deadlines: each key with a live timer, and the
time at which that timer is due.  The set itself holds less and more than that.  A deadline is
forgotten once its fire is queued, and the queue may hold fires of timers that are live no longer,
several of one key among them.  The stamps tell which fire is whose.

* `Keeps` — a set of timers stands for a map from keys to deadlines.
* `Keeps.release`, `Keeps.enter` — a live timer goes, and a new one comes.
* `Keeps.arm`, `Keeps.cancel`, `Keeps.cancelAll`, `Keeps.elapseTo`, `Keeps.next` — what each operation
  makes of the map.
* **`Keeps.next_least`** — the fire that is delivered is that of the least deadline, and its time has
  come; `Keeps.not_overdue` — where none is delivered, none is overdue.
-/

namespace RealtimeClient.TimerSet

variable {κ : Type}

/-! ## Sleepers -/

theorem insertSleeper_perm (t : Sleeper κ) (l : List (Sleeper κ)) :
    (insertSleeper t l).Perm (t :: l) := by
  induction l with
  | nil => exact .refl _
  | cons u rest ih =>
    rw [insertSleeper]
    split
    · exact .refl _
    · exact (ih.cons u).trans (.swap t u rest)

/-- Sleepers stay in the order of their deadlines. -/
theorem insertSleeper_sorted (t : Sleeper κ) {l : List (Sleeper κ)}
    (h : l.Pairwise (·.deadline ≤ ·.deadline)) :
    (insertSleeper t l).Pairwise (·.deadline ≤ ·.deadline) := by
  induction l with
  | nil => exact List.pairwise_singleton _ t
  | cons u rest ih =>
    obtain ⟨hu, hrest⟩ := List.pairwise_cons.1 h
    rw [insertSleeper]
    split
    · next hlt =>
      refine List.pairwise_cons.2 ⟨fun v hv => ?_, h⟩
      rcases List.mem_cons.1 hv with rfl | hv
      · exact hlt.le
      · exact hlt.le.trans (hu v hv)
    · next hle =>
      refine List.pairwise_cons.2 ⟨fun v hv => ?_, ih hrest⟩
      rcases List.mem_cons.1 ((insertSleeper_perm t rest).mem_iff.1 hv) with rfl | hv
      · exact Nat.le_of_not_lt hle
      · exact hu v hv

variable [DecidableEq κ] {s s' : TimerSet κ} {due : κ → Option Nat} {k : κ}

/-! ## Stamps -/

theorem stamp?_cancel (s : TimerSet κ) (k key : κ) :
    (s.cancel k).stamp? key = if key = k then none else s.stamp? key := by
  rw [cancel]
  split
  · next hk =>
    split
    · next h => rw [h, hk]
    · rfl
  · exact Dict.lookup_filter_ne s.armed k key

/-- What disarming does, apart from its answer, is to cancel. -/
theorem disarm_snd (s : TimerSet κ) (k : κ) : (s.disarm k).2 = s.cancel k := by
  rw [disarm]
  split
  · next h => rw [cancel, h]
  · rfl

theorem disarm_fst (s : TimerSet κ) (k : κ) : (s.disarm k).1 = s.isArmed k := by
  rw [disarm, isArmed]
  split
  · next h => rw [h]; rfl
  · next h => rw [h]; rfl

/-! ## The map that a set of timers stands for -/

/-- A fire is that of a live timer. -/
def IsLive (s : TimerSet κ) (f : κ × Nat) : Prop := s.stamp? f.1 = some f.2

/-- **A set of timers stands for a map from keys to deadlines.** -/
structure Keeps (s : TimerSet κ) (due : κ → Option Nat) : Prop where
  /-- The keys of the map are those with a live timer. -/
  armed : ∀ k, (s.stamp? k).isSome = (due k).isSome
  /-- No two live timers have one stamp, and a new timer's will be above all. -/
  distinct : ∀ k key stamp, s.stamp? k = some stamp → s.stamp? key = some stamp → k = key
  stamp_le : ∀ k stamp, s.stamp? k = some stamp → stamp ≤ s.stamp
  fired_le : ∀ f ∈ s.fired, f.2 ≤ s.stamp
  /-- Every sleeper is live, and its time has not passed. -/
  asleep : ∀ t ∈ s.sleeping,
    s.stamp? t.key = some t.stamp ∧ due t.key = some t.deadline ∧ s.now ≤ t.deadline
  /-- The time of a live fire has come. -/
  come : ∀ f ∈ s.fired, s.IsLive f → ∃ d, due f.1 = some d ∧ d ≤ s.now
  /-- A live timer sleeps, or else its fire is queued. -/
  pending : ∀ k stamp, s.stamp? k = some stamp →
    (∃ t ∈ s.sleeping, t.key = k) ∨ (k, stamp) ∈ s.fired
  apart : ∀ t ∈ s.sleeping, (t.key, t.stamp) ∉ s.fired
  /-- The sleepers, and the live fires, are in the order of their deadlines. -/
  sorted : s.sleeping.Pairwise (·.deadline ≤ ·.deadline)
  queued : s.fired.Pairwise fun f g => s.IsLive f → s.IsLive g →
    ∀ d e, due f.1 = some d → due g.1 = some e → d ≤ e

namespace Keeps

theorem empty : Keeps (.empty : TimerSet κ) fun _ => none where
  armed _ := rfl
  distinct _ _ _ h := by cases h
  stamp_le _ _ h := by cases h
  fired_le _ h := by cases h
  asleep _ h := by cases h
  come _ h := by cases h
  pending _ _ h := by cases h
  apart _ h := by cases h
  sorted := .nil
  queued := .nil

/-- The map has a key exactly if its timer is armed. -/
theorem isArmed_iff (h : Keeps s due) (k : κ) : s.isArmed k = true ↔ ∃ d, due k = some d := by
  rw [isArmed, h.armed, Option.isSome_iff_exists]

/-- **A live timer goes.**  What sleeps or is queued of the others stays. -/
theorem release (h : Keeps s due)
    (hstamp : ∀ key, s'.stamp? key = if key = k then none else s.stamp? key)
    (hnow : s'.now = s.now) (hlast : s'.stamp = s.stamp)
    (hsleeping : s'.sleeping = s.sleeping.filter fun t => t.key ≠ k)
    (hfired : s'.fired.Sublist s.fired)
    (hstays : ∀ f ∈ s.fired, f.1 ≠ k → s.IsLive f → f ∈ s'.fired) :
    Keeps s' (Function.update due k none) := by
  have hother {key : κ} {st : Nat} (hkey : s'.stamp? key = some st) :
      key ≠ k ∧ s.stamp? key = some st := by
    rw [hstamp] at hkey
    split at hkey
    · cases hkey
    · next hne => exact ⟨hne, hkey⟩
  have hslept {t : Sleeper κ} : t ∈ s'.sleeping ↔ t ∈ s.sleeping ∧ t.key ≠ k := by
    rw [hsleeping, List.mem_filter, decide_eq_true_eq]
  refine
    { armed := fun key => ?_
      distinct := fun a b st ha hb => h.distinct a b st (hother ha).2 (hother hb).2
      stamp_le := fun a st ha => hlast ▸ h.stamp_le a st (hother ha).2
      fired_le := fun f hf => hlast ▸ h.fired_le f (hfired.subset hf)
      asleep := fun t ht => ?_
      come := fun f hf hlive => ?_
      pending := fun a st ha => ?_
      apart := fun t ht hf => h.apart t (hslept.1 ht).1 (hfired.subset hf)
      sorted := hsleeping ▸ h.sorted.filter _
      queued := (h.queued.sublist hfired).imp fun hfg hf hg d e hd he => ?_ }
  · rw [hstamp, Function.update_apply]
    split
    · rfl
    · exact h.armed key
  · obtain ⟨ht, hne⟩ := hslept.1 ht
    obtain ⟨hst, hdue, hle⟩ := h.asleep t ht
    rw [hstamp, if_neg hne, Function.update_of_ne hne, hnow]
    exact ⟨hst, hdue, hle⟩
  · obtain ⟨hne, hst⟩ := hother hlive
    obtain ⟨d, hd, hle⟩ := h.come f (hfired.subset hf) hst
    exact ⟨d, by rwa [Function.update_of_ne hne], hnow ▸ hle⟩
  · obtain ⟨hne, hst⟩ := hother ha
    rcases h.pending a st hst with ⟨t, ht, rfl⟩ | hf
    · exact .inl ⟨t, hslept.2 ⟨ht, hne⟩, rfl⟩
    · exact .inr (hstays (a, st) hf hne hst)
  · obtain ⟨hfne, hf⟩ := hother hf
    obtain ⟨hgne, hg⟩ := hother hg
    rw [Function.update_of_ne hfne] at hd
    rw [Function.update_of_ne hgne] at he
    exact hfg hf hg d e hd he

/-- **A timer is cancelled**, whether it sleeps or its fire is queued. -/
theorem cancel (h : Keeps s due) (k : κ) : Keeps (s.cancel k) (Function.update due k none) := by
  refine h.release (stamp?_cancel s k) ?_ ?_ ?_ ?_ ?_
  · rw [TimerSet.cancel]
    split <;> rfl
  · rw [TimerSet.cancel]
    split <;> rfl
  · rw [TimerSet.cancel]
    split
    · next hk =>
      refine (List.filter_eq_self.2 fun t ht => decide_eq_true ?_).symm
      rintro rfl
      exact absurd ((h.asleep t ht).1.symm.trans hk) (by simp)
    · next stamp hk =>
      -- the key's timer is the only one with its stamp
      refine List.filter_congr fun t ht => decide_eq_decide.2 (not_congr ⟨fun heq => ?_, ?_⟩)
      · exact h.distinct _ _ _ (h.asleep t ht).1 (heq ▸ hk)
      · rintro rfl
        exact Option.some.inj ((h.asleep t ht).1.symm.trans hk)
  · rw [TimerSet.cancel]
    split <;> exact List.Sublist.refl _
  · intro f hf _ _
    rw [TimerSet.cancel]
    split <;> exact hf

/-- **A new timer comes** for a key that has none.  Its stamp is above that of every queued fire. -/
theorem enter (h : Keeps s due) (hk : s.stamp? k = none) {deadline : Nat} (hle : s.now ≤ deadline) :
    Keeps { s with
        stamp := s.stamp + 1
        armed := (k, s.stamp + 1) :: s.armed
        sleeping := insertSleeper { key := k, stamp := s.stamp + 1, deadline } s.sleeping }
      (Function.update due k (some deadline)) := by
  generalize hs' : ({ s with
    stamp := s.stamp + 1
    armed := (k, s.stamp + 1) :: s.armed
    sleeping := insertSleeper { key := k, stamp := s.stamp + 1, deadline } s.sleeping } :
      TimerSet κ) = s'
  have hself : s'.stamp? k = some (s.stamp + 1) := by
    rw [← hs', stamp?, List.lookup_cons, beq_self_eq_true]
  have hold {key : κ} (hne : key ≠ k) : s'.stamp? key = s.stamp? key := by
    rw [← hs', stamp?, List.lookup_cons, beq_false_of_ne hne]
    rfl
  have hnew {key : κ} {st : Nat} (hle : st ≤ s.stamp) (hkey : s'.stamp? key = some st) :
      key ≠ k ∧ s.stamp? key = some st := by
    have hne : key ≠ k := by
      rintro rfl
      rw [hself] at hkey
      cases hkey
      exact absurd hle (Nat.not_succ_le_self _)
    exact ⟨hne, (hold hne).symm.trans hkey⟩
  have hmem {t : Sleeper κ} : t ∈ s'.sleeping ↔
      t = { key := k, stamp := s.stamp + 1, deadline } ∨ t ∈ s.sleeping := by
    rw [← hs', (insertSleeper_perm _ _).mem_iff, List.mem_cons]
  have hne {t : Sleeper κ} (ht : t ∈ s.sleeping) : t.key ≠ k := by
    rintro rfl
    exact absurd ((h.asleep t ht).1.symm.trans hk) (by simp)
  have hfired : s'.fired = s.fired := by rw [← hs']
  have hnow : s'.now = s.now := by rw [← hs']
  have hlast : s'.stamp = s.stamp + 1 := by rw [← hs']
  refine
    { armed := fun key => ?_
      distinct := fun a b st ha hb => ?_
      stamp_le := fun a st ha => ?_
      fired_le := fun f hf => hlast ▸ Nat.le_succ_of_le (h.fired_le f (hfired ▸ hf))
      asleep := fun t ht => ?_
      come := fun f hf hlive => ?_
      pending := fun a st ha => ?_
      apart := fun t ht => ?_
      sorted := hs' ▸ insertSleeper_sorted _ h.sorted
      queued := ?_ }
  · by_cases hkey : key = k
    · subst hkey
      rw [hself, Function.update_self]
      rfl
    · rw [hold hkey, Function.update_of_ne hkey]
      exact h.armed key
  · by_cases hak : a = k
    · by_cases hbk : b = k
      · rw [hak, hbk]
      · subst hak
        rw [hold hbk] at hb
        exact absurd rfl (hnew (h.stamp_le b st hb) ha).1
    · rw [hold hak] at ha
      exact h.distinct a b st ha (hnew (h.stamp_le a st ha) hb).2
  · rw [hlast]
    by_cases hak : a = k
    · subst hak
      exact (Option.some.inj (hself.symm.trans ha)).ge
    · rw [hold hak] at ha
      exact Nat.le_succ_of_le (h.stamp_le a st ha)
  · rw [hnow]
    rcases hmem.1 ht with rfl | ht
    · exact ⟨hself, Function.update_self .., hle⟩
    · rw [hold (hne ht), Function.update_of_ne (hne ht)]
      exact h.asleep t ht
  · rw [hfired] at hf
    obtain ⟨hfk, hlive⟩ := hnew (h.fired_le f hf) hlive
    rw [Function.update_of_ne hfk, hnow]
    exact h.come f hf hlive
  · by_cases hak : a = k
    · exact .inl ⟨_, hmem.2 (.inl rfl), hak.symm⟩
    · rw [hfired]
      rw [hold hak] at ha
      refine (h.pending a st ha).imp_left ?_
      rintro ⟨t, ht, hta⟩
      exact ⟨t, hmem.2 (.inr ht), hta⟩
  · rw [hfired]
    rcases hmem.1 ht with rfl | ht
    · exact fun hf => absurd (h.fired_le _ hf) (Nat.not_succ_le_self _)
    · exact h.apart t ht
  · rw [hfired]
    refine h.queued.imp_of_mem fun {f g} hf hg hfg hflive hglive d e hd he => ?_
    obtain ⟨hfk, hflive⟩ := hnew (h.fired_le f hf) hflive
    obtain ⟨hgk, hglive⟩ := hnew (h.fired_le g hg) hglive
    rw [Function.update_of_ne hfk] at hd
    rw [Function.update_of_ne hgk] at he
    exact hfg hflive hglive d e hd he

/-- **A timer is armed**, in place of the one that its key had. -/
theorem arm (h : Keeps s due) (k : κ) (delay : Duration) :
    Keeps (s.arm k delay) (Function.update due k (some (s.now + ticks delay))) := by
  have hnow : (s.cancel k).now = s.now := by
    rw [TimerSet.cancel]
    split <;> rfl
  have hnone : (s.cancel k).stamp? k = none := by rw [stamp?_cancel, if_pos rfl]
  have henter := (h.cancel k).enter hnone (Nat.le_add_right _ (ticks delay))
  rw [Function.update_idem] at henter
  rw [← hnow]
  exact henter

/-- **All timers are cancelled.** -/
theorem cancelAll (h : Keeps s due) : Keeps s.cancelAll fun _ => none where
  armed _ := rfl
  distinct _ _ _ ha := by cases ha
  stamp_le _ _ ha := by cases ha
  fired_le := h.fired_le
  asleep t ht := by
    -- every sleeper is live, so none is left
    obtain ⟨ht, hno⟩ := List.mem_filter.1 ht
    obtain ⟨l, r, hsplit, -⟩ := List.lookup_eq_some_iff.1 (h.asleep t ht).1
    have hany : s.armed.any (fun a => a.2 = t.stamp) = true :=
      List.any_eq_true.2 ⟨(t.key, t.stamp), by simp [hsplit], by simp⟩
    rw [hany] at hno
    cases hno
  come _ _ hlive := by cases hlive
  pending _ _ ha := by cases ha
  apart t ht := h.apart t (List.mem_filter.1 ht).1
  sorted := h.sorted.filter _
  queued := List.pairwise_of_forall fun _ _ hf => by cases hf

/-! ## Time -/

/-- **Time passes.**  The fires that are due by then join the queue behind the others: their time had
not passed yet. -/
theorem elapseTo (h : Keeps s due) (time : Nat) : Keeps (s.elapseTo time) due := by
  have hmem {f : κ × Nat} : f ∈ (s.elapseTo time).fired ↔
      f ∈ s.fired ∨ ∃ t ∈ s.sleeping, t.deadline ≤ time ∧ (t.key, t.stamp) = f := by
    simp [TimerSet.elapseTo, and_assoc]
  have hslept {t : Sleeper κ} : t ∈ (s.elapseTo time).sleeping ↔
      t ∈ s.sleeping ∧ time < t.deadline := by
    simp [TimerSet.elapseTo]
  refine
    { armed := h.armed
      distinct := h.distinct
      stamp_le := h.stamp_le
      fired_le := fun f hf => ?_
      asleep := fun t ht => ?_
      come := fun f hf hlive => ?_
      pending := fun a st ha => ?_
      apart := fun t ht hf => ?_
      sorted := h.sorted.filter _
      queued := ?_ }
  · rcases hmem.1 hf with hf | ⟨t, ht, -, rfl⟩
    · exact h.fired_le f hf
    · exact h.stamp_le _ _ (h.asleep t ht).1
  · obtain ⟨ht, hlt⟩ := hslept.1 ht
    obtain ⟨hst, hdue, hle⟩ := h.asleep t ht
    exact ⟨hst, hdue, max_le hle hlt.le⟩
  · rcases hmem.1 hf with hf | ⟨t, ht, hle, rfl⟩
    · obtain ⟨d, hd, hle⟩ := h.come f hf hlive
      exact ⟨d, hd, hle.trans (le_max_left ..)⟩
    · exact ⟨t.deadline, (h.asleep t ht).2.1, hle.trans (le_max_right ..)⟩
  · rcases h.pending a st ha with ⟨t, ht, rfl⟩ | hf
    · by_cases hle : t.deadline ≤ time
      · have hst : st = t.stamp := Option.some.inj (ha.symm.trans (h.asleep t ht).1)
        exact .inr (hmem.2 (.inr ⟨t, ht, hle, by rw [hst]⟩))
      · exact .inl ⟨t, hslept.2 ⟨ht, Nat.lt_of_not_le hle⟩, rfl⟩
    · exact .inr (hmem.2 (.inl hf))
  · obtain ⟨ht, hlt⟩ := hslept.1 ht
    rcases hmem.1 hf with hf | ⟨u, hu, hle, heq⟩
    · exact h.apart t ht hf
    · -- a key has one deadline, which cannot be both up and not
      obtain ⟨hkey, -⟩ := Prod.mk.inj heq
      have hdue := (h.asleep u hu).2.1
      rw [hkey, (h.asleep t ht).2.1] at hdue
      exact absurd hle (Nat.not_le_of_lt (Option.some.inj hdue ▸ hlt))
  · refine List.pairwise_append.2 ⟨h.queued, ?_, ?_⟩
    · refine List.pairwise_map.2 ((h.sorted.filter _).imp_of_mem ?_)
      intro t u ht hu hle _ _ d e hd he
      have htd := (h.asleep t (List.mem_filter.1 ht).1).2.1
      have hud := (h.asleep u (List.mem_filter.1 hu).1).2.1
      rw [htd] at hd
      rw [hud] at he
      cases hd
      cases he
      exact hle
    · intro f hf g hg hflive _ d e hd he
      obtain ⟨t, ht, rfl⟩ := List.mem_map.1 hg
      obtain ⟨-, hdue, hle⟩ := h.asleep t (List.mem_filter.1 ht).1
      obtain ⟨d', hd', hle'⟩ := h.come f hf hflive
      rw [hd'] at hd
      rw [hdue] at he
      cases hd
      cases he
      exact hle'.trans hle

/-! ## Fires -/

end Keeps

/-- **The first live fire of a queue** has only dead ones before it. -/
theorem next?_eq_some (hn : s.next? = some (k, s')) :
    ∃ dead stamp rest, s.fired = dead ++ (k, stamp) :: rest ∧ s.IsLive (k, stamp) ∧
      (∀ f ∈ dead, ¬s.IsLive f) ∧
        s' = { s with armed := s.armed.filter fun a => a.1 ≠ k, fired := rest } := by
  have hfirst (fired rest : List (κ × Nat)) (hf : firstLive? s.armed fired = some (k, rest)) :
      ∃ dead stamp, fired = dead ++ (k, stamp) :: rest ∧ s.IsLive (k, stamp) ∧
        ∀ f ∈ dead, ¬s.IsLive f := by
    induction fired with
    | nil => cases hf
    | cons f fired ih =>
      rw [firstLive?] at hf
      split at hf
      · next hlive =>
        cases hf
        exact ⟨[], f.2, rfl, hlive, fun _ h => by cases h⟩
      · next hdead =>
        obtain ⟨dead, stamp, rfl, hlive, hall⟩ := ih hf
        exact ⟨f :: dead, stamp, rfl, hlive, List.forall_mem_cons.2 ⟨hdead, hall⟩⟩
  rw [next?] at hn
  obtain ⟨⟨key, rest⟩, hf, heq⟩ := Option.map_eq_some_iff.1 hn
  obtain ⟨rfl, rfl⟩ := Prod.mk.inj heq
  obtain ⟨dead, stamp, hfired, hlive, hall⟩ := hfirst _ _ hf
  exact ⟨dead, stamp, rest, hfired, hlive, hall, rfl⟩

/-- Where no fire is found, none is live. -/
theorem not_isLive_of_next? (hn : s.next? = none) {f : κ × Nat} (hf : f ∈ s.fired) :
    ¬s.IsLive f := by
  have hfirst (fired : List (κ × Nat)) (hno : firstLive? s.armed fired = none) (hf : f ∈ fired) :
      ¬s.IsLive f := by
    induction fired with
    | nil => cases hf
    | cons g fired ih =>
      rw [firstLive?] at hno
      split at hno
      · cases hno
      · next hdead =>
        rcases List.mem_cons.1 hf with rfl | hf
        · exact hdead
        · exact ih hno hf
  rw [next?, Option.map_eq_none_iff] at hn
  exact hfirst _ hn hf

namespace Keeps

/-- **A fire is delivered**, and its timer is live no longer. -/
theorem next (h : Keeps s due) (hn : s.next? = some (k, s')) :
    Keeps s' (Function.update due k none) := by
  obtain ⟨dead, stamp, rest, hfired, hlive, hall, rfl⟩ := next?_eq_some hn
  refine h.release (Dict.lookup_filter_ne s.armed k) rfl rfl ?_ ?_ ?_
  · refine (List.filter_eq_self.2 fun t ht => decide_eq_true ?_).symm
    rintro rfl
    have hst : stamp = t.stamp := Option.some.inj (hlive.symm.trans (h.asleep t ht).1)
    exact h.apart t ht (by simp [hfired, hst])
  · rw [hfired]
    exact (List.sublist_cons_self _ rest).trans (List.sublist_append_right dead _)
  · intro f hf hne hlive
    rw [hfired] at hf
    rcases List.mem_append.1 hf with hf | hf
    · exact absurd hlive (hall f hf)
    · rcases List.mem_cons.1 hf with rfl | hf
      · exact absurd rfl hne
      · exact hf

/-- **The fire that is delivered is that of the least deadline**, and its time has come. -/
theorem next_least (h : Keeps s due) (hn : s.next? = some (k, s')) :
    ∃ d, due k = some d ∧ d ≤ s.now ∧ ∀ key e, due key = some e → d ≤ e := by
  obtain ⟨dead, stamp, rest, hfired, hlive, hall, -⟩ := next?_eq_some hn
  obtain ⟨d, hd, hle⟩ := h.come (k, stamp) (by simp [hfired]) hlive
  refine ⟨d, hd, hle, fun key e he => ?_⟩
  have harmed : (s.stamp? key).isSome = true := by rw [h.armed, he]; rfl
  obtain ⟨st, hst⟩ := Option.isSome_iff_exists.1 harmed
  rcases h.pending key st hst with ⟨t, ht, rfl⟩ | hf
  · obtain ⟨-, hdue, hnow⟩ := h.asleep t ht
    rw [he] at hdue
    cases hdue
    exact hle.trans hnow
  · -- the other's fire is queued, and being live it is the same or behind
    rw [hfired] at hf
    rcases List.mem_append.1 hf with hf | hf
    · exact absurd hst (hall _ hf)
    · rcases List.mem_cons.1 hf with heq | hf
      · obtain ⟨rfl, -⟩ := Prod.mk.inj heq
        rw [hd] at he
        exact (Option.some.inj he).le
      · have hqueued := h.queued
        rw [hfired] at hqueued
        have hcons := (List.pairwise_append.1 hqueued).2.1
        exact (List.pairwise_cons.1 hcons).1 _ hf hlive hst d e hd he

/-- **Where none is delivered, none is overdue.** -/
theorem not_overdue (h : Keeps s due) (hn : s.next? = none) {d : Nat} (hd : due k = some d) :
    s.now ≤ d := by
  have harmed : (s.stamp? k).isSome = true := by rw [h.armed, hd]; rfl
  obtain ⟨st, hst⟩ := Option.isSome_iff_exists.1 harmed
  rcases h.pending k st hst with ⟨t, ht, rfl⟩ | hf
  · obtain ⟨-, hdue, hnow⟩ := h.asleep t ht
    rw [hd] at hdue
    cases hdue
    exact hnow
  · exact absurd hst (not_isLive_of_next? hn hf)

end Keeps

end RealtimeClient.TimerSet
