import Mathlib
import RealtimeClient.ReconnectPolicy

/-!
# Waits between attempts

A policy has two bounds that are set one at a time, in any order.  A bound that is set has the value it
was given, and the other one gives way where the two would not be in order.  The wait between them is
computed with doubles, and yet it is exact: a product that has too many bits for a double is far above
the cap.

* `two_pow_log2_le_roundNat`, `le_roundNat` — rounding does not take a number below a power of two.
* `Bound`, `Change`, `change`, `changeAll`, `make` — how a policy is made and changed.
* `ordered_changeAll`, `get_change_self`, `get_change_other`, `get_changeAll_last` — **the bounds**.
* `growth`, `growth_mono` — the wait without a cap; `min_scaled_eq` — below the cap it is not rounded.
* `delayFor_eq` — **the wait is exact**; `Waits`, `waits_of_ordered` — and what follows.
* `bounds_and_waits` — the law, of every policy that can be had.
-/

namespace RealtimeClient

/-! ## Rounding -/

namespace Binary64

/-- **Rounding does not take a number below a power of two**: that power has few enough bits. -/
theorem two_pow_log2_le_roundNat {n : Nat} (hn : n ≠ 0) : 2 ^ n.log2 ≤ roundNat n := by
  have hfloor : 2 ^ n.log2 ≤ n / unitInLastPlace n * unitInLastPlace n := by
    have hunit : unitInLastPlace n = 2 ^ (n.log2 + 1 - precision) := rfl
    have hle : n.log2 + 1 - precision ≤ n.log2 := by
      simp only [precision]
      omega
    have hdvd : unitInLastPlace n ∣ 2 ^ n.log2 := by
      rw [hunit]
      exact Nat.pow_dvd_pow 2 hle
    calc 2 ^ n.log2 = 2 ^ n.log2 / unitInLastPlace n * unitInLastPlace n :=
          (Nat.div_mul_cancel hdvd).symm
      _ ≤ n / unitInLastPlace n * unitInLastPlace n :=
          Nat.mul_le_mul_right _ (Nat.div_le_div_right (Nat.log2_self_le hn))
  rw [roundNat]
  split_ifs
  · exact hfloor.trans (Nat.mul_le_mul_right _ (Nat.le_succ _))
  · exact hfloor

/-- A number that takes more than 53 bits still does when it is rounded. -/
theorem le_roundNat {n : Nat} (h : 2 ^ precision ≤ n) : 2 ^ precision ≤ roundNat n := by
  have hpos : 0 < 2 ^ precision := by positivity
  have hn : n ≠ 0 := by omega
  have hlog : precision ≤ n.log2 := (Nat.le_log2 hn).2 h
  exact (Nat.pow_le_pow_right (by omega) hlog).trans (two_pow_log2_le_roundNat hn)

end Binary64

namespace ReconnectPolicy

/-! ## Making and changing -/

/-- **The two bounds** of a wait. -/
inductive Bound
  | base
  | cap
  deriving DecidableEq, Repr

def Bound.other : Bound → Bound
  | .base => .cap
  | .cap => .base

/-- The value of a bound. -/
def get (p : ReconnectPolicy) : Bound → Duration
  | .base => p.delay
  | .cap => p.delayMax

/-- Whether a bound may have a value while the other one stays. -/
def Fits (p : ReconnectPolicy) (d : Duration) : Bound → Prop
  | .base => d ≤ p.delayMax
  | .cap => p.delay ≤ d

/-- **What can be set.** -/
inductive Change
  | attempts (limit : Option Nat)
  | bound (b : Bound) (d : Duration)
  deriving DecidableEq, Repr

def change (p : ReconnectPolicy) : Change → ReconnectPolicy
  | .attempts limit => p.setAttempts limit
  | .bound .base d => p.setDelay d
  | .bound .cap d => p.setDelayMax d

/-- **A policy after some changes.** -/
def changeAll (p : ReconnectPolicy) (changes : List Change) : ReconnectPolicy := changes.foldl change p

/-- **A policy as it is made**: the default one, or one of a limit, a base delay and a cap. -/
def make : Option (Option Nat × Duration × Duration) → ReconnectPolicy
  | none => default
  | some (attempts, delay, delayMax) => new attempts delay delayMax

/-! ## The bounds -/

variable {p : ReconnectPolicy} {b : Bound} {d : Duration}

theorem changeAll_append (p : ReconnectPolicy) (changes more : List Change) :
    p.changeAll (changes ++ more) = (p.changeAll changes).changeAll more :=
  List.foldl_append

/-- **A bound that is set has the value it was given.** -/
theorem get_change_self (p : ReconnectPolicy) (b : Bound) (d : Duration) :
    (p.change (.bound b d)).get b = d := by
  cases b <;> rfl

/-- **The other bound stays where it can**, and otherwise it gets the same value. -/
theorem get_change_other (p : ReconnectPolicy) (b : Bound) (d : Duration) :
    (p.Fits d b → (p.change (.bound b d)).get b.other = p.get b.other) ∧
      (¬p.Fits d b → (p.change (.bound b d)).get b.other = d) := by
  cases b with
  | base =>
    show (_ → (if p.delayMax < d then d else p.delayMax) = p.delayMax) ∧
      (_ → (if p.delayMax < d then d else p.delayMax) = d)
    exact ⟨fun h => if_neg (Nat.not_lt.2 h), fun h => if_pos (Nat.not_le.1 h)⟩
  | cap =>
    show (_ → (if d < p.delay then d else p.delay) = p.delay) ∧
      (_ → (if d < p.delay then d else p.delay) = d)
    exact ⟨fun h => if_neg (Nat.not_lt.2 h), fun h => if_pos (Nat.not_le.1 h)⟩

/-- Each change leaves the bounds in order. -/
theorem ordered_change (h : p.delay ≤ p.delayMax) (c : Change) :
    (p.change c).delay ≤ (p.change c).delayMax := by
  cases c with
  | attempts limit => exact h
  | bound b d =>
    cases b with
    | base =>
      show d ≤ if p.delayMax < d then d else p.delayMax
      split_ifs with hlt
      · exact Nat.le_refl _
      · exact Nat.not_lt.1 hlt
    | cap =>
      show (if d < p.delay then d else p.delay) ≤ d
      split_ifs with hlt
      · exact Nat.le_refl _
      · exact Nat.not_lt.1 hlt

/-- **The bounds are in order**, whatever was set. -/
theorem ordered_changeAll (h : p.delay ≤ p.delayMax) (changes : List Change) :
    (p.changeAll changes).delay ≤ (p.changeAll changes).delayMax := by
  induction changes generalizing p with
  | nil => exact h
  | cons c rest ih => exact ih (ordered_change h c)

/-- A policy is made by changes of the default one. -/
theorem make_eq_changeAll (start : Option (Option Nat × Duration × Duration)) :
    ∃ changes, make start = default.changeAll changes := by
  cases start with
  | none => exact ⟨[], rfl⟩
  | some s =>
    obtain ⟨attempts, delay, delayMax⟩ := s
    exact ⟨[.attempts attempts, .bound .cap delayMax, .bound .base delay], rfl⟩

/-- So its bounds are in order. -/
theorem ordered_make (start : Option (Option Nat × Duration × Duration)) :
    (make start).delay ≤ (make start).delayMax := by
  obtain ⟨changes, heq⟩ := make_eq_changeAll start
  rw [heq]
  exact ordered_changeAll (by decide) changes

/-- The limit of attempts has nothing to do with the bounds. -/
theorem get_changeAll_attempts (p : ReconnectPolicy) {changes : List Change}
    (h : ∀ c ∈ changes, ∃ limit, c = .attempts limit) (b : Bound) :
    (p.changeAll changes).get b = p.get b := by
  induction changes generalizing p with
  | nil => rfl
  | cons c rest ih =>
    obtain ⟨limit, rfl⟩ := h c List.mem_cons_self
    have hrest := ih (p.setAttempts limit) fun c hc => h c (.tail _ hc)
    calc (p.changeAll (.attempts limit :: rest)).get b
        = (p.setAttempts limit).get b := hrest
      _ = p.get b := by cases b <;> rfl

/-- **The bound that was set last** has the value it was given. -/
theorem get_changeAll_last (p : ReconnectPolicy) (before : List Change) (b : Bound) (d : Duration)
    {after : List Change} (h : ∀ c ∈ after, ∃ limit, c = .attempts limit) :
    (p.changeAll (before ++ .bound b d :: after)).get b = d := by
  rw [changeAll_append]
  calc ((p.changeAll before).changeAll (.bound b d :: after)).get b
      = ((p.changeAll before).change (.bound b d)).get b := get_changeAll_attempts _ h b
    _ = d := get_change_self _ b d

/-! ## The wait -/

/-- **The wait without a cap**, in whole milliseconds: half as much again with each of the attempts. -/
def growth (ms k : Nat) : Nat := ms * 3 ^ k / 2 ^ k

theorem growth_zero (ms : Nat) : growth ms 0 = ms := by simp [growth]

/-- **It does not shrink.** -/
theorem growth_mono (ms : Nat) : Monotone (growth ms) := by
  refine monotone_nat_of_le_succ fun k => ?_
  have hfloor : ms * 3 ^ k / 2 ^ k * 2 ^ k ≤ ms * 3 ^ k := Nat.div_mul_le_self _ _
  show ms * 3 ^ k / 2 ^ k ≤ ms * 3 ^ (k + 1) / 2 ^ (k + 1)
  rw [Nat.le_div_iff_mul_le (by positivity)]
  calc ms * 3 ^ k / 2 ^ k * 2 ^ (k + 1) = ms * 3 ^ k / 2 ^ k * 2 ^ k * 2 := by rw [pow_succ, mul_assoc]
    _ ≤ ms * 3 ^ k * 3 := Nat.mul_le_mul hfloor (by omega)
    _ = ms * 3 ^ (k + 1) := by rw [pow_succ, mul_assoc]

/-- **The highest cap under which rounding is not seen**, in milliseconds: a product with more bits than a
double has is not below it. -/
def exactCap : Nat := 2 ^ 21

/-- **Rounding makes no difference below the cap.**  A product that fits a double is exact, and one that
does not is above the cap, rounded or not. -/
theorem min_scaled_eq {ms max k : Nat} (hms : ms ≤ max) (hmax : max ≤ exactCap) (hk : k ≤ growthLimit) :
    min (Binary64.roundNat (Binary64.roundNat ms * 3 ^ k) / 2 ^ k) max = min (growth ms k) max := by
  have hcap : exactCap < Nat.pow 2 Binary64.precision := by decide
  have hround : Binary64.roundNat ms = ms := Binary64.roundNat_of_lt (by omega)
  rw [hround]
  by_cases hlt : ms * 3 ^ k < 2 ^ Binary64.precision
  · rw [Binary64.roundNat_of_lt hlt, growth]
  · have habove (n : Nat) (hn : 2 ^ Binary64.precision ≤ n) : max ≤ n / 2 ^ k := by
      rw [Nat.le_div_iff_mul_le (by positivity)]
      calc max * 2 ^ k ≤ 2 ^ 21 * 2 ^ 32 := Nat.mul_le_mul hmax (Nat.pow_le_pow_right (by omega) hk)
        _ ≤ n := hn
    rw [min_eq_right (habove _ (Binary64.le_roundNat (not_lt.1 hlt))),
      growth, min_eq_right (habove _ (not_lt.1 hlt))]

/-- Fewer milliseconds are in a shorter time. -/
theorem millis_le_millis {d d' : Duration} (h : d ≤ d') : d.millis ≤ d'.millis :=
  Nat.div_le_div_right h

/-- **The wait is exact** where the cap is not too high. -/
theorem delayFor_eq (hordered : p.delay ≤ p.delayMax) (hmax : p.delayMax.millis ≤ exactCap) (made : Nat) :
    p.delayFor made =
      .ofMillis (min (growth p.delay.millis (min made growthLimit)) p.delayMax.millis) := by
  have hcap : exactCap < Nat.pow 2 Binary64.precision := by decide
  have hlong : exactCap ≤ longestWait := by decide
  have hround : Binary64.roundNat p.delayMax.millis = p.delayMax.millis :=
    Binary64.roundNat_of_lt (by omega)
  have hscaled := min_scaled_eq (millis_le_millis hordered) hmax (min_le_right made growthLimit)
  have hwait : min (growth p.delay.millis (min made growthLimit)) p.delayMax.millis ≤ longestWait := by
    omega
  show Duration.ofMillis (min (min (Binary64.roundNat (Binary64.roundNat p.delay.millis *
      3 ^ min made growthLimit) / 2 ^ min made growthLimit) (Binary64.roundNat p.delayMax.millis))
        longestWait) = _
  rw [hround, hscaled, min_eq_left hwait]

/-! ## The law -/

/-- **The waits of a policy.** -/
structure Waits (p : ReconnectPolicy) : Prop where
  /-- The base delay grows by half with each of the first 32 attempts, up to the cap, and nothing is lost to
  rounding but the part below a millisecond. -/
  exact : ∀ made, p.delayFor made =
    .ofMillis (min (p.delay.millis * 3 ^ min made 32 / 2 ^ min made 32) p.delayMax.millis)
  between : ∀ made, p.delay.millis ≤ (p.delayFor made).millis ∧ (p.delayFor made).millis ≤ p.delayMax.millis
  grows : ∀ made later, made ≤ later → p.delayFor made ≤ p.delayFor later
  settles : ∀ made, 32 ≤ made → p.delayFor made = p.delayFor 32

/-- **A policy with its bounds in order waits as it should**, if the cap is not too high. -/
theorem waits_of_ordered (hordered : p.delay ≤ p.delayMax) (hmax : p.delayMax.millis ≤ exactCap) :
    p.Waits := by
  have hexact := delayFor_eq hordered hmax
  have hle (made : Nat) : p.delay.millis ≤ growth p.delay.millis (min made growthLimit) := by
    calc p.delay.millis = growth p.delay.millis 0 := (growth_zero _).symm
      _ ≤ growth p.delay.millis (min made growthLimit) := growth_mono _ (Nat.zero_le _)
  refine ⟨hexact, ?_, ?_, ?_⟩
  · intro made
    rw [hexact, Duration.millis_ofMillis]
    exact ⟨le_min (hle made) (millis_le_millis hordered), min_le_right _ _⟩
  · intro made later hlater
    rw [hexact, hexact]
    have hk : min made growthLimit ≤ min later growthLimit := min_le_min_right _ hlater
    exact Nat.mul_le_mul_right _ (min_le_min_right _ (growth_mono _ hk))
  · intro made hmade
    have hk : min made growthLimit = min 32 growthLimit := min_eq_right hmade
    rw [hexact, hexact, hk]

/-- **The bounds of a policy stay in order and its waits are exact**, whatever it was made from and whatever
was set since. -/
theorem bounds_and_waits (start : Option (Option Nat × Duration × Duration)) (changes : List Change) :
    let p := (make start).changeAll changes
    p.delay ≤ p.delayMax ∧
      (∀ before b d after, changes = before ++ .bound b d :: after →
        (∀ c ∈ after, ∃ limit, c = .attempts limit) → p.get b = d) ∧
      (∀ b d, (p.Fits d b → (p.change (.bound b d)).get b.other = p.get b.other) ∧
        (¬p.Fits d b → (p.change (.bound b d)).get b.other = d)) ∧
      (∀ limit b, (p.change (.attempts limit)).get b = p.get b) ∧
      (∀ attempts delay delayMax, (new attempts delay delayMax).delay = delay ∧
        (delay ≤ delayMax → (new attempts delay delayMax).delayMax = delayMax) ∧
        (¬delay ≤ delayMax → (new attempts delay delayMax).delayMax = delay)) ∧
      (p.delayMax ≤ .ofMillis (2 ^ 21) → p.Waits) := by
  intro p
  have hordered : p.delay ≤ p.delayMax := ordered_changeAll (ordered_make start) changes
  refine ⟨hordered, ?_, get_change_other p, ?_, ?_, ?_⟩
  · intro before b d after heq hafter
    show ((make start).changeAll changes).get b = d
    rw [heq]
    exact get_changeAll_last _ before b d hafter
  · intro limit b
    have hlimit : ∀ c ∈ [Change.attempts limit], ∃ limit, c = .attempts limit := by simp
    exact get_changeAll_attempts p hlimit b
  · intro attempts delay delayMax
    have hother := get_change_other (default.changeAll [.attempts attempts, .bound .cap delayMax]) .base delay
    exact ⟨rfl, hother.1, hother.2⟩
  · intro hmax
    have hmillis := millis_le_millis hmax
    rw [Duration.millis_ofMillis] at hmillis
    exact waits_of_ordered hordered hmillis

/-- The cap is raised to 2097152 ms, and the base delay is set to 7 ms behind it. -/
def steep : List Change :=
  [.bound .base (.ofMillis 90000), .bound .cap (.ofMillis 2097152), .bound .base (.ofMillis 7),
    .attempts none]

/-- After 31 attempts the wait is just below that cap, and it has not lost a millisecond. -/
theorem bounds_and_waits_steep :
    let p := (make (some (some 4, .ofMillis 5000, .ofMillis 1000))).changeAll steep
    p.get .base = .ofMillis 7 ∧ p.delayMax ≤ .ofMillis (2 ^ 21) ∧
      p.delayFor 31 = .ofMillis (7 * 3 ^ 31 / 2 ^ 31) ∧ p.delayFor 40 = .ofMillis 2097152 := by
  intro p
  obtain ⟨-, hlast, -, -, -, hwaits⟩ :=
    bounds_and_waits (some (some 4, .ofMillis 5000, .ofMillis 1000)) steep
  have hbase : p.get .base = .ofMillis 7 :=
    hlast [.bound .base (.ofMillis 90000), .bound .cap (.ofMillis 2097152)] .base _ [.attempts none] rfl
      (by simp)
  have hmax : p.delayMax ≤ .ofMillis (2 ^ 21) := by decide
  refine ⟨hbase, hmax, (hwaits hmax).exact 31 |>.trans ?_, (hwaits hmax).exact 40 |>.trans ?_⟩
  · decide
  · decide

end ReconnectPolicy

end RealtimeClient
