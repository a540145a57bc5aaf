import Mathlib
import RealtimeClient.Proofs.Timers.Deadlines

/-!
# What fires are delivered

A set of timers is used over time: keys are armed and cancelled, time passes, and fires are asked for,
once in a while or all the time.  What has happened is written down as it shows from outside, without
stamps or queues, and that alone tells which timers are live: those that were armed and since then
neither armed again, nor cancelled, nor delivered.

* `Happening`, `clock`, `Live` — what happens, and what it leaves live.
* `Action`, `perform`, `play` — what can be done with a set of timers, and what happens then.
* `Tells` — a history tells what a set of timers stands for; `tells_poll`, `tells_perform` — and it goes
  on doing so.
* **`keeps_deadlines`** — exactly the live timers are armed; a fire is delivered after its delay, once,
  and in the order of the deadlines.
-/

namespace RealtimeClient.TimerSet

variable {κ : Type} [DecidableEq κ]

/-! ## Histories -/

/-- **What happens to a set of timers.** -/
inductive Happening (κ : Type)
  | armed (k : κ) (delay : Duration)
  /-- A key was cancelled, and the answer was whether it had a timer. -/
  | cancelled (k : κ) (had : Bool)
  | allCancelled
  | passed (time : Nat)
  | delivered (k : κ)
  deriving DecidableEq

/-- Whether it puts an end to the timer that a key may have. -/
def Happening.ends (k : κ) : Happening κ → Bool
  | .armed key _ | .cancelled key _ | .delivered key => key = k
  | .allCancelled => true
  | .passed _ => false

/-- The time after one thing more. -/
def Happening.forward (now : Nat) : Happening κ → Nat
  | .passed time => max now time
  | _ => now

/-- **The time at the end of a history.** -/
def clock (history : List (Happening κ)) : Nat := history.foldl Happening.forward 0

/-- **The timer of a key is live at the end of a history**: it was armed at a time for a delay, and
nothing has put an end to it since. -/
def Live (history : List (Happening κ)) (k : κ) (since : Nat) (delay : Duration) : Prop :=
  ∃ before after, history = before ++ .armed k delay :: after ∧ clock before = since ∧
    ∀ e ∈ after, e.ends k = false

omit [DecidableEq κ] in
@[simp] theorem clock_concat (history : List (Happening κ)) (e : Happening κ) :
    clock (history ++ [e]) = e.forward (clock history) := by
  simp [clock]

omit [DecidableEq κ] in
theorem clock_le_append (history more : List (Happening κ)) :
    clock history ≤ clock (history ++ more) := by
  induction more using List.reverseRecOn with
  | nil => simp
  | append_singleton more e ih =>
    rw [← List.append_assoc, clock_concat]
    refine ih.trans ?_
    cases e with
    | passed time => exact le_max_left ..
    | _ => exact le_rfl

variable {history : List (Happening κ)} {k : κ} {since : Nat} {delay : Duration}

/-- **What one thing more leaves live**: what it arms, and what it puts no end to. -/
theorem live_concat (e : Happening κ) :
    Live (history ++ [e]) k since delay ↔
      e = .armed k delay ∧ clock history = since ∨ e.ends k = false ∧ Live history k since delay := by
  constructor
  · rintro ⟨before, after, hsplit, hclock, hends⟩
    rcases List.eq_nil_or_concat after with rfl | ⟨after, last, rfl⟩
    · obtain ⟨rfl, he⟩ := List.append_inj' hsplit rfl
      cases he
      exact .inl ⟨rfl, hclock⟩
    · rw [List.concat_eq_append, ← List.cons_append, ← List.append_assoc] at hsplit
      obtain ⟨rfl, he⟩ := List.append_inj' hsplit rfl
      cases he
      simp only [List.concat_eq_append, List.forall_mem_append, List.forall_mem_singleton] at hends
      exact .inr ⟨hends.2, before, after, rfl, hclock, hends.1⟩
  · rintro (⟨rfl, hclock⟩ | ⟨he, before, after, rfl, hclock, hends⟩)
    · exact ⟨history, [], rfl, hclock, fun _ h => by cases h⟩
    · refine ⟨before, after ++ [e], by simp, hclock, ?_⟩
      rw [List.forall_mem_append, List.forall_mem_singleton]
      exact ⟨hends, he⟩

theorem live_passed (time : Nat) :
    Live (history ++ [.passed time]) k since delay ↔ Live history k since delay := by
  simp [live_concat, Happening.ends]

/-- **What was live before and is live now** has been so all along, or is armed anew. -/
theorem Live.of_append {more : List (Happening κ)} (h : Live (history ++ more) k since delay) :
    Live history k since delay ∨ .armed k delay ∈ more ∧ clock history ≤ since := by
  induction more using List.reverseRecOn with
  | nil => exact .inl (by simpa using h)
  | append_singleton more e ih =>
    rw [← List.append_assoc, live_concat] at h
    rcases h with ⟨rfl, rfl⟩ | ⟨-, h⟩
    · exact .inr ⟨by simp, clock_le_append history more⟩
    · exact (ih h).imp_right fun ⟨hm, hle⟩ => ⟨List.mem_append_left _ hm, hle⟩

/-! ## What may happen -/

/-- **What may happen after a history**: a cancellation tells whether there was a timer, and the timer
that is delivered is live, its delay is over, and no other is due earlier. -/
def Allowed (history : List (Happening κ)) : Happening κ → Prop
  | .cancelled k had => had = true ↔ ∃ since delay, Live history k since delay
  | .delivered k => ∃ since delay, Live history k since delay ∧
      since + ticks delay ≤ clock history ∧
        ∀ key since' delay', Live history key since' delay' →
          since + ticks delay ≤ since' + ticks delay'
  | _ => True

/-- Everything in a history was allowed when it happened. -/
def Lawful (history : List (Happening κ)) : Prop :=
  ∀ before e after, history = before ++ e :: after → Allowed before e

theorem lawful_concat {e : Happening κ} (h : Lawful history) (he : Allowed history e) :
    Lawful (history ++ [e]) := by
  intro before e' after hsplit
  rcases List.eq_nil_or_concat after with rfl | ⟨after, last, rfl⟩
  · obtain ⟨rfl, heq⟩ := List.append_inj' hsplit rfl
    cases heq
    exact he
  · rw [List.concat_eq_append, ← List.cons_append, ← List.append_assoc] at hsplit
    exact h before e' after (List.append_inj' hsplit rfl).1

/-- A delay that is over by a whole number of milliseconds. -/
theorem ticks_le_iff (delay : Duration) (n : Nat) :
    ticks delay ≤ n ↔ delay.nanos ≤ n * Duration.nanosPerMilli := by
  simp only [ticks, Duration.nanosPerMilli]
  omega

/-! ## Histories and sets of timers -/

/-- **A history tells what a set of timers stands for**: the deadlines of its live timers. -/
structure Tells (history : List (Happening κ)) (s : TimerSet κ) : Prop where
  keeps : ∃ due, Keeps s due ∧
    ∀ k d, due k = some d ↔ ∃ since delay, Live history k since delay ∧ since + ticks delay = d
  lawful : Lawful history
  /-- Some time may have passed without having been written down yet. -/
  clock_le : clock history ≤ s.now

variable {s s' : TimerSet κ}

/-- What a map from keys to deadlines becomes if a key is taken out of it. -/
theorem update_none_iff {due : κ → Option Nat} {e : Happening κ} (he : ∀ key, e.ends key = decide (k = key))
    (hno : ∀ key delay, e ≠ .armed key delay)
    (hdue : ∀ k d, due k = some d ↔ ∃ since delay, Live history k since delay ∧ since + ticks delay = d)
    (key : κ) (d : Nat) :
    Function.update due k none key = some d ↔
      ∃ since delay, Live (history ++ [e]) key since delay ∧ since + ticks delay = d := by
  simp only [live_concat, he, hno, false_and, false_or, decide_eq_false_iff_not]
  by_cases hkey : key = k
  · subst hkey
    simp
  · rw [Function.update_of_ne hkey, hdue]
    simp [Ne.symm hkey]

namespace Tells

theorem empty : Tells ([] : List (Happening κ)) .empty where
  keeps := ⟨fun _ => none, .empty, by simp [Live]⟩
  lawful := by simp [Lawful]
  clock_le := Nat.zero_le _

theorem isArmed_iff (h : Tells history s) (k : κ) :
    s.isArmed k = true ↔ ∃ since delay, Live history k since delay := by
  obtain ⟨due, hkeeps, hdue⟩ := h.keeps
  rw [hkeeps.isArmed_iff]
  simp only [hdue]
  exact ⟨fun ⟨_, since, delay, hlive, _⟩ => ⟨since, delay, hlive⟩,
    fun ⟨since, delay, hlive⟩ => ⟨_, since, delay, hlive, rfl⟩⟩

theorem arm (h : Tells history s) (hclock : clock history = s.now) (k : κ) (delay : Duration) :
    Tells (history ++ [.armed k delay]) (s.arm k delay) := by
  obtain ⟨due, hkeeps, hdue⟩ := h.keeps
  refine ⟨⟨_, hkeeps.arm k delay, fun key d => ?_⟩, lawful_concat h.lawful trivial, ?_⟩
  · simp only [live_concat, Happening.ends, Happening.armed.injEq, decide_eq_false_iff_not]
    by_cases hkey : key = k
    · subst hkey
      simp [hclock]
    · rw [Function.update_of_ne hkey, hdue]
      simp [Ne.symm hkey]
  · have hnow : (s.arm k delay).now = s.now := by
      rw [TimerSet.arm, TimerSet.cancel]
      split <;> rfl
    rw [clock_concat, hnow]
    exact h.clock_le

theorem disarm (h : Tells history s) (k : κ) :
    Tells (history ++ [.cancelled k (s.disarm k).1]) (s.disarm k).2 := by
  obtain ⟨due, hkeeps, hdue⟩ := h.keeps
  refine ⟨⟨_, disarm_snd s k ▸ hkeeps.cancel k, ?_⟩, lawful_concat h.lawful ?_, ?_⟩
  · exact update_none_iff (fun _ => rfl) (by simp) hdue
  · rw [Allowed, disarm_fst]
    exact h.isArmed_iff k
  · have hnow : (s.disarm k).2.now = s.now := by
      rw [disarm_snd, TimerSet.cancel]
      split <;> rfl
    rw [clock_concat, hnow]
    exact h.clock_le

theorem cancelAll (h : Tells history s) : Tells (history ++ [.allCancelled]) s.cancelAll := by
  obtain ⟨due, hkeeps, hdue⟩ := h.keeps
  refine ⟨⟨_, hkeeps.cancelAll, ?_⟩, lawful_concat h.lawful trivial, ?_⟩
  · simp [live_concat, Happening.ends]
  · rw [clock_concat]
    exact h.clock_le

/-- Time passes. -/
theorem elapse (h : Tells history s) (time : Nat) : Tells history (s.elapseTo time) := by
  obtain ⟨due, hkeeps, hdue⟩ := h.keeps
  exact ⟨⟨due, hkeeps.elapseTo time, hdue⟩, h.lawful, h.clock_le.trans (le_max_left ..)⟩

/-- The time that has passed is written down. -/
theorem passed (h : Tells history s) {time : Nat} (hle : time ≤ s.now) :
    Tells (history ++ [.passed time]) s := by
  obtain ⟨due, hkeeps, hdue⟩ := h.keeps
  refine ⟨⟨due, hkeeps, fun k d => ?_⟩, lawful_concat h.lawful trivial, ?_⟩
  · simp only [live_passed]
    exact hdue k d
  · rw [clock_concat]
    exact max_le h.clock_le hle

/-- **A fire is delivered.** -/
theorem next (h : Tells history s) (hclock : clock history = s.now) (hn : s.next? = some (k, s')) :
    Tells (history ++ [.delivered k]) s' ∧ s'.now = s.now := by
  obtain ⟨due, hkeeps, hdue⟩ := h.keeps
  have hnow : s'.now = s.now := by
    obtain ⟨_, _, _, _, _, _, rfl⟩ := next?_eq_some hn
    rfl
  refine ⟨⟨⟨_, hkeeps.next hn, ?_⟩, lawful_concat h.lawful ?_, ?_⟩, hnow⟩
  · exact update_none_iff (fun _ => rfl) (by simp) hdue
  · obtain ⟨d, hd, hle, hleast⟩ := hkeeps.next_least hn
    obtain ⟨since, delay, hlive, rfl⟩ := (hdue k d).1 hd
    refine ⟨since, delay, hlive, hclock ▸ hle, fun key since' delay' hlive' => ?_⟩
    exact hleast key _ ((hdue key _).2 ⟨since', delay', hlive', rfl⟩)
  · rw [clock_concat, hnow]
    exact h.clock_le

theorem not_overdue (h : Tells history s) (hn : s.next? = none) (hlive : Live history k since delay) :
    clock history ≤ since + ticks delay := by
  obtain ⟨due, hkeeps, hdue⟩ := h.keeps
  exact h.clock_le.trans (hkeeps.not_overdue hn ((hdue k _).2 ⟨since, delay, hlive, rfl⟩))

end Tells

/-! ## Waiting for fires -/

/-- The history of fires that were delivered at their times. -/
def deliveries (fires : List (κ × Nat)) : List (Happening κ) :=
  fires.flatMap fun f => [.passed f.2, .delivered f.1]

/-- Fires that are delivered one after the other. -/
theorem tells_collect (h : Tells history s) (n : Nat) :
    Tells (history ++ deliveries ((s.collect n).1.map (·, s.now))) (s.collect n).2 ∧
      (s.collect n).2.now = s.now := by
  induction n generalizing history s with
  | zero => simpa [collect, deliveries] using h
  | succ n ih =>
    rw [collect]
    split
    · simpa [deliveries] using h
    · next k s' hn =>
      have hpassed := h.passed le_rfl
      have hclock : clock (history ++ [.passed s.now]) = s.now := by
        rw [clock_concat]
        exact max_eq_right h.clock_le
      obtain ⟨hnext, hnow⟩ := hpassed.next hclock hn
      obtain ⟨hrest, hrestnow⟩ := ih hnext
      refine ⟨?_, hrestnow.trans hnow⟩
      simpa [deliveries, hnow] using hrest

/-- **Time passes while every fire is delivered at once.**  The history has each fire at its time, and
then the rest of the time. -/
theorem tells_poll (time rounds : Nat) (h : Tells history s) (hle : s.now ≤ max (clock history) time) :
    Tells (history ++ deliveries (s.poll time rounds).1 ++ [.passed time]) (s.poll time rounds).2 ∧
      clock (history ++ deliveries (s.poll time rounds).1 ++ [.passed time]) =
        (s.poll time rounds).2.now := by
  have hdeliver (s : TimerSet κ) (history : List (Happening κ)) (h : Tells history s) :
      Tells (history ++ deliveries s.deliver.1) s.deliver.2 ∧ s.deliver.2.now = s.now := by
    obtain ⟨hcollect, hnow⟩ := tells_collect h s.fired.length
    refine ⟨?_, hnow⟩
    simpa only [deliver, hnow] using hcollect
  -- the last stretch of time, in which nothing is delivered
  have hlast (s : TimerSet κ) (history : List (Happening κ)) (h : Tells history s)
      (hle : s.now ≤ max (clock history) time) :
      Tells (history ++ [.passed time]) (s.elapseTo time) ∧
        clock (history ++ [.passed time]) = (s.elapseTo time).now := by
    refine ⟨(h.elapse time).passed (le_max_right ..), ?_⟩
    rw [clock_concat]
    exact le_antisymm (max_le_max h.clock_le le_rfl) (max_le hle (le_max_right ..))
  induction rounds generalizing history s with
  | zero =>
    obtain ⟨hd, hnow⟩ := hdeliver s history h
    have hclock := clock_le_append history (deliveries s.deliver.1)
    exact hlast _ _ hd (hnow ▸ hle.trans (max_le_max hclock le_rfl))
  | succ rounds ih =>
    obtain ⟨hd, hnow⟩ := hdeliver s history h
    have hclock := clock_le_append history (deliveries s.deliver.1)
    have hle' : s.deliver.2.now ≤ max (clock (history ++ deliveries s.deliver.1)) time :=
      hnow ▸ hle.trans (max_le_max hclock le_rfl)
    simp only [poll]
    split
    · exact hlast _ _ hd hle'
    · next deadline _ =>
      split
      · next hdue =>
        have hrest := ih (hd.elapse deadline)
          (max_le hle' (hdue.trans (le_max_right ..)))
        simpa [deliveries] using hrest
      · exact hlast _ _ hd hle'

/-! ## Actions -/

/-- **What can be done with a set of timers.** -/
inductive Action (κ : Type)
  | arm (k : κ) (delay : Duration)
  | cancel (k : κ)
  | cancelAll
  /-- Let time pass while nobody waits for a fire. -/
  | elapse (time : Nat)
  /-- Ask for a fire. -/
  | next
  /-- Let time pass while every fire is taken at once, for so many deadlines at most. -/
  | poll (time rounds : Nat)

/-- **What happens in an action.** -/
def perform (s : TimerSet κ) : Action κ → List (Happening κ) × TimerSet κ
  | .arm k delay => ([.armed k delay], s.arm k delay)
  | .cancel k => ([.cancelled k (s.disarm k).1], (s.disarm k).2)
  | .cancelAll => ([.allCancelled], s.cancelAll)
  | .elapse time => ([.passed time], s.elapseTo time)
  | .next =>
    match s.next? with
    | none => ([], s)
    | some (k, s) => ([.delivered k], s)
  | .poll time rounds =>
    let (fires, s) := s.poll time rounds
    (deliveries fires ++ [.passed time], s)

/-- **What happens in actions**, one after the other. -/
def play (s : TimerSet κ) : List (Action κ) → List (Happening κ) × TimerSet κ
  | [] => ([], s)
  | a :: rest =>
    let (history, s) := s.perform a
    let (more, s) := s.play rest
    (history ++ more, s)

/-- **Whatever is done, the history goes on telling what the set stands for.** -/
theorem tells_perform (h : Tells history s) (hclock : clock history = s.now) (a : Action κ) :
    Tells (history ++ (s.perform a).1) (s.perform a).2 ∧
      clock (history ++ (s.perform a).1) = (s.perform a).2.now := by
  have hcancel (k : κ) : (s.cancel k).now = s.now := by
    rw [TimerSet.cancel]
    split <;> rfl
  cases a with
  | arm k delay =>
    refine ⟨h.arm hclock k delay, ?_⟩
    simp only [perform, clock_concat, Happening.forward, hclock]
    exact (hcancel k).symm
  | cancel k =>
    refine ⟨h.disarm k, ?_⟩
    simp only [perform, clock_concat, Happening.forward, hclock, disarm_snd, hcancel]
  | cancelAll =>
    refine ⟨h.cancelAll, ?_⟩
    simp only [perform, clock_concat, Happening.forward, hclock]
    rfl
  | elapse time =>
    refine ⟨(h.elapse time).passed (le_max_right ..), ?_⟩
    simp only [perform, clock_concat, Happening.forward, hclock]
    rfl
  | next =>
    simp only [perform]
    split
    · simpa using ⟨h, hclock⟩
    · next k s' hn =>
      obtain ⟨hnext, hnow⟩ := h.next hclock hn
      refine ⟨hnext, ?_⟩
      simp only [clock_concat, Happening.forward, hclock, hnow]
  | poll time rounds =>
    have hpoll := tells_poll time rounds h (hclock ▸ le_max_left ..)
    simpa only [perform, ← List.append_assoc] using hpoll

theorem tells_play (actions : List (Action κ)) (h : Tells history s) (hclock : clock history = s.now) :
    Tells (history ++ (s.play actions).1) (s.play actions).2 := by
  induction actions generalizing history s with
  | nil => simpa [play] using h
  | cons a rest ih =>
    obtain ⟨ha, hnow⟩ := tells_perform h hclock a
    simpa [play, List.append_assoc] using ih ha hnow

/-! ## What fires are delivered -/

/-- **A set of timers does what its history asks for.** -/
structure Faithful (history : List (Happening κ)) (s : TimerSet κ) : Prop where
  /-- A fire is delivered for a live timer only, whose delay is over. -/
  delivered : ∀ before k after, history = before ++ .delivered k :: after →
    ∃ since delay, Live before k since delay ∧
      delay.nanos ≤ (clock before - since) * Duration.nanosPerMilli
  /-- It is the live timer that is due first. -/
  first : ∀ before k after since delay, history = before ++ .delivered k :: after →
    Live before k since delay → ∀ key since' delay', Live before key since' delay' →
      since + ticks delay ≤ since' + ticks delay'
  /-- Fires are delivered in the order of their deadlines. -/
  inOrder : ∀ before k between key after since delay since' delay',
    history = before ++ .delivered k :: between ++ .delivered key :: after →
      Live before k since delay → Live (before ++ .delivered k :: between) key since' delay' →
        since + ticks delay ≤ since' + ticks delay'
  /-- Between two fires of a key it was armed again. -/
  once : ∀ before k between after,
    history = before ++ .delivered k :: between ++ .delivered k :: after →
      ∃ delay, .armed k delay ∈ between
  /-- A cancellation tells whether there was a live timer. -/
  cancelled : ∀ before k had after, history = before ++ .cancelled k had :: after →
    (had = true ↔ ∃ since delay, Live before k since delay)
  /-- Exactly the live timers are armed. -/
  isArmed : ∀ k, s.isArmed k = true ↔ ∃ since delay, Live history k since delay
  /-- Where no fire is to be had, no live timer is overdue. -/
  notOverdue : s.next? = none → ∀ k since delay, Live history k since delay →
    clock history ≤ since + ticks delay

/-- A key has one live timer at most. -/
theorem Live.unique {since' : Nat} {delay' : Duration} (h : Live history k since delay)
    (h' : Live history k since' delay') : since = since' ∧ delay = delay' := by
  induction history using List.reverseRecOn with
  | nil =>
    obtain ⟨_, _, h, _⟩ := h
    simp at h
  | append_singleton history e ih =>
    rw [live_concat] at h h'
    rcases h with ⟨rfl, rfl⟩ | ⟨he, h⟩
    · rcases h' with ⟨heq, rfl⟩ | ⟨he', -⟩
      · cases heq
        exact ⟨rfl, rfl⟩
      · simp [Happening.ends] at he'
    · rcases h' with ⟨rfl, -⟩ | ⟨-, h'⟩
      · simp [Happening.ends] at he
      · exact ih h h'

/-- **Timers keep their deadlines**, whatever is done with them: a set of timers is a map from keys to
deadlines, from which the least is delivered once it has come. -/
theorem keeps_deadlines (actions : List (Action κ)) :
    Faithful ((TimerSet.empty : TimerSet κ).play actions).1 (TimerSet.empty.play actions).2 := by
  have htells : Tells ((TimerSet.empty : TimerSet κ).play actions).1 (TimerSet.empty.play actions).2 :=
    tells_play actions .empty rfl
  generalize ((TimerSet.empty : TimerSet κ).play actions).1 = history at htells
  generalize (TimerSet.empty : TimerSet κ).play actions = r at htells
  have hfirst (before : List (Happening κ)) (k : κ) (after : List (Happening κ)) (since : Nat)
      (delay : Duration) (hsplit : history = before ++ .delivered k :: after)
      (hlive : Live before k since delay) : since + ticks delay ≤ clock before ∧
        ∀ key since' delay', Live before key since' delay' →
          since + ticks delay ≤ since' + ticks delay' := by
    obtain ⟨_, _, hlive', hcome, hleast⟩ := htells.lawful before _ after hsplit
    obtain ⟨rfl, rfl⟩ := hlive.unique hlive'
    exact ⟨hcome, hleast⟩
  refine
    { delivered := fun before k after hsplit => ?_
      first := fun before k after since delay hsplit hlive =>
        (hfirst before k after since delay hsplit hlive).2
      inOrder := fun before k between key after since delay since' delay' hsplit hlive hlive' => ?_
      once := fun before k between after hsplit => ?_
      cancelled := fun before k had after hsplit => htells.lawful before _ after hsplit
      isArmed := htells.isArmed_iff
      notOverdue := fun hn k since delay hlive => htells.not_overdue hn hlive }
  · obtain ⟨since, delay, hlive, hcome, -⟩ := htells.lawful before _ after hsplit
    exact ⟨since, delay, hlive, (ticks_le_iff delay _).1 (by omega)⟩
  · rw [List.append_assoc] at hsplit
    obtain ⟨hcome, hleast⟩ := hfirst before k _ since delay hsplit hlive
    rcases hlive'.of_append with hlive' | ⟨-, hlater⟩
    · exact hleast key since' delay' hlive'
    · exact hcome.trans (hlater.trans (Nat.le_add_right ..))
  · obtain ⟨since, delay, hlive, -⟩ := htells.lawful _ _ after hsplit
    -- right after a fire its key has no live timer
    have hcut : before ++ .delivered k :: between = before ++ [.delivered k] ++ between := by simp
    rw [hcut] at hlive
    rcases hlive.of_append with hlive | ⟨harmed, -⟩
    · simp [live_concat, Happening.ends] at hlive
    · exact ⟨delay, harmed⟩

end RealtimeClient.TimerSet
