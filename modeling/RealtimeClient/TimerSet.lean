import RealtimeClient.Duration

/-!
# Keyed timers

A set of one-shot timers, at most one for each key, on a clock of milliseconds.  When a timer's time
has come its fire is queued; it is delivered when someone asks for the next fire.  Every timer
carries a stamp of its own, so a queued fire whose timer has been cancelled or armed again in the
meantime is recognised and dropped.

* `TimerSet` — the clock, the live timers, the sleepers and the queue.
* `TimerSet.arm`, `TimerSet.cancel`, `TimerSet.disarm`, `TimerSet.cancelAll`, `TimerSet.isArmed` — the
  timer of a key.
* `TimerSet.elapseTo` — time passes and the fires that are due are queued.
* `TimerSet.next?` — the next live fire.
* `TimerSet.poll` — time passes while every fire is delivered at once.
-/

namespace RealtimeClient

/-- **A timer whose time has not come.** -/
structure TimerSet.Sleeper (κ : Type) where
  key : κ
  stamp : Nat
  deadline : Nat
  deriving DecidableEq, Repr

/-- **A set of keyed timers.**  `armed` holds the stamp of each key's live timer, `sleeping` the
timers that have not fired, the earliest first, and `fired` the queue of fires. -/
structure TimerSet (κ : Type) where
  now : Nat := 0
  stamp : Nat := 0
  armed : List (κ × Nat) := []
  sleeping : List (TimerSet.Sleeper κ) := []
  fired : List (κ × Nat) := []
  deriving DecidableEq, Repr

namespace TimerSet

variable {κ : Type} [DecidableEq κ]

def empty : TimerSet κ := {}

/-- The stamp of the live timer of a key. -/
def stamp? (s : TimerSet κ) (k : κ) : Option Nat := s.armed.lookup k

def isArmed (s : TimerSet κ) (k : κ) : Bool := (s.stamp? k).isSome

/-- The timer of a key is no longer live, and never fires. -/
def cancel (s : TimerSet κ) (k : κ) : TimerSet κ :=
  match s.stamp? k with
  | none => s
  | some stamp =>
    { s with
      armed := s.armed.filter fun a => a.1 ≠ k
      sleeping := s.sleeping.filter fun t => t.stamp ≠ stamp }

/-- **Cancel the timer of a key**, and tell whether it had one. -/
def disarm (s : TimerSet κ) (k : κ) : Bool × TimerSet κ :=
  match s.stamp? k with
  | none => (false, s)
  | some _ => (true, s.cancel k)

/-- No timer is live, and none fires. -/
def cancelAll (s : TimerSet κ) : TimerSet κ :=
  { s with
    armed := []
    sleeping := s.sleeping.filter fun t => ¬s.armed.any fun a => a.2 = t.stamp }

/-- A sleeper among others, behind those that are not later. -/
def insertSleeper (t : Sleeper κ) : List (Sleeper κ) → List (Sleeper κ)
  | [] => [t]
  | u :: rest => if t.deadline < u.deadline then t :: u :: rest else u :: insertSleeper t rest

/-- The milliseconds until a delay is over; a part of a millisecond counts as a whole one. -/
def ticks (delay : Duration) : Nat :=
  (delay.nanos + (Duration.nanosPerMilli - 1)) / Duration.nanosPerMilli

/-- **Arm the timer of a key**, in place of the live one. -/
def arm (s : TimerSet κ) (k : κ) (delay : Duration) : TimerSet κ :=
  let s := s.cancel k
  let stamp := s.stamp + 1
  { s with
    stamp
    armed := (k, stamp) :: s.armed
    sleeping := insertSleeper { key := k, stamp, deadline := s.now + ticks delay } s.sleeping }

/-- The time of the earliest sleeper. -/
def nextDeadline? (s : TimerSet κ) : Option Nat := s.sleeping.head?.map (·.deadline)

/-- **Time passes**, and the fires that are due by then are queued, the earliest first. -/
def elapseTo (s : TimerSet κ) (time : Nat) : TimerSet κ :=
  { s with
    now := max s.now time
    sleeping := s.sleeping.filter fun t => time < t.deadline
    fired := s.fired ++
      (s.sleeping.filter fun t => t.deadline ≤ time).map fun t => (t.key, t.stamp) }

/-- The first live fire of a queue, and the queue behind it. -/
def firstLive? (armed : List (κ × Nat)) : List (κ × Nat) → Option (κ × List (κ × Nat))
  | [] => none
  | (k, stamp) :: rest =>
    if armed.lookup k = some stamp then some (k, rest) else firstLive? armed rest

/-- **The next live fire.**  Its timer is live no longer; the fires of dead timers before it are
dropped. -/
def next? (s : TimerSet κ) : Option (κ × TimerSet κ) :=
  (firstLive? s.armed s.fired).map fun (k, rest) =>
    (k, { s with armed := s.armed.filter fun a => a.1 ≠ k, fired := rest })

/-- All live fires of the queue, for at most as many as there are fires. -/
def collect (s : TimerSet κ) : Nat → List κ × TimerSet κ
  | 0 => ([], s)
  | n + 1 =>
    match s.next? with
    | none => ([], s)
    | some (k, s) =>
      let (keys, s) := s.collect n
      (k :: keys, s)

/-- All live fires of the queue with the time of their delivery. -/
def deliver (s : TimerSet κ) : List (κ × Nat) × TimerSet κ :=
  let (keys, s) := s.collect s.fired.length
  (keys.map fun k => (k, s.now), s)

/-- **Time passes while fires are delivered.**  Gives each fire with the time of its delivery; the
clock stops at the given time, after at most `rounds` different deadlines. -/
def poll (s : TimerSet κ) (time : Nat) : Nat → List (κ × Nat) × TimerSet κ
  | 0 =>
    let (delivered, s) := s.deliver
    (delivered, s.elapseTo time)
  | rounds + 1 =>
    let (delivered, s) := s.deliver
    match s.nextDeadline? with
    | none => (delivered, s.elapseTo time)
    | some deadline =>
      if deadline ≤ time then
        let (more, s) := (s.elapseTo deadline).poll time rounds
        (delivered ++ more, s)
      else (delivered, s.elapseTo time)

end TimerSet

end RealtimeClient
