import Mathlib
import RealtimeClient.Engine

/-!
# Coherence of the engine's fields

The fields of an engine are not independent: a cause belongs to a close under way, a handshake to a
connection, a deferred connect to a close.  `Coherent` collects what ties them together; it holds of
a new engine, every input keeps it, and so it holds of every engine that a run can reach.

* `Reachable` — the engines that a run from a new engine arrives at.
* `Coherent` — the ties between the fields; **`Reachable.coherent`** — they always hold.
-/

namespace RealtimeClient.Engine

variable {e : Engine}

/-! ## Runs -/

/-- **The engines that a run arrives at**, from a new engine and by any inputs. -/
inductive Reachable : Engine → Prop
  | new (revision : Revision) (policy : ReconnectPolicy) : Reachable (.new revision policy)
  | handle {e : Engine} (i : Input) : Reachable e → Reachable (e.handle i).1

@[simp] theorem run_nil (e : Engine) : e.run [] = (e, []) := rfl

@[simp] theorem run_cons (e : Engine) (i : Input) (rest : List Input) :
    e.run (i :: rest) =
      (((e.handle i).1.run rest).1, (e.handle i).2 :: ((e.handle i).1.run rest).2) := rfl

theorem run_append (e : Engine) (inputs more : List Input) :
    e.run (inputs ++ more) =
      (((e.run inputs).1.run more).1, (e.run inputs).2 ++ ((e.run inputs).1.run more).2) := by
  induction inputs generalizing e with
  | nil => rfl
  | cons i rest ih => simp only [List.cons_append, run_cons, ih]

theorem Reachable.run (he : Reachable e) (inputs : List Input) : Reachable (e.run inputs).1 := by
  induction inputs generalizing e with
  | nil => exact he
  | cons i rest ih => exact ih (he.handle i)

/-! ## The end of a connection

`transportClosed` has three outcomes besides doing nothing.  Each has an equation, so that later
proofs need not open the definition.
-/

/-- Whether the engine itself gave up the connection. -/
def Faulted (e : Engine) : Prop := ∃ f, e.cause = some (.fault f)

theorem transportClosed_of_closed (hs : e.state = .closed) (normal : Bool) :
    e.transportClosed normal = (e, []) := by
  simp [transportClosed, hs]

/-- The end of a close that was asked for, with no connect waiting. -/
theorem transportClosed_of_closing (hs : e.state = .closing) (hd : e.deferredConnect = none)
    (normal : Bool) :
    e.transportClosed normal =
      ({ e.disconnected with deferredConnect := none },
        cancelHeartbeat ++ [.notify (.closed .normal)]) := by
  simp [transportClosed, hs, hd]

/-- The end of a close that was asked for, with a connect waiting: it is made at once. -/
theorem transportClosed_of_deferred (hs : e.state = .closing) {query : Query} {headers : Headers}
    (hd : e.deferredConnect = some (query, headers)) (normal : Bool) :
    e.transportClosed normal =
      ((({ e.disconnected with deferredConnect := none } : Engine).connect query headers).1,
        cancelHeartbeat ++ [.notify (.closed .normal)] ++
          (({ e.disconnected with deferredConnect := none } : Engine).connect query headers).2) := by
  simp [transportClosed, hs, hd]

/-- The peer ended the connection as it should, and the engine had found no fault. -/
theorem transportClosed_of_ended (hs : e.state = .opening ∨ e.state = .opened)
    (hf : ¬e.Faulted) :
    e.transportClosed true =
      (e.disconnected,
        cancelHeartbeat ++ [.socketsDisconnect true, .notify (.closed .normal)]) := by
  have hc : ∀ f, e.cause ≠ some (.fault f) := fun f h => hf ⟨f, h⟩
  rcases hs with hs | hs <;> simp only [transportClosed, hs] <;> split <;> simp_all

/-- The connection was lost, or the engine had found a fault. -/
theorem transportClosed_of_lost (hs : e.state = .opening ∨ e.state = .opened) {normal : Bool}
    (hl : normal = false ∨ e.Faulted) :
    e.transportClosed normal =
      ((e.disconnected.lose (e.state = .opened)).1,
        cancelHeartbeat ++ (e.disconnected.lose (e.state = .opened)).2) := by
  rcases hl with rfl | ⟨f, hf⟩
  · rcases hs with hs | hs <;> simp [transportClosed, hs]
  · rcases hs with hs | hs <;> simp [transportClosed, hs, hf]

/-- On a connection that was not asked to close, one of the last two equations applies. -/
theorem ended_or_lost (e : Engine) (normal : Bool) :
    (normal = true ∧ ¬e.Faulted) ∨ (normal = false ∨ e.Faulted) := by
  cases normal
  · exact .inr (.inl rfl)
  · by_cases hf : e.Faulted
    · exact .inr (.inr hf)
    · exact .inl ⟨rfl, hf⟩

@[simp] theorem frameReceived_fst (e : Engine) : e.frameReceived.1 = e := by
  rw [frameReceived]
  split
  · split
    · rfl
    · split <;> rfl
  · rfl

/-! ## Coherence -/

/-- **The ties between the fields.** -/
structure Coherent (e : Engine) : Prop where
  /-- An attempt is scheduled only while there is no connection. -/
  closed_of_pending : e.reconnectPending = true → e.state = .closed
  /-- A handshake belongs to a connection that was open. -/
  connected_of_handshake : e.handshake.isSome → e.state = .opened ∨ e.state = .closing
  /-- The application's close is what `closing` means. -/
  user_iff_closing : e.cause = some .user ↔ e.state = .closing
  /-- A fault is found on an open connection only. -/
  opened_of_fault : ∀ f, e.cause = some (.fault f) → e.state = .opened
  /-- A connect waits for nothing but a close under way. -/
  closing_of_deferred : e.deferredConnect.isSome → e.state = .closing
  /-- A heartbeat is unanswered only on a connection that is alive. -/
  live_of_awaiting :
    e.awaitingPong = true → e.state = .opened ∧ e.handshake.isSome ∧ e.cause = none

namespace Coherent

/-- A new engine is coherent: it has nothing to tie together. -/
theorem new (revision : Revision) (policy : ReconnectPolicy) : Coherent (.new revision policy) := by
  constructor <;> simp [Engine.new]

/-- Outside of a close no connect waits. -/
theorem deferred_eq_none (h : Coherent e) (hs : e.state ≠ .closing) : e.deferredConnect = none := by
  by_contra hd
  exact hs (h.closing_of_deferred (Option.isSome_iff_ne_none.2 hd))

/-- With a connection, or on the way to one, no attempt is scheduled. -/
theorem pending_eq_false (h : Coherent e) (hs : e.state ≠ .closed) : e.reconnectPending = false := by
  by_contra hp
  exact hs (h.closed_of_pending (by simpa using hp))

/-- An attempt begins coherently, once nothing is scheduled or waits. -/
theorem startAttempt (hp : e.reconnectPending = false) (hd : e.deferredConnect = none) :
    Coherent e.startAttempt.1 := by
  constructor <;> simp [Engine.startAttempt, hp, hd]

/-- Without a connection every tie but the one of the deferred connect holds by itself. -/
theorem disconnected (hd : e.deferredConnect = none) : Coherent e.disconnected := by
  constructor <;> simp [Engine.disconnected, hd]

theorem connect (h : Coherent e) (query : Query) (headers : Headers) :
    Coherent (e.connect query headers).1 := by
  rw [Engine.connect]
  split
  · exact h
  · exact h
  · next hs =>
    refine { h with closing_of_deferred := fun _ => hs, .. }
  · next hs =>
    exact startAttempt rfl (h.deferred_eq_none (by simp [hs]))

theorem close (h : Coherent e) : Coherent e.close.1 := by
  have hp := h.pending_eq_false
  rw [Engine.close]
  split
  · next hs => constructor <;> simp [hp (by simp [hs])]
  · next hs => constructor <;> simp [hp (by simp [hs])]
  · exact h
  · next hs =>
    split
    · refine { h with closed_of_pending := nofun, .. }
    · exact h

theorem fail (h : Coherent e) (hs : e.state = .opened) (f : Fault) : Coherent (e.fail f).1 := by
  rw [Engine.fail]
  split
  · exact h
  · exact { h with
      user_iff_closing := by simp [hs]
      opened_of_fault := fun _ _ => hs
      live_of_awaiting := nofun }

theorem transportOpened (h : Coherent e) : Coherent e.transportOpened.1 := by
  rw [Engine.transportOpened]
  split
  · next hs =>
    have hh : e.handshake = none := by
      by_contra hh
      have := h.connected_of_handshake (Option.isSome_iff_ne_none.2 hh)
      simp [hs] at this
    have hc : e.cause = none := by
      match hc : e.cause with
      | none => rfl
      | some .user => have := h.user_iff_closing.1 hc; simp [hs] at this
      | some (.fault f) => have := h.opened_of_fault f hc; simp [hs] at this
    have ha : e.awaitingPong = false := by
      by_contra ha
      have := (h.live_of_awaiting (by simpa using ha)).1
      simp [hs] at this
    constructor <;>
      simp [hh, hc, ha, h.pending_eq_false (by simp [hs]), h.deferred_eq_none (by simp [hs])]
  · exact h
  · exact h
  · exact h

theorem lose (hs : e.state = .closed) (h : Coherent e) (wasOpen : Bool) :
    Coherent (e.lose wasOpen).1 := by
  rw [Engine.lose]
  split
  · exact { h with closed_of_pending := fun _ => hs }
  · exact { h with }

theorem transportClosed (h : Coherent e) (normal : Bool) :
    Coherent (e.transportClosed normal).1 := by
  have hconn (hs : e.state = .opening ∨ e.state = .opened) :
      Coherent (e.transportClosed normal).1 := by
    have hd : Coherent e.disconnected :=
      disconnected (h.deferred_eq_none (by rcases hs with hs | hs <;> simp [hs]))
    rcases e.ended_or_lost normal with ⟨rfl, hf⟩ | hl
    · rw [transportClosed_of_ended hs hf]
      exact hd
    · rw [transportClosed_of_lost hs hl]
      exact hd.lose rfl _
  cases hs : e.state with
  | opening => exact hconn (.inl hs)
  | opened => exact hconn (.inr hs)
  | closed => rw [transportClosed_of_closed hs]; exact h
  | closing =>
    have hdone : Coherent { e.disconnected with deferredConnect := none } := by
      constructor <;> simp [Engine.disconnected]
    match hd : e.deferredConnect with
    | none => rw [transportClosed_of_closing hs hd]; exact hdone
    | some (query, headers) => rw [transportClosed_of_deferred hs hd]; exact hdone.connect _ _

theorem frameReceived (h : Coherent e) : Coherent e.frameReceived.1 := by
  rw [frameReceived_fst]
  exact h

theorem shakeHands (h : Coherent e) (hs : e.state = .opened) (p : Packet) :
    Coherent (e.shakeHands p).1 := by
  rw [Engine.shakeHands]
  split
  · exact h.fail hs _
  · exact { h with
      connected_of_handshake := fun _ => .inl hs
      live_of_awaiting := fun ha => by
        have := h.live_of_awaiting ha
        exact ⟨this.1, rfl, this.2.2⟩ }

theorem pongReceived (h : Coherent e) : Coherent e.pongReceived.1 := by
  rw [Engine.pongReceived]
  split
  · exact h
  · exact { h with live_of_awaiting := nofun }

theorem packet (h : Coherent e) (p : Packet) : Coherent (e.packet p).1 := by
  rw [Engine.packet]
  split
  · exact h
  · next hs =>
    have hs : e.state = .opened := by simpa using hs
    split
    · exact h.shakeHands hs p
    · exact h.fail hs _
    · exact h
    · exact h.pongReceived
    · exact h

theorem timerFired (h : Coherent e) (k : TimerKind) : Coherent (e.timerFired k).1 := by
  cases k with
  | reconnect =>
    unfold Engine.timerFired
    dsimp only
    split
    · next hr => exact startAttempt rfl (h.deferred_eq_none (by simp [hr.1]))
    · exact h
  | heartbeat =>
    unfold Engine.timerFired
    dsimp only
    split
    · next hs hc hh =>
      split
      · exact h
      · exact { h with live_of_awaiting := fun _ => ⟨hs, by simp [hh], hc⟩ }
    · exact h
  | pongTimeout =>
    unfold Engine.timerFired
    dsimp only
    split
    · next hr => exact h.fail hr.1 _
    · exact h

/-- **Every input keeps the ties.** -/
theorem handle (h : Coherent e) (i : Input) : Coherent (e.handle i).1 := by
  cases i with
  | connect query headers => exact h.connect query headers
  | close => exact h.close
  | transportOpened => exact h.transportOpened
  | transportClosed normal => exact h.transportClosed normal
  | frameReceived => exact h.frameReceived
  | packet p => exact h.packet p
  | timerFired k => exact h.timerFired k
  | setAttempts attempts => exact { h with }
  | setDelay delay => exact { h with }
  | setDelayMax delay => exact { h with }

end Coherent

/-- **Every reachable engine is coherent.** -/
theorem Reachable.coherent (he : Reachable e) : Coherent e := by
  induction he with
  | new revision policy => exact .new revision policy
  | handle i _ ih => exact ih.handle i

end RealtimeClient.Engine
