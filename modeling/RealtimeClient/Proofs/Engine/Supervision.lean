import Mathlib
import RealtimeClient.Proofs.Engine.TransportUse

/-!
# Supervision of a live session

A connection can die without a sign.  What notices it is a timer, so a session that is alive has to
have one armed at all times: the one that waits for the server's next sign of life, or the one that
will ask for it.  Whoever carries the effects out arms and cancels the timers, and tells the engine
of a timer only while it is armed; `Timed` is an engine together with that bookkeeping.

* `Timed`, `Timed.step`, `Timed.Reachable` — an engine with its armed timers, and what it can become.
* `Live` — the session is alive; `Supervised` — the timer that the heartbeat's state calls for is
  armed.
* `Timed.Reachable.supervised` — a live session is always supervised.
* `pong_timeout_is_loss` — and when the server stays silent the connection ends as a loss.
-/

namespace RealtimeClient.Engine

variable {e : Engine}

/-! ## The armed timers -/

/-- What an effect does to the armed timers. -/
def Effect.rearm (armed : Finset TimerKind) : Effect → Finset TimerKind
  | .arm k _ => insert k armed
  | .cancel k => armed.erase k
  | _ => armed

/-- The armed timers after effects. -/
def rearm (armed : Finset TimerKind) (effects : List Effect) : Finset TimerKind :=
  effects.foldl Effect.rearm armed

@[simp] theorem rearm_nil (armed : Finset TimerKind) : rearm armed [] = armed := rfl

@[simp] theorem rearm_cons (armed : Finset TimerKind) (f : Effect) (effects : List Effect) :
    rearm armed (f :: effects) = rearm (f.rearm armed) effects := rfl

/-- **An engine with its armed timers.** -/
structure Timed where
  engine : Engine
  armed : Finset TimerKind

namespace Timed

/-- A timer fires only while it is armed. -/
def Admits (s : Timed) : Input → Prop
  | .timerFired k => k ∈ s.armed
  | _ => True

/-- The timers that are armed once an input has come: one that has fired is not. -/
def remaining (s : Timed) : Input → Finset TimerKind
  | .timerFired k => s.armed.erase k
  | _ => s.armed

/-- One input, with its effects on the timers. -/
def step (s : Timed) (i : Input) : Timed :=
  { engine := (s.engine.handle i).1, armed := rearm (s.remaining i) (s.engine.handle i).2 }

/-- **What a new engine can become**, its timers included. -/
inductive Reachable : Timed → Prop
  | new (revision : Revision) (policy : ReconnectPolicy) : Reachable ⟨.new revision policy, ∅⟩
  | step {s : Timed} (i : Input) : Reachable s → s.Admits i → Reachable (s.step i)

/-- The timers only narrow what engines are reachable. -/
theorem Reachable.engine {s : Timed} (hs : s.Reachable) : Engine.Reachable s.engine := by
  induction hs with
  | new revision policy => exact .new revision policy
  | step i _ _ ih => exact ih.handle i

end Timed

/-! ## Supervision -/

/-- **The session is alive**: the connection is open, the handshake has come, and nobody has asked
for a close. -/
structure Live (e : Engine) : Prop where
  opened : e.state = .opened
  handshake : e.handshake.isSome
  cause : e.cause = none

/-- **The timer that the state of the heartbeat calls for is armed.** -/
def Supervised (e : Engine) (armed : Finset TimerKind) : Prop :=
  match e.revision with
  | .v4 => .pongTimeout ∈ armed
  | .v3 =>
    (e.awaitingPong = true ∧ .pongTimeout ∈ armed) ∨ (e.awaitingPong = false ∧ .heartbeat ∈ armed)

namespace Supervised

theorem mono {armed more : Finset TimerKind} (h : Supervised e armed) (hm : armed ⊆ more) :
    Supervised e more := by
  rw [Supervised] at h ⊢
  split at h
  · exact hm h
  · exact h.imp (And.imp_right (@hm _)) (And.imp_right (@hm _))

/-- A timer that is armed on top of others takes nothing away. -/
theorem arm {armed : Finset TimerKind} (h : Supervised e armed) (k : TimerKind) :
    Supervised e (insert k armed) :=
  h.mono (Finset.subset_insert k armed)

/-- The timer of the next attempt does not supervise. -/
theorem erase_reconnect {armed : Finset TimerKind} (h : Supervised e armed) :
    Supervised e (armed.erase .reconnect) := by
  rw [Supervised] at h ⊢
  split at h <;> simpa using h

/-- While a heartbeat is unanswered, the server's silence is timed under either revision. -/
theorem of_awaiting {armed : Finset TimerKind} (ha : e.awaitingPong = true)
    (hp : .pongTimeout ∈ armed) : Supervised e armed := by
  rw [Supervised]
  split
  · exact hp
  · exact .inl ⟨ha, hp⟩

end Supervised

/-- No connection is open right after one has ended. -/
theorem transportClosed_state (e : Engine) (normal : Bool) :
    (e.transportClosed normal).1.state ≠ .opened := by
  rcases e.transportClosed_use normal with ⟨-, after⟩ | ⟨-, -, -, -, -, -, after⟩ <;>
    simp [after]

theorem not_live_fail (f : Fault) : ¬Live (e.fail f).1 := by
  rw [fail]
  split
  · next hc =>
    intro (hl : Live e)
    simp [hl.cause] at hc
  · intro hl
    cases hl.cause

section Step

variable {armed : Finset TimerKind} (hc : Coherent e) (hsup : Live e → Supervised e armed)

include hsup

/-- A frame re-arms at most what is armed. -/
theorem supervised_frameReceived (hl : Live e) : Supervised e (rearm armed e.frameReceived.2) := by
  have h := hsup hl
  rw [frameReceived]
  split
  · split
    · exact h.arm _
    · split
      · exact h.arm _
      · exact h
  · exact h

/-- The answer to a heartbeat arms the timer of the next one. -/
theorem supervised_pongReceived :
    Live e.pongReceived.1 → Supervised e.pongReceived.1 (rearm armed e.pongReceived.2) := by
  rw [pongReceived]
  split
  · exact hsup
  · next hr =>
    intro hl
    obtain ⟨h, hh⟩ := Option.isSome_iff_exists.1 hl.handshake
    have hh : e.handshake = some h := hh
    have hv : e.revision = .v3 := by
      cases hv : e.revision with
      | v3 => rfl
      | v4 => exact absurd (.inl (by simp [hv, Revision.serverPings])) hr
    simp [Supervised, hh, hv, Effect.rearm]

/-- **A timer that fires is made up for**: the heartbeat by the wait for its answer. -/
theorem supervised_timerFired (k : TimerKind) :
    Live (e.timerFired k).1 →
      Supervised (e.timerFired k).1 (rearm (armed.erase k) (e.timerFired k).2) := by
  cases k with
  | reconnect =>
    unfold timerFired
    dsimp only
    split
    · intro hl
      exact absurd hl.opened (by simp)
    · intro hl
      exact (hsup hl).erase_reconnect
  | heartbeat =>
    unfold timerFired
    dsimp only
    split
    · next hs hcause hh =>
      have h := hsup ⟨hs, by simp [hh], hcause⟩
      split
      · next ha =>
        intro _
        refine .of_awaiting ha ?_
        unfold Supervised at h
        split at h <;> simp_all [Effect.rearm]
      · intro _
        exact .of_awaiting rfl (by simp [Effect.rearm])
    · next hn =>
      intro hl
      obtain ⟨h, hh⟩ := Option.isSome_iff_exists.1 hl.handshake
      exact absurd hh (hn h hl.opened hl.cause)
  | pongTimeout =>
    unfold timerFired
    dsimp only
    split
    · intro hl
      exact absurd hl (not_live_fail _)
    · next hn =>
      intro hl
      exact absurd ⟨hl.opened, hl.handshake⟩ hn

include hc

/-- A handshake, the first one or a further one, arms the timer that its revision begins with. -/
theorem supervised_shakeHands (p : Packet) :
    Live (e.shakeHands p).1 →
      Supervised (e.shakeHands p).1 (rearm armed (e.shakeHands p).2) := by
  rw [shakeHands]
  split
  · intro hl
    exact absurd hl (not_live_fail _)
  · intro hl
    cases hr : e.revision with
    | v4 => simp [Supervised, Revision.serverPings, Effect.rearm]
    | v3 =>
      cases ha : e.awaitingPong with
      | false => simp [Supervised, Revision.serverPings, Effect.rearm]
      | true =>
        -- A heartbeat is unanswered, so this is a further handshake on a live session.
        obtain ⟨ho, hh, hcause⟩ := hc.live_of_awaiting ha
        have h := hsup ⟨ho, hh, hcause⟩
        refine .of_awaiting rfl ?_
        simpa [Supervised, Revision.serverPings, Effect.rearm, hr, ha] using h

/-- **A packet keeps a live session supervised.** -/
theorem supervised_packet (p : Packet) :
    Live (e.packet p).1 → Supervised (e.packet p).1 (rearm armed (e.packet p).2) := by
  rw [packet]
  split
  · next hs =>
    intro hl
    exact absurd hl.opened hs
  · split
    · exact supervised_shakeHands hc hsup p
    · intro hl
      exact absurd hl (not_live_fail _)
    · exact hsup
    · exact supervised_pongReceived hsup
    · exact hsup

/-- The report that the transport is open comes before the handshake: nothing is alive yet. -/
theorem supervised_transportOpened :
    Live e.transportOpened.1 →
      Supervised e.transportOpened.1 (rearm armed e.transportOpened.2) := by
  rw [transportOpened]
  split
  · next hs =>
    intro hl
    have := hc.connected_of_handshake hl.handshake
    simp [hs] at this
  · exact hsup
  · exact hsup
  · exact hsup

end Step

/-- **Every input that comes to a timed engine keeps a live session supervised.** -/
theorem supervised_step {s : Timed} (hc : Coherent s.engine)
    (hsup : Live s.engine → Supervised s.engine s.armed) (i : Input) :
    Live (s.step i).engine → Supervised (s.step i).engine (s.step i).armed := by
  obtain ⟨e, armed⟩ := s
  cases i with
  | connect query headers =>
    simp only [Timed.step, handle, Timed.remaining, connect]
    split
    · exact hsup
    · exact hsup
    · next hs =>
      intro hl
      exact absurd hl.opened (by simp [hs])
    · intro hl
      exact absurd hl.opened (by simp)
  | close =>
    simp only [Timed.step, handle, Timed.remaining, close]
    split
    · intro hl
      exact absurd hl.opened (by simp)
    · intro hl
      exact absurd hl.opened (by simp)
    · exact hsup
    · next hs => split <;> exact fun hl => absurd hl.opened (by simp [hs])
  | transportOpened => exact supervised_transportOpened hc hsup
  | transportClosed normal =>
    intro hl
    exact absurd hl.opened (transportClosed_state e normal)
  | frameReceived =>
    simp only [Timed.step, handle, Timed.remaining, frameReceived_fst]
    exact supervised_frameReceived hsup
  | packet p => exact supervised_packet hc hsup p
  | timerFired k => exact supervised_timerFired hsup k
  | setAttempts attempts =>
    intro hl
    exact hsup ⟨hl.opened, hl.handshake, hl.cause⟩
  | setDelay delay =>
    intro hl
    exact hsup ⟨hl.opened, hl.handshake, hl.cause⟩
  | setDelayMax delay =>
    intro hl
    exact hsup ⟨hl.opened, hl.handshake, hl.cause⟩

/-- **A live session is always supervised.** -/
theorem Timed.Reachable.supervised {s : Timed} (hs : s.Reachable) (hl : Live s.engine) :
    Supervised s.engine s.armed := by
  induction hs with
  | new revision policy => exact absurd hl.opened (by simp [Engine.new])
  | step i hs _ ih => exact supervised_step hs.engine.coherent ih i hl

/-! ## After the engine gave up

Giving a connection up only asks the transport to close.  Until the transport reports that it has,
the engine remembers why it asked, whatever else comes in between.
-/

/-- The open connection is given up, and the transport has yet to close. -/
structure GivenUp (e : Engine) : Prop where
  opened : e.state = .opened
  faulted : e.Faulted

/-- **A loss**: another attempt is scheduled, or the session ends, and not as a close does. -/
structure Loss (left : Engine) (effects : List Effect) : Prop where
  not_normal : .notify (.closed .normal) ∉ effects
  lost : (left.reconnectPending = true ∧ ∃ delay, .arm .reconnect delay ∈ effects) ∨
    .notify .failed ∈ effects ∨ .notify (.closed .drop) ∈ effects

/-- A silence on a live session is a fault, and the transport is asked to close. -/
theorem timerFired_silence (hl : Live e) :
    e.timerFired .pongTimeout =
      ({ e with cause := some (.fault .silence), awaitingPong := false },
        cancelHeartbeat ++ [.closeTransport (.fault .silence)]) := by
  simp [timerFired, fail, hl.opened, hl.handshake, hl.cause]

/-- A connection that was lost without a close counts as lost. -/
theorem loss_lose (e : Engine) (wasOpen : Bool) :
    Loss (e.lose wasOpen).1 (cancelHeartbeat ++ (e.lose wasOpen).2) := by
  rw [lose]
  split
  · exact ⟨by simp [cancelHeartbeat], .inl ⟨rfl, e.policy.delayFor e.attempts, by simp⟩⟩
  · cases wasOpen
    · exact ⟨by simp [cancelHeartbeat], .inr (.inl (by simp))⟩
    · exact ⟨by simp [cancelHeartbeat], .inr (.inr (by simp))⟩

namespace GivenUp

/-- A given-up connection is not given up again. -/
theorem fail_fst (h : GivenUp e) (f : Fault) : (e.fail f).1 = e := by
  obtain ⟨g, hg⟩ := h.faulted
  simp [fail, hg]

/-- **What was given up stays so** until the application closes or the transport has closed. -/
theorem handle (h : GivenUp e) {i : Input} (hclose : i ≠ .close)
    (hclosed : ∀ normal, i ≠ .transportClosed normal) : GivenUp (e.handle i).1 := by
  have hs := h.opened
  obtain ⟨f, hf⟩ := h.faulted
  cases i with
  | connect query headers => simpa [Engine.handle, Engine.connect, hs] using h
  | close => exact absurd rfl hclose
  | transportOpened => simpa [Engine.handle, Engine.transportOpened, hs] using h
  | transportClosed normal => exact absurd rfl (hclosed normal)
  | frameReceived => simpa only [Engine.handle, frameReceived_fst] using h
  | packet p =>
    simp only [Engine.handle, Engine.packet, hs, ne_eq, not_true, if_false]
    split
    · rw [shakeHands]
      split
      · rwa [h.fail_fst]
      · exact ⟨hs, f, hf⟩
    · rwa [h.fail_fst]
    · exact h
    · rw [pongReceived]
      split
      · exact h
      · exact ⟨hs, f, hf⟩
    · exact h
  | timerFired k =>
    cases k with
    | reconnect => simpa [Engine.handle, Engine.timerFired, hs] using h
    | heartbeat => simpa [Engine.handle, Engine.timerFired, hf] using h
    | pongTimeout =>
      simp only [Engine.handle, Engine.timerFired]
      split
      · rwa [h.fail_fst]
      · exact h
  | setAttempts attempts => exact ⟨hs, f, hf⟩
  | setDelay delay => exact ⟨hs, f, hf⟩
  | setDelayMax delay => exact ⟨hs, f, hf⟩

theorem run (h : GivenUp e) {inputs : List Input} (hclose : .close ∉ inputs)
    (hclosed : ∀ normal, .transportClosed normal ∉ inputs) : GivenUp (e.run inputs).1 := by
  induction inputs generalizing e with
  | nil => exact h
  | cons i rest ih =>
    rw [List.mem_cons, not_or] at hclose
    have hi : ∀ normal, i ≠ .transportClosed normal :=
      fun normal hn => hclosed normal (hn ▸ List.mem_cons_self)
    exact ih (h.handle (Ne.symm hclose.1) hi) hclose.2 fun normal hm => hclosed normal (.tail _ hm)

/-- **Its end is a loss**, whatever the transport says of it. -/
theorem loss (h : GivenUp e) (normal : Bool) :
    Loss (e.transportClosed normal).1 (e.transportClosed normal).2 := by
  rw [transportClosed_of_lost (.inr h.opened) (.inr h.faulted)]
  exact loss_lose _ _

end GivenUp

/-- **A live session is always supervised, and a silence ends it as a loss.**  The timer that the
heartbeat's state calls for is armed.  When the silence has lasted too long the transport is asked
to close; unless the application closes first, the next close of the transport is handled as a
loss. -/
theorem live_session_supervised {s : Timed} (hs : s.Reachable) (hl : Live s.engine) :
    Supervised s.engine s.armed ∧
      let fired := s.engine.handle (.timerFired .pongTimeout)
      .closeTransport (.fault .silence) ∈ fired.2 ∧ (Cause.fault .silence).reason = "Pong timeout" ∧
        ∀ inputs : List Input, .close ∉ inputs → (∀ normal, .transportClosed normal ∉ inputs) →
          ∀ normal, let ended := (fired.1.run inputs).1.handle (.transportClosed normal)
            Loss ended.1 ended.2 := by
  refine ⟨hs.supervised hl, ?_⟩
  have hfired : s.engine.handle (.timerFired .pongTimeout) = _ := timerFired_silence hl
  simp only [hfired]
  refine ⟨by simp, rfl, ?_⟩
  intro inputs hclose hclosed normal
  have hgiven : GivenUp { s.engine with cause := some (.fault .silence), awaitingPong := false } :=
    ⟨hl.opened, .silence, rfl⟩
  exact (hgiven.run hclose hclosed).loss normal

/-- A session under the older revision, right after its handshake. -/
def established : Timed :=
  (((⟨.new .v3 .default, ∅⟩ : Timed).step (.connect .nil .nil)).step .transportOpened).step
    (.packet (.handshake (.object (Dict.ofList [("sid", .string "s")]))))

/-- The same session with its first heartbeat unanswered. -/
def unanswered : Timed := established.step (.timerFired .heartbeat)

/-- Its silence is timed, and once that timer has fired a pong that comes too late does not keep
the connection from ending as a loss. -/
theorem unanswered_supervised :
    (unanswered.engine.awaitingPong = true ∧ .pongTimeout ∈ unanswered.armed) ∧
      let fired := unanswered.engine.handle (.timerFired .pongTimeout)
      let ended := (fired.1.run [.frameReceived, .packet .pong]).1.handle (.transportClosed true)
      Loss ended.1 ended.2 := by
  have harmed : .heartbeat ∈ established.armed := by decide
  have hr : unanswered.Reachable :=
    .step _ (.step _ (.step _ (.step _ (.new .v3 .default) trivial) trivial) trivial) harmed
  have hl : Live unanswered.engine := ⟨by decide, by decide, by decide⟩
  obtain ⟨-, -, -, hend⟩ := live_session_supervised hr hl
  exact ⟨by decide, hend [.frameReceived, .packet .pong] (by simp) (by simp) true⟩

end RealtimeClient.Engine
