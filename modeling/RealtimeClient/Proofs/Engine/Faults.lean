import Mathlib
import RealtimeClient.Proofs.Engine.SocketUse
import RealtimeClient.Proofs.Engine.Supervision

/-!
# After a fault

An engine that gives up a connection asks the transport to close and waits for that.  Frames that were
under way still arrive in the meantime, timers may still fire, and the application may close as well.
Most handlers look at the cause and leave it at that.  Two do not: a ping is answered, and a further
handshake is taken for a new one, whose timer is armed.

* `Input.isEnd` — the inputs that a connection which was given up does not outlast.
* `givenUp_of_fault` — asking for a close on account of a fault is giving up.
* `Doomed` — connections whose close has yet to be reported; `Doomed.run` — they are so until then.
* `lateAnswer`, `Doomed.handle_snd`, `Doomed.run_snd` — all that is still asked for, input by input.
* `Stirs`, `Hushed` — the inputs that are heard of, and runs in which nothing is; `Doomed.hushed_iff`.
* `quiet_after_fault_iff` — **exactly** when a connection stays quiet after a fault.
-/

namespace RealtimeClient.Engine

variable {e : Engine} {i : Input} {inputs : List Input}

/-- Whether a connection that was given up is given up no more. -/
def Input.isEnd : Input → Bool
  | .close | .transportClosed _ => true
  | _ => false

/-- **What a connection must not see after a fault**: something is sent, a timer is armed, or the
transport is asked to close. -/
def Effect.isLoud : Effect → Bool
  | .send _ | .arm .. | .closeTransport _ => true
  | _ => false

/-- The parameters that an input brings, if they can be read. -/
def Input.handshake? : Input → Option Handshake
  | .packet p => if p.frame = .handshake then p.payload.head?.bind Handshake.parse? else none
  | _ => none

/-- **The inputs that are heard of.**  While the session counts as open it is a ping, and a handshake that
can be read; once the application has closed it is the transport's opening. -/
def Stirs (s : SessionState) (i : Input) : Prop :=
  s = .opened ∧ ((∃ p, i = .packet p ∧ p.frame = .ping) ∨ i.handshake?.isSome = true) ∨
    s = .closing ∧ i = .transportOpened

/-- The timer that a handshake arms under a revision. -/
def firstTimer (revision : Revision) (h : Handshake) : Effect :=
  if revision.serverPings then .arm .pongTimeout (h.pingInterval + h.pingTimeout)
  else .arm .heartbeat h.pingInterval

/-- **All that is asked for on a connection that was given up.** -/
def lateAnswer (s : SessionState) (revision : Revision) : Input → List Effect
  | .packet p =>
    if s ≠ .opened then []
    else
      match p.frame with
      | .ping => [.send .pong]
      | .handshake => ((Input.packet p).handshake?.map (firstTimer revision)).toList
      | _ => []
  | .transportOpened => if s = .closing then [.closeTransport .user] else []
  | _ => []

/-- **A run that keeps quiet**: nothing loud is asked for, and the handshake stays. -/
structure Hushed (e : Engine) (inputs : List Input) : Prop where
  silent : ∀ effects ∈ (e.run inputs).2, ∀ x ∈ effects, x.isLoud = false
  same : ∀ earlier later, inputs = earlier ++ later → (e.run earlier).1.handshake = e.handshake

theorem Input.ne_transportClosed (hi : i.isEnd = false) (normal : Bool) : i ≠ .transportClosed normal := by
  rintro rfl
  cases hi

/-! ## Giving up -/

theorem not_fault_of_quiet {effects : List Effect} (hq : Quiet effects) (f : Fault) :
    .closeTransport (.fault f) ∉ effects := by
  intro hm
  cases hq _ hm

/-- Of the packets, a bad handshake and the server's goodbye make the engine fail. -/
theorem packet_fails_or_not_fault (e : Engine) (p : Packet) :
    (∃ f, e.packet p = e.fail f ∧ e.state = .opened) ∨
      ∀ f, .closeTransport (.fault f) ∉ (e.packet p).2 := by
  by_cases hs : e.state = .opened
  · simp only [packet, hs, ne_eq, not_true, if_false]
    cases p.frame with
    | handshake =>
      dsimp only
      rw [shakeHands]
      split
      · exact .inl ⟨_, rfl, trivial⟩
      · refine .inr fun f => ?_
        split <;> simp
    | close => exact .inl ⟨_, rfl, trivial⟩
    | ping => exact .inr fun f => by simp
    | pong =>
      refine .inr fun f => ?_
      dsimp only
      rw [pongReceived]
      split
      · simp
      · split <;> simp
    | message => exact .inr fun f => by simp
  · exact .inr fun f => by simp [packet, hs]

/-- Of the timers, a pong that is overdue makes it fail. -/
theorem timerFired_fails_or_not_fault (e : Engine) (k : TimerKind) :
    (∃ f, e.timerFired k = e.fail f ∧ e.state = .opened) ∨
      ∀ f, .closeTransport (.fault f) ∉ (e.timerFired k).2 := by
  cases k with
  | reconnect =>
    refine .inr fun f => ?_
    simp only [timerFired]
    split <;> simp [startAttempt]
  | heartbeat =>
    refine .inr fun f => ?_
    simp only [timerFired]
    split
    · split <;> simp
    · simp
  | pongTimeout =>
    simp only [timerFired]
    split
    · next hr => exact .inl ⟨_, rfl, hr.1⟩
    · exact .inr fun f => by simp

/-- **Only a failure asks for a close on account of a fault.** -/
theorem fails_or_not_fault (e : Engine) (i : Input) :
    (∃ f, e.handle i = e.fail f ∧ e.state = .opened) ∨
      ∀ f, .closeTransport (.fault f) ∉ (e.handle i).2 := by
  cases i with
  | packet p => exact packet_fails_or_not_fault e p
  | timerFired k => exact timerFired_fails_or_not_fault e k
  | connect query headers =>
    refine .inr fun f => ?_
    cases hs : e.state <;> simp [handle, connect, hs, startAttempt]
  | close =>
    refine .inr fun f => ?_
    cases hs : e.state with
    | closed => cases hp : e.reconnectPending <;> simp [handle, close, hs, hp]
    | _ => simp [handle, close, hs, cancelHeartbeat]
  | transportOpened =>
    refine .inr fun f => ?_
    cases hs : e.state <;> simp [handle, transportOpened, hs]
  | transportClosed normal =>
    refine .inr fun f hm => ?_
    rcases e.transportClosed_use normal with ⟨hq, -⟩ | ⟨-, earlier, query, headers, heq, hq, -⟩
    · exact not_fault_of_quiet hq f hm
    · rw [handle, heq, List.mem_append, List.mem_singleton] at hm
      rcases hm with hm | hm
      · exact not_fault_of_quiet hq f hm
      · cases hm
  | frameReceived =>
    refine .inr fun f => ?_
    simp only [handle, frameReceived]
    split
    · split
      · simp
      · split <;> simp
    · simp
  | _ => exact .inr fun f => by simp [handle]

/-- **A close that is asked for on account of a fault gives the connection up.** -/
theorem givenUp_of_fault {f : Fault} (h : .closeTransport (.fault f) ∈ (e.handle i).2) :
    GivenUp (e.handle i).1 := by
  rcases fails_or_not_fault e i with ⟨g, heq, hs⟩ | hno
  · rw [heq, fail] at h ⊢
    split at h
    · cases h
    · next hc =>
      rw [if_neg hc]
      exact ⟨hs, g, rfl⟩
  · exact absurd h (hno f)

/-! ## One input -/

namespace GivenUp

variable (h : GivenUp e)

include h

theorem fail_eq (f : Fault) : e.fail f = (e, []) := by
  obtain ⟨g, hg⟩ := h.faulted
  simp [fail, hg]

/-- No heartbeat is unanswered any more. -/
theorem awaitingPong (hc : Coherent e) : e.awaitingPong = false := by
  obtain ⟨f, hf⟩ := h.faulted
  by_contra ha
  have hnone := (hc.live_of_awaiting (by simpa using ha)).2.2
  rw [hf] at hnone
  cases hnone

/-- **A packet**, of whichever kind. -/
theorem packet_eq (hc : Coherent e) (p : Packet) :
    e.packet p =
      ({ e with handshake := (Input.packet p).handshake?.or e.handshake },
        lateAnswer .opened e.revision (.packet p)) := by
  have hpong : e.pongReceived = (e, []) := by simp [pongReceived, h.awaitingPong hc]
  rw [Engine.packet, if_neg (not_not_intro h.opened)]
  cases hf : p.frame with
  | handshake =>
    cases hp : p.payload.head?.bind Handshake.parse? with
    | none => simp [shakeHands, hp, h.fail_eq, lateAnswer, Input.handshake?, hf]
    | some hands => simp [shakeHands, hp, lateAnswer, Input.handshake?, hf, firstTimer]
  | close => simp [h.fail_eq, lateAnswer, Input.handshake?, hf]
  | ping => simp [lateAnswer, Input.handshake?, hf]
  | pong => simp [hpong, lateAnswer, Input.handshake?, hf]
  | message => simp [lateAnswer, Input.handshake?, hf]

/-- A timer that still fires is of no consequence. -/
theorem timerFired_eq (k : TimerKind) : e.timerFired k = (e, []) := by
  have hs := h.opened
  obtain ⟨f, hf⟩ := h.faulted
  cases k with
  | reconnect => simp [timerFired, hs]
  | heartbeat => simp [timerFired, hf]
  | pongTimeout =>
    simp only [timerFired, h.fail_eq]
    split <;> rfl

/-- **All that one input still leads to.** -/
theorem handle_snd (hc : Coherent e) (hi : i.isEnd = false) :
    (e.handle i).2 = lateAnswer .opened e.revision i := by
  have hs := h.opened
  cases i with
  | connect query headers => simp [Engine.handle, connect, hs, lateAnswer]
  | close => cases hi
  | transportOpened => simp [Engine.handle, transportOpened, hs, lateAnswer]
  | transportClosed normal => cases hi
  | frameReceived =>
    obtain ⟨f, hf⟩ := h.faulted
    simp [Engine.handle, frameReceived, hf, lateAnswer]
  | packet p => rw [Engine.handle, h.packet_eq hc]
  | timerFired k => simp [Engine.handle, h.timerFired_eq, lateAnswer]
  | setAttempts attempts => rfl
  | setDelay delay => rfl
  | setDelayMax delay => rfl

/-- **The handshake stays**, unless the input brings another one. -/
theorem handle_handshake (hc : Coherent e) (hi : i.isEnd = false) :
    (e.handle i).1.handshake = i.handshake?.or e.handshake := by
  have hs := h.opened
  cases i with
  | connect query headers => simp [Engine.handle, connect, hs, Input.handshake?]
  | close => cases hi
  | transportOpened => simp [Engine.handle, transportOpened, hs, Input.handshake?]
  | transportClosed normal => cases hi
  | frameReceived => simp [Engine.handle, Input.handshake?]
  | packet p => rw [Engine.handle, h.packet_eq hc]
  | timerFired k => simp [Engine.handle, h.timerFired_eq, Input.handshake?]
  | setAttempts attempts => simp [Engine.handle, Input.handshake?]
  | setDelay delay => simp [Engine.handle, Input.handshake?]
  | setDelayMax delay => simp [Engine.handle, Input.handshake?]

end GivenUp

/-- **While a close that the application asked for is under way**, one input leaves the state and the
handshake as they are. -/
theorem handle_of_closing (hs : e.state = .closing) (hi : i.isEnd = false) :
    (e.handle i).1.state = .closing ∧ (e.handle i).1.handshake = e.handshake ∧
      (e.handle i).2 = lateAnswer .closing e.revision i := by
  cases i with
  | close => cases hi
  | transportClosed normal => cases hi
  | timerFired k => cases k <;> simp [handle, timerFired, hs, lateAnswer]
  | frameReceived => simp [handle, frameReceived, hs, lateAnswer]
  | _ => simp [handle, connect, transportOpened, packet, hs, lateAnswer]

/-! ## A run -/

/-- **A connection that the engine gave up, or that the application closed**; the close has yet to be
reported. -/
def Doomed (e : Engine) : Prop := GivenUp e ∨ e.state = .closing

namespace Doomed

/-- Only the report of the close ends it. -/
theorem handle (h : Doomed e) (hi : ∀ normal, i ≠ .transportClosed normal) : Doomed (e.handle i).1 := by
  by_cases hclose : i = .close
  · subst hclose
    rcases h with h | hs
    · exact .inr (by simp [Engine.handle, close, h.opened])
    · exact .inr (by simp [Engine.handle, close, hs])
  · rcases h with h | hs
    · exact .inl (h.handle hclose hi)
    · have hend : i.isEnd = false := by
        cases i with
        | close => exact absurd rfl hclose
        | transportClosed normal => exact absurd rfl (hi normal)
        | _ => rfl
      exact .inr (handle_of_closing hs hend).1

theorem run (h : Doomed e) (hin : ∀ i ∈ inputs, ∀ normal, i ≠ .transportClosed normal) :
    Doomed (e.run inputs).1 := by
  induction inputs generalizing e with
  | nil => exact h
  | cons i rest ih =>
    rw [List.forall_mem_cons] at hin
    exact ih (h.handle hin.1) hin.2

/-- Unless it ends, the state stays. -/
theorem handle_state (h : Doomed e) (hi : i.isEnd = false) : (e.handle i).1.state = e.state := by
  rcases h with h | hs
  · have hclose : i ≠ .close := by
      rintro rfl
      cases hi
    rw [(h.handle hclose (Input.ne_transportClosed hi)).opened, h.opened]
  · rw [(handle_of_closing hs hi).1, hs]

theorem handle_snd (h : Doomed e) (hc : Coherent e) (hi : i.isEnd = false) :
    (e.handle i).2 = lateAnswer e.state e.revision i := by
  rcases h with h | hs
  · rw [h.handle_snd hc hi, h.opened]
  · rw [(handle_of_closing hs hi).2.2, hs]

/-- What is not heard of leaves the handshake. -/
theorem handle_handshake (h : Doomed e) (hc : Coherent e) (hi : i.isEnd = false)
    (hno : ¬Stirs e.state i) : (e.handle i).1.handshake = e.handshake := by
  rcases h with h | hs
  · have hnone : i.handshake? = none := by
      by_contra hsome
      exact hno (.inl ⟨h.opened, .inr (Option.isSome_iff_ne_none.2 hsome)⟩)
    rw [h.handle_handshake hc hi, hnone, Option.none_or]
  · exact (handle_of_closing hs hi).2.1

/-- **All that a run still leads to.** -/
theorem run_snd (h : Doomed e) (hc : Coherent e) (hin : ∀ i ∈ inputs, i.isEnd = false) :
    (e.run inputs).2 = inputs.map (lateAnswer e.state e.revision) := by
  induction inputs generalizing e with
  | nil => rfl
  | cons i rest ih =>
    rw [List.forall_mem_cons] at hin
    have hrest := ih (h.handle (Input.ne_transportClosed hin.1)) (hc.handle i) hin.2
    rw [h.handle_state hin.1, handle_revision] at hrest
    rw [run_cons, h.handle_snd hc hin.1, hrest, List.map_cons]

/-- If nothing is heard of, the handshake stays. -/
theorem run_handshake (h : Doomed e) (hc : Coherent e) (hin : ∀ i ∈ inputs, i.isEnd = false)
    (hno : ∀ i ∈ inputs, ¬Stirs e.state i) : (e.run inputs).1.handshake = e.handshake := by
  induction inputs generalizing e with
  | nil => rfl
  | cons i rest ih =>
    rw [List.forall_mem_cons] at hin hno
    have hrest := ih (h.handle (Input.ne_transportClosed hin.1)) (hc.handle i) hin.2
    rw [h.handle_state hin.1] at hrest
    rw [run_cons, hrest hno.2, h.handle_handshake hc hin.1 hno.1]

end Doomed

/-- **What is still asked for is loud**, and there is something exactly if the input is heard of. -/
theorem lateAnswer_silent_iff (s : SessionState) (revision : Revision) (i : Input) :
    (∀ x ∈ lateAnswer s revision i, x.isLoud = false) ↔ ¬Stirs s i := by
  cases i with
  | packet p =>
    by_cases hs : s = .opened
    · cases hf : p.frame with
      | handshake =>
        cases hp : p.payload.head?.bind Handshake.parse? with
        | none => simp [lateAnswer, Stirs, Input.handshake?, hs, hf, hp]
        | some h =>
          have hloud : (firstTimer revision h).isLoud = true := by
            rw [firstTimer]
            split <;> rfl
          simp [lateAnswer, Stirs, Input.handshake?, hs, hf, hp, hloud]
      | ping => simp [lateAnswer, Stirs, hs, hf, Effect.isLoud]
      | _ => simp [lateAnswer, Stirs, Input.handshake?, hs, hf]
    · simp [lateAnswer, Stirs, hs]
  | transportOpened =>
    by_cases hs : s = .closing <;> simp [lateAnswer, Stirs, Input.handshake?, hs, Effect.isLoud]
  | _ => simp [lateAnswer, Stirs, Input.handshake?]

/-- **A doomed connection keeps quiet** if and only if it is not stirred. -/
theorem Doomed.hushed_iff (h : Doomed e) (hc : Coherent e) (hin : ∀ i ∈ inputs, i.isEnd = false) :
    Hushed e inputs ↔ ∀ i ∈ inputs, ¬Stirs e.state i := by
  have hsilent : (∀ effects ∈ (e.run inputs).2, ∀ x ∈ effects, x.isLoud = false) ↔
      ∀ i ∈ inputs, ¬Stirs e.state i := by
    simp only [h.run_snd hc hin, List.forall_mem_map, lateAnswer_silent_iff]
  refine ⟨fun hhushed => hsilent.1 hhushed.silent, fun hno => ⟨hsilent.2 hno, ?_⟩⟩
  rintro earlier later rfl
  rw [List.forall_mem_append] at hin hno
  exact h.run_handshake hc hin.1 hno.1

/-! ## The exact condition -/

/-- **Exactly when a connection stays quiet after a fault.**  After any run, an input on which the
engine asks for a close on account of a fault, and any others before the close is reported, a further run
in which the connection does not end keeps quiet if and only if nothing along it is heard of: no ping and
no handshake that can be read, or no opening of the transport if the application has closed in the
meantime.  The answer to that is all that is asked for. -/
theorem quiet_after_fault_iff (revision : Revision) (policy : ReconnectPolicy)
    (before since inputs : List Input) (i : Input) (f : Fault)
    (hfault : .closeTransport (.fault f) ∈ (((Engine.new revision policy).run before).1.handle i).2)
    (hsince : ∀ j ∈ since, ∀ normal, j ≠ .transportClosed normal)
    (hinputs : ∀ j ∈ inputs, j.isEnd = false) :
    let left := (((Engine.new revision policy).run before).1.handle i).1
    let found := (left.run since).1
    (Hushed found inputs ↔ ∀ j ∈ inputs, ¬Stirs found.state j) ∧
      (found.run inputs).2 = inputs.map (lateAnswer found.state found.revision) := by
  intro left found
  have hreachable : Reachable found :=
    (((Reachable.new revision policy).run before).handle i).run since
  have hleft : Doomed left := .inl (givenUp_of_fault hfault)
  have hfound : Doomed found := hleft.run hsince
  exact ⟨hfound.hushed_iff hreachable.coherent hinputs, hfound.run_snd hreachable.coherent hinputs⟩

/-- The server's parameters, as it sends them. -/
def greeting (sid : String) : Input :=
  .packet (.handshake (.object (Dict.ofList [("sid", .string sid)])))

/-- A session that is open. -/
def greeted : List Input := [.connect .nil .nil, .transportOpened, greeting "abc"]

/-- The server ends the session, with a ping and a further handshake behind that: both are heard of, and
a frame, a pong and the timers are not. -/
theorem stirred_after_fault :
    let found := (((Engine.new .v4 .default).run greeted).1.handle (.packet .close)).1
    let inputs := [.frameReceived, .packet .pong, .timerFired .pongTimeout, .packet .ping, greeting "xyz"]
    .closeTransport (.fault .endedByServer) ∈
        (((Engine.new .v4 .default).run greeted).1.handle (.packet .close)).2 ∧
      (∀ j ∈ inputs, j.isEnd = false) ∧ ¬Hushed found inputs ∧
      (found.run inputs).2 =
        [[], [], [], [.send .pong], [.arm .pongTimeout (.ofMillis 85000)]] := by
  intro found inputs
  have hfault : .closeTransport (.fault .endedByServer) ∈
      (((Engine.new .v4 .default).run greeted).1.handle (.packet .close)).2 := by decide
  have hinputs : ∀ j ∈ inputs, j.isEnd = false := by decide
  obtain ⟨hiff, hanswers⟩ :=
    quiet_after_fault_iff .v4 .default greeted [] inputs (.packet .close) .endedByServer hfault
      (by simp) hinputs
  refine ⟨hfault, hinputs, fun hhushed => ?_, hanswers.trans (by decide)⟩
  exact hiff.1 hhushed (.packet .ping) (by simp [inputs]) (.inl ⟨by decide, .inl ⟨_, rfl, rfl⟩⟩)

/-- **A fault does not quiet the connection.**  A handshake behind it arms the timer that was stopped,
and takes the place of the one before. -/
theorem fault_not_quiet :
    ¬∀ (revision : Revision) (policy : ReconnectPolicy) (before inputs : List Input) (i : Input)
      (f : Fault),
      .closeTransport (.fault f) ∈ (((Engine.new revision policy).run before).1.handle i).2 →
        (∀ j ∈ inputs, j.isEnd = false) →
          Hushed (((Engine.new revision policy).run before).1.handle i).1 inputs := by
  intro h
  have hhushed := h .v4 .default greeted [greeting "xyz"] (.packet .close) .endedByServer (by decide)
    (by decide)
  have hsame := hhushed.same [greeting "xyz"] [] rfl
  revert hsame
  decide

end RealtimeClient.Engine
