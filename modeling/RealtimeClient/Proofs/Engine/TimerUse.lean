import Mathlib
import RealtimeClient.Proofs.Engine.Supervision

/-!
# What the armed timers belong to

A timer that outlives what it was armed for fires into the next connection.  None does: the timer of
the next attempt is armed exactly while an attempt is scheduled, and the timers of the heartbeat only
while a connection is open and its handshake has come.

* `Timely` — the armed timers fit the state of the engine.
* `Timely.connect`, `Timely.transportClosed` and so on — one lemma for each handler; `Timely.step` —
  every input that comes to a timed engine keeps them fitting.
* `Timely.armed_eq` — without an open connection at most the timer of the next attempt is armed.
* `timers_belong` — fields and timers of every reachable engine are coherent.
-/

namespace RealtimeClient.Engine

variable {e : Engine} {armed : Finset TimerKind}

/-- **The armed timers fit the state of the engine.** -/
structure Timely (e : Engine) (armed : Finset TimerKind) : Prop where
  /-- The timer of the next attempt is armed exactly while one is scheduled. -/
  scheduled : .reconnect ∈ armed ↔ e.reconnectPending = true
  /-- Every other timer belongs to an open connection whose handshake has come. -/
  connected : ∀ k ∈ armed, k ≠ .reconnect → e.state = .opened ∧ e.handshake.isSome

theorem rearm_append (armed : Finset TimerKind) (effects more : List Effect) :
    rearm armed (effects ++ more) = rearm (rearm armed effects) more :=
  List.foldl_append

/-- Once the heartbeat is stopped, only the timer of the next attempt can be armed. -/
theorem mem_rearm_cancelHeartbeat {k : TimerKind} :
    k ∈ rearm armed cancelHeartbeat ↔ k = .reconnect ∧ k ∈ armed := by
  cases k <;> simp [cancelHeartbeat, Effect.rearm]

namespace Timely

/-- No timer is armed on a new engine. -/
theorem new (revision : Revision) (policy : ReconnectPolicy) :
    Timely (.new revision policy) ∅ := by
  constructor <;> simp [Engine.new]

/-- What keeps the fields that timers depend on keeps the timers fitting. -/
theorem of_fields (h : Timely e armed) {e' : Engine} (hs : e'.state = e.state)
    (hh : e.handshake.isSome → e'.handshake.isSome)
    (hp : e'.reconnectPending = e.reconnectPending) : Timely e' armed where
  scheduled := hp ▸ h.scheduled
  connected k hk hne := by
    obtain ⟨hopened, hsome⟩ := h.connected k hk hne
    exact ⟨hs.trans hopened, hh hsome⟩

/-- Stopping the heartbeat leaves a timer at most for the schedule, so the connection may go. -/
theorem of_cancelHeartbeat (hp : .reconnect ∈ armed ↔ e.reconnectPending = true) :
    Timely e (rearm armed cancelHeartbeat) where
  scheduled := by simpa [mem_rearm_cancelHeartbeat] using hp
  connected k hk hne := absurd (mem_rearm_cancelHeartbeat.1 hk).1 hne

/-- A timer of the heartbeat may be armed on an open connection whose handshake has come. -/
theorem arm (h : Timely e armed) (hs : e.state = .opened) (hh : e.handshake.isSome)
    {k : TimerKind} (hk : k ≠ .reconnect) : Timely e (insert k armed) where
  scheduled := by simpa [hk.symm] using h.scheduled
  connected _ _ _ := ⟨hs, hh⟩

/-- A timer of the heartbeat may be cancelled at any time. -/
theorem erase (h : Timely e armed) {k : TimerKind} (hk : k ≠ .reconnect) :
    Timely e (armed.erase k) where
  scheduled := by simpa [hk.symm] using h.scheduled
  connected j hj := h.connected j (Finset.mem_of_mem_erase hj)

/-- **Without an open connection** at most the timer of the next attempt is armed. -/
theorem armed_eq (h : Timely e armed) (hs : e.state ≠ .opened) :
    armed = if e.reconnectPending then {.reconnect} else ∅ := by
  have hnone (k : TimerKind) (hk : k ≠ .reconnect) : k ∉ armed :=
    fun hm => hs (h.connected k hm hk).1
  ext k
  by_cases hk : k = .reconnect
  · subst hk
    rw [h.scheduled]
    cases e.reconnectPending <;> simp
  · refine iff_of_false (hnone k hk) ?_
    split <;> simp [hk]

/-! ## Handlers -/

theorem startAttempt (hp : e.reconnectPending = false) (harmed : armed = ∅) :
    Timely e.startAttempt.1 (rearm armed e.startAttempt.2) := by
  subst harmed
  constructor <;> simp [Engine.startAttempt, Effect.rearm, hp]

/-- A connect without a connection cancels what is scheduled. -/
theorem connect (h : Timely e armed) (query : Query) (headers : Headers) :
    Timely (e.connect query headers).1 (rearm armed (e.connect query headers).2) := by
  rw [Engine.connect]
  split
  · exact h
  · exact h
  · exact h.of_fields rfl id rfl
  · next hs =>
    have harmed := h.armed_eq (by simp [hs])
    rw [rearm_append]
    refine startAttempt rfl ?_
    cases hp : e.reconnectPending <;> simp [hp, harmed, Effect.rearm]

/-- A close stops the heartbeat, or cancels what is scheduled. -/
theorem close (h : Timely e armed) : Timely e.close.1 (rearm armed e.close.2) := by
  have hstop {e' : Engine} (hp : e'.reconnectPending = e.reconnectPending) :
      Timely e' (rearm armed (.socketsClose :: cancelHeartbeat ++ [.closeTransport .user])) := by
    rw [List.cons_append, rearm_cons, rearm_append]
    exact of_cancelHeartbeat (hp ▸ h.scheduled)
  rw [Engine.close]
  split
  · exact hstop rfl
  · exact hstop rfl
  · exact h
  · next hs =>
    split
    · next hp =>
      have harmed := h.armed_eq (by simp [hs])
      constructor <;> simp [Effect.rearm, harmed, hp]
    · exact h.of_fields rfl id rfl

/-- A fault stops the heartbeat. -/
theorem fail (h : Timely e armed) (f : Fault) :
    Timely (e.fail f).1 (rearm armed (e.fail f).2) := by
  rw [Engine.fail]
  split
  · exact h
  · rw [rearm_append]
    exact of_cancelHeartbeat h.scheduled

/-- The report that the transport is open arms nothing: the handshake is still to come. -/
theorem transportOpened (h : Timely e armed) :
    Timely e.transportOpened.1 (rearm armed e.transportOpened.2) := by
  rw [Engine.transportOpened]
  split
  · next hs =>
    refine ⟨h.scheduled, fun k hk hne => ?_⟩
    cases hs.symm.trans (h.connected k hk hne).1
  · exact h
  · exact h
  · exact h

/-- A loss schedules the next attempt with its timer, or nothing. -/
theorem lose (h : Timely e armed) (hs : e.state = .closed) (wasOpen : Bool) :
    Timely (e.lose wasOpen).1 (rearm armed (e.lose wasOpen).2) := by
  rw [Engine.lose]
  split
  · refine ⟨by simp [Effect.rearm], fun k hk hne => ?_⟩
    have hmem : k ∈ armed := by simpa [Effect.rearm, hne] using hk
    cases hs.symm.trans (h.connected k hmem hne).1
  · exact h.of_fields rfl id rfl

/-- **No timer of the heartbeat outlives its connection.** -/
theorem transportClosed (h : Timely e armed) (normal : Bool) :
    Timely (e.transportClosed normal).1 (rearm armed (e.transportClosed normal).2) := by
  have hstopped {e' : Engine} (hp : e'.reconnectPending = e.reconnectPending) :
      Timely e' (rearm armed cancelHeartbeat) := of_cancelHeartbeat (hp ▸ h.scheduled)
  have hconn (hs : e.state = .opening ∨ e.state = .opened) :
      Timely (e.transportClosed normal).1 (rearm armed (e.transportClosed normal).2) := by
    rcases e.ended_or_lost normal with ⟨rfl, hf⟩ | hl
    · rw [transportClosed_of_ended hs hf, rearm_append]
      exact hstopped rfl
    · rw [transportClosed_of_lost hs hl, rearm_append]
      have hgone : Timely e.disconnected (rearm armed cancelHeartbeat) := hstopped rfl
      exact hgone.lose rfl _
  cases hs : e.state with
  | opening => exact hconn (.inl hs)
  | opened => exact hconn (.inr hs)
  | closed =>
    rw [transportClosed_of_closed hs]
    exact h
  | closing =>
    cases hd : e.deferredConnect with
    | none =>
      rw [transportClosed_of_closing hs hd, rearm_append]
      exact hstopped rfl
    | some deferred =>
      obtain ⟨query, headers⟩ := deferred
      rw [transportClosed_of_deferred hs hd, List.append_assoc, rearm_append]
      have hgone : Timely { e.disconnected with deferredConnect := none }
          (rearm armed cancelHeartbeat) := hstopped rfl
      exact hgone.connect query headers

/-- A frame arms a timer of the heartbeat on a live session only. -/
theorem frameReceived (h : Timely e armed) :
    Timely e.frameReceived.1 (rearm armed e.frameReceived.2) := by
  rw [frameReceived_fst, Engine.frameReceived]
  split
  · next hs _ hh =>
    have hsome : e.handshake.isSome := by simp [hh]
    split
    · exact h.arm hs hsome (by simp)
    · split
      · exact h.arm hs hsome (by simp)
      · exact h
  · exact h

/-- A handshake arms the first timer of the heartbeat. -/
theorem shakeHands (h : Timely e armed) (hs : e.state = .opened) (p : Packet) :
    Timely (e.shakeHands p).1 (rearm armed (e.shakeHands p).2) := by
  rw [Engine.shakeHands]
  split
  · exact h.fail _
  · next parsed _ =>
    have hshaken : Timely { e with handshake := some parsed } armed :=
      h.of_fields rfl (fun _ => rfl) rfl
    cases e.revision.serverPings
    · exact hshaken.arm hs rfl (by simp)
    · exact hshaken.arm hs rfl (by simp)

theorem pongReceived (h : Timely e armed) (hs : e.state = .opened) :
    Timely e.pongReceived.1 (rearm armed e.pongReceived.2) := by
  rw [Engine.pongReceived]
  split
  · exact h
  · have hcancelled : Timely { e with awaitingPong := false } (armed.erase .pongTimeout) :=
      (h.erase (by simp)).of_fields rfl id rfl
    cases hh : e.handshake with
    | none => simpa [Effect.rearm, hh] using hcancelled
    | some shaken => simpa [Effect.rearm, hh] using hcancelled.arm hs (by simp [hh]) (by simp)

theorem packet (h : Timely e armed) (p : Packet) :
    Timely (e.packet p).1 (rearm armed (e.packet p).2) := by
  rw [Engine.packet]
  split
  · exact h
  · next hs =>
    have hs : e.state = .opened := by simpa using hs
    split
    · exact h.shakeHands hs p
    · exact h.fail _
    · exact h
    · exact h.pongReceived hs
    · exact h

/-- **The timer that fires is not armed any more**: that of the next attempt with the schedule, and
that of the heartbeat for its successor. -/
theorem timerFired (hc : Coherent e) (h : Timely e armed) {k : TimerKind} (hk : k ∈ armed) :
    Timely (e.timerFired k).1 (rearm (armed.erase k) (e.timerFired k).2) := by
  cases k with
  | reconnect =>
    have hp : e.reconnectPending = true := h.scheduled.1 hk
    have hs : e.state = .closed := hc.closed_of_pending hp
    have harmed := h.armed_eq (by simp [hs])
    simp only [Engine.timerFired, hs, hp, and_self, if_true, rearm_cons]
    refine startAttempt rfl ?_
    simp [Effect.rearm, harmed, hp]
  | heartbeat =>
    have hrest : Timely e (armed.erase .heartbeat) := h.erase (by simp)
    unfold Engine.timerFired
    dsimp only
    split
    · next hs _ hh =>
      split
      · exact hrest
      · have hawaiting : Timely { e with awaitingPong := true } (armed.erase .heartbeat) :=
          hrest.of_fields rfl id rfl
        exact hawaiting.arm hs (by simp [hh]) (by simp)
    · exact hrest
  | pongTimeout =>
    have hrest : Timely e (armed.erase .pongTimeout) := h.erase (by simp)
    unfold Engine.timerFired
    dsimp only
    split
    · exact hrest.fail _
    · exact hrest

/-! ## Runs -/

/-- **Every input that comes to a timed engine keeps the timers fitting.** -/
theorem step {s : Timed} (hc : Coherent s.engine) (h : Timely s.engine s.armed) {i : Input}
    (hi : s.Admits i) : Timely (s.step i).engine (s.step i).armed := by
  cases i with
  | connect query headers => exact h.connect query headers
  | close => exact h.close
  | transportOpened => exact h.transportOpened
  | transportClosed normal => exact h.transportClosed normal
  | frameReceived => exact h.frameReceived
  | packet p => exact h.packet p
  | timerFired k => exact timerFired hc h hi
  | setAttempts attempts => exact h.of_fields rfl id rfl
  | setDelay delay => exact h.of_fields rfl id rfl
  | setDelayMax delay => exact h.of_fields rfl id rfl

end Timely

theorem Timed.Reachable.timely {s : Timed} (hs : s.Reachable) : Timely s.engine s.armed := by
  induction hs with
  | new revision policy => exact .new revision policy
  | step i hs hi ih => exact ih.step hs.engine.coherent hi

/-- **Fields and timers are coherent.**  After any run the fields of the engine fit each other.  Where
timers fire only while they are armed, the armed ones fit the state, too; so none outlives its
connection: unless one is open, the timer of the next attempt is armed if that attempt is scheduled,
and no other. -/
theorem timers_belong :
    (∀ revision policy inputs, Coherent ((Engine.new revision policy).run inputs).1) ∧
      ∀ s : Timed, s.Reachable → Coherent s.engine ∧ Timely s.engine s.armed ∧
        (s.engine.state ≠ .opened →
          s.armed = if s.engine.reconnectPending then {.reconnect} else ∅) := by
  refine ⟨fun revision policy inputs => ?_, fun s hs => ?_⟩
  · exact ((Reachable.new revision policy).run inputs).coherent
  · exact ⟨hs.engine.coherent, hs.timely, hs.timely.armed_eq⟩

/-- The connection is lost while a heartbeat is unanswered and its timer armed. -/
def lostUnanswered : Timed := unanswered.step (.transportClosed false)

/-- That timer is gone with the connection, and the one of the next attempt is armed in its place. -/
theorem lostUnanswered_timely :
    lostUnanswered.Reachable ∧ lostUnanswered.engine.state ≠ .opened ∧
      .pongTimeout ∈ unanswered.armed ∧ lostUnanswered.armed = {.reconnect} := by
  have harmed : .heartbeat ∈ established.armed := by decide
  have hr : lostUnanswered.Reachable :=
    .step _ (.step _ (.step _ (.step _ (.step _ (.new .v3 .default) trivial) trivial) trivial)
      harmed) trivial
  have hs : lostUnanswered.engine.state ≠ .opened := by decide
  exact ⟨hr, hs, by decide, (timers_belong.2 lostUnanswered hr).2.2 hs⟩

end RealtimeClient.Engine
