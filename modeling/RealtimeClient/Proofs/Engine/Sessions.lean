import Mathlib
import RealtimeClient.Proofs.Engine.TransportUse

/-!
# One end for each session

A session goes on from the connect that begins it until the application is told that it has ended,
over any number of lost connections and further attempts.  It can end in many ways: by a close, by
the peer's clean end, by a loss that is not made good, by cancelling a scheduled attempt.  And a
connect that waited for a close begins the next session in the step that ends the last.

* `Active` — a session goes on; `endings` — how many ends of a session effects report.
* `Passage`, `passage_of_handle` — what an input means for the session that goes on.
* `endings_handle` — an input reports an end exactly when the session ends with it.
* `sessionsBegun`, `balance_run` — **the balance** of a run: as many ends as beginnings.
* `SinceAttempt`, `history_new` — what came since the latest attempt, read off the state.
* `each_session_ends_once` — all of it, over any run.
-/

namespace RealtimeClient

/-- **The events that end a session.** -/
def SessionEvent.isTerminal : SessionEvent → Bool
  | .failed | .closed _ => true
  | .opened | .reconnecting | .reconnect .. => false

namespace Engine

variable {e : Engine}

/-! ## Ends -/

/-- Whether an effect reports the end of a session. -/
def Effect.isTerminal : Effect → Bool
  | .notify event => event.isTerminal
  | _ => false

/-- **How many ends of a session effects report.** -/
def endings (effects : List Effect) : Nat := effects.countP Effect.isTerminal

@[simp] theorem endings_nil : endings [] = 0 := rfl

@[simp] theorem endings_cons (f : Effect) (effects : List Effect) :
    endings (f :: effects) = endings effects + if f.isTerminal then 1 else 0 :=
  List.countP_cons

@[simp] theorem endings_append (effects more : List Effect) :
    endings (effects ++ more) = endings effects + endings more :=
  List.countP_append

@[simp] theorem endings_cancelHeartbeat : endings cancelHeartbeat = 0 := rfl

/-! ## Sessions -/

/-- **A session goes on**: there is a connection, or one is under way or scheduled. -/
def Active (e : Engine) : Prop := e.state ≠ .closed ∨ e.reconnectPending = true

instance : DecidablePred Active := fun e =>
  inferInstanceAs (Decidable (e.state ≠ .closed ∨ e.reconnectPending = true))

/-- The input ends a close that a connect waits for: the connect is made in the same step. -/
def MakesDeferred (e : Engine) : Input → Prop
  | .transportClosed _ => e.state = .closing ∧ e.deferredConnect.isSome
  | _ => False

instance : (e : Engine) → DecidablePred (MakesDeferred e)
  | _, .transportClosed _ => inferInstanceAs (Decidable (_ ∧ _))
  | _, .connect .. | _, .close | _, .transportOpened | _, .frameReceived | _, .packet _
  | _, .timerFired _ | _, .setAttempts _ | _, .setDelay _ | _, .setDelayMax _ => .isFalse id

/-- **The inputs that begin a session**: a connect while none goes on, and the end of a close that a
connect waits for. -/
def BeginsSession (e : Engine) : Input → Prop
  | .connect .. => ¬Active e
  | .transportClosed normal => MakesDeferred e (.transportClosed normal)
  | _ => False

instance : (e : Engine) → DecidablePred (BeginsSession e)
  | e, .connect .. => inferInstanceAs (Decidable (¬Active e))
  | _, .transportClosed _ => inferInstanceAs (Decidable (_ ∧ _))
  | _, .close | _, .transportOpened | _, .frameReceived | _, .packet _
  | _, .timerFired _ | _, .setAttempts _ | _, .setDelay _ | _, .setDelayMax _ => .isFalse id

theorem MakesDeferred.beginsSession {i : Input} (h : MakesDeferred e i) : BeginsSession e i := by
  cases i with
  | transportClosed normal => exact h
  | _ => cases h

theorem active_of_state (hs : e.state ≠ .closed) : Active e := .inl hs

theorem not_active_iff : ¬Active e ↔ e.state = .closed ∧ e.reconnectPending = false := by
  simp [Active]

/-- A session begins with an attempt. -/
theorem BeginsSession.begins {i : Input} (h : BeginsSession e i) : Begins e i := by
  cases i with
  | connect query headers => exact .connect (not_active_iff.1 h).1 query headers
  | transportClosed normal => exact .deferred h.1 h.2 normal
  | _ => cases h

/-- **Of the attempts, those begin a session that go on none**: none went on before, or the one
that did has just ended. -/
theorem beginsSession_iff (i : Input) :
    BeginsSession e i ↔ Opens (e.handle i).2 ∧ (¬Active e ∨ MakesDeferred e i) := by
  rw [opens_iff]
  constructor
  · intro h
    refine ⟨h.begins, ?_⟩
    cases i with
    | connect query headers => exact .inl h
    | transportClosed normal => exact .inr h
    | _ => cases h
  · rintro ⟨hb, hidle⟩
    cases hb with
    | connect hs query headers => exact hidle.resolve_right id
    | deferred hs hd normal => exact ⟨hs, hd⟩
    | retry hs hp => exact hidle.resolve_right id (.inr hp)

/-! ## What an input means for the session -/

/-- **What an input means for the session that goes on**, if one does. -/
inductive Passage (e : Engine) (i : Input) : Prop
  /-- No session ends, and none begins. -/
  | still (ends : endings (e.handle i).2 = 0) (active : Active (e.handle i).1 ↔ Active e)
      (begins : ¬BeginsSession e i)
  /-- A session begins. -/
  | begins (ends : endings (e.handle i).2 = 0) (before : ¬Active e) (after : Active (e.handle i).1)
      (begins : BeginsSession e i)
  /-- The session ends, with a close or with its connection. -/
  | ends (input : i = .close ∨ ∃ normal, i = .transportClosed normal)
      (ends : endings (e.handle i).2 = 1) (before : Active e) (after : ¬Active (e.handle i).1)
      (begins : ¬BeginsSession e i)
  /-- The session ends, and the connect that waited for that begins the next one. -/
  | renews (ends : endings (e.handle i).2 = 1) (before : Active e) (after : Active (e.handle i).1)
      (deferred : MakesDeferred e i)

namespace Passage

/-- Where state and schedule stay, so does the session. -/
theorem of_same {i : Input} (ends : endings (e.handle i).2 = 0)
    (state : (e.handle i).1.state = .closed ↔ e.state = .closed)
    (pending : (e.handle i).1.reconnectPending = e.reconnectPending)
    (begins : ¬BeginsSession e i) : Passage e i := by
  refine .still ends ?_ begins
  rw [Active, Active, pending, ne_eq, ne_eq, state]

theorem of_eq {i : Input} (heq : e.handle i = (e, [])) (begins : ¬BeginsSession e i) :
    Passage e i := by
  refine of_same ?_ ?_ ?_ begins
  · rw [heq]
    rfl
  · rw [heq]
  · rw [heq]

theorem of_connect (query : Query) (headers : Headers) : Passage e (.connect query headers) := by
  cases hs : e.state with
  | closed =>
    have hstart : Active (e.handle (.connect query headers)).1 :=
      active_of_state (by simp [handle, Engine.connect, hs])
    cases hp : e.reconnectPending with
    | false =>
      have hidle : ¬Active e := not_active_iff.2 ⟨hs, hp⟩
      refine .begins ?_ hidle hstart hidle
      simp [handle, Engine.connect, hs, hp, startAttempt, Effect.isTerminal]
    | true =>
      have hactive : Active e := .inr hp
      refine .still ?_ (iff_of_true hstart hactive) (not_not_intro hactive)
      simp [handle, Engine.connect, hs, hp, startAttempt, Effect.isTerminal]
  | _ =>
    have hactive : Active e := active_of_state (by simp [hs])
    refine of_same ?_ ?_ ?_ (not_not_intro hactive) <;> simp [handle, Engine.connect, hs]

theorem of_close (hc : Coherent e) : Passage e .close := by
  cases hs : e.state with
  | closed =>
    cases hp : e.reconnectPending with
    | false =>
      refine of_same ?_ ?_ ?_ id <;> simp [handle, Engine.close, hs, hp, Effect.isTerminal]
    | true =>
      refine .ends (.inl rfl) ?_ (.inr hp) (not_active_iff.2 ⟨?_, ?_⟩) id <;>
        simp [handle, Engine.close, hs, hp, Effect.isTerminal, SessionEvent.isTerminal]
  | _ =>
    have hp : e.reconnectPending = false := hc.pending_eq_false (by simp [hs])
    refine of_same ?_ ?_ ?_ id <;> simp [handle, Engine.close, hs, hp, Effect.isTerminal]

theorem of_transportOpened : Passage e .transportOpened := by
  cases hs : e.state <;> refine of_same ?_ ?_ ?_ id <;>
    simp [handle, Engine.transportOpened, hs, Effect.isTerminal, SessionEvent.isTerminal]

/-- **A loss ends the session**, unless another attempt is scheduled. -/
theorem of_lost (hc : Coherent e) (hs : e.state = .opening ∨ e.state = .opened) {normal : Bool}
    (hl : normal = false ∨ e.Faulted) : Passage e (.transportClosed normal) := by
  have hne : e.state ≠ .closed := by rcases hs with hs | hs <;> simp [hs]
  have hclosing : e.state ≠ .closing := by rcases hs with hs | hs <;> simp [hs]
  have hactive : Active e := active_of_state hne
  have hbegins : ¬BeginsSession e (.transportClosed normal) := fun h => hclosing h.1
  have hp : e.disconnected.reconnectPending = false := hc.pending_eq_false hne
  have heq : e.handle (.transportClosed normal) = _ := transportClosed_of_lost hs hl
  by_cases ha : e.disconnected.policy.allows e.disconnected.attempts
  · refine .still ?_ (iff_of_true (.inr ?_) hactive) hbegins
    · simp [heq, lose, ha, Effect.isTerminal, SessionEvent.isTerminal]
    · simp [heq, lose, ha]
  · refine .ends (.inr ⟨normal, rfl⟩) ?_ hactive (not_active_iff.2 ⟨?_, ?_⟩) hbegins
    · by_cases ho : e.state = .opened <;>
        simp [heq, lose, ha, ho, Effect.isTerminal, SessionEvent.isTerminal]
    · rw [heq, lose_state]
      rfl
    · simpa [heq, lose, ha] using hp

/-- **A clean end of the connection ends the session.** -/
theorem of_ended (hc : Coherent e) (hs : e.state = .opening ∨ e.state = .opened)
    (hf : ¬e.Faulted) : Passage e (.transportClosed true) := by
  have hne : e.state ≠ .closed := by rcases hs with hs | hs <;> simp [hs]
  have hclosing : e.state ≠ .closing := by rcases hs with hs | hs <;> simp [hs]
  have heq : e.handle (.transportClosed true) = _ := transportClosed_of_ended hs hf
  refine .ends (.inr ⟨true, rfl⟩) ?_ (active_of_state hne) (not_active_iff.2 ⟨?_, ?_⟩)
    fun h => hclosing h.1
  · simp [heq, Effect.isTerminal, SessionEvent.isTerminal]
  · rw [heq]
    rfl
  · rw [heq]
    exact hc.pending_eq_false hne

/-- **The end of a close ends the session**, and a connect that waited for it begins the next. -/
theorem of_closing (hc : Coherent e) (hs : e.state = .closing) (normal : Bool) :
    Passage e (.transportClosed normal) := by
  have hactive : Active e := active_of_state (by simp [hs])
  have hp : e.reconnectPending = false := hc.pending_eq_false (by simp [hs])
  cases hd : e.deferredConnect with
  | none =>
    have heq : e.handle (.transportClosed normal) = _ := transportClosed_of_closing hs hd normal
    have hb : ¬BeginsSession e (.transportClosed normal) := by
      rintro ⟨-, h⟩
      simp [hd] at h
    refine .ends (.inr ⟨normal, rfl⟩) ?_ hactive (not_active_iff.2 ⟨?_, ?_⟩) hb
    · simp [heq, Effect.isTerminal, SessionEvent.isTerminal]
    · rw [heq]
      rfl
    · rw [heq]
      exact hp
  | some deferred =>
    obtain ⟨query, headers⟩ := deferred
    have heq : e.handle (.transportClosed normal) = _ :=
      transportClosed_of_deferred hs hd normal
    refine .renews ?_ hactive (active_of_state ?_) ⟨hs, by simp [hd]⟩
    · simp [heq, Engine.connect, disconnected, hp, startAttempt, Effect.isTerminal,
        SessionEvent.isTerminal]
    · simp [heq, Engine.connect, disconnected]

theorem of_transportClosed (hc : Coherent e) (normal : Bool) :
    Passage e (.transportClosed normal) := by
  have hconn (hs : e.state = .opening ∨ e.state = .opened) :
      Passage e (.transportClosed normal) := by
    rcases e.ended_or_lost normal with ⟨rfl, hf⟩ | hl
    · exact of_ended hc hs hf
    · exact of_lost hc hs hl
  cases hs : e.state with
  | opening => exact hconn (.inl hs)
  | opened => exact hconn (.inr hs)
  | closing => exact of_closing hc hs normal
  | closed =>
    refine of_eq (transportClosed_of_closed hs normal) fun h => ?_
    cases hs.symm.trans h.1

theorem of_fail {i : Input} (f : Fault) (heq : e.handle i = e.fail f)
    (hb : ¬BeginsSession e i) : Passage e i := by
  refine of_same ?_ ?_ ?_ hb
  · rw [heq, fail]
    split <;> simp [Effect.isTerminal]
  · rw [heq, fail_state]
  · rw [heq, fail]
    split <;> rfl

theorem of_frameReceived : Passage e .frameReceived := by
  refine of_same ?_ ?_ ?_ id
  · simp only [handle, Engine.frameReceived]
    split
    · split
      · simp [Effect.isTerminal]
      · split <;> simp [Effect.isTerminal]
    · rfl
  · rw [handle, frameReceived_fst]
  · rw [handle, frameReceived_fst]

/-- A packet is about the session that goes on: it neither ends it nor begins another. -/
theorem of_packet (p : Packet) : Passage e (.packet p) := by
  by_cases hs : e.state = .opened
  · cases hf : p.frame with
    | handshake =>
      have heq : e.handle (.packet p) = e.shakeHands p := by simp [handle, Engine.packet, hs, hf]
      cases hp : p.payload.head?.bind Handshake.parse? with
      | none => exact of_fail .badHandshake (by simp [heq, shakeHands, hp]) id
      | some h =>
        refine of_same ?_ ?_ ?_ id
        · cases hv : e.revision.serverPings <;> simp [heq, shakeHands, hp, hv, Effect.isTerminal]
        · simp [heq, shakeHands, hp]
        · simp [heq, shakeHands, hp]
    | close => exact of_fail .endedByServer (by simp [handle, Engine.packet, hs, hf]) id
    | ping =>
      refine of_same ?_ ?_ ?_ id <;> simp [handle, Engine.packet, hs, hf, Effect.isTerminal]
    | pong =>
      have heq : e.handle (.packet p) = e.pongReceived := by simp [handle, Engine.packet, hs, hf]
      refine of_same ?_ ?_ ?_ id
      · rw [heq, pongReceived]
        split
        · rfl
        · split <;> simp [Effect.isTerminal]
      · rw [heq, pongReceived]
        split <;> rfl
      · rw [heq, pongReceived]
        split <;> rfl
    | message => exact of_eq (by simp [handle, Engine.packet, hs, hf]) id
  · exact of_eq (by simp [handle, Engine.packet, hs]) id

theorem of_timerFired (k : TimerKind) : Passage e (.timerFired k) := by
  cases k with
  | reconnect =>
    by_cases hr : e.state = .closed ∧ e.reconnectPending
    · -- The attempt goes on with the session that it was scheduled in.
      refine .still ?_ (iff_of_true (active_of_state ?_) (.inr hr.2)) id
      · simp [handle, Engine.timerFired, hr, startAttempt, Effect.isTerminal,
          SessionEvent.isTerminal]
      · simp [handle, Engine.timerFired, hr]
    · exact of_eq (by simp only [handle, Engine.timerFired, if_neg hr]) id
  | heartbeat =>
    refine of_same ?_ ?_ ?_ id
    · simp only [handle, Engine.timerFired]
      split
      · split <;> simp [Effect.isTerminal]
      · rfl
    · simp only [handle, Engine.timerFired]
      split
      · split <;> rfl
      · rfl
    · simp only [handle, Engine.timerFired]
      split
      · split <;> rfl
      · rfl
  | pongTimeout =>
    by_cases hr : e.state = .opened ∧ e.handshake.isSome
    · exact of_fail .silence (by simp only [handle, Engine.timerFired, if_pos hr]) id
    · exact of_eq (by simp only [handle, Engine.timerFired, if_neg hr]) id

end Passage

/-- **Every input is one of the four.** -/
theorem passage_of_handle (hc : Coherent e) (i : Input) : Passage e i := by
  cases i with
  | connect query headers => exact .of_connect query headers
  | close => exact .of_close hc
  | transportOpened => exact .of_transportOpened
  | transportClosed normal => exact .of_transportClosed hc normal
  | frameReceived => exact .of_frameReceived
  | packet p => exact .of_packet p
  | timerFired k => exact .of_timerFired k
  | setAttempts attempts => exact .of_same rfl Iff.rfl rfl id
  | setDelay delay => exact .of_same rfl Iff.rfl rfl id
  | setDelayMax delay => exact .of_same rfl Iff.rfl rfl id

/-- **An input reports an end exactly when the session ends with it**, and never more than one. -/
theorem endings_handle (hc : Coherent e) (i : Input) :
    endings (e.handle i).2 =
      if Active e ∧ (¬Active (e.handle i).1 ∨ MakesDeferred e i) then 1 else 0 := by
  cases passage_of_handle hc i with
  | still ends active begins =>
    rw [ends, if_neg]
    rintro ⟨hbefore, hafter | hdeferred⟩
    · exact hafter (active.2 hbefore)
    · exact begins hdeferred.beginsSession
  | begins ends before _ _ => rw [ends, if_neg fun h => before h.1]
  | ends _ ends before after _ => rw [ends, if_pos ⟨before, .inl after⟩]
  | renews ends before _ deferred => rw [ends, if_pos ⟨before, .inr deferred⟩]

/-! ## The balance of a run -/

/-- How many sessions go on: one or none. -/
def ongoing (e : Engine) : Nat := if Active e then 1 else 0

/-- **How many sessions a run begins.** -/
def sessionsBegun (e : Engine) : List Input → Nat
  | [] => 0
  | i :: rest => (if BeginsSession e i then 1 else 0) + sessionsBegun (e.handle i).1 rest

/-- The balance of one input: what went on and what began has ended or goes on. -/
theorem balance_handle (hc : Coherent e) (i : Input) :
    endings (e.handle i).2 + ongoing (e.handle i).1 =
      ongoing e + if BeginsSession e i then 1 else 0 := by
  cases passage_of_handle hc i with
  | still ends active begins => simp [ongoing, ends, active, begins]
  | begins ends before after begins => simp [ongoing, ends, before, after, begins]
  | ends _ ends before after begins => simp [ongoing, ends, before, after, begins]
  | renews ends before after deferred =>
    simp [ongoing, ends, before, after, deferred.beginsSession]

/-- **The balance of a run**, by induction on its inputs. -/
theorem balance_run (hc : Coherent e) (inputs : List Input) :
    ((e.run inputs).2.map endings).sum + ongoing (e.run inputs).1 =
      ongoing e + sessionsBegun e inputs := by
  induction inputs generalizing e with
  | nil => simp [sessionsBegun]
  | cons i rest ih =>
    have hstep := balance_handle hc i
    have hrest := ih (hc.handle i)
    simp only [run_cons, List.map_cons, List.sum_cons, sessionsBegun]
    omega

/-- A connect that waits for a close: the close ends one session and begins the other. -/
example :
    let run := (Engine.new .v4 .default).run
      [.connect .nil .nil, .close, .connect .nil .nil, .transportClosed true]
    run.2.map endings = [0, 0, 0, 1] ∧ ongoing run.1 = 1 := by decide

/-! ## The two losses

A session that ends by a loss is reported as failed or as dropped.  Which of the two it is depends
on the state alone; that the state tells whether the connection was open is a matter of the run.
-/

/-- No other input than a close or the end of a connection ends a session. -/
theorem endings_eq_zero (hc : Coherent e) {i : Input} (hclose : i ≠ .close)
    (hclosed : ∀ normal, i ≠ .transportClosed normal) : endings (e.handle i).2 = 0 := by
  cases passage_of_handle hc i with
  | still ends _ _ => exact ends
  | begins ends _ _ _ => exact ends
  | ends input _ _ _ _ =>
    rcases input with hi | ⟨normal, hi⟩
    · exact absurd hi hclose
    · exact absurd hi (hclosed normal)
  | renews _ _ _ deferred =>
    cases i with
    | transportClosed normal => exact absurd rfl (hclosed normal)
    | _ => cases deferred

/-- Where no end is reported, no effect reports one. -/
theorem not_mem_of_endings_eq_zero {effects : List Effect} (h : endings effects = 0) {f : Effect}
    (hf : f.isTerminal = true) : f ∉ effects := by
  intro hm
  exact List.countP_eq_zero.1 h f hm hf

/-- What the end of a connection reports, apart from a normal close, tells whether it was open. -/
theorem state_of_loss_transportClosed (hc : Coherent e) {event : SessionEvent} {normal : Bool}
    (hevent : event = .failed ∨ event = .closed .drop)
    (hm : .notify event ∈ (e.transportClosed normal).2) :
    event = .failed ∧ e.state = .opening ∨ event = .closed .drop ∧ e.state = .opened := by
  have hnormal : event ≠ .closed .normal := by rcases hevent with rfl | rfl <;> simp
  have hconn (hs : e.state = .opening ∨ e.state = .opened) :
      event = .failed ∧ e.state = .opening ∨ event = .closed .drop ∧ e.state = .opened := by
    rcases e.ended_or_lost normal with ⟨rfl, hf⟩ | hl
    · rw [transportClosed_of_ended hs hf] at hm
      simp [cancelHeartbeat, hnormal] at hm
    · rw [transportClosed_of_lost hs hl, lose] at hm
      split at hm
      · rcases hevent with rfl | rfl <;> simp [cancelHeartbeat] at hm
      · rcases hs with hs | hs
        · exact .inl ⟨by simpa [cancelHeartbeat, hs] using hm, hs⟩
        · exact .inr ⟨by simpa [cancelHeartbeat, hs] using hm, hs⟩
  cases hs : e.state with
  | opening => simpa [hs] using hconn (.inl hs)
  | opened => simpa [hs] using hconn (.inr hs)
  | closed =>
    rw [transportClosed_of_closed hs] at hm
    cases hm
  | closing =>
    -- a close is reported as normal, whatever the transport says of it
    cases hd : e.deferredConnect with
    | none =>
      rw [transportClosed_of_closing hs hd] at hm
      simp [cancelHeartbeat, hnormal] at hm
    | some deferred =>
      rw [transportClosed_of_deferred hs hd] at hm
      have hp : e.reconnectPending = false := hc.pending_eq_false (by simp [hs])
      simp [cancelHeartbeat, hnormal, Engine.connect, disconnected, startAttempt, hp] at hm

/-- **The loss of a connection that never opened** is reported as a failure, that of one that did
as a drop; nothing else is reported as either. -/
theorem state_of_loss (hc : Coherent e) {i : Input} {event : SessionEvent}
    (hevent : event = .failed ∨ event = .closed .drop) (hm : .notify event ∈ (e.handle i).2) :
    (∃ normal, i = .transportClosed normal) ∧
      (event = .failed ∧ e.state = .opening ∨ event = .closed .drop ∧ e.state = .opened) := by
  have hterminal : (Effect.notify event).isTerminal = true := by
    rcases hevent with rfl | rfl <;> rfl
  have hnormal : event ≠ .closed .normal := by rcases hevent with rfl | rfl <;> simp
  by_cases hi : ∃ normal, i = .transportClosed normal
  · obtain ⟨normal, rfl⟩ := hi
    exact ⟨⟨normal, rfl⟩, state_of_loss_transportClosed hc hevent hm⟩
  · by_cases hclose : i = .close
    · subst hclose
      rw [handle, close] at hm
      split at hm
      · simp [cancelHeartbeat] at hm
      · simp [cancelHeartbeat] at hm
      · cases hm
      · split at hm <;> simp [hnormal] at hm
    · have hzero := endings_eq_zero hc hclose fun normal hn => hi ⟨normal, hn⟩
      exact absurd hm (not_mem_of_endings_eq_zero hzero hterminal)

/-! ## What came since the latest attempt -/

/-- **What came since the latest attempt** of a run: the inputs behind the last one that opened the
transport. -/
def SinceAttempt (e : Engine) (inputs later : List Input) : Prop :=
  ∃ earlier i, inputs = earlier ++ i :: later ∧ Opens ((e.run earlier).1.handle i).2 ∧
    ∀ effects ∈ ((e.run (earlier ++ [i])).1.run later).2, ¬Opens effects

namespace SinceAttempt

/-- Right after an attempt has begun nothing has come. -/
theorem begun {inputs : List Input} {i : Input} (h : Begins (e.run inputs).1 i) :
    SinceAttempt e (inputs ++ [i]) [] :=
  ⟨inputs, i, rfl, h.opens.1, by simp⟩

/-- An input that begins no attempt is one more that has come since the latest. -/
theorem concat {inputs later : List Input} (h : SinceAttempt e inputs later) {i : Input}
    (hi : ¬Begins (e.run inputs).1 i) : SinceAttempt e (inputs ++ [i]) (later ++ [i]) := by
  obtain ⟨earlier, j, rfl, hopens, hlater⟩ := h
  refine ⟨earlier, j, by simp, hopens, fun effects hm => ?_⟩
  rw [run_append] at hm
  rcases List.mem_append.1 hm with hm | hm
  · exact hlater effects hm
  · have heq : ((e.run (earlier ++ [j])).1.run later).1 = (e.run (earlier ++ j :: later)).1 := by
      rw [List.append_cons earlier j later, run_append e (earlier ++ [j]) later]
    rw [heq] at hm
    obtain rfl : effects = _ := List.mem_singleton.1 hm
    exact fun ho => hi ((opens_iff _ i).1 ho)

end SinceAttempt

/-- **The state tells what came since the latest attempt** of a run: with a connection under way
neither its opening nor a close, with an open one the opening and no close. -/
structure History (e : Engine) (inputs : List Input) : Prop where
  opening : (e.run inputs).1.state = .opening →
    ∃ later, SinceAttempt e inputs later ∧ .transportOpened ∉ later ∧ .close ∉ later
  opened : (e.run inputs).1.state = .opened →
    ∃ later, SinceAttempt e inputs later ∧ .transportOpened ∈ later ∧ .close ∉ later

/-- One more input, and the state tells what has come. -/
theorem History.concat {inputs : List Input} (h : History e inputs) (i : Input) :
    History e (inputs ++ [i]) := by
  have hrun : (e.run (inputs ++ [i])).1 = ((e.run inputs).1.handle i).1 := by
    rw [run_append]
    rfl
  have hclose {later : List Input} (hc : .close ∉ later) (hi : i ≠ .close) :
      .close ∉ later ++ [i] := by simpa [hc] using hi.symm
  constructor
  · intro hs
    rw [hrun] at hs
    by_cases hb : Begins (e.run inputs).1 i
    · exact ⟨[], .begun hb, by simp, by simp⟩
    · have hbefore : (e.run inputs).1.state = .opening :=
        ((begins_or (e.run inputs).1 i).resolve_left hb).2 hs
      have hi : i ≠ .transportOpened := by
        rintro rfl
        simp [handle, transportOpened, hbefore] at hs
      have hi' : i ≠ .close := by
        rintro rfl
        rcases state_close (e.run inputs).1 with hs' | hs' <;> cases hs.symm.trans hs'
      obtain ⟨later, hsince, hopened, hcl⟩ := h.opening hbefore
      exact ⟨later ++ [i], hsince.concat hb, by simpa [hopened] using hi.symm, hclose hcl hi'⟩
  · intro hs
    rw [hrun] at hs
    have hb : ¬Begins (e.run inputs).1 i := fun hb => by cases hs.symm.trans hb.opens.2
    have hi' : i ≠ .close := by
      rintro rfl
      rcases state_close (e.run inputs).1 with hs' | hs' <;> cases hs.symm.trans hs'
    by_cases hbefore : (e.run inputs).1.state = .opened
    · obtain ⟨later, hsince, hopened, hcl⟩ := h.opened hbefore
      exact ⟨later ++ [i], hsince.concat hb, List.mem_append_left _ hopened, hclose hcl hi'⟩
    · obtain ⟨hopening, rfl⟩ := (enters_opened_iff hbefore i).1 hs
      obtain ⟨later, hsince, -, hcl⟩ := h.opening hopening
      exact ⟨later ++ [.transportOpened], hsince.concat hb, by simp, hclose hcl (by simp)⟩

/-- **In every run from a new engine the state tells what came**, by induction on its last input. -/
theorem history_new (revision : Revision) (policy : ReconnectPolicy) (inputs : List Input) :
    History (.new revision policy) inputs := by
  induction inputs using List.reverseRecOn with
  | nil => constructor <;> simp [Engine.new]
  | append_singleton inputs i ih => exact ih.concat i

/-- **Each session ends once.**  After any run, an input reports exactly one end of a session if one
goes on and either none goes on any more or a connect that waited has begun the next; otherwise it
reports none.  So over the run there are as many ends, one more counted if a session still goes on,
as sessions were begun; the inputs that begin one are those that open the transport with no session
going on, or with the one that did just ended.  A failure is reported only of a connection that
never opened, a drop only of one that did, neither with a close, and neither where the application
has closed since the attempt. -/
theorem each_session_ends_once (revision : Revision) (policy : ReconnectPolicy)
    (inputs : List Input) :
    let start := Engine.new revision policy
    let left := (start.run inputs).1
    (∀ i, endings (left.handle i).2 =
        if Active left ∧ (¬Active (left.handle i).1 ∨ MakesDeferred left i) then 1 else 0) ∧
      ((start.run inputs).2.map endings).sum + ongoing left = sessionsBegun start inputs ∧
      (∀ i, BeginsSession left i ↔
        Opens (left.handle i).2 ∧ (¬Active left ∨ MakesDeferred left i)) ∧
      (∀ i, .notify .failed ∈ (left.handle i).2 → i ≠ .close ∧
        ∃ later, SinceAttempt start inputs later ∧ .transportOpened ∉ later ∧ .close ∉ later) ∧
      (∀ i, .notify (.closed .drop) ∈ (left.handle i).2 → i ≠ .close ∧
        ∃ later, SinceAttempt start inputs later ∧ .transportOpened ∈ later ∧ .close ∉ later) := by
  intro start left
  have hc : Coherent left := ((Reachable.new revision policy).run inputs).coherent
  have hhistory : History start inputs := history_new revision policy inputs
  have hbalance := balance_run (Coherent.new revision policy) inputs
  have hidle : ongoing start = 0 := rfl
  refine ⟨endings_handle hc, ?_, beginsSession_iff, ?_, ?_⟩
  · rw [← Nat.zero_add (sessionsBegun start inputs), ← hidle]
    exact hbalance
  · intro i hm
    obtain ⟨⟨normal, rfl⟩, hstate⟩ := state_of_loss hc (.inl rfl) hm
    have hs : left.state = .opening := by simpa using hstate
    exact ⟨by simp, hhistory.opening hs⟩
  · intro i hm
    obtain ⟨⟨normal, rfl⟩, hstate⟩ := state_of_loss hc (.inr rfl) hm
    have hs : left.state = .opened := by simpa using hstate
    exact ⟨by simp, hhistory.opened hs⟩

end Engine

end RealtimeClient
