import Mathlib
import RealtimeClient.Proofs.Engine.SocketUse

/-!
# How often a lost connection is tried again

Attempts are counted anew whenever the application begins one and whenever one succeeds; in between,
each further attempt counts.  The engine has one counter for that, which some inputs reset and others
leave as it is, also where nothing is counted any more.  While a connection is under way or open, or
an attempt is scheduled, it tells how many further attempts were made, and that is all a limit needs.

* `CountsAnew` — the inputs from which on attempts are counted anew; `retries` — the further attempts
  that a run has made since.
* `Counting`, `Tally`, `tally_of_handle` — what an input means for the counter.
* `counted_run` — the counter tells `retries`, whenever it is asked; `Within`, `within_run` — what a
  limit adds.
* `Loses`, `Reschedules`, `Surrenders` — a loss, and the two ways it is dealt with.
* `retries_bounded` — all of it, over any run.
-/

namespace RealtimeClient.Engine

variable {e : Engine}

/-! ## What effects tell -/

/-- The event that an effect reports. -/
@[simp] def reported? : Effect → Option SessionEvent
  | .notify event => some event
  | _ => none

/-- The timer that an effect arms, with its delay. -/
@[simp] def arming? : Effect → Option (TimerKind × Duration)
  | .arm k delay => some (k, delay)
  | _ => none

/-- The events that effects report, in order. -/
def reports (effects : List Effect) : List SessionEvent := effects.filterMap reported?

/-- The timers that effects arm, with their delays. -/
def armings (effects : List Effect) : List (TimerKind × Duration) := effects.filterMap arming?

/-- **How many further attempts effects report to begin.** -/
def reconnections (effects : List Effect) : Nat := (reports effects).count .reconnecting

@[simp] theorem reports_nil : reports [] = [] := rfl

@[simp] theorem reports_cons (effect : Effect) (effects : List Effect) :
    reports (effect :: effects) = (reported? effect).toList ++ reports effects := by
  cases effect <;> rfl

@[simp] theorem reports_append (effects more : List Effect) :
    reports (effects ++ more) = reports effects ++ reports more :=
  List.filterMap_append

@[simp] theorem reports_cancelHeartbeat : reports cancelHeartbeat = [] := rfl

@[simp] theorem armings_nil : armings [] = [] := rfl

@[simp] theorem armings_cons (effect : Effect) (effects : List Effect) :
    armings (effect :: effects) = (arming? effect).toList ++ armings effects := by
  cases effect <;> rfl

@[simp] theorem armings_append (effects more : List Effect) :
    armings (effects ++ more) = armings effects ++ armings more :=
  List.filterMap_append

@[simp] theorem armings_cancelHeartbeat : armings cancelHeartbeat = [] := rfl

/-- Nothing begins where nothing is reported. -/
theorem reconnections_of_reports {effects : List Effect} (h : reports effects = []) :
    reconnections effects = 0 := by
  rw [reconnections, h]
  rfl

/-! ## Counting anew -/

/-- **The inputs from which on attempts are counted anew**: the application's connect begins an
attempt, at once or after a close, or an attempt succeeds. -/
def CountsAnew (e : Engine) : Input → Prop
  | .connect .. => e.state = .closed
  | .transportClosed _ => e.state = .closing ∧ e.deferredConnect.isSome
  | .transportOpened => e.state = .opening
  | _ => False

instance : (e : Engine) → DecidablePred (CountsAnew e)
  | _, .connect .. => inferInstanceAs (Decidable (_ = _))
  | _, .transportClosed _ => inferInstanceAs (Decidable (_ ∧ _))
  | _, .transportOpened => inferInstanceAs (Decidable (_ = _))
  | _, .close | _, .frameReceived | _, .packet _ | _, .timerFired _ | _, .setAttempts _
  | _, .setDelay _ | _, .setDelayMax _ => .isFalse id

/-- **Attempts are counted anew exactly where an input opens the transport**, the timer of the next
attempt apart, **and where the connection is open.** -/
theorem countsAnew_iff (e : Engine) (i : Input) :
    CountsAnew e i ↔
      Opens (e.handle i).2 ∧ i ≠ .timerFired .reconnect ∨ .socketsOpen ∈ (e.handle i).2 := by
  rw [opens_iff, socketsOpen_mem_iff]
  constructor
  · intro h
    cases i with
    | connect query headers => exact .inl ⟨.connect h query headers, by simp⟩
    | transportClosed normal => exact .inl ⟨.deferred h.1 h.2 normal, by simp⟩
    | transportOpened => exact .inr ⟨h, rfl⟩
    | _ => cases h
  · rintro (⟨hb, htimer⟩ | ⟨hs, rfl⟩)
    · cases hb with
      | connect hs query headers => exact hs
      | deferred hs hd normal => exact ⟨hs, hd⟩
      | retry hs hp => exact absurd rfl htimer
    · exact hs

/-- **The further attempts since attempts were last counted anew**, after a run that begins with so
many made. -/
def retries (e : Engine) (made : Nat) : List Input → Nat
  | [] => made
  | i :: rest =>
    retries (e.handle i).1 (if CountsAnew e i then 0 else made + reconnections (e.handle i).2) rest

/-- **A stretch of a run in which attempts are nowhere counted anew.** -/
def NoneAnew (e : Engine) : List Input → Prop
  | [] => True
  | i :: rest => ¬CountsAnew e i ∧ NoneAnew (e.handle i).1 rest

theorem retries_append (e : Engine) (made : Nat) (inputs more : List Input) :
    retries e made (inputs ++ more) =
      retries (e.run inputs).1 (retries e made inputs) more := by
  induction inputs generalizing e made with
  | nil => rfl
  | cons i rest ih => exact ih _ _

/-- On such a stretch every further attempt counts. -/
theorem retries_of_noneAnew {inputs : List Input} (h : NoneAnew e inputs) (made : Nat) :
    retries e made inputs = made + ((e.run inputs).2.map reconnections).sum := by
  induction inputs generalizing e made with
  | nil => rfl
  | cons i rest ih =>
    simp only [retries, if_neg h.1, ih h.2, run_cons, List.map_cons, List.sum_cons, Nat.add_assoc]

/-! ## What an input means for the counter -/

/-- **The counter counts**: a connection is under way or open, or an attempt is scheduled. -/
def Counting (e : Engine) : Prop :=
  e.state = .opening ∨ e.state = .opened ∨ e.reconnectPending = true

/-- **What an input means for the counter.** -/
inductive Tally (e : Engine) (i : Input) : Prop
  /-- Nothing. -/
  | still (anew : ¬CountsAnew e i) (begun : reconnections (e.handle i).2 = 0)
      (attempts : (e.handle i).1.attempts = e.attempts)
      (pending : (e.handle i).1.reconnectPending = e.reconnectPending)
      (counting : Counting (e.handle i).1 → Counting e)
  /-- It is reset, and attempts are counted anew. -/
  | anew (anew : CountsAnew e i) (attempts : (e.handle i).1.attempts = 0)
      (pending : (e.handle i).1.reconnectPending = false)
  /-- It has counted to the end. -/
  | ends (anew : ¬CountsAnew e i) (begun : reconnections (e.handle i).2 = 0)
      (attempts : (e.handle i).1.attempts ≤ e.attempts) (idle : ¬Counting (e.handle i).1)
  /-- A further attempt is allowed, and scheduled. -/
  | schedules (anew : ¬CountsAnew e i) (begun : reconnections (e.handle i).2 = 0)
      (attempts : (e.handle i).1.attempts = e.attempts) (counting : Counting e)
      (allowed : e.policy.allows e.attempts = true)
  /-- The scheduled attempt begins, and counts. -/
  | retries (anew : ¬CountsAnew e i) (begun : reconnections (e.handle i).2 = 1)
      (attempts : (e.handle i).1.attempts = e.attempts + 1)
      (pending : e.reconnectPending = true ∧ (e.handle i).1.reconnectPending = false)

namespace Tally

theorem of_eq {i : Input} (heq : e.handle i = (e, [])) (anew : ¬CountsAnew e i) : Tally e i := by
  refine .still anew ?_ ?_ ?_ ?_
  · rw [heq]
    rfl
  · rw [heq]
  · rw [heq]
  · rw [heq]
    exact id

/-- What reports nothing and keeps state, counter and schedule means nothing. -/
theorem of_same {i : Input} (anew : ¬CountsAnew e i) (silent : reports (e.handle i).2 = [])
    (state : (e.handle i).1.state = e.state) (attempts : (e.handle i).1.attempts = e.attempts)
    (pending : (e.handle i).1.reconnectPending = e.reconnectPending) : Tally e i := by
  refine .still anew (reconnections_of_reports silent) attempts pending ?_
  rw [Counting, Counting, state, pending]
  exact id

theorem of_connect (query : Query) (headers : Headers) : Tally e (.connect query headers) := by
  cases hs : e.state with
  | closed =>
    refine .anew hs ?_ ?_ <;> simp [handle, Engine.connect, hs, startAttempt]
  | _ =>
    have hanew : ¬CountsAnew e (.connect query headers) := by simp [CountsAnew, hs]
    refine of_same hanew ?_ ?_ ?_ ?_ <;> simp [handle, Engine.connect, hs]

theorem of_close (hc : Coherent e) : Tally e .close := by
  cases hs : e.state with
  | closed =>
    cases hp : e.reconnectPending with
    | true =>
      refine .ends id ?_ ?_ ?_ <;>
        simp [handle, Engine.close, hs, hp, reconnections, Counting]
    | false =>
      refine of_same id ?_ ?_ ?_ ?_ <;> simp [handle, Engine.close, hs, hp]
  | closing => exact of_eq (by simp [handle, Engine.close, hs]) id
  | _ =>
    have hp : e.reconnectPending = false := hc.pending_eq_false (by simp [hs])
    refine .ends id ?_ ?_ ?_ <;>
      simp [handle, Engine.close, hs, hp, reconnections, cancelHeartbeat, Counting]

theorem of_transportOpened (hc : Coherent e) : Tally e .transportOpened := by
  cases hs : e.state with
  | opening =>
    have hp : e.reconnectPending = false := hc.pending_eq_false (by simp [hs])
    refine .anew hs ?_ ?_ <;> simp [handle, Engine.transportOpened, hs, hp]
  | _ =>
    have hanew : ¬CountsAnew e .transportOpened := by simp [CountsAnew, hs]
    refine of_same hanew ?_ ?_ ?_ ?_ <;> simp [handle, Engine.transportOpened, hs]

/-- **A loss** schedules a further attempt, if one is allowed. -/
theorem of_lost (hc : Coherent e) (hs : e.state = .opening ∨ e.state = .opened) {normal : Bool}
    (hl : normal = false ∨ e.Faulted) : Tally e (.transportClosed normal) := by
  have hclosing : e.state ≠ .closing := by rcases hs with hs | hs <;> simp [hs]
  have hanew : ¬CountsAnew e (.transportClosed normal) := fun h => hclosing h.1
  have hp : e.disconnected.reconnectPending = false :=
    hc.pending_eq_false (by rcases hs with hs | hs <;> simp [hs])
  have heq : e.handle (.transportClosed normal) = _ := transportClosed_of_lost hs hl
  by_cases ha : e.disconnected.policy.allows e.disconnected.attempts
  · refine .schedules hanew ?_ ?_ (hs.imp_right .inl) ha
    · simp [heq, lose, ha, reconnections]
    · rw [heq, lose, if_pos ha]
      rfl
  · refine .ends hanew ?_ ?_ ?_
    · cases ho : decide (e.state = .opened) <;>
        simp [heq, lose, ha, ho, reconnections]
    · simp [heq, lose, ha]
    · simp only [heq, lose, if_neg ha, Counting, hp]
      simp [disconnected]

/-- **A clean end** of the connection ends the counting, too. -/
theorem of_ended (hc : Coherent e) (hs : e.state = .opening ∨ e.state = .opened)
    (hf : ¬e.Faulted) : Tally e (.transportClosed true) := by
  have hclosing : e.state ≠ .closing := by rcases hs with hs | hs <;> simp [hs]
  have hp : e.reconnectPending = false :=
    hc.pending_eq_false (by rcases hs with hs | hs <;> simp [hs])
  have heq : e.handle (.transportClosed true) = _ := transportClosed_of_ended hs hf
  refine .ends (fun h => hclosing h.1) ?_ ?_ ?_
  · simp [heq, reconnections]
  · simp [heq, disconnected]
  · simp [heq, Counting, disconnected, hp]

/-- **The end of a close** ends the counting, or a connect that waited for it counts anew. -/
theorem of_closing (hc : Coherent e) (hs : e.state = .closing) (normal : Bool) :
    Tally e (.transportClosed normal) := by
  have hp : e.reconnectPending = false := hc.pending_eq_false (by simp [hs])
  cases hd : e.deferredConnect with
  | none =>
    have heq : e.handle (.transportClosed normal) = _ := transportClosed_of_closing hs hd normal
    refine .ends ?_ ?_ ?_ ?_
    · rintro ⟨-, h⟩
      simp [hd] at h
    · simp [heq, reconnections]
    · simp [heq, disconnected]
    · simp [heq, Counting, disconnected, hp]
  | some deferred =>
    obtain ⟨query, headers⟩ := deferred
    have heq : e.handle (.transportClosed normal) = _ := transportClosed_of_deferred hs hd normal
    refine .anew ⟨hs, by simp [hd]⟩ ?_ ?_ <;>
      simp [heq, Engine.connect, disconnected, startAttempt]

theorem of_transportClosed (hc : Coherent e) (normal : Bool) :
    Tally e (.transportClosed normal) := by
  have hconn (hs : e.state = .opening ∨ e.state = .opened) : Tally e (.transportClosed normal) := by
    rcases e.ended_or_lost normal with ⟨rfl, hf⟩ | hl
    · exact of_ended hc hs hf
    · exact of_lost hc hs hl
  cases hs : e.state with
  | opening => exact hconn (.inl hs)
  | opened => exact hconn (.inr hs)
  | closing => exact of_closing hc hs normal
  | closed =>
    refine of_eq (transportClosed_of_closed hs normal) fun h => ?_
    cases hs.symm.trans h.1

theorem of_fail {i : Input} (f : Fault) (heq : e.handle i = e.fail f) (anew : ¬CountsAnew e i) :
    Tally e i := by
  by_cases hcause : e.cause.isSome
  · exact of_eq (by rw [heq, fail, if_pos hcause]) anew
  · refine of_same anew ?_ ?_ ?_ ?_ <;>
      simp [heq, fail, hcause, cancelHeartbeat]

theorem of_frameReceived : Tally e .frameReceived := by
  refine of_same id ?_ ?_ ?_ ?_
  · simp only [handle, Engine.frameReceived]
    split
    · split
      · rfl
      · split <;> rfl
    · rfl
  all_goals rw [handle, frameReceived_fst]

theorem of_packet (p : Packet) : Tally e (.packet p) := by
  by_cases hs : e.state = .opened
  · cases hf : p.frame with
    | handshake =>
      have heq : e.handle (.packet p) = e.shakeHands p := by simp [handle, Engine.packet, hs, hf]
      cases hp : p.payload.head?.bind Handshake.parse? with
      | none => exact of_fail .badHandshake (by simp [heq, shakeHands, hp]) id
      | some parsed =>
        refine of_same id ?_ ?_ ?_ ?_
        · cases hv : e.revision.serverPings <;> simp [heq, shakeHands, hp, hv]
        all_goals simp [heq, shakeHands, hp]
    | close => exact of_fail .endedByServer (by simp [handle, Engine.packet, hs, hf]) id
    | ping => refine of_same id ?_ ?_ ?_ ?_ <;> simp [handle, Engine.packet, hs, hf]
    | pong =>
      have heq : e.handle (.packet p) = e.pongReceived := by simp [handle, Engine.packet, hs, hf]
      rw [pongReceived] at heq
      split at heq
      · exact of_eq heq id
      · refine of_same id ?_ ?_ ?_ ?_
        · rw [heq]
          cases e.handshake <;> rfl
        all_goals rw [heq]
    | message => exact of_eq (by simp [handle, Engine.packet, hs, hf]) id
  · exact of_eq (by simp [handle, Engine.packet, hs]) id

/-- **The timer of the next attempt** begins it, if it is still scheduled. -/
theorem of_timerFired (k : TimerKind) : Tally e (.timerFired k) := by
  cases k with
  | reconnect =>
    by_cases hr : e.state = .closed ∧ e.reconnectPending
    · refine .retries id ?_ ?_ ⟨hr.2, ?_⟩ <;>
        simp [handle, Engine.timerFired, hr, startAttempt, reconnections]
    · exact of_eq (by simp only [handle, Engine.timerFired, if_neg hr]) id
  | heartbeat =>
    refine of_same id ?_ ?_ ?_ ?_
    all_goals
      simp only [handle, Engine.timerFired]
      split
      · split <;> rfl
      · rfl
  | pongTimeout =>
    by_cases hr : e.state = .opened ∧ e.handshake.isSome
    · exact of_fail .silence (by simp only [handle, Engine.timerFired, if_pos hr]) id
    · exact of_eq (by simp only [handle, Engine.timerFired, if_neg hr]) id

end Tally

/-- **Every input is one of the five.** -/
theorem tally_of_handle (hc : Coherent e) (i : Input) : Tally e i := by
  cases i with
  | connect query headers => exact .of_connect query headers
  | close => exact .of_close hc
  | transportOpened => exact .of_transportOpened hc
  | transportClosed normal => exact .of_transportClosed hc normal
  | frameReceived => exact .of_frameReceived
  | packet p => exact .of_packet p
  | timerFired k => exact .of_timerFired k
  | setAttempts attempts => exact .of_same id rfl rfl rfl rfl
  | setDelay delay => exact .of_same id rfl rfl rfl rfl
  | setDelayMax delay => exact .of_same id rfl rfl rfl rfl

/-! ## Along a run -/

/-- **The counter is right** whenever it is asked. -/
def Counted (e : Engine) (made : Nat) : Prop := Counting e → e.attempts = made

theorem counted_handle (hc : Coherent e) {made : Nat} (h : Counted e made) (i : Input) :
    Counted (e.handle i).1 (if CountsAnew e i then 0 else made + reconnections (e.handle i).2) := by
  intro hcounting
  cases tally_of_handle hc i with
  | still anew begun attempts pending counting =>
    rw [if_neg anew, begun, attempts]
    exact h (counting hcounting)
  | anew anew attempts pending => rw [if_pos anew, attempts]
  | ends anew begun attempts idle => exact absurd hcounting idle
  | schedules anew begun attempts counting allowed =>
    rw [if_neg anew, begun, attempts]
    exact h counting
  | retries anew begun attempts pending =>
    rw [if_neg anew, begun, attempts, h (.inr (.inr pending.1))]

/-- **The counter tells the further attempts of a run**, by induction on its inputs. -/
theorem counted_run (hc : Coherent e) {made : Nat} (h : Counted e made) (inputs : List Input) :
    Counted (e.run inputs).1 (retries e made inputs) := by
  induction inputs generalizing e made with
  | nil => exact h
  | cons i rest ih => exact ih (hc.handle i) (counted_handle hc h i)

/-- **The limit of the attempts is the same throughout a run.** -/
def Limited (limit : Nat) (policy : ReconnectPolicy) (inputs : List Input) : Prop :=
  policy.attempts = some limit ∧ ∀ attempts, .setAttempts attempts ∈ inputs → attempts = some limit

/-- **The attempts are within the limit**, with one to spare while one is scheduled. -/
structure Within (e : Engine) (made limit : Nat) : Prop where
  limited : e.policy.attempts = some limit
  attempts_le : e.attempts ≤ limit
  made_le : made ≤ limit
  made_lt : e.reconnectPending = true → made < limit

theorem allows_iff {policy : ReconnectPolicy} {limit : Nat} (h : policy.attempts = some limit)
    (made : Nat) : policy.allows made = true ↔ made < limit := by
  simp [ReconnectPolicy.allows, h]

/-- Only the application changes the limit. -/
theorem policy_attempts_handle (i : Input) (hi : ∀ attempts, i ≠ .setAttempts attempts) :
    (e.handle i).1.policy.attempts = e.policy.attempts := by
  have hfail (f : Fault) : (e.fail f).1.policy = e.policy := by
    rw [fail]
    split <;> rfl
  have hconnect (e : Engine) (query : Query) (headers : Headers) :
      (e.connect query headers).1.policy = e.policy := by
    rw [connect]
    split <;> rfl
  have hlose (e : Engine) (wasOpen : Bool) : (e.lose wasOpen).1.policy = e.policy := by
    rw [lose]
    split <;> rfl
  cases i with
  | connect query headers => rw [handle, hconnect]
  | close =>
    rw [handle, close]
    split
    · rfl
    · rfl
    · rfl
    · split <;> rfl
  | transportOpened =>
    rw [handle, transportOpened]
    split <;> rfl
  | transportClosed normal =>
    have hconn (hs : e.state = .opening ∨ e.state = .opened) :
        (e.transportClosed normal).1.policy = e.policy := by
      rcases e.ended_or_lost normal with ⟨rfl, hf⟩ | hl
      · rw [transportClosed_of_ended hs hf]
        rfl
      · rw [transportClosed_of_lost hs hl, hlose]
        rfl
    rw [handle]
    cases hs : e.state with
    | opening => rw [hconn (.inl hs)]
    | opened => rw [hconn (.inr hs)]
    | closed => rw [transportClosed_of_closed hs]
    | closing =>
      cases hd : e.deferredConnect with
      | none =>
        rw [transportClosed_of_closing hs hd]
        rfl
      | some deferred =>
        obtain ⟨query, headers⟩ := deferred
        rw [transportClosed_of_deferred hs hd, hconnect]
        rfl
  | frameReceived => rw [handle, frameReceived_fst]
  | packet p =>
    rw [handle, packet]
    split
    · rfl
    · split
      · rw [shakeHands]
        split
        · rw [hfail]
        · rfl
      · rw [hfail]
      · rfl
      · rw [pongReceived]
        split <;> rfl
      · rfl
  | timerFired k =>
    cases k with
    | reconnect =>
      simp only [handle, timerFired]
      split <;> rfl
    | heartbeat =>
      simp only [handle, timerFired]
      split
      · split <;> rfl
      · rfl
    | pongTimeout =>
      simp only [handle, timerFired]
      split
      · rw [hfail]
      · rfl
  | setAttempts attempts => exact absurd rfl (hi attempts)
  | setDelay delay => rfl
  | setDelayMax delay => rfl

theorem within_handle (hc : Coherent e) {made limit : Nat} (hcount : Counted e made)
    (h : Within e made limit) {i : Input}
    (hi : ∀ attempts, i = .setAttempts attempts → attempts = some limit) :
    Within (e.handle i).1 (if CountsAnew e i then 0 else made + reconnections (e.handle i).2)
      limit := by
  have hlimited : (e.handle i).1.policy.attempts = some limit := by
    by_cases hset : ∃ attempts, i = .setAttempts attempts
    · obtain ⟨attempts, rfl⟩ := hset
      exact hi attempts rfl
    · rw [policy_attempts_handle i fun attempts h => hset ⟨attempts, h⟩]
      exact h.limited
  have hle := h.attempts_le
  have hmade := h.made_le
  cases tally_of_handle hc i with
  | still anew begun attempts pending counting =>
    rw [if_neg anew, begun]
    exact ⟨hlimited, attempts ▸ hle, hmade, pending ▸ h.made_lt⟩
  | anew anew attempts pending =>
    rw [if_pos anew]
    exact ⟨hlimited, by omega, by omega, by simp [pending]⟩
  | ends anew begun attempts idle =>
    rw [if_neg anew, begun]
    exact ⟨hlimited, by omega, hmade, fun hp => absurd (.inr (.inr hp)) idle⟩
  | schedules anew begun attempts counting allowed =>
    -- the counter is asked, and it is right
    have hlt : made < limit := hcount counting ▸ (allows_iff h.limited _).1 allowed
    rw [if_neg anew, begun]
    exact ⟨hlimited, attempts ▸ hle, hmade, fun _ => hlt⟩
  | retries anew begun attempts pending =>
    have hlt := h.made_lt pending.1
    have hattempts := hcount (.inr (.inr pending.1))
    rw [if_neg anew, begun]
    exact ⟨hlimited, by omega, by omega, by simp [pending.2]⟩

/-- **A limit that stays is kept**, by induction on the inputs of the run. -/
theorem within_run (hc : Coherent e) {made limit : Nat} (hcount : Counted e made)
    (h : Within e made limit) {inputs : List Input}
    (hi : ∀ attempts, .setAttempts attempts ∈ inputs → attempts = some limit) :
    Within (e.run inputs).1 (retries e made inputs) limit := by
  induction inputs generalizing e made with
  | nil => exact h
  | cons i rest ih =>
    have hfirst : ∀ attempts, i = .setAttempts attempts → attempts = some limit :=
      fun attempts heq => hi attempts (heq ▸ List.mem_cons_self)
    exact ih (hc.handle i) (counted_handle hc hcount i) (within_handle hc hcount h hfirst)
      fun attempts hm => hi attempts (.tail _ hm)

/-! ## Losses -/

/-- **An unexpected loss**: the transport reports the end of a connection that nobody asked to
close, or that the engine has given up itself, and not a clean one. -/
def Loses (e : Engine) (normal : Bool) : Prop :=
  (e.state = .opening ∨ e.state = .opened) ∧ (normal = false ∨ e.Faulted)

/-- **A loss is made good**: one timer is armed, and one event is reported, which tells how many
further attempts were made and how long the wait is. -/
structure Reschedules (e : Engine) (made : Nat) (left : Engine) (effects : List Effect) : Prop where
  armed : armings effects = [(.reconnect, e.policy.delayFor made)]
  reported : reports effects = [.reconnect made (e.policy.delayFor made)]
  pending : left.reconnectPending = true

/-- **A loss is not made good**: no timer is armed, the sockets are told that the connection is gone
for good, and the session is reported as dropped if it was open and else as failed. -/
structure Surrenders (e : Engine) (left : Engine) (effects : List Effect) : Prop where
  unarmed : armings effects = []
  final : .socketsDisconnect true ∈ effects
  reported : reports effects = [if e.state = .opened then .closed .drop else .failed]
  pending : left.reconnectPending = false

/-- **A loss is made good exactly if a further attempt is allowed.** -/
theorem loss_outcome (hc : Coherent e) {made : Nat} (hcount : Counted e made) {normal : Bool}
    (hl : Loses e normal) :
    if e.policy.allows made then
      Reschedules e made (e.handle (.transportClosed normal)).1 (e.handle (.transportClosed normal)).2
    else
      Surrenders e (e.handle (.transportClosed normal)).1 (e.handle (.transportClosed normal)).2 := by
  obtain ⟨hs, hlost⟩ := hl
  have hp : e.disconnected.reconnectPending = false :=
    hc.pending_eq_false (by rcases hs with hs | hs <;> simp [hs])
  have hattempts : e.disconnected.attempts = made := hcount (hs.imp_right .inl)
  have hpolicy : e.disconnected.policy = e.policy := rfl
  rw [handle, transportClosed_of_lost hs hlost, lose, hattempts, hpolicy]
  split
  · constructor <;> simp
  · constructor
    · simp
    · simp
    · simp
    · exact hp

/-- **Retries are bounded.**  Attempts are counted anew exactly where something else than the timer of
the next attempt opens the transport, and where the connection is open.  While the limit stays the
same, the counter is within it, at most so many further attempts begin on a stretch where attempts
are not counted anew, and a loss is made good exactly if fewer were made.  Without a limit every loss
is. -/
theorem retries_bounded (revision : Revision) (policy : ReconnectPolicy) (inputs : List Input) :
    let start := Engine.new revision policy
    let left := (start.run inputs).1
    let made := retries start 0 inputs
    let after (normal : Bool) := left.handle (.transportClosed normal)
    (∀ i, CountsAnew left i ↔
        Opens (left.handle i).2 ∧ i ≠ .timerFired .reconnect ∨ .socketsOpen ∈ (left.handle i).2) ∧
      (∀ limit, Limited limit policy inputs →
        left.attempts ≤ limit ∧
          (∀ before between, inputs = before ++ between →
            NoneAnew (start.run before).1 between →
              (((start.run before).1.run between).2.map reconnections).sum ≤ limit) ∧
          ∀ normal, Loses left normal →
            if made < limit then Reschedules left made (after normal).1 (after normal).2
            else Surrenders left (after normal).1 (after normal).2) ∧
      (left.policy.attempts = none → ∀ normal, Loses left normal →
        Reschedules left made (after normal).1 (after normal).2) := by
  intro start left made after
  have hcoh : Coherent start := .new revision policy
  have hstart : Counted start 0 := fun _ => rfl
  have hcoherent : Coherent left := ((Reachable.new revision policy).run inputs).coherent
  have hcounted : Counted left made := counted_run hcoh hstart inputs
  refine ⟨countsAnew_iff left, fun limit hlimited => ?_, fun hnone normal hl => ?_⟩
  · have hwithin : Within start 0 limit :=
      ⟨hlimited.1, Nat.zero_le _, Nat.zero_le _, fun h => by cases h⟩
    have hleft : Within left made limit := within_run hcoh hstart hwithin hlimited.2
    refine ⟨hleft.attempts_le, fun before between heq hbetween => ?_, fun normal hl => ?_⟩
    · have hsum := retries_of_noneAnew hbetween (retries start 0 before)
      rw [← retries_append, ← heq] at hsum
      have hmade : made ≤ limit := hleft.made_le
      omega
    · have houtcome := loss_outcome hcoherent hcounted hl
      simpa only [allows_iff hleft.limited] using houtcome
  · have houtcome := loss_outcome hcoherent hcounted hl
    have hallows : left.policy.allows made = true := by simp [ReconnectPolicy.allows, hnone]
    rwa [if_pos hallows] at houtcome

/-- A connection that never opens is lost, tried again, and lost again. -/
def triedAgain : List Input :=
  [.connect .nil .nil, .transportClosed false, .timerFired .reconnect]

/-- With one further attempt allowed, one begins and the second loss is final; without a limit it is
made good. -/
theorem second_loss_final :
    let policy := ReconnectPolicy.default.setAttempts (some 1)
    let connected := ((Engine.new .v4 policy).run (triedAgain.take 1)).1
    let again := ((Engine.new .v4 policy).run triedAgain).1
    let unlimited := ((Engine.new .v4 .default).run triedAgain).1
    ((connected.run (triedAgain.drop 1)).2.map reconnections).sum ≤ 1 ∧
      Reschedules connected 0 (connected.handle (.transportClosed false)).1
        (connected.handle (.transportClosed false)).2 ∧
      Surrenders again (again.handle (.transportClosed false)).1
        (again.handle (.transportClosed false)).2 ∧
      Reschedules unlimited 1 (unlimited.handle (.transportClosed false)).1
        (unlimited.handle (.transportClosed false)).2 := by
  intro policy connected again unlimited
  have hlimited (inputs : List Input) (h : ∀ attempts, .setAttempts attempts ∉ inputs) :
      Limited 1 policy inputs := ⟨rfl, fun attempts hm => absurd hm (h attempts)⟩
  have hconnected := (retries_bounded .v4 policy (triedAgain.take 1)).2.1 1
    (hlimited _ (by simp [triedAgain]))
  have hagain := (retries_bounded .v4 policy triedAgain).2.1 1 (hlimited _ (by simp [triedAgain]))
  have hunlimited := (retries_bounded .v4 .default triedAgain).2.2 rfl
  refine ⟨hagain.2.1 (triedAgain.take 1) (triedAgain.drop 1) rfl ⟨?_, id, trivial⟩,
    hconnected.2.2 false ⟨.inl rfl, .inl rfl⟩, hagain.2.2 false ⟨.inl rfl, .inl rfl⟩,
    hunlimited false ⟨.inl rfl, .inl rfl⟩⟩
  rintro ⟨hs, -⟩
  cases hs

end RealtimeClient.Engine
