import Mathlib
import RealtimeClient.Proofs.Engine.TransportUse

/-!
# What follows a close

An application that closes a session expects it to stay closed until it connects again.  Three of
the four states keep that promise: an attempt under way and an open connection are given up, and a
scheduled attempt is cancelled.  The fourth one, `closing`, does not: a connect that waits there is
left waiting by a further close, and made once the transport is gone.

* `AtRest` — nothing is under way and nothing waits; only a connect ends that.
* `AwaitsClose` — a connect waits for the close to end; the close's end makes it.
* `opens_after_close_iff` — **exactly** when something opens the transport after a close.
-/

namespace RealtimeClient.Engine

variable {e : Engine}

/-! ## The two ways to be after a close -/

/-- **At rest**: on the way to `closed` or there, with no attempt scheduled and no connect waiting. -/
structure AtRest (e : Engine) : Prop where
  state : e.state = .closing ∨ e.state = .closed
  pending : e.reconnectPending = false
  deferred : e.deferredConnect = none

/-- A connect waits for the close to end. -/
def AwaitsClose (e : Engine) : Prop := e.state = .closing ∧ e.deferredConnect.isSome

namespace AtRest

/-- Only a connect begins an attempt on an engine at rest. -/
theorem not_begins (h : AtRest e) {i : Input} (hi : ∀ query headers, i ≠ .connect query headers) :
    ¬Begins e i := by
  rintro (_ | ⟨-, hd⟩ | ⟨-, hp⟩)
  · exact hi _ _ rfl
  · simp [h.deferred] at hd
  · simp [h.pending] at hp

theorem of_fields (h : AtRest e) {e' : Engine} (hs : e'.state = .closing ∨ e'.state = .closed)
    (hp : e'.reconnectPending = e.reconnectPending) (hd : e'.deferredConnect = e.deferredConnect) :
    AtRest e' :=
  ⟨hs, hp.trans h.pending, hd.trans h.deferred⟩

/-- **Only a connect ends the rest.** -/
theorem handle (h : AtRest e) {i : Input} (hi : ∀ query headers, i ≠ .connect query headers) :
    AtRest (e.handle i).1 := by
  have hopening : e.state ≠ .opening := by rcases h.state with hs | hs <;> simp [hs]
  have hopened : e.state ≠ .opened := by rcases h.state with hs | hs <;> simp [hs]
  cases i with
  | connect query headers => exact absurd rfl (hi query headers)
  | close =>
    rcases h.state with hs | hs
    · simpa [Engine.handle, Engine.close, hs] using h
    · simpa [Engine.handle, Engine.close, hs, h.pending] using h
  | transportOpened =>
    rcases h.state with hs | hs <;> simpa [Engine.handle, Engine.transportOpened, hs] using h
  | transportClosed normal =>
    rcases h.state with hs | hs
    · simp only [Engine.handle, transportClosed_of_closing hs h.deferred]
      exact ⟨.inr rfl, h.pending, rfl⟩
    · simpa only [Engine.handle, transportClosed_of_closed hs] using h
  | frameReceived => simpa only [Engine.handle, frameReceived_fst] using h
  | packet p => simpa [Engine.handle, Engine.packet, hopened] using h
  | timerFired k =>
    cases k with
    | reconnect => simpa [Engine.handle, Engine.timerFired, h.pending] using h
    | heartbeat =>
      rcases h.state with hs | hs <;> simpa [Engine.handle, Engine.timerFired, hs] using h
    | pongTimeout => simpa [Engine.handle, Engine.timerFired, hopened] using h
  | setAttempts attempts => exact h.of_fields h.state rfl rfl
  | setDelay delay => exact h.of_fields h.state rfl rfl
  | setDelayMax delay => exact h.of_fields h.state rfl rfl

end AtRest

namespace AwaitsClose

/-- Only the end of the close begins the attempt that waits. -/
theorem begins_iff (h : AwaitsClose e) (i : Input) :
    Begins e i ↔ ∃ normal, i = .transportClosed normal := by
  constructor
  · rintro (⟨hs⟩ | ⟨-, -, normal⟩ | ⟨hs, -⟩)
    · simp [h.1] at hs
    · exact ⟨normal, rfl⟩
    · simp [h.1] at hs
  · rintro ⟨normal, rfl⟩
    exact .deferred h.1 h.2 normal

/-- Until the close has ended the connect goes on waiting, closes included. -/
theorem handle (h : AwaitsClose e) {i : Input} (hi : ∀ normal, i ≠ .transportClosed normal) :
    AwaitsClose (e.handle i).1 := by
  have hs := h.1
  cases i with
  | connect query headers => exact ⟨by simp [Engine.handle, Engine.connect, hs], by
      simp [Engine.handle, Engine.connect, hs]⟩
  | close => simpa [Engine.handle, Engine.close, hs] using h
  | transportOpened => simpa [Engine.handle, Engine.transportOpened, hs] using h
  | transportClosed normal => exact absurd rfl (hi normal)
  | frameReceived => simpa only [Engine.handle, frameReceived_fst] using h
  | packet p => simpa [Engine.handle, Engine.packet, hs] using h
  | timerFired k => cases k <;> simpa [Engine.handle, Engine.timerFired, hs] using h
  | setAttempts attempts => exact h
  | setDelay delay => exact h
  | setDelayMax delay => exact h

end AwaitsClose

/-- **A close puts the engine at rest**, unless a connect waits: that one it leaves waiting. -/
theorem atRest_close (h : Coherent e) (hw : ¬AwaitsClose e) : AtRest e.close.1 := by
  cases hs : e.state with
  | opening =>
    have hp := h.pending_eq_false (by simp [hs])
    have hd := h.deferred_eq_none (by simp [hs])
    simp only [close, hs]
    exact ⟨.inl rfl, hp, hd⟩
  | opened =>
    have hp := h.pending_eq_false (by simp [hs])
    have hd := h.deferred_eq_none (by simp [hs])
    simp only [close, hs]
    exact ⟨.inl rfl, hp, hd⟩
  | closing =>
    have hp := h.pending_eq_false (by simp [hs])
    have hd : e.deferredConnect = none := by
      by_contra hd
      exact hw ⟨hs, Option.isSome_iff_ne_none.2 hd⟩
    simpa [close, hs] using (⟨.inl hs, hp, hd⟩ : AtRest e)
  | closed =>
    have hd := h.deferred_eq_none (by simp [hs])
    simp only [close, hs]
    split
    · exact ⟨.inr rfl, rfl, hd⟩
    · next hp => exact ⟨.inr hs, by simpa using hp, hd⟩

theorem AwaitsClose.close_fst (h : AwaitsClose e) : e.close.1 = e := by
  simp [close, h.1]

/-! ## Along a run -/

/-- **Whether a run begins an attempt somewhere.** -/
def BeginsAlong (e : Engine) : List Input → Prop
  | [] => False
  | i :: rest => Begins e i ∨ BeginsAlong (e.handle i).1 rest

/-- A run begins an attempt if and only if something in it opens the transport. -/
theorem beginsAlong_iff_opens (inputs : List Input) :
    (∃ effects ∈ (e.run inputs).2, Opens effects) ↔ BeginsAlong e inputs := by
  induction inputs generalizing e with
  | nil => simp [BeginsAlong]
  | cons i rest ih =>
    simp only [run_cons, List.exists_mem_cons_iff, BeginsAlong, ih, opens_iff]

/-- A run from outside of `opening` begins an attempt if and only if it comes to be there. -/
theorem beginsAlong_iff_opening (hs : e.state ≠ .opening) (inputs : List Input) :
    (∃ earlier later, inputs = earlier ++ later ∧ (e.run earlier).1.state = .opening) ↔
      BeginsAlong e inputs := by
  induction inputs generalizing e with
  | nil => simp [BeginsAlong, hs]
  | cons i rest ih =>
    by_cases hb : Begins e i
    · refine iff_of_true ⟨[i], rest, rfl, ?_⟩ (.inl hb)
      simpa using (enters_opening_iff hs i).2 hb
    · have hs' : (e.handle i).1.state ≠ .opening := fun h => hb ((enters_opening_iff hs i).1 h)
      simp only [BeginsAlong, hb, false_or, ← ih hs']
      constructor
      · rintro ⟨_ | ⟨j, earlier⟩, later, heq, ho⟩
        · exact absurd ho hs
        · obtain ⟨rfl, rfl⟩ := List.cons.inj heq
          exact ⟨earlier, later, rfl, ho⟩
      · rintro ⟨earlier, later, rfl, ho⟩
        exact ⟨i :: earlier, later, rfl, ho⟩

/-- An engine at rest begins no attempt along a run without a connect. -/
theorem AtRest.not_beginsAlong (h : AtRest e) {inputs : List Input}
    (hc : ∀ query headers, .connect query headers ∉ inputs) : ¬BeginsAlong e inputs := by
  induction inputs generalizing e with
  | nil => exact id
  | cons i rest ih =>
    have hi : ∀ query headers, i ≠ .connect query headers :=
      fun query headers hi => hc query headers (hi ▸ List.mem_cons_self)
    rintro (hb | hb)
    · exact h.not_begins hi hb
    · exact ih (h.handle hi) (fun query headers hm => hc query headers (.tail _ hm)) hb

/-- Where a connect waits, a run begins an attempt if and only if the transport closes along it. -/
theorem AwaitsClose.beginsAlong_iff (h : AwaitsClose e) (inputs : List Input) :
    BeginsAlong e inputs ↔ ∃ normal, .transportClosed normal ∈ inputs := by
  induction inputs generalizing e with
  | nil => simp [BeginsAlong]
  | cons i rest ih =>
    by_cases hi : ∃ normal, i = .transportClosed normal
    · obtain ⟨normal, rfl⟩ := hi
      exact iff_of_true (.inl (.deferred h.1 h.2 normal)) ⟨normal, List.mem_cons_self⟩
    · have hi' : ∀ normal, i ≠ .transportClosed normal := fun normal hn => hi ⟨normal, hn⟩
      have hne : ∀ normal, Input.transportClosed normal ≠ i := fun normal => (hi' normal).symm
      simp only [BeginsAlong, h.begins_iff, hi, false_or, ih (h.handle hi'), List.mem_cons, hne]

/-! ## The exact condition -/

/-- **Exactly when something opens the transport after a close.**  After any run and a close at its
end, a further run without a connect opens the transport, and comes to `opening`, if and only if
the close found a connect waiting and the transport closes along the further run. -/
theorem opens_after_close_iff (revision : Revision) (policy : ReconnectPolicy)
    (before inputs : List Input) (hc : ∀ query headers, .connect query headers ∉ inputs) :
    let found := ((Engine.new revision policy).run before).1
    let left := (found.handle .close).1
    ((∃ effects ∈ (left.run inputs).2, Opens effects) ↔
        AwaitsClose found ∧ ∃ normal, .transportClosed normal ∈ inputs) ∧
      ((∃ earlier later, inputs = earlier ++ later ∧ (left.run earlier).1.state = .opening) ↔
        AwaitsClose found ∧ ∃ normal, .transportClosed normal ∈ inputs) := by
  intro found left
  have hcoh : Coherent found := ((Reachable.new revision policy).run before).coherent
  have key : left.state ≠ .opening ∧ (BeginsAlong left inputs ↔
      AwaitsClose found ∧ ∃ normal, .transportClosed normal ∈ inputs) := by
    by_cases hw : AwaitsClose found
    · have heq : left = found := hw.close_fst
      rw [heq]
      exact ⟨by simp [hw.1], by simp [hw, hw.beginsAlong_iff]⟩
    · have hr : AtRest left := atRest_close hcoh hw
      have hs : left.state ≠ .opening := by rcases hr.state with hs | hs <;> simp [hs]
      exact ⟨hs, by simp [hw, hr.not_beginsAlong hc]⟩
  exact ⟨(beginsAlong_iff_opens inputs).trans key.2,
    (beginsAlong_iff_opening key.1 inputs).trans key.2⟩

/-- A session is closed, connected again before the transport is gone, and closed once more. -/
def closedTwice : List Input := [.connect .nil .nil, .close, .connect .nil .nil]

/-- The condition is met after two closes with a connect between them. -/
theorem opens_after_second_close :
    (∀ query headers, Input.connect query headers ∉ [Input.transportClosed true]) ∧
      ∃ effects ∈ (((((Engine.new .v4 .default).run closedTwice).1.handle .close).1).run
        [.transportClosed true]).2, Opens effects :=
  have hc : ∀ query headers, Input.connect query headers ∉ [Input.transportClosed true] := by simp
  ⟨hc, (opens_after_close_iff .v4 .default closedTwice [.transportClosed true] hc).1.2
    ⟨⟨by decide, by decide⟩, true, by simp⟩⟩

/-- **A close is not the last word.**  The transport can be opened after a close with no connect
in between. -/
theorem close_not_final :
    ¬∀ (revision : Revision) (policy : ReconnectPolicy) (before inputs : List Input),
      (∀ query headers, .connect query headers ∉ inputs) →
        ∀ effects ∈ ((((Engine.new revision policy).run before).1.handle .close).1.run inputs).2,
          ¬Opens effects := by
  intro h
  have hsecond := h .v4 .default closedTwice [.transportClosed true] (by simp)
  refine hsecond _ List.mem_cons_self ⟨.nil, .nil, ?_⟩
  decide

end RealtimeClient.Engine
