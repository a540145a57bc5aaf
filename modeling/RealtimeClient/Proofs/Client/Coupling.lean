import Mathlib
import RealtimeClient.Proofs.Client.Runs

/-!
# Engine and transport agree

The transport changes its state at once, by the client's doing or by the peer's; the engine learns
of it later, from an event, or from a refusal that stands for the event.  Between two turns of the
task the two agree all the same: where they differ, the event that will tell the engine is on its
way.

* `Agrees` — what is meant by that.
* `Coupled` — the invariant that carries it; `Lost` — the moment between the end of a connection and
  the engine's learning of it, inside of a turn.
* `round_coupled`, `round_lost` — what a round makes of either; `handle_coupled`, `handle_lost` — what
  follows for one input.
* `Coupled.act` — the peer; `turn_coupled`, `turn_dialsFree` — a turn of the task.
* `Reachable.coupled` — the invariant holds until the task has ended; **`engine_transport_agree`**.
-/

namespace RealtimeClient.Client

/-! ## The invariant -/

/-- Whether an event reports the end of the connection. -/
def reportsEnd (id : ConnectionId) : ConnectionId × TransportEvent → Bool
  | (id', .closed _) => decide (id' = id)
  | _ => false

/-- **The engine and the transport agree.** -/
structure Agrees (c : Client MemoryTransport) : Prop where
  /-- There is a connection exactly while the engine is not closed. -/
  attached : c.current.isSome ↔ c.engine.state ≠ .closed
  /-- Without a connection the transport is free for the next one. -/
  idle : c.engine.state = .closed → c.transport.state = .closed
  /-- A connection that the engine is closing has ended. -/
  ended : c.engine.state = .closing → c.transport.state = .closed
  /-- The client's connection is the transport's. -/
  linked : ∀ id, c.current = some id → c.transport.current = some id
  /-- If it has ended, the report of that is on its way, once. -/
  endReported : ∀ id, c.current = some id → c.transport.state = .closed →
    c.transport.events.countP (reportsEnd id) = 1
  /-- If it is open and the engine does not know, so is the report of that. -/
  openReported : ∀ id, c.current = some id → c.engine.state = .opening →
    c.transport.state = .opened → (id, .opened) ∈ c.transport.events

/-- What holds at any moment: the events are received, no name of a connection is yet to be given,
and the task is left nothing but wishes of the application. -/
structure Sound (c : Client MemoryTransport) : Prop where
  sink : c.transport.sink = .listening
  event_lt : ∀ p ∈ c.transport.events, p.1.number < c.transport.nextNumber
  current_lt : ∀ id, c.transport.current = some id → id.number < c.transport.nextNumber
  requests : ∀ i, .engine i ∈ c.commands → i.isRequest = true

/-- The part of the agreement that also holds when the engine is about to learn that its connection
is open. -/
structure Bound (c : Client MemoryTransport) : Prop extends Sound c where
  attached : c.current.isSome ↔ c.engine.state ≠ .closed
  idle : c.engine.state = .closed → c.transport.state = .closed
  closing : c.engine.state = .closing → c.transport.state = .closed
  linked : ∀ id, c.current = some id → c.transport.current = some id
  ends : ∀ id, c.current = some id →
    c.transport.events.countP (reportsEnd id) = if c.transport.state = .closed then 1 else 0

/-- What the engine does not know yet is on its way. -/
def Reported (c : Client MemoryTransport) : Prop :=
  ∀ id, c.current = some id → c.engine.state = .opening → c.transport.state = .opened →
    (id, .opened) ∈ c.transport.events

/-- **The invariant between two turns.** -/
structure Coupled (c : Client MemoryTransport) : Prop extends Bound c where
  reported : Reported c

/-- **The connection has ended, and the engine is about to learn of it**, if it does not know. -/
structure Lost (c : Client MemoryTransport) : Prop extends Sound c where
  detached : c.current = none
  free : c.transport.state = .closed

variable {c c' : Client MemoryTransport}

theorem Coupled.agrees (h : Coupled c) : Agrees c where
  attached := h.attached
  idle := h.idle
  ended := h.closing
  linked := h.linked
  endReported id hid hs := by rw [h.ends id hid, if_pos hs]
  openReported := h.reported

theorem Initial.coupled (h : Initial c) : Coupled c := by
  obtain ⟨⟨revision, policy, he⟩, ht, hcur, hcom⟩ := h
  have hstate : c.engine.state = .closed := by rw [he]; rfl
  have hevents : c.transport.events = [] := by rw [ht]; rfl
  exact
    { sink := by rw [ht]; rfl
      event_lt := by simp [hevents]
      current_lt := by simp [ht, MemoryTransport.new, MemoryTransport.installSink]
      requests := by simp [hcom]
      attached := by simp [hcur, hstate]
      idle := by simp [ht, MemoryTransport.new, MemoryTransport.installSink]
      closing := by simp [hstate]
      linked := by simp [hcur]
      ends := by simp [hcur]
      reported := by simp [Reported, hcur] }

/-! ## What leaves the connection alone leaves the agreement alone -/

namespace Aside

variable (h : Aside c c')

include h

theorem sink : c'.transport.sink = c.transport.sink := by rw [h.transport]

theorem events : c'.transport.events = c.transport.events := by rw [h.transport]

theorem nextNumber : c'.transport.nextNumber = c.transport.nextNumber := by rw [h.transport]

theorem state : c'.transport.state = c.transport.state := by rw [h.transport]

theorem connection : c'.transport.current = c.transport.current := by rw [h.transport]

theorem sound (hc : Sound c) : Sound c' where
  sink := by rw [h.sink]; exact hc.sink
  event_lt := by rw [h.events, h.nextNumber]; exact hc.event_lt
  current_lt := by rw [h.connection, h.nextNumber]; exact hc.current_lt
  requests i hi := (h.commands i hi).elim (hc.requests i) id

theorem bound (hc : Bound c) : Bound c' where
  toSound := h.sound hc.toSound
  attached := by rw [h.current, h.engine]; exact hc.attached
  idle := by rw [h.engine, h.state]; exact hc.idle
  closing := by rw [h.engine, h.state]; exact hc.closing
  linked := by rw [h.current, h.connection]; exact hc.linked
  ends := by rw [h.current, h.events, h.state]; exact hc.ends

theorem reported (hc : Reported c) : Reported c' := by
  rw [Reported]
  rw [h.current, h.engine, h.state, h.events]
  exact hc

theorem coupled (hc : Coupled c) : Coupled c' :=
  { h.bound hc.toBound with reported := h.reported hc.reported }

end Aside

/-! ## Carrying out what concerns the connection -/

/-- The names of connections whose end was reported are in use. -/
theorem Sound.countP_fresh (h : Sound c) :
    c.transport.events.countP (reportsEnd ⟨c.transport.nextNumber⟩) = 0 := by
  rw [List.countP_eq_zero]
  rintro ⟨id, event⟩ hp hend
  have hlt := h.event_lt _ hp
  cases event with
  | closed normal =>
    obtain rfl : id = ⟨c.transport.nextNumber⟩ := by simpa [reportsEnd] using hend
    exact Nat.lt_irrefl _ hlt
  | _ => cases hend

/-- **A free transport gives the connection that it is asked for**, under a name of its own. -/
theorem carryOut_openTransport (h : Sound c) (hfree : c.transport.state = .closed)
    (hs : c.engine.state = .opening) (query : Query) (headers : Headers) :
    Coupled (c.carryOut (.openTransport query headers)).1 ∧
      (c.carryOut (.openTransport query headers)).2 = none := by
  have hdial (url : String) : Transport.dial c.transport url headers =
      (.ok ⟨c.transport.nextNumber⟩,
        { c.transport with
          current := some ⟨c.transport.nextNumber⟩, state := .opening
          nextNumber := c.transport.nextNumber + 1
          dialed := c.transport.dialed ++ [(url, headers)] }) := by
    simp [Transport.dial, MemoryTransport.dial, hfree, h.sink]
  simp only [carryOut, openTransport, hdial, and_true]
  refine
    { sink := h.sink
      event_lt := ?_
      current_lt := ?_
      requests := h.requests
      attached := by simp [hs]
      idle := by simp [hs]
      closing := by simp [hs]
      linked := ?_
      ends := ?_
      reported := by simp [Reported] }
  · intro p hp
    exact Nat.lt_succ_of_lt (h.event_lt p hp)
  · intro id hid
    obtain rfl : ⟨c.transport.nextNumber⟩ = id := Option.some.inj hid
    exact Nat.lt_succ_self _
  · intro id hid
    exact hid
  · intro id hid
    obtain rfl : ⟨c.transport.nextNumber⟩ = id := Option.some.inj hid
    simpa using h.countP_fresh

/-- Closing a connection that has ended already is refused, which stands for the report of its
end. -/
theorem carryOut_closeTransport_of_closed (hs : c.transport.state = .closed) (cause : Cause) :
    c.carryOut (.closeTransport cause) =
      ({ c with current := none }, some (.transportClosed true)) := by
  simp [carryOut, closeTransport, Transport.hangUp, MemoryTransport.hangUp, hs]

/-- **Closing a connection ends it**, and the report of that is on its way. -/
theorem carryOut_closeTransport (h : Sound c) {id : ConnectionId}
    (hid : c.transport.current = some id) (hs : c.transport.state ≠ .closed) (cause : Cause) :
    c.carryOut (.closeTransport cause) =
      ({ c with transport := { c.transport with
          state := .closed, closeReasons := c.transport.closeReasons ++ [cause.reason]
          events := c.transport.events ++ [(id, .closed true)] } }, none) := by
  simp [carryOut, closeTransport, Transport.hangUp, MemoryTransport.hangUp, MemoryTransport.emit, hs,
    h.sink, hid]

/-! ## Rounds -/

/-- **Wherever a connection is asked for, the transport is free.** -/
def DialsFree (stages : List (Client MemoryTransport × Engine.Effect)) : Prop :=
  ∀ c query headers, (c, .openTransport query headers) ∈ stages → c.transport.state = .closed

theorem dialsFree_nil : DialsFree [] := by simp [DialsFree]

theorem DialsFree.append {stages more : List (Client MemoryTransport × Engine.Effect)}
    (h : DialsFree stages) (h' : DialsFree more) : DialsFree (stages ++ more) :=
  fun c query headers hm => (List.mem_append.1 hm).elim (h c query headers) (h' c query headers)

/-- Where no connection is asked for there is nothing to show. -/
theorem dialsFree_of_quiet {effects : List Engine.Effect} (hq : Engine.Quiet effects) :
    DialsFree (c.stages effects) := by
  induction effects generalizing c with
  | nil => exact dialsFree_nil
  | cons f rest ih =>
    rw [Engine.quiet_cons] at hq
    intro c' query headers hm
    rcases List.mem_cons.1 hm with heq | hm
    · obtain ⟨-, rfl⟩ := Prod.mk.inj heq
      cases hq.1
    · exact ih hq.2 c' query headers hm

theorem stages_append (earlier : List Engine.Effect) (f : Engine.Effect) :
    c.stages (earlier ++ [f]) = c.stages earlier ++ [((c.carryOutAll earlier).1, f)] := by
  induction earlier generalizing c with
  | nil => rfl
  | cons g rest ih =>
    rw [List.cons_append, stages, stages, ih]
    rfl

/-- **A connection is asked for, and given.**  What comes before the wish leaves the connection
alone. -/
theorem dial_coupled (h : Sound c) (hfree : c.transport.state = .closed)
    (hs : c.engine.state = .opening) {earlier : List Engine.Effect} (hq : Engine.Quiet earlier)
    (query : Query) (headers : Headers) :
    Coupled (c.carryOutAll (earlier ++ [.openTransport query headers])).1 ∧
      (c.carryOutAll (earlier ++ [.openTransport query headers])).2 = [] ∧
        DialsFree (c.stages (earlier ++ [.openTransport query headers])) := by
  have haside := (aside_carryOutAll (c := c) hq).1
  have hfree' : (c.carryOutAll earlier).1.transport.state = .closed := haside.state.trans hfree
  obtain ⟨hcoupled, hnone⟩ := carryOut_openTransport (haside.sound h) hfree'
    ((congrArg _ haside.engine).trans hs) query headers
  rw [carryOutAll_append hq, stages_append]
  refine ⟨hcoupled, by rw [hnone]; rfl, (dialsFree_of_quiet hq).append ?_⟩
  rintro c' query' headers' hm
  obtain ⟨rfl, -⟩ := Prod.mk.inj (List.mem_singleton.1 hm)
  exact hfree'

/-- **The connection ends**, by whichever side, and the report of that is on its way. -/
theorem coupled_of_end (h : Sound c) (hlive : c.engine.state ≠ .closed) {id : ConnectionId}
    (hid : c.current = some id) (hlinked : c.transport.current = some id)
    (hnone : c.transport.events.countP (reportsEnd id) = 0) (normal : Bool) (reasons : List String) :
    Coupled { c with transport := { c.transport with
      state := .closed, closeReasons := reasons
      events := c.transport.events ++ [(id, .closed normal)] } } := by
  refine
    { sink := h.sink
      event_lt := ?_
      current_lt := h.current_lt
      requests := h.requests
      attached := ?_
      idle := fun _ => rfl
      closing := fun _ => rfl
      linked := ?_
      ends := ?_
      reported := ?_ }
  · intro p hp
    rcases List.mem_append.1 hp with hp | hp
    · exact h.event_lt p hp
    · obtain rfl := List.mem_singleton.1 hp
      exact h.current_lt id hlinked
  · simp [hid, hlive]
  · intro id' hid'
    obtain rfl : id = id' := Option.some.inj (hid.symm.trans hid')
    exact hlinked
  · intro id' hid'
    obtain rfl : id = id' := Option.some.inj (hid.symm.trans hid')
    simp [List.countP_append, hnone, reportsEnd]
  · simp [Reported]

/-- **A connection is closed.**  Either that ends it; or it has ended already, and the engine is about
to learn that. -/
theorem hangUp_coupled (h : Sound c) {id : ConnectionId} (hid : c.current = some id)
    (hlinked : c.transport.current = some id)
    (hends : c.transport.events.countP (reportsEnd id) =
      if c.transport.state = .closed then 1 else 0)
    (hs : c.engine.state = .closing ∨ c.engine.state = .opened) (cause : Cause) :
    Coupled (c.carryOut (.closeTransport cause)).1 ∧ (c.carryOut (.closeTransport cause)).2 = none ∨
      Lost (c.carryOut (.closeTransport cause)).1 ∧
        (c.carryOut (.closeTransport cause)).2 = some (.transportClosed true) := by
  have hlive : c.engine.state ≠ .closed := by
    rcases hs with hs | hs <;> simp [hs]
  by_cases hfree : c.transport.state = .closed
  · rw [carryOut_closeTransport_of_closed hfree]
    exact .inr ⟨{ toSound := { h with }, detached := rfl, free := hfree }, rfl⟩
  · rw [carryOut_closeTransport h hlinked hfree]
    rw [if_neg hfree] at hends
    exact .inl ⟨coupled_of_end h hlive hid hlinked hends true _, rfl⟩

theorem Bound.withEngine (h : Bound c) {e : Engine}
    (hclosed : e.state = .closed ↔ c.engine.state = .closed)
    (hclosing : e.state = .closing → c.engine.state = .closing) : Bound { c with engine := e } where
  toSound := { h.toSound with }
  attached := h.attached.trans (not_congr hclosed.symm)
  idle hs := h.idle (hclosed.1 hs)
  closing hs := h.closing (hclosing hs)
  linked := h.linked
  ends := h.ends

/-- **What a round makes of an agreement.**  Either the agreement holds again, and nothing follows;
or the close that was asked for found no connection, and the engine is about to learn that. -/
theorem round_coupled (h : Bound c) {i : Engine.Input} (hi : ∀ normal, i ≠ .transportClosed normal)
    (hr : i = .transportOpened ∨ Reported c) :
    (Coupled (c.round i).1 ∧ (c.round i).2 = [] ∨
        Lost (c.round i).1 ∧ (c.round i).2 = [.transportClosed true]) ∧
      DialsFree ({ c with engine := (c.engine.handle i).1 }.stages (c.engine.handle i).2) := by
  have hsound : Sound { c with engine := (c.engine.handle i).1 } := { h.toSound with }
  rw [round]
  cases Engine.use_of_handle hi with
  | still quiet state stays =>
    have hbound : Bound { c with engine := (c.engine.handle i).1 } :=
      h.withEngine (by rw [state]) (by rw [state]; exact id)
    have hreported : Reported { c with engine := (c.engine.handle i).1 } := by
      intro id hid (hs : (c.engine.handle i).1.state = .opening)
      rw [state] at hs
      rcases hr with hr | hr
      · exact absurd hs (stays hr)
      · exact hr id hid hs
    obtain ⟨haside, hnil⟩ := aside_carryOutAll (c := { c with engine := (c.engine.handle i).1 }) quiet
    exact ⟨.inl ⟨haside.coupled { hbound with reported := hreported }, hnil⟩,
      dialsFree_of_quiet quiet⟩
  | connected quiet before after =>
    have hbound : Bound { c with engine := (c.engine.handle i).1 } :=
      h.withEngine (by simp [before, after]) (by simp [after])
    have hreported : Reported { c with engine := (c.engine.handle i).1 } := by
      simp [Reported, after]
    obtain ⟨haside, hnil⟩ := aside_carryOutAll (c := { c with engine := (c.engine.handle i).1 }) quiet
    exact ⟨.inl ⟨haside.coupled { hbound with reported := hreported }, hnil⟩,
      dialsFree_of_quiet quiet⟩
  | hangsUp earlier cause effects quiet before after =>
    have haside := (aside_carryOutAll (c := { c with engine := (c.engine.handle i).1 }) quiet).1
    obtain ⟨id, hid⟩ := Option.isSome_iff_exists.1 (h.attached.2 before)
    have hends := h.ends id hid
    rw [effects, carryOutAll_append quiet, stages_append]
    constructor
    · rcases hangUp_coupled (haside.sound hsound) (haside.current.trans hid)
        (haside.connection.trans (h.linked id hid))
        (by rw [haside.events, haside.state]; exact hends) (by rw [haside.engine]; exact after)
        cause with ⟨hcoupled, hnone⟩ | ⟨hlost, hnext⟩
      · exact .inl ⟨hcoupled, by rw [hnone]; rfl⟩
      · exact .inr ⟨hlost, by rw [hnext]; rfl⟩
    · refine (dialsFree_of_quiet quiet).append ?_
      intro c' query headers hm
      cases (Prod.mk.inj (List.mem_singleton.1 hm)).2
  | dials _ earlier query headers effects quiet before after =>
    rw [effects]
    obtain ⟨hcoupled, hnil, hdials⟩ := dial_coupled hsound (h.idle before) after quiet query headers
    exact ⟨.inl ⟨hcoupled, hnil⟩, hdials⟩

/-- **What a round makes of a loss.**  Once the engine has learned of it the two agree again. -/
theorem round_lost (h : Lost c) (normal : Bool) :
    (Coupled (c.round (.transportClosed normal)).1 ∧ (c.round (.transportClosed normal)).2 = []) ∧
      DialsFree ({ c with engine := (c.engine.transportClosed normal).1 }.stages
        (c.engine.transportClosed normal).2) := by
  have hsound : Sound { c with engine := (c.engine.transportClosed normal).1 } :=
    { h.toSound with }
  rw [round, Engine.handle]
  rcases c.engine.transportClosed_use normal with
    ⟨quiet, after⟩ | ⟨-, earlier, query, headers, effects, quiet, after⟩
  · have hcoupled : Coupled { c with engine := (c.engine.transportClosed normal).1 } :=
      { hsound with
        attached := by simp [h.detached, after]
        idle := fun _ => h.free
        closing := fun _ => h.free
        linked := by simp [h.detached]
        ends := by simp [h.detached]
        reported := by simp [Reported, h.detached] }
    obtain ⟨haside, hnil⟩ :=
      aside_carryOutAll (c := { c with engine := (c.engine.transportClosed normal).1 }) quiet
    exact ⟨⟨haside.coupled hcoupled, hnil⟩, dialsFree_of_quiet quiet⟩
  · rw [effects]
    obtain ⟨hcoupled, hnil, hdials⟩ := dial_coupled hsound h.free after quiet query headers
    exact ⟨⟨hcoupled, hnil⟩, hdials⟩

/-! ## Inputs

An input leads to one round, or to a second one if its first round ends in a loss.
-/

/-- **What follows from the end of a connection** is an agreement, and no input is left over. -/
theorem feed_lost (h : Lost c) (normal : Bool) (rounds : Nat) :
    Coupled (c.feed (rounds + 1) [.transportClosed normal]).1 ∧
      (c.feed (rounds + 1) [.transportClosed normal]).2 = [] ∧
        DialsFree (c.feedStages (rounds + 1) [.transportClosed normal]) := by
  obtain ⟨⟨hcoupled, hnil⟩, hdials⟩ := round_lost h normal
  rw [feed_succ, feedStages, hnil, List.append_nil, feed_nil]
  refine ⟨hcoupled, rfl, hdials.append ?_⟩
  cases rounds <;> exact dialsFree_nil

/-- **What follows from another input** is an agreement too. -/
theorem feed_coupled (h : Bound c) {i : Engine.Input} (hi : ∀ normal, i ≠ .transportClosed normal)
    (hr : i = .transportOpened ∨ Reported c) (rounds : Nat) :
    Coupled (c.feed (rounds + 2) [i]).1 ∧ (c.feed (rounds + 2) [i]).2 = [] ∧
      DialsFree (c.feedStages (rounds + 2) [i]) := by
  obtain ⟨⟨hcoupled, hnil⟩ | ⟨hlost, hnext⟩, hdials⟩ := round_coupled h hi hr
  · rw [feed_succ, feedStages, hnil, List.append_nil, feed_nil]
    exact ⟨hcoupled, rfl, hdials.append dialsFree_nil⟩
  · rw [feed_succ, feedStages, hnext, List.nil_append]
    obtain ⟨hcoupled, hnil, hdials'⟩ := feed_lost hlost true rounds
    exact ⟨hcoupled, hnil, hdials.append hdials'⟩

theorem handle_lost (h : Lost c) (normal : Bool) :
    Coupled (c.handle (.transportClosed normal)) ∧
      DialsFree (c.handleStages (.transportClosed normal)) := by
  obtain ⟨hcoupled, -, hdials⟩ := feed_lost h normal 7
  exact ⟨aside_publishStatus.coupled hcoupled, hdials⟩

theorem handle_opened (h : Bound c) :
    Coupled (c.handle .transportOpened) ∧ DialsFree (c.handleStages .transportOpened) := by
  obtain ⟨hcoupled, -, hdials⟩ := feed_coupled h (i := .transportOpened) (by simp) (.inl rfl) 6
  exact ⟨aside_publishStatus.coupled hcoupled, hdials⟩

/-- **Any other input keeps the agreement.** -/
theorem handle_coupled (h : Coupled c) {i : Engine.Input}
    (hi : ∀ normal, i ≠ .transportClosed normal) :
    Coupled (c.handle i) ∧ DialsFree (c.handleStages i) := by
  obtain ⟨hcoupled, -, hdials⟩ := feed_coupled h.toBound hi (.inr h.reported) 6
  exact ⟨aside_publishStatus.coupled hcoupled, hdials⟩

/-! ## The peer -/

/-- Whoever has a connection has the transport's latest one. -/
theorem Bound.current_of_busy (h : Bound c) (hs : c.transport.state ≠ .closed) :
    ∃ id, c.current = some id ∧ c.transport.current = some id := by
  have hlive : c.engine.state ≠ .closed := fun he => hs (h.idle he)
  obtain ⟨id, hid⟩ := Option.isSome_iff_exists.1 (h.attached.2 hlive)
  exact ⟨id, hid, h.linked id hid⟩

/-- A further event of the latest connection, other than its end, tells nothing that is not so. -/
theorem Coupled.push (h : Coupled c) {id : ConnectionId} {event : TransportEvent}
    (hlatest : c.transport.current = some id) (hev : ∀ normal, event ≠ .closed normal) :
    Coupled { c with transport := { c.transport with
      events := c.transport.events ++ [(id, event)] } } := by
  have hno (id' : ConnectionId) : reportsEnd id' (id, event) = false := by
    cases event with
    | closed normal => exact absurd rfl (hev normal)
    | _ => rfl
  refine
    { sink := h.sink
      event_lt := ?_
      current_lt := h.current_lt
      requests := h.requests
      attached := h.attached
      idle := h.idle
      closing := h.closing
      linked := h.linked
      ends := ?_
      reported := ?_ }
  · intro p hp
    rcases List.mem_append.1 hp with hp | hp
    · exact h.event_lt p hp
    · obtain rfl := List.mem_singleton.1 hp
      exact h.current_lt id hlatest
  · intro id' hid'
    simp [List.countP_append, hno, h.ends id' hid']
  · intro id' hid' hs ht
    exact List.mem_append_left _ (h.reported id' hid' hs ht)

theorem Coupled.emit (h : Coupled c) {event : TransportEvent}
    (hev : ∀ normal, event ≠ .closed normal) :
    Coupled { c with transport := c.transport.emit event } := by
  cases hlatest : c.transport.current with
  | none =>
    have hemit : c.transport.emit event = c.transport := by simp [MemoryTransport.emit, hlatest]
    rwa [hemit]
  | some id =>
    have hemit : c.transport.emit event =
        { c.transport with events := c.transport.events ++ [(id, event)] } := by
      simp [MemoryTransport.emit, hlatest, h.sink]
    rw [hemit]
    exact h.push hlatest hev

/-- **The peer accepts the connection**, and the report of that is on its way. -/
theorem Coupled.accept (h : Coupled c) : Coupled { c with transport := c.transport.accept } := by
  by_cases hs : c.transport.state = .opening
  · obtain ⟨id, hid, hlinked⟩ := h.current_of_busy (by simp [hs])
    have haccept : c.transport.accept = { c.transport with
        state := .opened, events := c.transport.events ++ [(id, .opened)] } := by
      simp [MemoryTransport.accept, MemoryTransport.emit, hs, h.sink, hlinked]
    have hpush : Coupled { c with transport := { c.transport with
        events := c.transport.events ++ [(id, .opened)] } } := h.push hlinked (by simp)
    have hopening : c.transport.state ≠ .closed := by simp [hs]
    rw [haccept]
    refine
      { hpush with
        idle := fun he => absurd (h.idle he) hopening
        closing := fun he => absurd (h.closing he) hopening
        ends := ?_
        reported := ?_ }
    · intro id' hid'
      have hends := hpush.ends id' hid'
      rw [if_neg hopening] at hends
      exact hends
    · intro id' hid' _ _
      obtain rfl : id = id' := Option.some.inj (hid.symm.trans hid')
      exact List.mem_append_right _ (List.mem_singleton_self _)
  · have haccept : c.transport.accept = c.transport := by simp [MemoryTransport.accept, hs]
    rwa [haccept]

/-- **The peer ends the connection**, and the report of that is on its way. -/
theorem Coupled.finish (h : Coupled c) (normal : Bool) :
    Coupled { c with transport := c.transport.finish normal } := by
  by_cases hs : c.transport.state = .closed
  · have hfinish : c.transport.finish normal = c.transport := by simp [MemoryTransport.finish, hs]
    rwa [hfinish]
  · obtain ⟨id, hid, hlinked⟩ := h.current_of_busy hs
    have hends := h.ends id hid
    rw [if_neg hs] at hends
    have hfinish : c.transport.finish normal = { c.transport with
        state := .closed, events := c.transport.events ++ [(id, .closed normal)] } := by
      simp [MemoryTransport.finish, MemoryTransport.emit, hs, h.sink, hlinked]
    rw [hfinish]
    exact coupled_of_end h.toSound (h.attached.1 (by simp [hid])) hid hlinked hends normal _

/-- **Whatever the peer does keeps the agreement.** -/
theorem Coupled.act (h : Coupled c) (a : MemoryTransport.PeerAction) :
    Coupled { c with transport := c.transport.act a } := by
  cases a with
  | accept => exact h.accept
  | refuse => exact h.finish false
  | drop => exact h.finish false
  | close => exact h.finish true
  | send frame =>
    simp only [MemoryTransport.act, MemoryTransport.send]
    split
    · exact h.emit (by simp)
    · exact h
  | respondHttp status headers => exact h.emit (by simp)

/-! ## Turns -/

/-- An agreement that the task carries on, with the work that it has done for that. -/
def Carried (c : Client MemoryTransport) (works : List (Client MemoryTransport × Work)) : Prop :=
  Coupled c ∧ DialsFree (works.flatMap workStages)

theorem Coupled.carried (h : Coupled c) : Carried c [] := ⟨h, dialsFree_nil⟩

theorem carried_told {i : Engine.Input} (h : Coupled (c.handle i) ∧ DialsFree (c.handleStages i)) :
    Carried (c.handle i) [(c, .told i)] := by
  rwa [Carried, List.flatMap_singleton, workStages]

/-- **Frames keep the agreement**, and so do the packets that they complete. -/
theorem frameWise_carried : FrameWise fun c works c' => Coupled c → Carried c' works where
  append h h' hc := by
    obtain ⟨hcoupled, hdials⟩ := h hc
    obtain ⟨hcoupled', hdials'⟩ := h' hcoupled
    rw [Carried, List.flatMap_append]
    exact ⟨hcoupled', hdials.append hdials'⟩
  counted c metrics _ _ hc := Coupled.carried { hc with }
  heard c i hi hc := carried_told (handle_coupled hc fun normal heq => by
    rw [heq] at hi
    cases hi)
  fed c id frame _ hc := Coupled.carried (c := { c with codec := (c.codec.feed frame).1 }) { hc with }
  routed c p hc := ((aside_route p).coupled hc).carried

section Events

variable {id : ConnectionId} {event : TransportEvent} {rest : List (ConnectionId × TransportEvent)}
  (h : Coupled c) (hev : c.transport.events = (id, event) :: rest)

include h hev

theorem Coupled.sound_taken : Sound { c with transport := { c.transport with events := rest } } where
  sink := h.sink
  event_lt p hp := h.event_lt p (hev ▸ List.mem_cons_of_mem _ hp)
  current_lt := h.current_lt
  requests := h.requests

/-- Taking an event that is not the end of the connection. -/
theorem Coupled.bound_taken (hno : ∀ id', c.current = some id' → reportsEnd id' (id, event) = false) :
    Bound { c with transport := { c.transport with events := rest } } where
  toSound := h.sound_taken hev
  attached := h.attached
  idle := h.idle
  closing := h.closing
  linked := h.linked
  ends id' hid' := by
    have hends := h.ends id' hid'
    rw [hev, List.countP_cons, hno id' hid'] at hends
    simpa using hends

/-- Taking an event that is neither the end of the connection nor its opening. -/
theorem Coupled.coupled_taken
    (hno : ∀ id', c.current = some id' → reportsEnd id' (id, event) = false)
    (hopen : ∀ id', c.current = some id' → (id', .opened) ≠ (id, event)) :
    Coupled { c with transport := { c.transport with events := rest } } where
  toBound := h.bound_taken hev hno
  reported id' hid' hs ht := by
    have hmem := h.reported id' hid' hs ht
    rw [hev] at hmem
    exact (List.mem_cons.1 hmem).resolve_left (hopen id' hid')

/-- Taking the end of the connection: it is a loss. -/
theorem Coupled.lost_taken {normal : Bool} (hid : c.current = some id)
    (hend : event = .closed normal) :
    Lost { c with transport := { c.transport with events := rest }, current := none } where
  toSound := { h.sound_taken hev with }
  detached := rfl
  free := by
    by_contra hs
    have hends := h.ends id hid
    rw [hev, List.countP_cons, if_neg hs, hend] at hends
    simp [reportsEnd] at hends

end Events

/-- **An event keeps the agreement**, whichever connection it is about. -/
theorem carried_receiveEvent (h : Coupled c) {id : ConnectionId} {event : TransportEvent}
    {rest : List (ConnectionId × TransportEvent)} (hev : c.transport.events = (id, event) :: rest) :
    Carried
      (({ c with transport := { c.transport with events := rest } } :
        Client MemoryTransport).receiveEvent id event)
      (({ c with transport := { c.transport with events := rest } } :
        Client MemoryTransport).eventWork id event) := by
  unfold receiveEvent eventWork
  dsimp only
  by_cases hid : c.current = some id
  · rw [if_neg (not_not_intro hid), if_neg (not_not_intro hid)]
    cases event with
    | opened => exact carried_told (handle_opened (h.bound_taken hev fun _ _ => rfl))
    | closed normal => exact carried_told (handle_lost (h.lost_taken hev hid rfl) normal)
    | message frame =>
      refine frameWise_carried.receiveFrame ?_ frame
        (h.coupled_taken hev (fun _ _ => rfl) (by simp))
      exact hid
    | httpResponse status headers => exact (h.coupled_taken hev (fun _ _ => rfl) (by simp)).carried
  · -- The event is about an earlier connection: it is taken, and that is all.
    have hno (id' : ConnectionId) (hid' : c.current = some id') :
        reportsEnd id' (id, event) = false := by
      have hne : id ≠ id' := fun heq => hid (heq ▸ hid')
      cases event <;> simp [reportsEnd, hne]
    have hopen (id' : ConnectionId) (hid' : c.current = some id') : (id', .opened) ≠ (id, event) :=
      fun heq => hid ((Prod.mk.inj heq).1 ▸ hid')
    rw [if_pos hid, if_pos hid]
    exact (h.coupled_taken hev hno hopen).carried

theorem finish_phase : c.finish.phase = .ended := rfl

/-- The last turn ends the task, and every other one keeps the agreement. -/
theorem ended_or_coupled_finishIfClosed (h : Coupled c) :
    c.finishIfClosed.phase = .ended ∨ Coupled c.finishIfClosed := by
  rw [finishIfClosed]
  split
  · exact .inl finish_phase
  · exact .inr h

/-- **A command keeps the agreement**, unless it ends the task. -/
theorem carried_execute (h : Coupled c) {command : Command}
    (hreq : ∀ i, command = .engine i → i.isRequest = true) :
    ((c.execute command).phase = .ended ∨ Coupled (c.execute command)) ∧
      DialsFree ((c.commandWork command).flatMap workStages) := by
  cases command with
  | engine i =>
    have hi (normal : Bool) : i ≠ .transportClosed normal := by
      rintro rfl
      cases hreq _ rfl
    exact (carried_told (handle_coupled h hi)).imp_left .inr
  | emit ns name args reply =>
    exact ((aside_emit ns name args reply).coupled h).carried.imp_left .inr
  | socketCreated ns => exact ((aside_socketCreated ns).coupled h).carried.imp_left .inr
  | closeSocket ns => exact ((aside_closeSocket ns).coupled h).carried.imp_left .inr
  | shutdown =>
    obtain ⟨hclose, hdials⟩ := carried_told (handle_coupled h (i := .close) (by simp))
    exact ⟨ended_or_coupled_finishIfClosed { hclose with }, hdials⟩

theorem Coupled.command_taken (h : Coupled c) {command : Command} {rest : List Command}
    (hcom : c.commands = command :: rest) :
    Coupled { c with commands := rest } ∧ ∀ i, command = .engine i → i.isRequest = true :=
  ⟨{ h with requests := fun i hi => h.requests i (hcom ▸ List.mem_cons_of_mem _ hi) },
    fun i hi => h.requests i (hcom ▸ hi ▸ .head _)⟩

/-- **A turn keeps the agreement**, unless it ends the task. -/
theorem turn_coupled (h : Coupled c) {t : Turn} (ht : c.turn? t = some c') :
    c'.phase = .ended ∨ Coupled c' := by
  cases taken_of_turn? ht with
  | command hphase hcom =>
    obtain ⟨hrest, hreq⟩ := h.command_taken hcom
    exact (carried_execute hrest hreq).1
  | event hphase hreceive =>
    obtain ⟨rest, hev, rfl⟩ := receive?_eq_some hreceive
    exact .inr (carried_receiveEvent h hev).1
  | lateEvent hphase hreceive =>
    obtain ⟨rest, hev, rfl⟩ := receive?_eq_some hreceive
    exact ended_or_coupled_finishIfClosed (carried_receiveEvent h hev).1
  | @timer k timers =>
    have htimers : Coupled { c with timers } := { h with }
    exact .inr (handle_coupled htimers (i := .timerFired k) (by simp)).1

/-- **In a turn a connection is asked for only if the transport is free.** -/
theorem turn_dialsFree (h : Coupled c) (t : Turn) : DialsFree (c.turnStages t) := by
  rw [turnStages]
  cases t with
  | command =>
    simp only [turnWork]
    split
    · exact dialsFree_nil
    · next command rest hcom =>
      obtain ⟨hrest, hreq⟩ := h.command_taken hcom
      exact (carried_execute hrest hreq).2
  | event =>
    simp only [turnWork]
    split
    · exact dialsFree_nil
    · next hreceive =>
      obtain ⟨rest, hev, rfl⟩ := receive?_eq_some hreceive
      exact (carried_receiveEvent h hev).2
  | timer =>
    simp only [turnWork]
    split
    · exact dialsFree_nil
    · next k timers _ =>
      have htimers : Coupled { c with timers } := { h with }
      exact (carried_told (handle_coupled htimers (i := .timerFired k) (by simp))).2

/-! ## Runs -/

/-- **A step keeps the agreement**, unless it ends the task. -/
theorem Step.coupled (h : Step c c') (hc : Coupled c) : c'.phase = .ended ∨ Coupled c' := by
  cases h with
  | call a => exact .inr ((aside_call a).coupled hc)
  | on id name listener => exact .inr ((aside_modifySocket id _).coupled hc)
  | turn t ht => exact turn_coupled hc ht
  | peer a => exact .inr (hc.act a)
  | take =>
    have haside : Aside c { c with transport := c.transport.takeWritten.2 } :=
      ⟨rfl, rfl, rfl, fun _ h => .inl h⟩
    exact .inr (haside.coupled hc)
  | elapse time =>
    have htimers : Coupled { c with timers := c.timers.elapseTo time } := { hc with }
    rcases elapseTo_cases c time with heq | ⟨-, -, -, heq⟩ <;> rw [heq]
    · exact .inr htimers
    · exact .inl finish_phase

/-- **Until the task has ended, engine and transport are coupled**: by induction on the run. -/
theorem Reachable.coupled (h : Reachable c) (hphase : c.phase ≠ .ended) : Coupled c := by
  induction h with
  | initial h => exact h.coupled
  | step hc h ih =>
    have hc' := ih fun he => hphase (h.ended he)
    exact (h.coupled hc').resolve_left hphase

/-- **Engine and transport agree** between any two turns of the task, and no connection that a turn
asks for is refused since there is one already. -/
theorem engine_transport_agree (h : Reachable c) (hphase : c.phase ≠ .ended) :
    Agrees c ∧ ∀ t c' query headers, (c', .openTransport query headers) ∈ c.turnStages t →
      ∀ url, (Transport.dial c'.transport url headers).1 ≠ .error .alreadyOpen := by
  have hcoupled := h.coupled hphase
  refine ⟨hcoupled.agrees, fun t c' query headers hm url => ?_⟩
  have hfree := turn_dialsFree hcoupled t c' query headers hm
  simp only [Transport.dial, MemoryTransport.dial, hfree, ne_eq, not_true, if_false]
  split <;> simp

/-! ## A report that comes too late -/

/-- A client to which nothing has happened yet. -/
def fresh : Client MemoryTransport where
  engine := .new .v4 .default
  codec := .new .v4
  transport := MemoryTransport.new.installSink
  endpoint := { secure := false, host := "localhost", port := 80, path := "/" }
  timers := {}
  current := none
  sockets := []
  registry := .nil
  observers := {}
  commands := []
  defaults := (.nil, .nil)
  status := {}
  statusVersion := 0
  metrics := {}
  journal := []
  phase := .running
  epoch := 0

/-- A call, and the turn of the task that takes it. -/
def served (c : Client MemoryTransport) (a : Call) : Client MemoryTransport :=
  ((c.call a).turn? .command).getD (c.call a)

theorem Reachable.served (h : Reachable c) (a : Call) : Reachable (c.served a) := by
  have hcall : Reachable (c.call a) := h.step (.call c a)
  rw [Client.served]
  match ht : (c.call a).turn? .command with
  | none => exact hcall
  | some c' => exact hcall.step (.turn .command ht)

/-- The peer refuses, the application closes before the client learns of it, and connects again. -/
def redialed : Client MemoryTransport :=
  let c := fresh.served (.connect .nil .nil)
  ({ c with transport := c.transport.act .refuse }.served .close).served (.connect .nil .nil)

/-- The report of the refusal is still in the queue.  It does not count for the second connection,
and the two agree. -/
theorem redialed_agrees :
    redialed.transport.events = [(⟨1⟩, .closed false)] ∧ redialed.current = some ⟨2⟩ ∧
      Agrees redialed := by
  have hfresh : Initial fresh := ⟨⟨_, _, rfl⟩, rfl, rfl, rfl⟩
  have hr : Reachable redialed :=
    (((((Reachable.initial hfresh).served _).step (.peer _ .refuse)).served _).served _)
  exact ⟨rfl, rfl, (engine_transport_agree hr (by decide)).1⟩

end RealtimeClient.Client
