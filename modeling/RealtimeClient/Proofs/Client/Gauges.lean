import Mathlib
import RealtimeClient.Proofs.Client.Acks
import RealtimeClient.Proofs.Client.Shutdown

/-!
# What is shown to the outside

A client shows the state of its session, whether it is open, and how many callbacks wait for a reply.
The task keeps this up to date by hand, at the end of what it does.  As long as the task runs it never
forgets to.  When it lets go of everything it does: the sockets are gone then, but the gauge stays at the
number of callbacks that waited on them.

* `Observed` — all that is shown is right; `observed_handle`, `Taken.observed`, `Move.observed` — turn by
  turn.
* `Ending` — the client at the moment when the task lets go; `Vacated` — what it leaves;
  `reckoned_finish_iff` — whether the gauge is right.
* `Cleared`, `cleared_shutdown` — a shutdown that closes the session itself leaves nobody waiting.
* **`gauges_follow`** — what is shown, all along and at the end; `left_gauge_stays` — a gauge that stays
  behind.
-/

namespace RealtimeClient

/-- A close that is not under way yet makes every socket leave first. -/
theorem Engine.close_effects {e : Engine} (h : e.state ≠ .closing) :
    ∃ rest, (e.handle .close).2 = .socketsClose :: rest := by
  simp only [Engine.handle, Engine.close]
  cases hs : e.state with
  | opening | opened => exact ⟨_, rfl⟩
  | closing => exact absurd hs h
  | closed => by_cases hpending : e.reconnectPending = true <;> simp [hpending]

namespace Client

variable {τ : Type} {c c' c'' : Client τ}

/-- **What is shown is right.** -/
structure Observed (c : Client τ) : Prop where
  status : c.status = { state := c.engine.state, sessionId := c.engine.sessionId }
  connected : ∀ b, c.metrics.connected = some b → (b = true ↔ c.status.state = .opened)
  acks : Reckoned c

/-- **What is shown of a client that has let go of everything**, the gauge of callbacks apart. -/
structure Vacated (c : Client τ) : Prop where
  status : c.status = {}
  connected : c.metrics.connected = some false
  acks : c.pendingAcks = 0

/-- **No callback waits**, and the gauge says so. -/
structure Cleared (c : Client τ) : Prop where
  filed : Filed c
  unasked : Unasked c
  acks : Reckoned c

theorem Observed.steady (h : Observed c) (hs : Steady c c') (hr : Reckoned c → Reckoned c') :
    Observed c' where
  status := by rw [hs.status, hs.engine, h.status]
  connected := by
    rw [hs.connected, hs.status]
    exact h.connected
  acks := hr h.acks

/-- **A client to which nothing has happened yet**, and that shows nothing. -/
structure Unshown (c : Client τ) : Prop extends Unused c where
  status : c.status = {}
  metrics : c.metrics = {}

/-- A client that was just started is one. -/
theorem Unshown.of_start {settings : Settings} {transport : τ} {epoch : Nat} {c : Client τ}
    (h : start settings transport epoch = .ok c) : Unshown c := by
  have hunused := Unused.of_start h
  rw [start] at h
  split at h
  · cases h
  · split at h
    · cases h
    · cases h
      exact ⟨hunused, rfl, rfl⟩

theorem Unshown.observed (h : Unshown c) : Observed c := by
  obtain ⟨revision, policy, hengine⟩ := h.engine
  constructor
  · rw [h.status, hengine]
    rfl
  · simp [h.metrics]
  · rw [Reckoned, h.metrics, pendingAcks_eq_sum, socketIds, h.registry]
    rfl

theorem Cleared.reckons (h : Cleared c) (hr : Reckons c c') : Cleared c' where
  filed := (hr.quiet h.filed).filed h.filed
  unasked := (hr.quiet h.filed).unasked h.filed h.unasked
  acks := hr.right h.acks

/-- A client without sockets. -/
theorem cleared_of_registry (hregistry : c.registry = .nil) (h : Reckoned c) : Cleared c where
  filed := by
    intro ns id hns
    rw [registered?, hregistry] at hns
    cases hns
  unasked := by
    intro ns id s hns
    rw [registered?, hregistry] at hns
    cases hns
  acks := h

/-! ## The end -/

theorem metrics_disconnectSockets (final : Bool) : (c.disconnectSockets final).metrics = c.metrics := by
  rw [disconnectSockets]
  generalize c.socketIds = ids
  induction ids generalizing c with
  | nil => rfl
  | cons id rest ih => exact ih

theorem Vacated.resting (h : Vacated c) (hs : Steady c c') (ht : Tallied c c') : Vacated c' where
  status := hs.status.trans h.status
  connected := hs.connected.trans h.connected
  acks := ht.acks.trans h.acks

section Transport

variable [Transport τ]

theorem vacated_finish : Vacated c.finish where
  status := rfl
  connected := rfl
  acks := rfl

theorem acksPending_finish : c.finish.metrics.acksPending = c.metrics.acksPending := by
  have hkept : (({ c with timers := c.timers.cancelAll } : Client τ).disconnectSockets
      true).metrics.acksPending = c.metrics.acksPending := by rw [metrics_disconnectSockets]
  exact hkept

/-- **The gauge is right at the end** if and only if no callback waited when the task let go. -/
theorem reckoned_finish_iff (h : Reckoned c) : Reckoned c.finish ↔ c.pendingAcks = 0 := by
  rw [Reckoned, acksPending_finish, h, vacated_finish.acks]

/-- **What has ended stays as it is**: calls are not taken any more. -/
theorem Move.resting {marks : List Mark} (m : Move c marks c') (hended : c.phase = .ended) :
    c'.phase = .ended ∧ Steady c c' ∧ Tallied c c' := by
  cases m with
  | call a => exact ⟨(call_phase a).trans hended, (mute_call a).toSteady, tallied_call a⟩
  | on id name listener =>
    exact ⟨hended, (mute_on id name listener).toSteady, tallied_on id name listener⟩
  | turn t ht => cases t <;> simp [turn?, hended] at ht
  | transport transport => exact ⟨hended, ⟨rfl, rfl, rfl, rfl, rfl⟩, ⟨rfl, rfl⟩⟩
  | elapse time =>
    rcases elapseTo_cases c time with heq | ⟨deadline, hdraining, -, -⟩
    · rw [heq]
      exact ⟨hended, ⟨rfl, rfl, rfl, rfl, rfl⟩, ⟨rfl, rfl⟩⟩
    · simp [hended] at hdraining
  | silence hphase => simp [hended] at hphase

theorem resting_run {trace : List Mark} (h : Run c trace c') (hended : c.phase = .ended) :
    c'.phase = .ended ∧ Tallied c c' := by
  induction h with
  | nil => exact ⟨hended, .refl c⟩
  | move _ m ih =>
    obtain ⟨hphase, htallied⟩ := ih
    obtain ⟨hphase', -, hmove⟩ := m.resting hphase
    exact ⟨hphase', htallied.trans hmove⟩

/-! ## Turns -/

theorem Observed.talk (h : Observed c) (ht : Talk c c') (hr : Reckons c c') : Observed c' :=
  h.steady ht.steady hr.right

/-- **The status is published after every input.** -/
theorem observed_handle (h : Reckoned c) (i : Engine.Input) : Observed (c.handle i) where
  status := rfl
  connected b hb := by
    cases Option.some.inj hb
    exact decide_eq_true_iff
  acks := (reckons_handle i).right h

/-- Frames, and the packets that they complete. -/
theorem frameWise_observed :
    FrameWise fun (c : Client τ) (_ : List (Client τ × Work)) c' => Observed c → Observed c' where
  append h h' hc := h' (h hc)
  counted c metrics hconnected hacks h := by
    refine h.steady ⟨rfl, rfl, rfl, rfl, hconnected⟩ fun hr => ?_
    rw [Reckoned, hacks]
    exact hr
  heard c i _ h := observed_handle h.acks i
  fed c _ frame _ h := h.steady (mute_fed c frame).toSteady fun hr => hr
  routed c p h := h.talk (talk_route p) (reckons_route p)

theorem Observed.receiveEvent (h : Observed c) (id : ConnectionId) (event : TransportEvent) :
    Observed (c.receiveEvent id event) :=
  frameWise_observed.receiveEvent (fun _ _ h => observed_handle h.acks _)
    (fun _ _ _ h => observed_handle (c := { c with current := none }) h.acks _) h

/-- A client with the event taken from its transport. -/
theorem Observed.taken (h : Observed c) (transport : τ) (id : ConnectionId) (event : TransportEvent) :
    Observed ({ c with transport }.receiveEvent id event) := by
  have htaken : Observed { c with transport } := h.steady ⟨rfl, rfl, rfl, rfl, rfl⟩ fun hr => hr
  exact htaken.receiveEvent id event

theorem Observed.finishIfClosed (h : Observed c) (hphase : c.finishIfClosed.phase ≠ .ended) :
    Observed c.finishIfClosed := by
  rw [Client.finishIfClosed] at hphase ⊢
  split at hphase
  · exact absurd rfl hphase
  · next hopen =>
    rw [if_neg hopen]
    exact h

/-- The client once a shutdown has closed its session. -/
def shuttingDown (c : Client τ) : Client τ :=
  { c.handle .close with phase := .draining ((c.handle .close).timers.now + shutdownGrace) }

theorem Observed.shuttingDown (h : Observed c) : Observed c.shuttingDown :=
  (observed_handle h.acks .close).steady ⟨rfl, rfl, rfl, rfl, rfl⟩ id

/-- **A turn that does not end the task.** -/
theorem Taken.observed {t : Turn} (ht : Taken c t c') (h : Observed c) (hphase' : c'.phase ≠ .ended) :
    Observed c' := by
  cases ht with
  | @command command rest hphase hcom =>
    have htaken : Observed { c with commands := rest } := h.steady ⟨rfl, rfl, rfl, rfl, rfl⟩ id
    cases command with
    | engine i => exact observed_handle htaken.acks i
    | emit ns name args reply =>
      exact htaken.steady (talk_emit ns name args reply).steady fun hr => reckoned_emit hr ..
    | socketCreated ns => exact htaken.talk (talk_socketCreated ns) (reckons_socketCreated ns)
    | closeSocket ns => exact htaken.talk (talk_closeSocket ns) (reckons_closeSocket ns)
    | shutdown => exact htaken.shuttingDown.finishIfClosed hphase'
  | @event id event transport hphase hreceive => exact h.taken transport id event
  | @lateEvent id event transport deadline hphase hreceive =>
    exact (h.taken transport id event).finishIfClosed hphase'
  | @timer k timers hphase hnext => exact observed_handle (c := { c with timers }) h.acks _

theorem Move.observed {marks : List Mark} (m : Move c marks c') (h : Observed c)
    (hphase' : c'.phase ≠ .ended) : Observed c' := by
  cases m with
  | call a => exact h.steady (mute_call a).toSteady (reckons_call a).right
  | on id name listener =>
    exact h.steady (mute_on id name listener).toSteady (reckons_on id name listener).right
  | turn t ht => exact (taken_of_turn? ht).observed h hphase'
  | transport transport => exact h.steady ⟨rfl, rfl, rfl, rfl, rfl⟩ fun hr => hr
  | elapse time =>
    have helapsed : Observed { c with timers := c.timers.elapseTo time } :=
      h.steady ⟨rfl, rfl, rfl, rfl, rfl⟩ fun hr => hr
    rcases elapseTo_cases c time with heq | ⟨-, -, -, heq⟩ <;> rw [heq] at hphase' ⊢
    · exact helapsed
    · exact absurd rfl hphase'
  | silence => exact absurd rfl hphase'

/-! ## The moment when the task lets go -/

/-- **The client at the moment when the task lets go of everything.** -/
inductive Ending (c : Client τ) : Client τ → Prop
  /-- The session is closed when the shutdown begins. -/
  | shutdown {rest : List Command} (hphase : c.phase = .running) (hcom : c.commands = .shutdown :: rest) :
      Ending c ({ c with commands := rest } : Client τ).shuttingDown
  /-- The transport confirms the close. -/
  | event {deadline : Nat} {id : ConnectionId} {event : TransportEvent} {transport : τ}
      (hphase : c.phase = .draining deadline)
      (hreceive : Transport.receive? c.transport = some ((id, event), transport)) :
      Ending c ({ c with transport }.receiveEvent id event)
  /-- The time is up. -/
  | timeout {deadline time : Nat} (hphase : c.phase = .draining deadline) (htime : deadline ≤ time) :
      Ending c { c with timers := c.timers.elapseTo time }
  /-- No event will come any more. -/
  | silence {deadline : Nat} (hphase : c.phase = .draining deadline) : Ending c c

variable {last : Client τ}

theorem Ending.observed (h : Ending c last) (hc : Observed c) : Observed last := by
  cases h with
  | @shutdown rest =>
    have htaken : Observed { c with commands := rest } := hc.steady ⟨rfl, rfl, rfl, rfl, rfl⟩ id
    exact htaken.shuttingDown
  | @event deadline id event transport => exact hc.taken transport id event
  | timeout => exact hc.steady ⟨rfl, rfl, rfl, rfl, rfl⟩ id
  | silence => exact hc

/-- A client that ends if its session is closed, and does. -/
theorem exists_finish (he : Ending c last) (hlast : last.phase ≠ .ended)
    (hended : last.finishIfClosed.phase = .ended) :
    ∃ last', Ending c last' ∧ last.finishIfClosed = last'.finish := by
  refine ⟨last, he, ?_⟩
  rw [finishIfClosed] at hended ⊢
  split at hended
  · next hclosed => rw [if_pos hclosed]
  · exact absurd hended hlast

/-- **How the task ends**, if it does. -/
theorem Taken.ending {t : Turn} (ht : Taken c t c') (hended : c'.phase = .ended) :
    ∃ last, Ending c last ∧ c' = last.finish := by
  cases ht with
  | @command command rest hphase hcom =>
    have hstill (h : (({ c with commands := rest } : Client τ).execute command).phase = c.phase) :
        False := by
      rw [h, hphase] at hended
      cases hended
    cases command with
    | engine i => exact (hstill (phase_handle _ i)).elim
    | emit ns name args reply =>
      exact (hstill (congrArg Core.phase (core_emit ns name args reply))).elim
    | socketCreated ns => exact (hstill (congrArg Core.phase (core_socketCreated ns))).elim
    | closeSocket ns => exact (hstill (congrArg Core.phase (core_closeSocket ns))).elim
    | shutdown => exact exists_finish (.shutdown hphase hcom) (by rintro ⟨⟩) hended
  | @event id event transport hphase hreceive =>
    rcases phase_receiveEvent { c with transport } id event with hsame | hfailed
    · rw [hsame.trans hphase] at hended
      cases hended
    · rw [hfailed] at hended
      cases hended
  | @lateEvent id event transport deadline hphase hreceive =>
    refine exists_finish (.event hphase hreceive) ?_ hended
    rcases phase_receiveEvent { c with transport } id event with hsame | hfailed
    · simp [hsame.trans hphase]
    · simp [hfailed]
  | @timer k timers hphase hnext =>
    rw [timerFired, phase_handle, hphase] at hended
    cases hended

theorem Move.ending {marks : List Mark} (m : Move c marks c') (hphase : c.phase ≠ .ended)
    (hended : c'.phase = .ended) : ∃ last, Ending c last ∧ c' = last.finish := by
  cases m with
  | call a => exact absurd ((call_phase a).symm.trans hended) hphase
  | on | transport => exact absurd hended hphase
  | turn t ht => exact (taken_of_turn? ht).ending hended
  | elapse time =>
    rcases elapseTo_cases c time with heq | ⟨deadline, hdraining, htime, heq⟩ <;> rw [heq] at hended ⊢
    · exact absurd hended hphase
    · exact ⟨_, .timeout hdraining htime, rfl⟩
  | silence hdraining => exact ⟨c, .silence hdraining, rfl⟩

/-! ## A shutdown that closes the session itself -/

theorem Cleared.finish (h : Cleared c) : Cleared c.finish :=
  cleared_of_registry rfl ((reckoned_finish_iff h.acks).2 h.unasked.pendingAcks_eq_zero)

theorem Cleared.finishIfClosed (h : Cleared c) : Cleared c.finishIfClosed := by
  rw [Client.finishIfClosed]
  split
  · exact h.finish
  · exact h

/-- **While the task winds up nobody begins to wait**: commands are not taken any more. -/
theorem Move.cleared {marks : List Mark} (m : Move c marks c') (hphase : c.phase ≠ .running)
    (h : Cleared c) : Cleared c' := by
  cases m with
  | call a => exact h.reckons (reckons_call a)
  | on id name listener => exact h.reckons (reckons_on id name listener)
  | turn t ht =>
    cases taken_of_turn? ht with
    | command hrunning | event hrunning | timer hrunning => exact absurd hrunning hphase
    | @lateEvent id event transport =>
      have htaken : Reckons c { c with transport } := .of_apart ⟨rfl, rfl⟩ rfl
      exact (h.reckons (htaken.trans (reckons_receiveEvent id event))).finishIfClosed
  | transport transport => exact h.reckons (.of_apart ⟨rfl, rfl⟩ rfl)
  | elapse time =>
    have helapsed : Cleared { c with timers := c.timers.elapseTo time } :=
      h.reckons (.of_apart ⟨rfl, rfl⟩ rfl)
    rcases elapseTo_cases c time with heq | ⟨-, -, -, heq⟩ <;> rw [heq]
    · exact helapsed
    · exact helapsed.finish
  | silence => exact h.finish

theorem cleared_run {trace : List Mark} (h : Run c trace c') (hphase : c.phase ≠ .running)
    (hc : Cleared c) : Cleared c' ∧ c'.phase ≠ .running := by
  induction h with
  | nil => exact ⟨hc, hphase⟩
  | move _ m ih =>
    obtain ⟨hcleared, hwinding⟩ := ih
    exact ⟨m.cleared hwinding hcleared, m.winding hwinding⟩

/-- **No callback waits behind a close** that was not under way yet. -/
theorem cleared_close (hs : c.engine.state ≠ .closing) : Cleared (c.handle .close) := by
  obtain ⟨rest, heffects⟩ := Engine.close_effects hs
  have hround : Cleared (c.round .close).1 := by
    have hleft : Cleared ({ c with engine := (c.engine.handle .close).1 } :
        Client τ).closeSockets.updateAckGauge :=
      cleared_of_registry registry_closeSockets reckoned_updateAckGauge
    rw [round, heffects]
    exact hleft.reckons (reckons_carryOutAll rest)
  exact (hround.reckons (reckons_feed 7 _)).reckons (.of_apart apart_publishStatus rfl)

/-- **A shutdown that finds no close under way** makes every socket leave, and none comes back. -/
theorem cleared_shutdown {rest : List Command} (hcom : c.commands = .shutdown :: rest)
    (hs : c.engine.state ≠ .closing) (hturn : c.turn? .command = some c') :
    Cleared c' ∧ c'.phase ≠ .running := by
  cases taken_of_turn? hturn with
  | @command command rest' hphase hcom' =>
    obtain ⟨rfl, rfl⟩ := List.cons.inj (hcom.symm.trans hcom')
    have hclosed := cleared_close (c := { c with commands := rest }) hs
    have hbegun : Cleared ({ c with commands := rest } : Client τ).shuttingDown :=
      hclosed.reckons (.of_apart ⟨rfl, rfl⟩ rfl)
    exact ⟨hbegun.finishIfClosed, phase_beginShutdown⟩

/-! ## All along, and at the end -/

/-- **Along every run**, by induction on the moves. -/
theorem shown_run {c₀ : Client τ} {trace : List Mark} (h₀ : Unshown c₀) (h : Run c₀ trace c) :
    (c.phase ≠ .ended → Observed c) ∧ (c.phase = .ended → Vacated c) := by
  induction h with
  | nil =>
    refine ⟨fun _ => h₀.observed, fun hended => ?_⟩
    rw [h₀.phase] at hended
    cases hended
  | @move c c' _ _ _ m ih =>
    obtain ⟨hobserved, hvacated⟩ := ih
    by_cases hphase : c.phase = .ended
    · obtain ⟨hended', hsteady, htallied⟩ := m.resting hphase
      exact ⟨fun hphase' => absurd hended' hphase',
        fun _ => (hvacated hphase).resting hsteady htallied⟩
    · refine ⟨m.observed (hobserved hphase), fun hended' => ?_⟩
      obtain ⟨last, -, rfl⟩ := m.ending hphase hended'
      exact vacated_finish

/-- **What is shown follows the state**, along every run, but for the gauge of callbacks at the end.  As
long as the task has not let go of everything, all that is shown is right.  When it has, the status is
the default one and nothing is connected; the gauge of callbacks is right from then on if and only if no
callback waited when the task let go.  None does if the shutdown does not find a close under way. -/
theorem gauges_follow {c₀ c : Client τ} {trace : List Mark} (h₀ : Unshown c₀) (hrun : Run c₀ trace c) :
    (c.phase ≠ .ended → Observed c) ∧ (c.phase = .ended → Vacated c) ∧
      (∀ marks c', Move c marks c' → c.phase ≠ .ended → c'.phase = .ended →
        ∃ last, Ending c last ∧ c' = last.finish ∧
          ∀ later c'', Run c' later c'' → (Reckoned c'' ↔ last.pendingAcks = 0)) ∧
      ∀ rest c' later c'', c.commands = .shutdown :: rest → c.engine.state ≠ .closing →
        c.turn? .command = some c' → Run c' later c'' → Reckoned c'' := by
  obtain ⟨hobserved, hvacated⟩ := shown_run h₀ hrun
  refine ⟨hobserved, hvacated, fun marks c' m hphase hended => ?_,
    fun rest c' later c'' hcom hs hturn hlater => ?_⟩
  · obtain ⟨last, hending, rfl⟩ := m.ending hphase hended
    refine ⟨last, hending, rfl, fun later c'' hlater => ?_⟩
    obtain ⟨-, htallied⟩ := resting_run hlater hended
    have hlast : Observed last := hending.observed (hobserved hphase)
    rw [← reckoned_finish_iff hlast.acks, Reckoned, Reckoned, htallied.gauge, htallied.acks]
  · obtain ⟨hcleared, hphase⟩ := cleared_shutdown hcom hs hturn
    exact (cleared_run hlater hphase hcleared).1.acks

end Transport

/-! ## A gauge that stays behind -/

/-- The session is open.  The application closes it, and before the client learns of the end it makes a
socket and emits an event that asks for a reply.  Then it shuts down. -/
def leaving : Client MemoryTransport :=
  let c := (((fresh.served (.connect .nil .nil)).acted .accept).turned .event).served .close
  let c := ((c.call (.join "/")).call (.emit 1 "x" [] (some 7))).call .shutdown
  ((c.turned .command).turned .command).turned .command

/-- The client has learned of the end, and let go of everything. -/
def left : Client MemoryTransport := leaving.turned .event

theorem leaving_run : Relation.ReflTransGen Step fresh leaving := by
  refine .trans ?_ (run_turned _ .command)
  refine .trans ?_ (run_turned _ .command)
  refine .trans ?_ (run_turned _ .command)
  refine .tail (.tail (.tail ?_ (.call _ (.join "/"))) (.call _ (.emit 1 "x" [] (some 7))))
    (.call _ .shutdown)
  refine .trans ?_ (run_served _ .close)
  refine .trans ?_ (run_turned _ .event)
  exact (run_served _ (.connect .nil .nil)).trans (run_acted _ .accept)

theorem turn?_leaving : leaving.turn? .event = some left := turn?_eq_turned (by decide +kernel)

theorem fresh_unshown : Unshown fresh := ⟨fresh_unused, rfl, rfl⟩

/-- One callback waits when the client lets go of everything, and the gauge shows it for good. -/
theorem left_gauge_stays :
    Unshown fresh ∧ (∃ before, Run fresh before leaving) ∧ Observed leaving ∧
      Move leaving (leaving.turnMarks .event) left ∧ left.phase = .ended ∧
      left.metrics.acksPending = some 1 ∧ left.pendingAcks = 0 ∧
      ∀ later c, Run left later c → ¬Reckoned c := by
  obtain ⟨before, hbefore⟩ := exists_run leaving_run
  have hmove : Move leaving (leaving.turnMarks .event) left := .turn .event turn?_leaving
  have hphase : leaving.phase ≠ .ended := by decide +kernel
  have hended : left.phase = .ended := by decide +kernel
  have hgauge : left.metrics.acksPending = some 1 := by decide +kernel
  have hacks : left.pendingAcks = 0 := by decide +kernel
  obtain ⟨hobserved, -, hend, -⟩ := gauges_follow fresh_unshown hbefore
  obtain ⟨last, -, -, hright⟩ := hend _ left hmove hphase hended
  have hwrong : ¬Reckoned left := by
    rw [Reckoned, hgauge, hacks]
    decide
  have hwaiting : last.pendingAcks ≠ 0 := fun h => hwrong ((hright [] left .nil).2 h)
  exact ⟨fresh_unshown, ⟨before, hbefore⟩, hobserved hphase, hmove, hended, hgauge, hacks,
    fun later c hlater h => hwaiting ((hright later c hlater).1 h)⟩

/-- **The gauge is not always right**: it can stay behind when the task has let go of everything. -/
theorem gauge_not_right :
    ¬∀ (c₀ c : Client MemoryTransport) (trace : List Mark), Unshown c₀ → Run c₀ trace c →
      (c.phase ≠ .ended → Observed c) ∧ (c.phase = .ended → Vacated c ∧ Reckoned c) := by
  intro h
  obtain ⟨before, hbefore⟩ := exists_run leaving_run
  have hrun : Run fresh (before ++ leaving.turnMarks .event) left :=
    hbefore.move (.turn .event turn?_leaving)
  have hright : Reckoned left := ((h fresh left _ fresh_unshown hrun).2 (by decide +kernel)).2
  have hgauge : left.metrics.acksPending = some 1 := by decide +kernel
  have hacks : left.pendingAcks = 0 := by decide +kernel
  rw [Reckoned, hgauge, hacks] at hright
  cases hright

end Client

end RealtimeClient
