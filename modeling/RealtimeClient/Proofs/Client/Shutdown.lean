import Mathlib
import RealtimeClient.Proofs.Client.Assembly
import RealtimeClient.Proofs.Client.Leaving
import RealtimeClient.Proofs.Engine.Closing
import RealtimeClient.Proofs.Engine.SocketUse

/-!
# After the shutdown

A shutdown closes the session as a close does, takes events until the session is closed or the time is
up, and then lets go of everything.  The events still reach the engine.  They begin no attempt, unless
a connect was waiting for an earlier close: the shutdown leaves it waiting, and the end of the
connection makes it, with nobody left to use what it opens.

* `Engine.not_closing_of_report` — no report of the transport brings the engine to `closing`.
* `Dials`, `dials_stages` — traces in which the transport is asked for a connection.
* `Winds`, `winds_composes`, `winds_run` — what reports make of an engine that was closed.
* `handle_close` — what the close itself makes of it, with all that follows.
* `Released`, `released_finish`, `Move.released` — a task that ends has let go of everything.
* `dials_after_shutdown_iff` — **exactly** when a shutdown is followed by a dial, and what it leaves.
-/

namespace RealtimeClient

namespace Engine

variable {e : Engine}

/-- **No report of the transport leads to a close.** -/
theorem not_closing_of_report {i : Input} (hi : i.isReport = true) (hs : e.state ≠ .closing) :
    (e.handle i).1.state ≠ .closing := by
  cases i with
  | transportOpened =>
    simp only [handle, transportOpened]
    split
    · simp
    · exact hs
    · exact hs
    · exact hs
  | transportClosed normal =>
    rcases e.transportClosed_use normal with ⟨-, hclosed⟩ | ⟨-, -, -, -, -, -, hopening⟩
    · simp [handle, hclosed]
    · simp [handle, hopening]
  | frameReceived => simpa only [handle, frameReceived_fst] using hs
  | packet p => simpa only [handle, packet_state] using hs
  | _ => cases hi

/-- A close begins nothing. -/
theorem not_opens_close : ¬Opens e.close.2 := by
  have hiff : Opens e.close.2 ↔ Begins e .close := opens_iff e .close
  rw [hiff]
  rintro ⟨⟩

end Engine

namespace Client

/-! ## Dials -/

/-- **A trace in which the transport is asked for a connection.** -/
def Dials (trace : List Mark) : Prop := ∃ answer, .dialed answer ∈ trace

theorem not_dials_nil : ¬Dials [] := by
  rintro ⟨answer, hm⟩
  cases hm

theorem dials_append (trace more : List Mark) : Dials (trace ++ more) ↔ Dials trace ∨ Dials more := by
  simp only [Dials, List.mem_append, exists_or]

variable {τ : Type} {c c' : Client τ}

theorem not_dials_fedMarks (id : ConnectionId) (frame : Frame) : ¬Dials (c.fedMarks id frame) := by
  rintro ⟨answer, hm⟩
  rw [fedMarks] at hm
  split at hm <;> simp at hm

/-! ## Winding up -/

/-- **What reports make of an engine that was closed**, from one client to another.  At rest it stays
at rest; a connect that waits for the close goes on waiting, or is made. -/
structure Winds (c : Client τ) (marks : List Mark) (c' : Client τ) : Prop where
  rest : c.engine.AtRest → c'.engine.AtRest ∧ ¬Dials marks
  awaits : c.engine.AwaitsClose →
    c'.engine.AwaitsClose ∧ ¬Dials marks ∨ c'.engine.state ≠ .closing ∧ Dials marks
  away : c.engine.state ≠ .closing → c'.engine.state ≠ .closing

/-- Nothing was dialed, and the engine is the same. -/
theorem Winds.of_engine (h : c'.engine = c.engine) {marks : List Mark} (hno : ¬Dials marks) :
    Winds c marks c' where
  rest hrest := ⟨h ▸ hrest, hno⟩
  awaits hawaits := .inl ⟨h ▸ hawaits, hno⟩
  away haway := h ▸ haway

theorem Winds.append {c'' : Client τ} {marks more : List Mark} (h : Winds c marks c')
    (h' : Winds c' more c'') : Winds c (marks ++ more) c'' where
  rest hrest := by
    obtain ⟨hrest', hno⟩ := h.rest hrest
    obtain ⟨hrest'', hno'⟩ := h'.rest hrest'
    exact ⟨hrest'', fun hd => ((dials_append _ _).1 hd).elim hno hno'⟩
  awaits hawaits := by
    rcases h.awaits hawaits with ⟨hawaits', hno⟩ | ⟨haway, hd⟩
    · rcases h'.awaits hawaits' with ⟨hawaits'', hno'⟩ | ⟨haway, hd⟩
      · exact .inl ⟨hawaits'', fun hd => ((dials_append _ _).1 hd).elim hno hno'⟩
      · exact .inr ⟨haway, (dials_append _ _).2 (.inr hd)⟩
    · exact .inr ⟨h'.away haway, (dials_append _ _).2 (.inl hd)⟩
  away haway := h'.away (h.away haway)

variable [Transport τ]

/-- Effects in order dial if one of them opens the transport. -/
theorem dials_stages (effects : List Engine.Effect) :
    Dials ((c.stages effects).flatMap dialMarks) ↔ Engine.Opens effects := by
  induction effects generalizing c with
  | nil => simp [stages, Dials, Engine.Opens]
  | cons f rest ih =>
    have hcons : Engine.Opens (f :: rest) ↔
        (∃ query headers, f = .openTransport query headers) ∨ Engine.Opens rest := by
      simp only [Engine.Opens, List.mem_cons, exists_or, eq_comm]
    have hfirst : Dials (dialMarks (c, f)) ↔ ∃ query headers, f = .openTransport query headers := by
      cases f <;> simp [dialMarks, Dials]
    rw [stages, List.flatMap_cons, dials_append, hfirst, ih, hcons]

/-- **One report**, with its effects. -/
theorem winds_round {i : Engine.Input} (hi : i.isReport = true) :
    Winds c ((c.roundStages i).flatMap dialMarks) (c.round i).1 := by
  have hengine : (c.round i).1.engine = (c.engine.handle i).1 := engine_round c i
  have hdials : Dials ((c.roundStages i).flatMap dialMarks) ↔ Engine.Begins c.engine i :=
    (dials_stages _).trans (Engine.opens_iff c.engine i)
  constructor
  · intro hrest
    have hconnect : ∀ query headers, i ≠ .connect query headers := by
      rintro query headers rfl
      cases hi
    rw [hengine, hdials]
    exact ⟨hrest.handle hconnect, hrest.not_begins hconnect⟩
  · intro hawaits
    rw [hengine, hdials, hawaits.begins_iff]
    by_cases hend : ∃ normal, i = .transportClosed normal
    · have hopening := ((Engine.enters_opening_iff (by simp [hawaits.1]) i).2
        ((hawaits.begins_iff i).2 hend))
      exact .inr ⟨by simp [hopening], hend⟩
    · exact .inl ⟨hawaits.handle fun normal heq => hend ⟨normal, heq⟩, hend⟩
  · intro haway
    rw [hengine]
    exact Engine.not_closing_of_report hi haway

theorem winds_composes : Composes (Winds (τ := τ)) (·.isReport = true) where
  still hengine _ _ := .of_engine hengine not_dials_nil
  append h h' := h.append h'
  detach c := by
    have hengine : ({ c with current := none } : Client τ).engine = c.engine := rfl
    exact .of_engine hengine not_dials_nil
  round c i hi := winds_round hi
  fed c id frame _ := by
    have hengine : ({ c with codec := (c.codec.feed frame).1 } : Client τ).engine = c.engine := rfl
    exact .of_engine hengine (not_dials_fedMarks id frame)

/-- **Along a run of a task that winds up**, by induction on its moves: all that the engine learns is
what the transport reports. -/
theorem winds_run {trace : List Mark} (h : Run c trace c') (hphase : c.phase ≠ .running) :
    Winds c trace c' ∧ c'.phase ≠ .running := by
  induction h with
  | nil => exact ⟨.of_engine rfl not_dials_nil, hphase⟩
  | move _ m ih =>
    obtain ⟨hwinds, hphase'⟩ := ih
    have hmove := winds_composes.move (fun _ hi => hi) (fun hrunning => absurd hrunning hphase') m
    exact ⟨hwinds.append hmove, m.winding hphase'⟩

/-! ## The close -/

/-- **Engines stay coherent**, whatever the client does. -/
theorem coherent_composes :
    Composes (fun (c : Client τ) _ c' => c.engine.Coherent → c'.engine.Coherent) fun _ => True where
  still hengine _ _ h := hengine ▸ h
  append h h' hc := h' (h hc)
  detach _ h := h
  round c i _ h := by
    rw [engine_round]
    exact h.handle i
  fed _ _ _ _ h := h

theorem Run.coherent {trace : List Mark} (h : Run c trace c') (hc : Unused c) :
    c'.engine.Coherent := by
  obtain ⟨revision, policy, hnew⟩ := hc.engine
  exact coherent_composes.run h (hnew ▸ .new revision policy)

/-- **The close of a shutdown dials nothing.**  It puts the engine at rest, unless a connect waits:
then it changes nothing. -/
theorem handle_close (h : c.engine.Coherent) :
    ¬Dials (c.handleMarks .close) ∧
      (¬c.engine.AwaitsClose → (c.handle .close).engine.AtRest) ∧
        (c.engine.AwaitsClose → (c.handle .close).engine = c.engine) := by
  have hengine : (c.round .close).1.engine = c.engine.close.1 := engine_round c .close
  have hfirst : ¬Dials ((c.roundStages .close).flatMap dialMarks) := fun hd =>
    Engine.not_opens_close ((dials_stages _).1 hd)
  have hmarks : c.handleMarks .close = (c.roundStages .close).flatMap dialMarks ++
      ((c.round .close).1.feedStages 7 (c.round .close).2).flatMap dialMarks :=
    List.flatMap_append
  have hhandle : (c.handle .close).engine = ((c.round .close).1.feed 7 (c.round .close).2).1.engine :=
    rfl
  rw [hmarks, hhandle, dials_append, not_or]
  by_cases hawaits : c.engine.AwaitsClose
  · -- the engine asks for nothing, so that nothing follows
    have hnil : (c.round .close).2 = [] := by
      have hquiet : c.engine.close.2 = [] := by simp [Engine.close, hawaits.1]
      rw [round, Engine.handle, hquiet]
      rfl
    rw [hnil, feed_nil, hengine, hawaits.close_fst]
    exact ⟨⟨hfirst, not_dials_nil⟩, fun hno => absurd hawaits hno, fun _ => rfl⟩
  · have hrest : (c.round .close).1.engine.AtRest := hengine ▸ Engine.atRest_close h hawaits
    rcases round_snd c .close with hnil | ⟨normal, hend⟩
    · rw [hnil, feed_nil]
      exact ⟨⟨hfirst, not_dials_nil⟩, fun _ => hrest, fun h => absurd h hawaits⟩
    · have hwinds := winds_composes.feed (fun _ => rfl) (i := .transportClosed normal) rfl
        (c.round .close).1 6
      obtain ⟨hrest', hno⟩ := hwinds.rest hrest
      rw [hend]
      exact ⟨⟨hfirst, hno⟩, fun _ => hrest', fun h => absurd h hawaits⟩

/-! ## Letting go -/

/-- **A client that has let go of everything**: no timer is armed, no socket belongs to it, none that
ever did has anything left in it, the status says that there is no session, and the transport is
closed or was hung up last. -/
structure Released (c : Client τ) : Prop where
  unarmed : ∀ k, c.timers.isArmed k = false
  registry : c.registry = .nil
  bare : AllBare c
  status : c.status = { state := .closed, sessionId := none }
  transport : Transport.state c.transport = .closed ∨
    ∃ t, Transport.state t ≠ .closed ∧ c.transport = (Transport.hangUp t Cause.user.reason).2

theorem engine_finishIfClosed : c.finishIfClosed.engine = c.engine := by
  rw [finishIfClosed]
  split
  · exact engine_finish
  · rfl

omit [Transport τ] in
/-- A client without a registry has no sockets, and those that have left are empty. -/
theorem Loyal.allBare (h : Loyal c) (hregistry : c.registry = .nil) : AllBare c := by
  intro id s hs
  refine (h id s hs).resolve_left ?_
  rintro ⟨ns, hns⟩
  rw [registered?, hregistry] at hns
  cases hns

theorem released_finish (h : Loyal c.finish) : Released c.finish where
  unarmed k := by
    have htimers : c.finish.timers = c.timers.cancelAll := congrArg Core.timers core_finish
    rw [htimers]
    rfl
  registry := rfl
  bare := h.allBare rfl
  status := rfl
  transport := by
    dsimp only [finish]
    split
    · next hclosed => exact .inl hclosed
    · next hopen => exact .inr ⟨_, hopen, rfl⟩

/-- **A move with which the task ends leaves nothing behind.** -/
theorem Move.released {marks : List Mark} (m : Move c marks c') (h : Loyal c)
    (hphase : c.phase ≠ .ended) (hended : c'.phase = .ended) : Released c' := by
  have hloyal : Loyal c' := m.loyal h
  cases m.progress with
  | stays phase => exact absurd (phase.symm.trans hended) hphase
  | fails phase =>
    rw [phase] at hended
    cases hended
  | waits deadline phase =>
    rw [phase] at hended
    cases hended
  | ends last eq =>
    subst eq
    exact released_finish hloyal

/-! ## The exact condition -/

theorem engine_beginShutdown : c.beginShutdown.engine = (c.handle .close).engine :=
  engine_finishIfClosed

theorem phase_beginShutdown : c.beginShutdown.phase ≠ .running := by
  rw [beginShutdown, finishIfClosed]
  split
  · simp [finish]
  · simp

/-- From a shutdown on, the transport is asked for a connection if and only if a connect was waiting
for a close, and that close has ended. -/
theorem dials_shutdown_iff (h : c.engine.Coherent) {after : List Mark}
    (hafter : Run c.beginShutdown after c') :
    Dials (c.handleMarks .close ++ after) ↔ c.engine.AwaitsClose ∧ c'.engine.state ≠ .closing := by
  obtain ⟨hno, hrest, hsame⟩ := handle_close h
  obtain ⟨hwinds, -⟩ := winds_run hafter phase_beginShutdown
  rw [dials_append]
  by_cases hawaits : c.engine.AwaitsClose
  · have hbegun : c.beginShutdown.engine = c.engine := engine_beginShutdown.trans (hsame hawaits)
    rcases hwinds.awaits (hbegun ▸ hawaits) with ⟨hawaits', hno'⟩ | ⟨haway, hdials⟩
    · exact iff_of_false (fun hd => hd.elim hno hno') fun hboth => hboth.2 hawaits'.1
    · exact iff_of_true (.inr hdials) ⟨hawaits, haway⟩
  · have hbegun : c.beginShutdown.engine.AtRest := by
      rw [engine_beginShutdown]
      exact hrest hawaits
    obtain ⟨-, hno'⟩ := hwinds.rest hbegun
    exact iff_of_false (fun hd => hd.elim hno hno') fun hboth => hawaits hboth.1

/-- **Exactly when a shutdown is followed by a dial, and what it leaves behind.**  However the
transport goes on after the task has taken the shutdown, it is asked for a connection if and only if a
connect was waiting for a close, and that close has ended since.  Whether the task ends at once or
later, and whatever it ends on, it has let go of everything. -/
theorem dials_after_shutdown_iff {c₀ c c₁ c₂ : Client τ} {before after : List Mark}
    {rest : List Command} (h₀ : Unused c₀) (hbefore : Run c₀ before c)
    (hcom : c.commands = .shutdown :: rest) (hturn : c.turn? .command = some c₁)
    (hafter : Run c₁ after c₂) :
    (Dials (c.turnMarks .command ++ after) ↔
        c.engine.AwaitsClose ∧ c₂.engine.state ≠ .closing) ∧
      (c₁.phase = .ended → Released c₁) ∧
      ∀ marks c₃, Move c₂ marks c₃ → c₂.phase ≠ .ended → c₃.phase = .ended → Released c₃ := by
  have hmove : Move c (c.turnMarks .command) c₁ := .turn .command hturn
  cases taken_of_turn? hturn with
  | command hphase hcom' hwork =>
    obtain ⟨rfl, rfl⟩ := List.cons.inj (hcom.symm.trans hcom')
    have hmarks : c.turnMarks .command =
        ({ c with commands := rest } : Client τ).handleMarks .close := by
      rw [turnMarks, hwork]
      exact List.flatMap_singleton ..
    have hloyal : Loyal c := hbefore.loyal h₀.loyal
    have hcoherent : ({ c with commands := rest } : Client τ).engine.Coherent := hbefore.coherent h₀
    refine ⟨?_, ?_, ?_⟩
    · rw [hmarks]
      exact dials_shutdown_iff hcoherent hafter
    · intro hended
      exact hmove.released hloyal (by simp [hphase]) hended
    · intro marks c₃ m hphase₂ hended
      have hloyal₂ : Loyal c₂ := hafter.loyal (hmove.loyal hloyal)
      exact m.released hloyal₂ hphase₂ hended

/-! ## A shutdown behind a second connect -/

/-- The application connects, closes, and connects again before the client learns of the end of the
first connection.  Then it shuts down. -/
def stopping : Client MemoryTransport :=
  (((fresh.served (.connect .nil .nil)).served .close).served (.connect .nil .nil)).call .shutdown

/-- The task has taken the shutdown. -/
def stopped : Client MemoryTransport := stopping.turned .command

/-- The end of the first connection has come, within the time that the transport has to confirm. -/
def reopened : Client MemoryTransport := stopped.turned .event

theorem stopping_run : Relation.ReflTransGen Step fresh stopping := by
  refine .tail ?_ (.call _ .shutdown)
  refine .trans ?_ (run_served _ (.connect .nil .nil))
  exact (run_served _ (.connect .nil .nil)).trans (run_served _ .close)

theorem turn?_stopping : stopping.turn? .command = some stopped :=
  turn?_eq_turned (by decide +kernel)

theorem turn?_stopped : stopped.turn? .event = some reopened :=
  turn?_eq_turned (by decide +kernel)

theorem commands_stopping : stopping.commands = [.shutdown] := by decide +kernel

/-- The second connection is asked for behind the shutdown.  Nobody waits for it: when the time is up,
the client has let go of everything. -/
theorem reopened_dials :
    Unused fresh ∧ (∃ before, Run fresh before stopping) ∧ stopping.commands = [.shutdown] ∧
      stopping.turn? .command = some stopped ∧ Run stopped (stopped.turnMarks .event) reopened ∧
      Dials (stopping.turnMarks .command ++ stopped.turnMarks .event) ∧
      Released (reopened.elapseTo shutdownGrace) := by
  obtain ⟨before, hbefore⟩ := exists_run stopping_run
  have hafter : Run stopped (stopped.turnMarks .event) reopened := by
    simpa using Run.nil.move (.turn .event turn?_stopped)
  obtain ⟨hdials, -, hreleased⟩ :=
    dials_after_shutdown_iff fresh_unused hbefore commands_stopping turn?_stopping hafter
  refine ⟨fresh_unused, ⟨before, hbefore⟩, commands_stopping, turn?_stopping, hafter, ?_, ?_⟩
  · exact hdials.2 ⟨⟨by decide +kernel, by decide +kernel⟩, by decide +kernel⟩
  · exact hreleased [] _ (.elapse reopened shutdownGrace) (by decide +kernel) (by decide +kernel)

/-- **A shutdown is not the last word.**  The transport can be asked for a connection after it. -/
theorem shutdown_not_final :
    ¬∀ (c₀ c c₁ c₂ : Client MemoryTransport) (before after : List Mark) (rest : List Command),
      Unused c₀ → Run c₀ before c → c.commands = .shutdown :: rest →
        c.turn? .command = some c₁ → Run c₁ after c₂ → ¬Dials after := by
  intro h
  obtain ⟨before, hbefore⟩ := exists_run stopping_run
  have hafter : Run stopped ([] ++ stopped.turnMarks .event) reopened :=
    .move .nil (.turn .event turn?_stopped)
  refine h fresh stopping stopped reopened before _ [] fresh_unused hbefore commands_stopping
    turn?_stopping hafter ⟨.ok ⟨2⟩, ?_⟩
  decide +kernel

end Client

end RealtimeClient
