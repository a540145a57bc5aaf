import Mathlib
import RealtimeClient.Proofs.Client.Queues

/-!
# Traces

What a client does with its connections over time, whatever its transport: which connections it asks
for, which frames of which connection its codec is fed, and which packets the codec gives.  The
transport is any at all, and changes between two turns of the task as it likes.

* `Mark` — one entry of a trace; `turnMarks` — those of a turn.
* `Move`, `Run` — the moves of all parties, and runs of them, with their traces; `Unused` — where runs
  begin.
* `Progress` — what becomes of the task in a move, from which `Move.winding` and `Run.draining` follow.
* `feed_enough`, `feed_feedbackLimit` — no input is left over, over whatever transport.
* `Composes` — what has to be known of a relation that is to hold of whole runs.  It is enough to look
  at single rounds and at single frames: `Composes.handle`, `Composes.turnWise`,
  `Composes.move`, **`Composes.run`**.
-/

namespace RealtimeClient

namespace Client

variable {τ : Type} [Transport τ]

/-! ## Marks -/

/-- **An entry of a trace.** -/
inductive Mark
  /-- The transport was asked for a connection, and has answered. -/
  | dialed (answer : Except TransportError ConnectionId)
  /-- The codec was fed a frame that came under a connection's name. -/
  | fed (id : ConnectionId) (frame : Frame)
  /-- The codec gave a packet. -/
  | decoded (p : Packet)
  deriving DecidableEq

/-- The connection that an effect asks for. -/
def dialMarks : Client τ × Engine.Effect → List Mark
  | (c, .openTransport query headers) =>
    let url := c.endpoint.connectionUrl c.engine.revision.number c.engine.sessionId c.unixTime query
    [.dialed (Transport.dial c.transport url headers).1]
  | _ => []

/-- The connections that one input asks for, with all that follows. -/
def handleMarks (c : Client τ) (i : Engine.Input) : List Mark := (c.handleStages i).flatMap dialMarks

/-- A frame is fed, and the codec may give a packet. -/
def fedMarks (c : Client τ) (id : ConnectionId) (frame : Frame) : List Mark :=
  .fed id frame ::
    match (c.codec.feed frame).2 with
    | .ok (some p) => [.decoded p]
    | _ => []

/-- The marks of a piece of work. -/
def workMarks : Client τ × Work → List Mark
  | (c, .told i) => c.handleMarks i
  | (c, .fed id frame) => c.fedMarks id frame
  | _ => []

/-- **The marks of a turn.** -/
def turnMarks (c : Client τ) (t : Turn) : List Mark := (c.turnWork t).flatMap workMarks

/-! ## Runs -/

/-- **A client to which nothing has happened yet.** -/
structure Unused (c : Client τ) : Prop where
  engine : ∃ revision policy, c.engine = .new revision policy
  codec : c.codec = .new c.engine.revision
  current : c.current = none
  sockets : c.sockets = []
  registry : c.registry = .nil
  phase : c.phase = .running

omit [Transport τ] in
/-- A client that was just started is one. -/
theorem Unused.of_start {settings : Settings} {transport : τ} {epoch : Nat} {c : Client τ}
    (h : start settings transport epoch = .ok c) : Unused c := by
  rw [start] at h
  split at h
  · cases h
  · split at h
    · cases h
    · cases h
      exact ⟨⟨_, _, rfl⟩, rfl, rfl, rfl, rfl, rfl⟩

/-- **A move** of any party, with the marks that it leaves. -/
inductive Move : Client τ → List Mark → Client τ → Prop
  /-- The application makes a call, from any of its threads. -/
  | call (c : Client τ) (a : Call) : Move c [] (c.call a)
  /-- The application registers a listener. -/
  | on (c : Client τ) (id : SocketId) (name : String) (listener : Listener) :
      Move c [] (c.on id name listener)
  /-- The task takes a turn. -/
  | turn {c c' : Client τ} (t : Turn) (h : c.turn? t = some c') : Move c (c.turnMarks t) c'
  /-- The transport changes by itself, as it likes. -/
  | transport (c : Client τ) (transport : τ) : Move c [] { c with transport }
  /-- Time passes. -/
  | elapse (c : Client τ) (time : Nat) : Move c [] (c.elapseTo time)
  /-- While the task winds up, it learns that no event will come any more. -/
  | silence {c : Client τ} {deadline : Nat} (h : c.phase = .draining deadline) : Move c [] c.finish

/-- **A run**, with its trace. -/
inductive Run (c₀ : Client τ) : List Mark → Client τ → Prop
  | nil : Run c₀ [] c₀
  | move {c c' : Client τ} {trace marks : List Mark} (h : Run c₀ trace c) (m : Move c marks c') :
      Run c₀ (trace ++ marks) c'

/-- A step over the in-memory transport is a move. -/
theorem Step.move {c c' : Client MemoryTransport} (h : Step c c') : ∃ marks, Move c marks c' := by
  cases h with
  | call a => exact ⟨_, .call c a⟩
  | on id name listener => exact ⟨_, .on c id name listener⟩
  | turn t ht => exact ⟨_, .turn t ht⟩
  | peer a => exact ⟨_, .transport c _⟩
  | take => exact ⟨_, .transport c _⟩
  | elapse time => exact ⟨_, .elapse c time⟩

/-- Runs whose steps are moves have traces. -/
theorem exists_run_of {R : Client τ → Client τ → Prop}
    (hR : ∀ c c', R c c' → ∃ marks, Move c marks c') {c₀ c : Client τ}
    (h : Relation.ReflTransGen R c₀ c) : ∃ trace, Run c₀ trace c := by
  induction h with
  | refl => exact ⟨[], .nil⟩
  | tail _ hstep ih =>
    obtain ⟨trace, hrun⟩ := ih
    obtain ⟨marks, hmove⟩ := hR _ _ hstep
    exact ⟨trace ++ marks, hrun.move hmove⟩

theorem exists_run {c₀ c : Client MemoryTransport} (h : Relation.ReflTransGen Step c₀ c) :
    ∃ trace, Run c₀ trace c :=
  exists_run_of (fun _ _ => Step.move) h

variable {c c' : Client τ}

/-! ## Rounds leave nothing over -/

/-- From effects of which only the last one concerns the connection, at most one input follows. -/
theorem carryOutAll_snd_concat {effects : List Engine.Effect} (hq : Engine.Quiet effects)
    (f : Engine.Effect) : ∃ next : Option Engine.Input,
      (c.carryOutAll (effects ++ [f])).2 = next.toList :=
  ⟨_, congrArg Prod.snd (carryOutAll_append hq c f)⟩

/-- **At most one input follows from an input**: that the connection is closed. -/
theorem round_snd (c : Client τ) (i : Engine.Input) :
    (c.round i).2 = [] ∨ ∃ normal, (c.round i).2 = [.transportClosed normal] := by
  have hone : ∃ next : Option Engine.Input, (c.round i).2 = next.toList := by
    by_cases hi : ∃ normal, i = .transportClosed normal
    · obtain ⟨normal, rfl⟩ := hi
      rw [round, Engine.handle]
      rcases c.engine.transportClosed_use normal with ⟨hq, -⟩ | ⟨-, earlier, query, headers, heq, hq, -⟩
      · exact ⟨none, carryOutAll_snd_of_quiet hq⟩
      · rw [heq]
        exact carryOutAll_snd_concat hq _
    · rw [round]
      cases Engine.use_of_handle (e := c.engine) fun normal h => hi ⟨normal, h⟩ with
      | still hq => exact ⟨none, carryOutAll_snd_of_quiet hq⟩
      | connected hq => exact ⟨none, carryOutAll_snd_of_quiet hq⟩
      | hangsUp earlier cause heq hq =>
        rw [heq]
        exact carryOutAll_snd_concat hq _
      | dials _ earlier query headers heq hq =>
        rw [heq]
        exact carryOutAll_snd_concat hq _
  obtain ⟨next, hnext⟩ := hone
  cases next with
  | none => exact .inl hnext
  | some j =>
    obtain ⟨normal, rfl⟩ := carryOutAll_snd (i := j) (hnext.symm ▸ List.mem_singleton_self j :
      j ∈ (c.round i).2)
    exact .inr ⟨normal, hnext⟩

/-- A connection that is not under way or open has nothing to follow from its end, unless a connect
has waited for it. -/
theorem round_snd_transportClosed (c : Client τ) (normal : Bool) :
    (c.round (.transportClosed normal)).2 = [] ∨
      (c.round (.transportClosed normal)).1.engine.state = .opening ∧ c.engine.state = .closing := by
  rcases c.engine.transportClosed_use normal with ⟨hq, -⟩ | ⟨hb, -, -, -, -, -, hopening⟩
  · exact .inl (carryOutAll_snd_of_quiet hq)
  · refine .inr ⟨?_, ?_⟩
    · rw [engine_round]
      exact hopening
    · cases hb with
      | deferred hs => exact hs

/-- **After three inputs none is left over.**  After the first one only ends of connections follow, at
most one from each: the connect that waited for the first end is refused, which is the second. -/
theorem feed_enough (c : Client τ) (i : Engine.Input) (rounds : Nat) :
    (c.feed (rounds + 3) [i]).2 = [] := by
  have hlast (c : Client τ) (normal : Bool) (hs : c.engine.state ≠ .closing) :
      (c.feed (rounds + 1) [.transportClosed normal]).2 = [] := by
    rw [feed_succ, (round_snd_transportClosed c normal).resolve_right fun h => hs h.2]
    simp
  have hends (c : Client τ) (normal : Bool) :
      (c.feed (rounds + 2) [.transportClosed normal]).2 = [] := by
    rw [feed_succ]
    rcases round_snd_transportClosed c normal with hnil | ⟨hopening, -⟩
    · rw [hnil]
      simp
    · rcases round_snd c (.transportClosed normal) with hnil | ⟨again, hagain⟩
      · rw [hnil]
        simp
      · rw [hagain]
        exact hlast _ again (by simp [hopening])
  rw [feed_succ]
  rcases round_snd c i with hnil | ⟨normal, hend⟩
  · rw [hnil]
    simp
  · rw [hend]
    exact hends _ normal

/-- **No input is left over.** -/
theorem feed_feedbackLimit (c : Client τ) (i : Engine.Input) : (c.feed feedbackLimit [i]).2 = [] :=
  feed_enough c i 5

/-! ## How far the task has come -/

/-- A packet makes the task fail, if a listener does; nothing else becomes of the task. -/
theorem frameWise_phase : FrameWise fun (c : Client τ) (_ : List (Client τ × Work)) c' =>
    c'.phase = c.phase ∨ c'.phase = .failed where
  append h h' := h'.elim (fun heq => heq ▸ h) .inr
  counted _ _ _ _ := .inl rfl
  heard c i _ := .inl (phase_handle c i)
  fed _ _ _ _ := .inl rfl
  routed _ p := (core_route p).imp (congrArg Core.phase) (congrArg Core.phase)

theorem phase_receiveEvent (c : Client τ) (id : ConnectionId) (event : TransportEvent) :
    (c.receiveEvent id event).phase = c.phase ∨ (c.receiveEvent id event).phase = .failed :=
  frameWise_phase.receiveEvent (fun _ _ => .inl (phase_handle _ _)) fun _ _ _ => .inl (phase_handle _ _)

/-- **What can become of the task** in a move. -/
inductive Progress (c c' : Client τ) : Prop
  /-- Nothing; and if it winds up, the engine learns nothing. -/
  | stays (phase : c'.phase = c.phase)
      (engine : ∀ deadline, c.phase = .draining deadline → c'.engine = c.engine)
  | fails (phase : c'.phase = .failed)
  /-- It winds up, and the session is not closed yet. -/
  | waits (deadline : Nat) (phase : c'.phase = .draining deadline) (open_ : c'.engine.state ≠ .closed)
  /-- It lets go of everything. -/
  | ends (last : Client τ) (eq : c' = last.finish)

namespace Progress

theorem of_core (h : c'.core = c.core) : Progress c c' :=
  .stays (congrArg Core.phase h) fun _ _ => congrArg Core.engine h

/-- A task that is running does not wind up yet. -/
theorem of_running (hphase : c.phase = .running) (h : c'.phase = c.phase) : Progress c c' := by
  refine .stays h fun deadline hdraining => ?_
  rw [hphase] at hdraining
  cases hdraining

theorem of_finishIfClosed {last : Client τ} {deadline : Nat}
    (hphase : last.phase = .draining deadline) : Progress c last.finishIfClosed := by
  rw [finishIfClosed]
  split
  · exact .ends last rfl
  · next hs => exact .waits deadline hphase hs

end Progress

theorem Taken.progress {t : Turn} (h : Taken c t c') : Progress c c' := by
  cases h with
  | @command command rest hphase hcom =>
    cases command with
    | engine i => exact .of_running hphase (phase_handle _ _)
    | emit ns name args reply =>
      exact .of_running hphase (congrArg Core.phase (core_emit ns name args reply))
    | socketCreated ns => exact .of_running hphase (congrArg Core.phase (core_socketCreated ns))
    | closeSocket ns => exact .of_running hphase (congrArg Core.phase (core_closeSocket ns))
    | shutdown => exact .of_finishIfClosed rfl
  | @event id event transport hphase hreceive =>
    rcases phase_receiveEvent { c with transport } id event with hsame | hfailed
    · exact .of_running hphase hsame
    · exact .fails hfailed
  | @lateEvent id event transport deadline hphase hreceive =>
    rcases phase_receiveEvent { c with transport } id event with hsame | hfailed
    · exact .of_finishIfClosed (hsame.trans hphase)
    · rw [finishIfClosed]
      split
      · exact .ends _ rfl
      · exact .fails hfailed
  | timer hphase hnext => exact .of_running hphase (phase_handle _ _)

theorem Move.progress {marks : List Mark} (m : Move c marks c') : Progress c c' := by
  cases m with
  | call a => exact .of_core (core_call a)
  | on id name listener => exact .of_core (core_on id name listener)
  | turn t ht => exact (taken_of_turn? ht).progress
  | transport transport => exact .stays rfl fun _ _ => rfl
  | elapse time =>
    rcases elapseTo_cases c time with heq | ⟨-, -, -, heq⟩ <;> rw [heq]
    · exact .stays rfl fun _ _ => rfl
    · exact .ends _ rfl
  | silence => exact .ends c rfl

/-- **A task that has begun to wind up goes on with that**, until it has ended. -/
theorem Move.winding {marks : List Mark} (m : Move c marks c') (hphase : c.phase ≠ .running) :
    c'.phase ≠ .running := by
  cases m.progress with
  | stays phase => rwa [phase]
  | fails phase => simp [phase]
  | waits deadline phase => simp [phase]
  | ends last eq => simp [eq, Client.finish]

/-- **While the task winds up, the session is not closed yet.** -/
def Draining (c : Client τ) : Prop :=
  ∀ deadline, c.phase = .draining deadline → c.engine.state ≠ .closed

theorem Move.draining {marks : List Mark} (m : Move c marks c') (h : Draining c) : Draining c' := by
  intro deadline hdraining
  cases m.progress with
  | stays phase engine =>
    rw [phase] at hdraining
    rw [engine deadline hdraining]
    exact h deadline hdraining
  | fails phase =>
    rw [phase] at hdraining
    cases hdraining
  | waits deadline phase open_ => exact open_
  | ends last eq =>
    rw [eq] at hdraining
    cases hdraining

theorem Run.draining {trace : List Mark} (h : Run c trace c') (hc : Unused c) : Draining c' := by
  induction h with
  | nil =>
    intro deadline hphase
    rw [hc.phase] at hphase
    cases hphase
  | move _ m ih => exact m.draining ih

/-! ## Relations that compose -/

/-- **A relation that composes**, between two clients and the trace from one to the other, where the
engine is told only certain inputs. -/
structure Composes (R : Client τ → List Mark → Client τ → Prop) (allowed : Engine.Input → Prop) :
    Prop where
  /-- Only the engine, the codec and the connection that counts are looked at. -/
  still : ∀ {c c' : Client τ}, c'.engine = c.engine → c'.codec = c.codec →
    c'.current = c.current → R c [] c'
  append : ∀ {c c' c'' : Client τ} {trace more : List Mark}, R c trace c' → R c' more c'' →
    R c (trace ++ more) c''
  /-- The connection is over. -/
  detach : ∀ c : Client τ, R c [] { c with current := none }
  /-- The engine is told something. -/
  round : ∀ (c : Client τ) (i : Engine.Input), allowed i →
    R c ((c.roundStages i).flatMap dialMarks) (c.round i).1
  /-- The codec is fed a frame of the connection that counts. -/
  fed : ∀ (c : Client τ) (id : ConnectionId) (frame : Frame), c.current = some id →
    R c (c.fedMarks id frame) { c with codec := (c.codec.feed frame).1 }

/-- A command that is about a socket leaves the task's own state alone. -/
theorem core_ordered {command : Command} (h : command.input? = none) :
    (c.execute command).core = c.core := by
  cases command with
  | emit ns name args reply => exact core_emit ns name args reply
  | socketCreated ns => exact core_socketCreated ns
  | closeSocket ns => exact core_closeSocket ns
  | _ => cases h

section Composes

variable {R : Client τ → List Mark → Client τ → Prop} {allowed : Engine.Input → Prop}

namespace Composes

/-- What is not looked at may change afterwards. -/
theorem then_still (h : Composes R allowed) {c'' : Client τ} {marks : List Mark}
    (hr : R c marks c') (engine : c''.engine = c'.engine) (codec : c''.codec = c'.codec)
    (current : c''.current = c'.current) : R c marks c'' :=
  List.append_nil marks ▸ h.append hr (h.still engine codec current)

theorem feed (h : Composes R allowed) (hends : ∀ normal, allowed (.transportClosed normal))
    {i : Engine.Input} (hi : allowed i) (c : Client τ) (rounds : Nat) :
    R c ((c.feedStages (rounds + 1) [i]).flatMap dialMarks) (c.feed (rounds + 1) [i]).1 :=
  feed_induction (R := fun c stages c' => R c (stages.flatMap dialMarks) c')
    (fun _ => h.still rfl rfl rfl)
    (fun c c' c'' stages more hfirst hrest => by
      rw [List.flatMap_append]
      exact h.append hfirst hrest)
    (fun c normal => h.round c _ (hends normal)) (h.round c i hi) rounds

theorem handle (h : Composes R allowed) (hends : ∀ normal, allowed (.transportClosed normal))
    {i : Engine.Input} (hi : allowed i) (c : Client τ) : R c (c.handleMarks i) (c.handle i) :=
  h.then_still (h.feed hends hi c 7) rfl rfl rfl

variable (h : Composes R allowed) (hreports : ∀ i : Engine.Input, i.isReport = true → allowed i)

include h hreports

omit hreports in
/-- To let go of everything leaves no mark. -/
theorem finish (c : Client τ) : R c [] c.finish :=
  h.append (h.detach c)
    (h.still (congrArg Core.engine core_finish) (congrArg Core.codec core_finish) rfl)

/-- What the engine is told, as a piece of work. -/
theorem told (c : Client τ) (i : Engine.Input) (hi : allowed i) :
    R c ([(c, Work.told i)].flatMap workMarks) (c.handle i) := by
  rw [List.flatMap_singleton]
  exact h.handle (fun _ => hreports _ rfl) hi c

/-- **It follows the work of turns**, by its marks. -/
theorem turnWise : TurnWise (fun c works c' => R c (works.flatMap workMarks) c') allowed where
  append hfirst hrest := by
    rw [List.flatMap_append]
    exact h.append hfirst hrest
  counted c metrics _ _ := h.still rfl rfl rfl
  heard c i hi := h.told hreports c i (hreports i (Engine.Input.isReport_of_isArrival hi))
  fed c id frame hid := by
    rw [List.flatMap_singleton]
    exact h.fed c id frame hid
  routed c p := by
    rcases core_route (c := c) p with hcore | hcore
    all_goals
      exact h.still (congrArg Core.engine hcore) (congrArg Core.codec hcore)
        (congrArg Core.current hcore)
  received _ := h.still rfl rfl rfl
  opened c := h.told hreports c _ (hreports _ rfl)
  lost c normal := by
    have hlost := h.told hreports { c with current := none } (.transportClosed normal) (hreports _ rfl)
    have hboth := h.append (h.detach c) hlost
    exact hboth
  fired c timers := h.still rfl rfl rfl
  taken _ _ := h.still rfl rfl rfl
  told c i hi := h.told hreports c i hi
  ordered {c command rest} _ haside := by
    have hcore := core_ordered (c := { c with commands := rest }) haside
    exact h.still (congrArg Core.engine hcore) (congrArg Core.codec hcore)
      (congrArg Core.current hcore)
  drained deadline _ := h.still rfl rfl rfl
  finished _ := h.finish _

/-- **Turns**: while the task winds up the engine learns nothing but what events tell. -/
theorem turn (hrunning : c.phase = .running → ∀ i, allowed i) {t : Turn} (ht : Taken c t c') :
    R c (c.turnMarks t) c' :=
  (h.turnWise hreports).turn (fun hphase _ => hrunning hphase _)
    (fun hphase _ _ i _ => hrunning hphase i) ht

/-- **Moves.** -/
theorem move (hrunning : c.phase = .running → ∀ i, allowed i) {marks : List Mark}
    (m : Move c marks c') : R c marks c' := by
  cases m with
  | call a =>
    have hcore := core_call (c := c) a
    exact h.still (congrArg Core.engine hcore) (congrArg Core.codec hcore)
      (congrArg Core.current hcore)
  | on id name listener => exact h.still rfl rfl rfl
  | turn t ht => exact h.turn hreports hrunning (taken_of_turn? ht)
  | transport transport => exact h.still rfl rfl rfl
  | elapse time =>
    have htimers : R c [] { c with timers := c.timers.elapseTo time } := h.still rfl rfl rfl
    rcases elapseTo_cases c time with heq | ⟨-, -, -, heq⟩ <;> rw [heq]
    · exact htimers
    · exact h.append htimers (h.finish _)
  | silence => exact h.finish c

end Composes

/-- **Runs**, by induction on their moves. -/
theorem Composes.run (h : Composes R fun _ => True) {trace : List Mark} (hrun : Run c trace c') :
    R c trace c' := by
  induction hrun with
  | nil => exact h.still rfl rfl rfl
  | move _ m ih => exact h.append ih (h.move (fun _ _ => trivial) (fun _ _ => trivial) m)

end Composes

end Client

end RealtimeClient
