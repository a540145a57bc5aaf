import Mathlib
import RealtimeClient.Proofs.Client.Aside

/-!
# The work of a turn

A turn of the task is made of a few kinds of work: the engine is told something, the codec is fed a
frame, a packet goes to a socket, a command about a socket is carried out.  Which of them a turn does,
in which order and each with the client at that moment, is said once, by `Client.turnWork`; what a turn
asks the transport for, which marks it leaves and which deeds it does are read off that list.

* `Client.round` — one input to the engine, with its effects; `Client.feed` is made of rounds.
* `Client.handleStages` — the effects of an input and of all that follows, each with the client at that
  moment.
* `Client.Work`, `Client.frameWork`, `Client.eventWork`, `Client.commandWork`, **`Client.turnWork`** — the
  work of a frame, an event, a command and a turn; `Client.turnStages` — the effects of a turn.
* `Client.Taken` — a turn in its four cases; `Client.taken_of_turn?` — there are no others.
* `Client.FrameWise`, `Client.TurnWise` — what has to be known of a relation between two clients and the work
  from one to the other.  It is enough to look at the pieces: `FrameWise.receiveFrame`,
  `FrameWise.receiveEvent`, **`TurnWise.turn`**.
-/

namespace RealtimeClient

namespace Engine.Input

/-- **What the engine learns from an event** of the transport. -/
def isReport : Engine.Input → Bool
  | .transportOpened | .transportClosed _ | .frameReceived | .packet _ => true
  | _ => false

/-- What it learns from a frame. -/
def isArrival : Engine.Input → Bool
  | .frameReceived | .packet _ => true
  | _ => false

theorem isReport_of_isArrival {i : Engine.Input} (h : i.isArrival = true) : i.isReport = true := by
  cases i <;> first | rfl | cases h

end Engine.Input

namespace Client

/-- What a command tells the engine, unless it is about a socket. -/
def Command.input? : Command → Option Engine.Input
  | .engine i => some i
  | .shutdown => some .close
  | _ => none

variable {τ : Type} [Transport τ]

/-! ## Rounds -/

/-- **One input to the engine**, with its effects and the inputs that follow. -/
def round (c : Client τ) (i : Engine.Input) : Client τ × List Engine.Input :=
  { c with engine := (c.engine.handle i).1 }.carryOutAll (c.engine.handle i).2

@[simp] theorem feed_nil (c : Client τ) (rounds : Nat) : c.feed rounds [] = (c, []) := by
  cases rounds <;> rfl

theorem feed_succ (c : Client τ) (rounds : Nat) (i : Engine.Input) (rest : List Engine.Input) :
    c.feed (rounds + 1) (i :: rest) = (c.round i).1.feed rounds (rest ++ (c.round i).2) := rfl

theorem engine_carryOutAll (c : Client τ) (effects : List Engine.Effect) :
    (c.carryOutAll effects).1.engine = c.engine := by
  induction effects generalizing c with
  | nil => rfl
  | cons f rest ih => exact (ih _).trans (engine_carryOut f)

theorem engine_round (c : Client τ) (i : Engine.Input) :
    (c.round i).1.engine = (c.engine.handle i).1 :=
  engine_carryOutAll _ _

/-- Effects that leave the connection alone, and one more: what follows is what follows from that
one. -/
theorem carryOutAll_append {earlier : List Engine.Effect} (hq : Engine.Quiet earlier) (c : Client τ)
    (f : Engine.Effect) :
    c.carryOutAll (earlier ++ [f]) =
      (((c.carryOutAll earlier).1.carryOut f).1, ((c.carryOutAll earlier).1.carryOut f).2.toList) := by
  induction earlier generalizing c with
  | nil => simp [carryOutAll]
  | cons g rest ih =>
    rw [Engine.quiet_cons] at hq
    simp only [List.cons_append, carryOutAll, ih hq.2, carryOut_snd_of_quiet hq.1, Option.toList_none,
      List.nil_append]

/-! ## Effects in order -/

/-- **Effects in order**, each with the client at the moment when it is carried out. -/
def stages (c : Client τ) : List Engine.Effect → List (Client τ × Engine.Effect)
  | [] => []
  | f :: rest => (c, f) :: stages (c.carryOut f).1 rest

/-- The effects of one round after the other. -/
def feedStages (c : Client τ) : (rounds : Nat) → List Engine.Input → List (Client τ × Engine.Effect)
  | _, [] => []
  | 0, _ => []
  | rounds + 1, i :: rest =>
    { c with engine := (c.engine.handle i).1 }.stages (c.engine.handle i).2 ++
      feedStages (c.round i).1 rounds (rest ++ (c.round i).2)

/-- The effects of one input and all that follows. -/
def handleStages (c : Client τ) (i : Engine.Input) : List (Client τ × Engine.Effect) :=
  c.feedStages feedbackLimit [i]

/-! ## Effects that leave the connection alone -/

variable {c : Client τ}

theorem carryOutAll_snd_of_quiet {effects : List Engine.Effect} (hq : Engine.Quiet effects) :
    (c.carryOutAll effects).2 = [] := by
  induction effects generalizing c with
  | nil => rfl
  | cons f rest ih =>
    rw [Engine.quiet_cons] at hq
    simp [carryOutAll, carryOut_snd_of_quiet hq.1, ih hq.2]

/-- Effects that leave the connection alone do so one after the other. -/
theorem current_carryOutAll_of_quiet {effects : List Engine.Effect} (hq : Engine.Quiet effects)
    (c : Client τ) : (c.carryOutAll effects).1.current = c.current := by
  induction effects generalizing c with
  | nil => rfl
  | cons f rest ih =>
    rw [Engine.quiet_cons] at hq
    refine (ih hq.2 _).trans ?_
    refine (current_carryOut ?_).resolve_right fun h => ?_
    · rintro query headers rfl
      cases hq.1
    · rw [hq.1] at h
      cases h.2

/-- A frame that comes in does not change the connection that counts. -/
theorem current_handle_frameReceived (c : Client τ) : (c.handle .frameReceived).current = c.current := by
  have hquiet : Engine.Quiet (c.engine.handle .frameReceived).2 := by
    cases Engine.Use.of_frameReceived (e := c.engine) with
    | still hq => exact hq
    | connected hq => exact hq
    | hangsUp earlier cause heq =>
      simp only [Engine.handle, Engine.frameReceived] at heq
      split at heq
      · split at heq
        · cases earlier <;> simp at heq
        · split at heq <;> cases earlier <;> simp at heq
      · cases earlier <;> simp at heq
    | dials hb => cases hb
  rw [handle, feedbackLimit, feed_succ, round, carryOutAll_snd_of_quiet hquiet, List.append_nil,
    feed_nil]
  exact current_carryOutAll_of_quiet hquiet _

/-! ## How far the task has come -/

@[simp] theorem phase_handle (c : Client τ) (i : Engine.Input) : (c.handle i).phase = c.phase := by
  have hall (effects : List Engine.Effect) (c : Client τ) :
      (c.carryOutAll effects).1.phase = c.phase := by
    induction effects generalizing c with
    | nil => rfl
    | cons f rest ih => exact (ih _).trans (phase_carryOut f)
  have hfeed (rounds : Nat) (inputs : List Engine.Input) (c : Client τ) :
      (c.feed rounds inputs).1.phase = c.phase := by
    induction rounds generalizing c inputs with
    | zero => cases inputs <;> rfl
    | succ rounds ih =>
      cases inputs with
      | nil => rw [feed_nil]
      | cons i rest =>
        rw [feed_succ, ih, round]
        exact hall _ _
  exact hfeed _ _ c

/-! ## Work -/

/-- **A piece of work** within a turn. -/
inductive Work
  /-- The engine is told something, which has its effects, and they may have others. -/
  | told (i : Engine.Input)
  /-- The codec is fed a frame that came under a connection's name. -/
  | fed (id : ConnectionId) (frame : Frame)
  /-- A packet goes to the socket of its namespace. -/
  | routed (p : Packet)
  /-- A command that is about a socket is carried out. -/
  | ordered (command : Command)

/-- The work for a frame, and for the packet that it completes. -/
def frameWork (c : Client τ) (id : ConnectionId) (frame : Frame) : List (Client τ × Work) :=
  let c := { c with metrics := c.metrics.recordFrame .inbound frame.size }
  (c, .told .frameReceived) ::
    let c := c.handle .frameReceived
    (c, .fed id frame) ::
      match c.codec.feed frame with
      | (codec, .ok (some p)) =>
        [({ c with codec }, if p.frame = .message then .routed p else .told (.packet p))]
      | _ => []

/-- The work for an event. -/
def eventWork (c : Client τ) (id : ConnectionId) (event : TransportEvent) : List (Client τ × Work) :=
  if c.current ≠ some id then []
  else
    match event with
    | .opened => [(c, .told .transportOpened)]
    | .closed normal => [({ c with current := none }, .told (.transportClosed normal))]
    | .message frame => c.frameWork id frame
    | .httpResponse .. => []

/-- The work for a command. -/
def commandWork (c : Client τ) (command : Command) : List (Client τ × Work) :=
  match command.input? with
  | some i => [(c, .told i)]
  | none => [(c, .ordered command)]

/-- **The work of a turn** if the task takes it, each piece with the client at that moment. -/
def turnWork (c : Client τ) : Turn → List (Client τ × Work)
  | .command =>
    match c.commands with
    | [] => []
    | command :: rest => { c with commands := rest }.commandWork command
  | .event =>
    match Transport.receive? c.transport with
    | none => []
    | some ((id, event), transport) => { c with transport }.eventWork id event
  | .timer =>
    match c.timers.next? with
    | none => []
    | some (k, timers) => [({ c with timers }, .told (.timerFired k))]

/-- The effects of a piece of work. -/
def workStages : Client τ × Work → List (Client τ × Engine.Effect)
  | (c, .told i) => c.handleStages i
  | _ => []

/-- **The effects that a turn carries out** if the task takes it, each with the client at that
moment. -/
def turnStages (c : Client τ) (t : Turn) : List (Client τ × Engine.Effect) :=
  (c.turnWork t).flatMap workStages

/-! ## The cases of a turn -/

/-- **A turn that the task has taken**, with what it took and the work that it did.  While the task
winds up it takes events only. -/
inductive Taken (c : Client τ) : Turn → Client τ → Prop
  | command {command : Command} {rest : List Command} (hphase : c.phase = .running)
      (hcom : c.commands = command :: rest)
      (hwork : c.turnWork .command = { c with commands := rest }.commandWork command) :
      Taken c .command ({ c with commands := rest }.execute command)
  | event {id : ConnectionId} {event : TransportEvent} {transport : τ} (hphase : c.phase = .running)
      (hreceive : Transport.receive? c.transport = some ((id, event), transport))
      (hwork : c.turnWork .event = { c with transport }.eventWork id event) :
      Taken c .event ({ c with transport }.receiveEvent id event)
  | lateEvent {id : ConnectionId} {event : TransportEvent} {transport : τ} {deadline : Nat}
      (hphase : c.phase = .draining deadline)
      (hreceive : Transport.receive? c.transport = some ((id, event), transport))
      (hwork : c.turnWork .event = { c with transport }.eventWork id event) :
      Taken c .event ({ c with transport }.receiveEvent id event).finishIfClosed
  | timer {k : TimerKind} {timers : TimerSet TimerKind} (hphase : c.phase = .running)
      (hnext : c.timers.next? = some (k, timers))
      (hwork : c.turnWork .timer = [({ c with timers }, .told (.timerFired k))]) :
      Taken c .timer ({ c with timers }.timerFired k)

/-- **Every turn is one of these.** -/
theorem taken_of_turn? {c c' : Client τ} {t : Turn} (h : c.turn? t = some c') : Taken c t c' := by
  simp only [turn?] at h
  split at h
  · next hphase =>
    split at h
    · cases h
    · next command rest hcom =>
      cases h
      exact .command hphase hcom (by rw [turnWork, hcom])
  · next hphase =>
    obtain ⟨⟨⟨id, event⟩, transport⟩, hreceive, rfl⟩ := Option.map_eq_some_iff.1 h
    exact .event hphase hreceive (by rw [turnWork, hreceive])
  · next hphase =>
    obtain ⟨⟨k, timers⟩, hnext, rfl⟩ := Option.map_eq_some_iff.1 h
    exact .timer hphase hnext (by rw [turnWork, hnext])
  · next hphase =>
    obtain ⟨⟨⟨id, event⟩, transport⟩, hreceive, rfl⟩ := Option.map_eq_some_iff.1 h
    exact .lateEvent hphase hreceive (by rw [turnWork, hreceive])
  · cases h

/-- A task that takes a turn has not ended. -/
theorem Taken.not_ended {c c' : Client τ} {t : Turn} (h : Taken c t c') : c.phase ≠ .ended := by
  cases h <;> simp [*]

/-! ## Relations that follow the work -/

/-- **A relation that follows the work on frames**, between two clients and the work from one to the
other. -/
structure FrameWise (R : Client τ → List (Client τ × Work) → Client τ → Prop) : Prop where
  append : ∀ {c c' c'' : Client τ} {works more : List (Client τ × Work)}, R c works c' →
    R c' more c'' → R c (works ++ more) c''
  /-- Something is counted, and the gauges stay as they are. -/
  counted : ∀ (c : Client τ) (metrics : Metrics), metrics.connected = c.metrics.connected →
    metrics.acksPending = c.metrics.acksPending → R c [] { c with metrics }
  /-- The engine is told of a frame, or of the packet that it completes. -/
  heard : ∀ (c : Client τ) (i : Engine.Input), i.isArrival = true → R c [(c, .told i)] (c.handle i)
  /-- The codec is fed a frame of the connection that counts. -/
  fed : ∀ (c : Client τ) (id : ConnectionId) (frame : Frame), c.current = some id →
    R c [(c, .fed id frame)] { c with codec := (c.codec.feed frame).1 }
  /-- A packet goes to its socket. -/
  routed : ∀ (c : Client τ) (p : Packet), R c [(c, .routed p)] (c.route p)

/-- **A relation that follows the work of turns**, where commands and timers tell the engine only certain
inputs. -/
structure TurnWise (R : Client τ → List (Client τ × Work) → Client τ → Prop)
    (allowed : Engine.Input → Prop) : Prop extends FrameWise R where
  /-- An event is taken. -/
  received : ∀ {c : Client τ} {e : ConnectionId × TransportEvent} {transport : τ},
    Transport.receive? c.transport = some (e, transport) → R c [] { c with transport }
  /-- The connection that counts is reported open. -/
  opened : ∀ c : Client τ, R c [(c, .told .transportOpened)] (c.handle .transportOpened)
  /-- Its end is reported. -/
  lost : ∀ (c : Client τ) (normal : Bool),
    R c [({ c with current := none }, .told (.transportClosed normal))]
      ({ c with current := none }.handle (.transportClosed normal))
  /-- A timer is taken. -/
  fired : ∀ (c : Client τ) (timers : TimerSet TimerKind), R c [] { c with timers }
  /-- A command is taken that tells the engine something. -/
  taken : ∀ {c : Client τ} {command : Command} {rest : List Command} {i : Engine.Input},
    c.commands = command :: rest → command.input? = some i → R c [] { c with commands := rest }
  /-- A command or a timer tells the engine something. -/
  told : ∀ (c : Client τ) (i : Engine.Input), allowed i → R c [(c, .told i)] (c.handle i)
  /-- A command is taken that is about a socket, and carried out. -/
  ordered : ∀ {c : Client τ} {command : Command} {rest : List Command},
    c.commands = command :: rest → command.input? = none →
      R c [({ c with commands := rest }, .ordered command)] ({ c with commands := rest }.execute command)
  /-- The task begins to wind up. -/
  drained : ∀ {c : Client τ} (deadline : Nat), c.phase = .running →
    R c [] { c with phase := .draining deadline }
  /-- The session is closed, and the task lets go of everything. -/
  finished : ∀ {c : Client τ}, c.engine.state = .closed → R c [] c.finish

variable {R : Client τ → List (Client τ × Work) → Client τ → Prop} {allowed : Engine.Input → Prop}
  {c' : Client τ} {id : ConnectionId} {event : TransportEvent}

namespace FrameWise

variable (h : FrameWise R)

include h

theorem nil (c : Client τ) : R c [] c := h.counted c c.metrics rfl rfl

theorem andThen {c'' : Client τ} {works : List (Client τ × Work)} (hfirst : R c works c')
    (hrest : R c' [] c'') : R c works c'' :=
  List.append_nil works ▸ h.append hfirst hrest

/-- **Frames.** -/
theorem receiveFrame (hid : c.current = some id) (frame : Frame) :
    R c (c.frameWork id frame) (c.receiveFrame frame) := by
  have hcurrent := (current_handle_frameReceived
    { c with metrics := c.metrics.recordFrame .inbound frame.size }).trans hid
  have hcame := h.append (h.counted c (c.metrics.recordFrame .inbound frame.size) rfl rfl)
    (h.heard _ .frameReceived rfl)
  rw [frameWork, Client.receiveFrame]
  dsimp only
  generalize ({ c with metrics := c.metrics.recordFrame .inbound frame.size } :
    Client τ).handle .frameReceived = c₁ at hcurrent hcame ⊢
  have hfed := h.append hcame (h.fed c₁ id frame hcurrent)
  rcases hanswer : c₁.codec.feed frame with ⟨codec, e | _ | p⟩ <;> rw [hanswer] at hfed
  · exact h.append hfed (h.counted _ _ rfl rfl)
  · exact hfed
  · by_cases hp : p.frame = .message
    · simp only [if_pos hp]
      exact h.append hfed (h.routed _ p)
    · simp only [if_neg hp]
      exact h.append hfed (h.heard _ (.packet p) rfl)

/-- **Events**, if it is known what becomes of the news of a connection. -/
theorem receiveEvent
    (hopened : event = .opened → c.current = some id →
      R c [(c, .told .transportOpened)] (c.handle .transportOpened))
    (hlost : ∀ normal, event = .closed normal → c.current = some id →
      R c [({ c with current := none }, .told (.transportClosed normal))]
        ({ c with current := none }.handle (.transportClosed normal))) :
    R c (c.eventWork id event) (c.receiveEvent id event) := by
  simp only [eventWork, Client.receiveEvent]
  split
  · exact h.nil c
  · next hid =>
    cases event with
    | opened => exact hopened rfl (not_not.1 hid)
    | closed normal => exact hlost normal rfl (not_not.1 hid)
    | message frame => exact h.receiveFrame (not_not.1 hid) frame
    | httpResponse status headers => exact h.nil c

end FrameWise

namespace TurnWise

variable (h : TurnWise R allowed)

include h

theorem finishIfClosed (c : Client τ) : R c [] c.finishIfClosed := by
  rw [Client.finishIfClosed]
  split
  · next hclosed => exact h.finished hclosed
  · exact h.nil c

/-- **Commands.** -/
theorem execute (hphase : c.phase = .running) {command : Command} {rest : List Command}
    (hcom : c.commands = command :: rest) (hallowed : ∀ i, command.input? = some i → allowed i) :
    R c ({ c with commands := rest }.commandWork command)
      ({ c with commands := rest }.execute command) := by
  cases command with
  | engine i => exact h.append (h.taken hcom rfl) (h.told _ i (hallowed i rfl))
  | shutdown =>
    have hclosed := h.append (h.taken hcom rfl) (h.told _ .close (hallowed .close rfl))
    exact h.andThen (h.andThen hclosed (h.drained _ ((phase_handle _ .close).trans hphase)))
      (h.finishIfClosed _)
  | emit ns name args reply => exact h.ordered hcom rfl
  | socketCreated ns => exact h.ordered hcom rfl
  | closeSocket ns => exact h.ordered hcom rfl

/-- **Events that are taken.** -/
theorem receiveEvent {transport : τ}
    (hreceive : Transport.receive? c.transport = some ((id, event), transport)) :
    R c ({ c with transport }.eventWork id event) ({ c with transport }.receiveEvent id event) :=
  h.append (h.received hreceive)
    (h.toFrameWise.receiveEvent (fun _ _ => h.opened _) fun _ _ _ => h.lost _ _)

/-- **Turns.**  While the task winds up the engine learns nothing but what events tell. -/
theorem turn (hfires : c.phase = .running → ∀ k, allowed (.timerFired k))
    (hcommands : c.phase = .running → ∀ command ∈ c.commands, ∀ i,
      command.input? = some i → allowed i)
    {t : Turn} (ht : Taken c t c') : R c (c.turnWork t) c' := by
  cases ht with
  | command hphase hcom hwork =>
    rw [hwork]
    exact h.execute hphase hcom (hcommands hphase _ (hcom ▸ List.mem_cons_self))
  | event hphase hreceive hwork =>
    rw [hwork]
    exact h.receiveEvent hreceive
  | lateEvent hphase hreceive hwork =>
    rw [hwork]
    exact h.andThen (h.receiveEvent hreceive) (h.finishIfClosed _)
  | timer hphase hnext hwork =>
    rw [hwork]
    exact h.append (h.fired c _) (h.told _ _ (hfires hphase _))

end TurnWise

end Client

end RealtimeClient
