import Mathlib
import RealtimeClient.Proofs.Client.Standing

/-!
# What becomes of emitted events

An event that is emitted on a namespace of the client is sent at once if the namespace is confirmed,
and waits in the queue of its socket until then.  Whether to wait is told by the namespace, and whether
something can be sent is told by the transport, which may have lost its connection already.  In the
time between the loss and the client's learning of it what is sent goes nowhere.

* `Written`, `EndUnreported` — packets on the wire, and the time in which there is none.
* `Kept` — what becomes of every queue in a step: it is held, written, or caught in that time.
* `emit_kept` — what becomes of an emitted event; `turn_kept`, `Step.kept` — what becomes of the queues.
* `Delivers`, **`delivers_of_run`** — both, along every run.
* `lossy`, `lossy_loses` — a run in which an event of a confirmed namespace is lost.
-/

namespace RealtimeClient.Client

variable {c c' : Client MemoryTransport}

/-! ## On the wire -/

/-- **Packets were written** to the client's connection, one after the other and nothing between. -/
def Written (c c' : Client MemoryTransport) (ps : List Packet) : Prop :=
  ∃ id before after, c.current = some id ∧
    c'.transport.written =
      c.transport.written ++ before ++ (c.framesOf ps).map (id, ·) ++ after

/-- **The connection has ended and the client has not learned of it**: the report is in the queue of
events. -/
def EndUnreported (c : Client MemoryTransport) : Prop :=
  ∃ id normal, c.current = some id ∧ c.transport.state = .closed ∧
    (id, .closed normal) ∈ c.transport.events

/-- **A connection that was opened is open, or its end is on the way.** -/
theorem open_or_unreported (hc : Coupled c) (hlive : c.engine.state ≠ .closed)
    (hs : c.transport.state ≠ .opening) :
    (∃ id, c.current = some id ∧ c.transport.current = some id ∧ c.transport.state = .opened) ∨
      EndUnreported c := by
  obtain ⟨id, hid⟩ := Option.isSome_iff_exists.1 (hc.attached.2 hlive)
  cases hstate : c.transport.state with
  | opening => exact absurd hstate hs
  | opened => exact .inl ⟨id, hid, hc.linked id hid, rfl⟩
  | closed =>
    have hends := hc.ends id hid
    rw [if_pos hstate] at hends
    obtain ⟨⟨key, event⟩, hmem, hreport⟩ := List.countP_pos_iff.1 (hends ▸ Nat.one_pos)
    cases event with
    | closed normal =>
      obtain rfl : key = id := by simpa [reportsEnd] using hreport
      exact .inr ⟨key, normal, hid, hstate, hmem⟩
    | _ => cases hreport

/-- Whatever is handed over after the opening is written, unless the connection has ended. -/
theorem Handed.written {ps : List Packet} (h : Handed c c' ps) (hc : Coupled c)
    (hlive : c.engine.state ≠ .closed) (hs : c.transport.state ≠ .opening) :
    Written c c' ps ∨ EndUnreported c := by
  refine (open_or_unreported hc hlive hs).imp_left ?_
  rintro ⟨id, hid, hlinked, hopen⟩
  obtain ⟨before, after, hwritten⟩ := h
  rw [MemoryTransport.carry_of_open hopen hlinked] at hwritten
  exact ⟨id, before, after, hid, hwritten⟩

/-! ## Queues -/

/-- **What becomes of the queues of the sockets that stay with the client**: nothing leaves a queue,
or all of it was written, or the connection had ended and the client did not know. -/
def Kept (c c' : Client MemoryTransport) : Prop :=
  ∀ ns id s, c'.registered? ns = some id → c.socket? id = some s →
    ∃ s', c'.socket? id = some s' ∧
      (s.queue <+: s'.queue ∨ Written c c' s.queue ∨ EndUnreported c)

theorem Hold.kept (h : Hold c c') : Kept c c' := by
  intro ns id s hns hs
  obtain ⟨s', hs', -, hrel⟩ := h.sockets id s hs
  exact ⟨s', hs', .inl (hrel ⟨ns, hns⟩).queue⟩

theorem passes_notify (event : SessionEvent) : Passes c (c.notify event) := by
  refine .of_apart (apart_notify event) ?_ ?_
  all_goals
    unfold notify
    dsimp only
    split <;> split <;> rfl

theorem passes_publishStatus : Passes c c.publishStatus := .of_apart apart_publishStatus rfl rfl

/-- **What a turn does before it comes to the sockets**: it takes an event, and sees to timers and
figures. -/
structure Alike (c c' : Client MemoryTransport) : Prop extends Apart c c' where
  current : c'.current = c.current
  revision : c'.codec.revision = c.codec.revision
  written : c'.transport.written = c.transport.written
  state : c'.transport.state = c.transport.state
  connection : c'.transport.current = c.transport.current

theorem Alike.trans {c'' : Client MemoryTransport} (h : Alike c c') (h' : Alike c' c'') :
    Alike c c'' where
  toApart := h.toApart.trans h'.toApart
  current := h'.current.trans h.current
  revision := h'.revision.trans h.revision
  written := h'.written.trans h.written
  state := h'.state.trans h.state
  connection := h'.connection.trans h.connection

theorem Alike.hold {c'' : Client MemoryTransport} (h : Alike c c') (hh : Hold c' c'') : Hold c c'' :=
  (Hold.of_apart h.toApart).trans hh

theorem Alike.handed {c'' : Client MemoryTransport} {ps : List Packet} (h : Alike c c')
    (hh : Handed c' c'' ps) : Handed c c'' ps := by
  have hcarry (frames : List Frame) :
      c'.transport.carry frames = c.transport.carry frames := by
    rw [MemoryTransport.carry, h.state, h.connection]
    rfl
  obtain ⟨before, after, hwritten⟩ := hh
  refine ⟨before, after, ?_⟩
  rw [hwritten, hcarry, framesOf, framesOf, h.revision, h.written]

/-- Queues that are handed over later in a turn are written, or the connection had ended when the
turn began. -/
theorem Alike.kept {c'' : Client MemoryTransport} (h : Alike c c') (hp : Passes c' c'')
    (hc : Coupled c) (hlive : c.engine.state ≠ .closed) (hs : c.transport.state ≠ .opening) :
    Kept c c'' := by
  intro ns id s _ hsocket
  obtain ⟨s', hs', hq⟩ := hp.sockets id s ((h.socket? id).trans hsocket)
  exact ⟨s', hs', hq.imp_right fun hh => (h.handed hh).written hc hlive hs⟩

/-! ## Turns -/

/-- **The session opens**: every namespace is asked for. -/
theorem handle_transportOpened (hs : c.engine.state = .opening) :
    c.handle .transportOpened =
      (({ c with engine := (c.engine.handle .transportOpened).1 }.openSockets).notify
        .opened).publishStatus := by
  have heffects : (c.engine.handle .transportOpened).2 = [.socketsOpen, .notify .opened] := by
    simp [Engine.handle, Engine.transportOpened, hs]
  rw [handle, feedbackLimit, feed_succ, round, heffects]
  simp [carryOutAll, carryOut]

/-- A frame's coming concerns timers only. -/
theorem alike_frameReceived :
    Alike c (c.handle .frameReceived) ∧ (c.handle .frameReceived).engine = c.engine := by
  have heffects : (c.engine.handle .frameReceived).2 = [] ∨
      ∃ k delay, (c.engine.handle .frameReceived).2 = [.arm k delay] := by
    simp only [Engine.handle, Engine.frameReceived]
    split
    · split
      · exact .inr ⟨_, _, rfl⟩
      · split
        · exact .inr ⟨_, _, rfl⟩
        · exact .inl rfl
    · exact .inl rfl
  have hengine : (c.engine.handle .frameReceived).1 = c.engine := Engine.frameReceived_fst _
  rw [handle, feedbackLimit, feed_succ, round, hengine]
  rcases heffects with heffects | ⟨k, delay, heffects⟩
  all_goals
    rw [heffects]
    exact ⟨⟨⟨rfl, rfl⟩, rfl, rfl, rfl, rfl, rfl⟩, rfl⟩

theorem revision_feed (codec : Codec) (frame : Frame) :
    (codec.feed frame).1.revision = codec.revision := by
  have hsettle (codec : Codec) (p : Codec.Partial) :
      (codec.settle p).1.revision = codec.revision := by
    rw [Codec.settle]
    split <;> rfl
  cases frame with
  | text s =>
    simp only [Codec.feed]
    split
    · exact hsettle _ _
    · rfl
  | binary data =>
    simp only [Codec.feed]
    split
    · rfl
    · exact hsettle _ _

/-- A message may confirm its namespace, while the session is open. -/
theorem route_kept {c₀ : Client MemoryTransport} (h₀ : Alike c₀ c) (hengine : c.engine = c₀.engine)
    (hc : Coupled c₀) (h : Standing c₀) (p : Packet) : Kept c₀ (c.route p) := by
  by_cases hp : p.kind = .connect
  · by_cases hs : c.engine.state = .opened
    · rw [hengine] at hs
      exact h₀.kept (passes_route hp) hc (by rw [hs]; simp) (h.awake hs)
    · rw [route, if_pos hs]
      exact (h₀.hold (.refl c)).kept
  · exact (h₀.hold (hold_route (h₀.toApart.filed h.filed) hp)).kept

/-- A piece of work that tells the engine something holds the queues, with the exceptions of its
input. -/
theorem hold_told {i : Engine.Input} (hopen : .socketsOpen ∉ (c.engine.handle i).2)
    (hup : ¬GivesUp ([(c, Work.told i)].flatMap workStages)) : Hold c (c.handle i) := by
  rw [List.flatMap_singleton] at hup
  exact hold_handle hopen hup

theorem receiveFrame_kept {c₀ : Client MemoryTransport} (h₀ : Alike c₀ c)
    (hengine : c.engine = c₀.engine) (hc : Coupled c₀) (h : Standing c₀) {id : ConnectionId}
    (frame : Frame) (hup : ¬GivesUp ((c.frameWork id frame).flatMap workStages)) :
    Kept c₀ (c.receiveFrame frame) := by
  obtain ⟨hframe, hsame⟩ := alike_frameReceived
    (c := { c with metrics := c.metrics.recordFrame .inbound frame.size })
  simp only [frameWork, List.flatMap_cons, givesUp_append, not_or] at hup
  replace hup := hup.2.2
  rw [receiveFrame]
  dsimp only
  generalize ({ c with metrics := c.metrics.recordFrame .inbound frame.size } :
    Client MemoryTransport).handle .frameReceived = c₁ at hframe hsame hup
  have h₁ : Alike c₀ c₁ := h₀.trans { hframe with }
  have hrevision := revision_feed c₁.codec frame
  rcases hfeed : c₁.codec.feed frame with ⟨codec, e | _ | p⟩
  all_goals
    rw [hfeed] at hup hrevision
    have h₂ : Alike c₀ { c₁ with codec } := { h₁ with revision := hrevision.trans h₁.revision }
    dsimp only at hup ⊢
  · exact (h₂.hold (.refl _)).kept
  · exact (h₂.hold (.refl _)).kept
  · by_cases hp : p.frame = .message
    · rw [if_pos hp]
      exact route_kept h₂ (hsame.trans hengine) hc h p
    · rw [if_neg hp] at hup ⊢
      exact (h₂.hold (hold_told (Engine.not_socketsOpen_mem (by simp)) hup)).kept

/-- **An event of the transport.**  The report that the connection is open opens the session. -/
theorem receiveEvent_kept (hc : Coupled c) (h : Standing c) {id : ConnectionId}
    {event : TransportEvent} {rest : List (ConnectionId × TransportEvent)}
    (hev : c.transport.events = (id, event) :: rest)
    (hup : ¬GivesUp ((({ c with transport := { c.transport with events := rest } } :
      Client MemoryTransport).eventWork id event).flatMap workStages)) :
    Kept c (({ c with transport := { c.transport with events := rest } } :
      Client MemoryTransport).receiveEvent id event) := by
  have htaken : Alike c { c with transport := { c.transport with events := rest } } :=
    ⟨⟨rfl, rfl⟩, rfl, rfl, rfl, rfl, rfl⟩
  unfold receiveEvent eventWork at *
  dsimp only at hup ⊢
  by_cases hid : c.current = some id
  · rw [if_neg (not_not_intro hid)] at hup ⊢
    have hlinked := hc.linked id hid
    cases event with
    | opened =>
      by_cases hs : c.engine.state = .opening
      · -- what the transport reports open is not still to be opened
        have hnot : c.transport.state ≠ .opening := fun hopening =>
          h.truthful.unopened hopening id hlinked (hev ▸ List.mem_cons_self)
        dsimp only
        rw [handle_transportOpened
          (c := { c with transport := { c.transport with events := rest } }) hs]
        refine Alike.kept ?_ ((passes_openSockets.trans (passes_notify _)).trans passes_publishStatus)
          hc (by rw [hs]; simp) hnot
        exact ⟨⟨rfl, rfl⟩, rfl, rfl, rfl, rfl, rfl⟩
      · refine (htaken.hold (hold_told (fun hopen => ?_) hup)).kept
        exact hs ((Engine.socketsOpen_mem_iff _).1 hopen).1
    | closed normal =>
      have hdetached : Hold c { c with
          transport := { c.transport with events := rest }, current := none } :=
        .of_apart ⟨rfl, rfl⟩
      exact (hdetached.trans (hold_told (Engine.not_socketsOpen_mem (by simp)) hup)).kept
    | message frame => exact receiveFrame_kept htaken rfl hc h frame hup
    | httpResponse status headers => exact (htaken.hold (.refl _)).kept
  · rw [if_pos hid]
    exact (htaken.hold (.refl _)).kept

theorem Kept.finishIfClosed (h : Kept c c') : Kept c c'.finishIfClosed := by
  rw [Client.finishIfClosed]
  split
  · intro ns id s hns _
    cases hns
  · exact h

/-- **A command.**  A namespace that was just asked for may need no request. -/
theorem execute_kept {command : Command} {rest : List Command} (hc : Coupled c) (h : Standing c)
    (hcom : c.commands = command :: rest)
    (hup : ¬GivesUp ((({ c with commands := rest } : Client MemoryTransport).commandWork command).flatMap
      workStages)) :
    Kept c (({ c with commands := rest } : Client MemoryTransport).execute command) := by
  have htaken : Alike c { c with commands := rest } := ⟨⟨rfl, rfl⟩, rfl, rfl, rfl, rfl, rfl⟩
  cases command with
  | engine i =>
    refine (htaken.hold (hold_told (Engine.not_socketsOpen_mem ?_) hup)).kept
    rintro rfl
    cases (hc.command_taken hcom).2 _ rfl
  | emit ns name args reply => exact (htaken.hold (hold_emit ns name args reply)).kept
  | socketCreated ns =>
    simp only [execute, socketCreated]
    split
    · exact (htaken.hold (.refl _)).kept
    · next hs =>
      have hopened : c.engine.state = .opened := not_not.1 hs
      split
      · exact (htaken.hold (.refl _)).kept
      · exact htaken.kept (passes_requestSocket _) hc (by rw [hopened]; simp) (h.awake hopened)
  | closeSocket ns =>
    exact (htaken.hold (hold_closeSocket (htaken.toApart.filed h.filed) ns)).kept
  | shutdown =>
    have hclose := htaken.hold (hold_told (Engine.not_socketsOpen_mem (by simp)) hup)
    exact Kept.finishIfClosed (hclose.trans (.of_apart ⟨rfl, rfl⟩)).kept

/-- **What becomes of the queues in a turn** in which the connection is not gone for good. -/
theorem turn_kept (hc : Coupled c) (h : Standing c) {t : Turn} (ht : c.turn? t = some c')
    (hup : ¬GivesUp (c.turnStages t)) : Kept c c' := by
  rw [turnStages] at hup
  cases taken_of_turn? ht with
  | command hphase hcom hwork =>
    rw [hwork] at hup
    exact execute_kept hc h hcom hup
  | event hphase hreceive hwork =>
    obtain ⟨rest, hev, rfl⟩ := receive?_eq_some hreceive
    rw [hwork] at hup
    exact receiveEvent_kept hc h hev hup
  | lateEvent hphase hreceive hwork =>
    obtain ⟨rest, hev, rfl⟩ := receive?_eq_some hreceive
    rw [hwork] at hup
    exact (receiveEvent_kept hc h hev hup).finishIfClosed
  | @timer k timers hphase hnext hwork =>
    rw [hwork] at hup
    have htimers : Alike c { c with timers } := ⟨⟨rfl, rfl⟩, rfl, rfl, rfl, rfl, rfl⟩
    exact (htimers.hold (hold_told (Engine.not_socketsOpen_mem (by simp)) hup)).kept

/-- **What becomes of the queues in a step**, whichever party takes it. -/
theorem Step.kept (hstep : Step c c') (hc : c.phase ≠ .ended → Coupled c) (h : Standing c)
    (hup : ∀ t, c.turn? t = some c' → ¬GivesUp (c.turnStages t)) : Kept c c' := by
  cases hstep with
  | call a => exact (hold_call a).kept
  | on id name listener => exact (hold_on id name listener).kept
  | turn t ht => exact turn_kept (hc (taken_of_turn? ht).not_ended) h ht (hup t ht)
  | peer a => exact Hold.kept (.of_apart ⟨rfl, rfl⟩)
  | take => exact Hold.kept (.of_apart ⟨rfl, rfl⟩)
  | elapse time =>
    have htimers : Kept c { c with timers := c.timers.elapseTo time } :=
      Hold.kept (.of_apart ⟨rfl, rfl⟩)
    rcases elapseTo_cases c time with heq | ⟨-, -, -, heq⟩ <;> rw [heq]
    · exact htimers
    · intro ns id s hns _
      cases hns

/-! ## Emitted events -/

/-- The packet that an event is sent as. -/
def packetOf (s : Socket) (name : String) (args : List Value) (reply : Option Label) : Packet :=
  (s.prepare name args reply).2

theorem emit_of_registered {ns : String} {id : SocketId} {s : Socket}
    (hns : c.registered? ns = some id) (hs : c.socket? id = some s) (name : String)
    (args : List Value) (reply : Option Label) :
    c.emit ns name args reply =
      ((c.modifySocket id fun _ => (s.emit name args reply).1).sendAll
        (s.emit name args reply).2.toList).updateAckGauge := by
  simp only [emit, hns, hs]

theorem turn?_emit {ns name : String} {args : List Value} {reply : Option Label}
    {rest : List Command} (hcom : c.commands = .emit ns name args reply :: rest)
    (ht : c.turn? .command = some c') :
    c' = ({ c with commands := rest } : Client MemoryTransport).emit ns name args reply := by
  cases taken_of_turn? ht with
  | command hphase hcom' =>
    rw [hcom] at hcom'
    cases hcom'
    rfl

/-- **What becomes of an emitted event.**  Until its namespace is confirmed it is put at the end of the
queue; after that it is written, unless the connection had ended and the client did not know. -/
theorem emit_kept (hc : Coupled c) (h : Standing c) {ns name : String} {args : List Value}
    {reply : Option Label} {rest : List Command} {id : SocketId}
    (hcom : c.commands = .emit ns name args reply :: rest) (hns : c.registered? ns = some id)
    (ht : c.turn? .command = some c') :
    ∃ s s', c.socket? id = some s ∧ s.ns = ns ∧ c'.socket? id = some s' ∧
      (s.connected = false ∧ s'.queue = s.queue ++ [packetOf s name args reply] ∨
        s.connected = true ∧
          (Written c c' [packetOf s name args reply] ∨ EndUnreported c)) := by
  obtain ⟨s, hs, hsns⟩ := h.filed ns id hns
  have hemit := turn?_emit hcom ht
  rw [emit_of_registered (c := { c with commands := rest }) hns hs] at hemit
  have hs' : c'.socket? id = some (s.emit name args reply).1 := by
    rw [hemit, (apart_updateAckGauge).socket?, (apart_sendAll _).socket?, socket?_modifySocket,
      if_pos rfl]
    exact congrArg (Option.map _) hs
  refine ⟨s, _, hs, hsns, hs', ?_⟩
  cases hconn : s.connected with
  | false =>
    refine .inl ⟨rfl, ?_⟩
    rw [Socket.emit_eq, hconn, if_neg Bool.false_ne_true]
    rfl
  | true =>
    -- a confirmed namespace is as good as an open session, which has the transport past its opening
    have hopened : c.engine.state = .opened := by
      by_contra hs
      rw [h.unconfirmed hs ns id s hns ‹_›] at hconn
      cases hconn
    have hwritten : Handed c c' [packetOf s name args reply] := by
      refine ⟨[], [], ?_⟩
      rw [hemit, Socket.emit_eq, if_pos hconn, List.append_nil, List.append_nil]
      exact congrArg (·.written) (transport_sendAll [packetOf s name args reply])
    exact .inr ⟨rfl, hwritten.written hc (by rw [hopened]; simp) (h.awake hopened)⟩

/-- **Emitted events and queued ones are not lost**, except in the time between the end of a connection
and the client's learning of it. -/
structure Delivers (c : Client MemoryTransport) : Prop where
  /-- What becomes of an event when the task comes to it. -/
  emit : ∀ ns name args reply rest id c', c.commands = .emit ns name args reply :: rest →
    c.registered? ns = some id → c.turn? .command = some c' →
    ∃ s s', c.socket? id = some s ∧ s.ns = ns ∧ c'.socket? id = some s' ∧
      (s.connected = false ∧ s'.queue = s.queue ++ [packetOf s name args reply] ∨
        s.connected = true ∧
          (Written c c' [packetOf s name args reply] ∨ EndUnreported c))
  /-- What becomes of a queue in a step, unless the socket leaves the client or the connection is gone
  for good. -/
  queue : ∀ c' ns id, Step c c' → (∀ t, c.turn? t = some c' → ¬GivesUp (c.turnStages t)) →
    c.registered? ns = some id → c'.registered? ns = some id →
    ∃ s s', c.socket? id = some s ∧ s.ns = ns ∧ c'.socket? id = some s' ∧
      (s.queue <+: s'.queue ∨ Written c c' s.queue ∨ EndUnreported c)

/-- **What was emitted is delivered along every run**, with that exception. -/
theorem delivers_of_run {c₀ : Client MemoryTransport} (h₀ : Blank c₀)
    (h : Relation.ReflTransGen Step c₀ c) : Delivers c := by
  obtain ⟨hstanding, hreachable⟩ := standing_of_run h₀ h
  constructor
  · intro ns name args reply rest id c' hcom hns ht
    exact emit_kept (hreachable.coupled (taken_of_turn? ht).not_ended) hstanding hcom hns ht
  · intro c' ns id hstep hup hns hns'
    obtain ⟨s, hs, hsns⟩ := hstanding.filed ns id hns
    obtain ⟨s', hs', hq⟩ := hstep.kept hreachable.coupled hstanding hup ns id s hns' hs
    exact ⟨s, s', hs, hsns, hs', hq⟩

/-! ## An event that is lost -/

/-- **Every event that is emitted on a namespace of the client is written or queued** when the task
comes to it. -/
def EmitsKept (c : Client MemoryTransport) : Prop :=
  ∀ ns name args reply rest id c', c.commands = .emit ns name args reply :: rest →
    c.registered? ns = some id → c.turn? .command = some c' →
    ∃ s s', c.socket? id = some s ∧ c'.socket? id = some s' ∧
      (Written c c' [packetOf s name args reply] ∨ packetOf s name args reply ∈ s'.queue)

/-- A client of the revision in which the default namespace needs no request. -/
def freshV3 : Client MemoryTransport :=
  { fresh with engine := .new .v3 .default, codec := .new .v3 }

def acted (c : Client MemoryTransport) (a : MemoryTransport.PeerAction) : Client MemoryTransport :=
  { c with transport := c.transport.act a }

/-- The client after a turn of the task, if there was something to do. -/
def turned (c : Client MemoryTransport) (t : Turn) : Client MemoryTransport := (c.turn? t).getD c

/-- The session opens, and the default namespace with it.  The peer drops the connection, and the
application emits an event before the client learns of that. -/
def lossy : Client MemoryTransport :=
  ((((freshV3.served (.connect .nil .nil)).acted .accept).turned .event).acted .drop).call
    (.emit 0 "x" [] none)

theorem freshV3_blank : Blank freshV3 where
  engine := ⟨_, _, rfl⟩
  transport := rfl
  current := rfl
  commands := rfl
  sockets := rfl
  registry := rfl

theorem run_turned (c : Client MemoryTransport) (t : Turn) :
    Relation.ReflTransGen Step c (c.turned t) := by
  rw [turned]
  match ht : c.turn? t with
  | none => exact .refl
  | some c' => exact .single (.turn t ht)

theorem run_acted (c : Client MemoryTransport) (a : MemoryTransport.PeerAction) :
    Relation.ReflTransGen Step c (c.acted a) :=
  .single (.peer c a)

theorem run_served (c : Client MemoryTransport) (a : Call) :
    Relation.ReflTransGen Step c (c.served a) :=
  .head (.call c a) (run_turned (c.call a) .command)

theorem lossy_run : Relation.ReflTransGen Step freshV3 lossy := by
  refine .tail ?_ (.call _ (.emit 0 "x" [] none))
  refine .trans ?_ (run_acted _ .drop)
  refine .trans ?_ (run_turned _ .event)
  exact (run_served _ (.connect .nil .nil)).trans (run_acted _ .accept)

theorem framesOf_ne_nil (p : Packet) : c.framesOf [p] ≠ [] := by
  simp [framesOf, Codec.encode]

/-- **The event is lost**: it is neither written nor queued. -/
theorem lossy_loses :
    (∃ c, Blank c ∧ Relation.ReflTransGen Step c lossy) ∧ ¬EmitsKept lossy := by
  refine ⟨⟨freshV3, freshV3_blank, lossy_run⟩, fun h => ?_⟩
  -- all of the turn can be computed but the frames, of which it is enough that there is one
  have hturn : lossy.turn? .command =
      some (({ lossy with commands := [] } : Client MemoryTransport).emit "/" "x" [] none) := rfl
  obtain ⟨s, s', -, hs', hwritten | hqueued⟩ :=
    h "/" "x" [] none [] 0 _ (by decide) (by decide) hturn
  · obtain ⟨id, before, after, -, hwritten⟩ := hwritten
    have hnil : [] = [] ++ before ++ (lossy.framesOf [packetOf s "x" [] none]).map (id, ·) ++ after :=
      hwritten
    simp only [List.nil_append, List.nil_eq_append_iff, List.append_eq_nil_iff,
      List.map_eq_nil_iff] at hnil
    exact framesOf_ne_nil _ hnil.1.2
  · have hqueue : Option.map Socket.queue
        ((({ lossy with commands := [] } : Client MemoryTransport).emit "/" "x" [] none).socket? 0) =
          some [] := rfl
    rw [hs'] at hqueue
    rw [Option.some.inj hqueue] at hqueued
    cases hqueued

/-- It was emitted after the end of the connection and before the client learned of it. -/
theorem lossy_delivers : EndUnreported lossy ∧ Delivers lossy :=
  ⟨⟨⟨1⟩, false, rfl, rfl, by decide⟩, delivers_of_run freshV3_blank lossy_run⟩

end RealtimeClient.Client
