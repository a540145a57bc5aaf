import Mathlib
import RealtimeClient.Proofs.Client.Work

/-!
# Runs of a client over the in-memory transport

A run interleaves three parties: the application, which makes calls; the client's task, which takes
one turn at a time; and the peer, which acts on the transport whenever it likes.

* `Client.Initial` — where runs begin; `Client.Step`, `Client.Reachable` — how they go on.
* `Client.dialed_turn` — what the transport granted is what the effects of a turn asked for.
-/

namespace RealtimeClient.Client

/-! ## Steps -/

/-- **A client to which nothing has happened yet**, over a transport whose events it receives. -/
structure Initial (c : Client MemoryTransport) : Prop where
  engine : ∃ revision policy, c.engine = .new revision policy
  transport : c.transport = MemoryTransport.new.installSink
  current : c.current = none
  commands : c.commands = []

/-- A client that was just started is one. -/
theorem Initial.of_start {settings : Settings} {epoch : Nat} {c : Client MemoryTransport}
    (h : start settings MemoryTransport.new.installSink epoch = .ok c) : Initial c := by
  rw [start] at h
  split at h
  · cases h
  · split at h
    · cases h
    · cases h
      exact ⟨⟨_, _, rfl⟩, rfl, rfl, rfl⟩

/-- **One step of a run**, of whichever party. -/
inductive Step : Client MemoryTransport → Client MemoryTransport → Prop
  /-- The application makes a call, from any of its threads. -/
  | call (c : Client MemoryTransport) (a : Call) : Step c (c.call a)
  /-- The application registers a listener. -/
  | on (c : Client MemoryTransport) (id : SocketId) (name : String) (listener : Listener) :
      Step c (c.on id name listener)
  /-- The task takes a turn. -/
  | turn {c c' : Client MemoryTransport} (t : Turn) (h : c.turn? t = some c') : Step c c'
  /-- The peer acts. -/
  | peer (c : Client MemoryTransport) (a : MemoryTransport.PeerAction) :
      Step c { c with transport := c.transport.act a }
  /-- The peer takes what was written. -/
  | take (c : Client MemoryTransport) : Step c { c with transport := c.transport.takeWritten.2 }
  /-- Time passes. -/
  | elapse (c : Client MemoryTransport) (time : Nat) : Step c (c.elapseTo time)

/-- **The clients that a run arrives at.** -/
inductive Reachable : Client MemoryTransport → Prop
  | initial {c : Client MemoryTransport} (h : Initial c) : Reachable c
  | step {c c' : Client MemoryTransport} (hc : Reachable c) (h : Step c c') : Reachable c'

variable {c c' : Client MemoryTransport}

/-- The end of the task is the end. -/
theorem Step.ended (h : Step c c') (he : c.phase = .ended) : c'.phase = .ended := by
  cases h with
  | call a => rwa [call_phase]
  | on id name listener => exact he
  | turn t h => exact absurd he (taken_of_turn? h).not_ended
  | peer a => exact he
  | take => exact he
  | elapse time =>
    rw [elapseTo]
    simp [he]

theorem receive?_eq_some {t t' : MemoryTransport} {p : ConnectionId × TransportEvent}
    (h : Transport.receive? t = some (p, t')) :
    ∃ rest, t.events = p :: rest ∧ t' = { t with events := rest } := by
  simp only [Transport.receive?, MemoryTransport.receive?] at h
  split at h
  · cases h
  · next rest hev =>
    cases h
    exact ⟨rest, hev, rfl⟩

/-! ## The stages of a turn are what it does

Each connection that the transport granted is one that a stage asked for, in order.
-/

section Granted

variable {c c' : Client MemoryTransport}

/-- The request that the transport grants when an effect is carried out. -/
def granted : Client MemoryTransport × Engine.Effect → List (String × Headers)
  | (c, .openTransport query headers) =>
    let url := c.endpoint.connectionUrl c.engine.revision.number c.engine.sessionId c.unixTime query
    match (Transport.dial c.transport url headers).1 with
    | .ok _ => [(url, headers)]
    | .error _ => []
  | _ => []

theorem Aside.dialed (h : Aside c c') : c'.transport.dialed = c.transport.dialed := by
  rw [h.transport]

theorem dialed_hangUp (t : MemoryTransport) (reason : String) :
    (Transport.hangUp t reason).2.dialed = t.dialed := by
  simp only [Transport.hangUp, MemoryTransport.hangUp]
  split
  · rfl
  · simp only [MemoryTransport.emit]
    split <;> rfl

/-- What is asked for is what is given, unless it is refused. -/
theorem dialed_dial (t : MemoryTransport) (url : String) (headers : Headers) :
    (Transport.dial t url headers).2.dialed =
      t.dialed ++ match (Transport.dial t url headers).1 with
        | .ok _ => [(url, headers)]
        | .error _ => [] := by
  simp only [Transport.dial, MemoryTransport.dial]
  by_cases hs : t.state = .closed
  · by_cases hsink : t.sink = .missing <;> simp [hs, hsink]
  · simp [hs]

theorem dialed_carryOut (f : Engine.Effect) :
    (c.carryOut f).1.transport.dialed = c.transport.dialed ++ granted (c, f) := by
  cases hf : f.isQuiet with
  | true =>
    have hnone : granted (c, f) = [] := by cases f <;> first | rfl | cases hf
    rw [(aside_carryOut hf).1.dialed, hnone, List.append_nil]
  | false =>
    cases f with
    | openTransport query headers =>
      simp only [carryOut, openTransport, granted, ← dialed_dial]
      split <;> rfl
    | closeTransport cause =>
      have hdialed := dialed_hangUp c.transport cause.reason
      simp only [carryOut, closeTransport, granted, List.append_nil]
      split <;> exact hdialed
    | _ => cases hf

theorem dialed_carryOutAll (effects : List Engine.Effect) :
    (c.carryOutAll effects).1.transport.dialed =
      c.transport.dialed ++ (c.stages effects).flatMap granted := by
  induction effects generalizing c with
  | nil => simp [carryOutAll, stages]
  | cons f rest ih =>
    simp only [carryOutAll, stages, List.flatMap_cons, ih, dialed_carryOut, List.append_assoc]

theorem dialed_feed (rounds : Nat) (inputs : List Engine.Input) :
    (c.feed rounds inputs).1.transport.dialed =
      c.transport.dialed ++ (c.feedStages rounds inputs).flatMap granted := by
  induction rounds generalizing c inputs with
  | zero => cases inputs <;> simp [feed, feedStages]
  | succ rounds ih =>
    cases inputs with
    | nil => simp [feedStages]
    | cons i rest =>
      rw [feed_succ, feedStages, ih, List.flatMap_append, ← List.append_assoc]
      exact congrArg (· ++ _) (dialed_carryOutAll _)

theorem dialed_handle (i : Engine.Input) :
    (c.handle i).transport.dialed = c.transport.dialed ++ (c.handleStages i).flatMap granted :=
  dialed_feed feedbackLimit [i]

theorem dialed_finish : c.finish.transport.dialed = c.transport.dialed := by
  have hdisconnect : Aside { c with timers := c.timers.cancelAll }
      ({ c with timers := c.timers.cancelAll }.disconnectSockets true) := aside_disconnectSockets true
  rw [finish]
  dsimp only
  split
  · exact hdisconnect.dialed
  · rw [dialed_hangUp]
    exact hdisconnect.dialed

theorem dialed_received {e : ConnectionId × TransportEvent} {transport : MemoryTransport}
    (h : Transport.receive? c.transport = some (e, transport)) :
    transport.dialed = c.transport.dialed := by
  obtain ⟨rest, -, rfl⟩ := receive?_eq_some h
  rfl

/-- A command that is about a socket asks for no connection. -/
theorem dialed_ordered {command : Command} (h : command.input? = none) :
    (c.execute command).transport.dialed = c.transport.dialed := by
  cases command with
  | emit ns name args reply => exact (aside_emit ns name args reply).dialed
  | socketCreated ns => exact (aside_socketCreated ns).dialed
  | closeSocket ns => exact (aside_closeSocket ns).dialed
  | _ => cases h

theorem dialed_told (c : Client MemoryTransport) (i : Engine.Input) :
    (c.handle i).transport.dialed =
      c.transport.dialed ++ ([(c, Work.told i)].flatMap workStages).flatMap granted := by
  rw [List.flatMap_singleton]
  exact dialed_handle i

/-- Connections that are granted follow the work. -/
theorem turnWise_dialed : TurnWise (fun c works c' => c'.transport.dialed =
    c.transport.dialed ++ (works.flatMap workStages).flatMap granted) fun _ => True where
  append h h' := by
    rw [h', h, List.flatMap_append, List.flatMap_append, List.append_assoc]
  counted c metrics _ _ := by simp
  heard c i _ := dialed_told c i
  fed c id frame _ := by simp [workStages]
  routed c p := by simpa [workStages] using (aside_route p).dialed
  received h := by simpa using dialed_received h
  opened c := dialed_told c _
  lost c normal := dialed_told { c with current := none } _
  fired c timers := by simp
  taken _ _ := by simp
  told c i _ := dialed_told c i
  ordered _ h := by simpa [workStages] using dialed_ordered h
  drained deadline _ := by simp
  finished _ := by simpa using dialed_finish

/-- **What a turn asks for and is given** is what its effects ask for and are given. -/
theorem dialed_turn {t : Turn} (h : c.turn? t = some c') :
    c'.transport.dialed = c.transport.dialed ++ (c.turnStages t).flatMap granted :=
  turnWise_dialed.turn (fun _ _ => trivial) (fun _ _ _ _ _ => trivial) (taken_of_turn? h)

end Granted

end RealtimeClient.Client
