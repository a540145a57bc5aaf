import Mathlib
import RealtimeClient.Proofs.Since
import RealtimeClient.Proofs.Client.Views
import RealtimeClient.Proofs.Socket.Requests

/-!
# Deeds

What a client does about its namespaces over time, whatever its transport: when a connection is asked
for and when it opens, which sockets the application is given, which packets are handed over to be sent
and on whose behalf, and which sockets are told of a refusal.  A packet counts as handed over whether or
not the transport is open then.

* `Deed` — one entry of a history.
* `Asked`, `Refused`, `Joined` — what has happened to a socket since its connection was dialed or opened.
* `requestDeeds`, `effectDeeds`, `routeDeeds` and so on — the deeds of each thing that the task does;
  `workDeeds`, `turnDeeds` — those of a piece of work and of a turn.
* `Stride`, `History` — the moves of all parties with their deeds, and runs of them; `History.run`,
  `exists_history` — the histories are those of all runs.
* `Follows` — what has to be known of a relation that is to hold of whole histories.  It is enough to look at
  single rounds, packets and commands: `Follows.handle`, `Follows.turn`, `Follows.stride`,
  **`Follows.history`**.
-/

namespace RealtimeClient

namespace Client

/-- **An entry of a history.** -/
inductive Deed
  /-- The transport is asked for a connection. -/
  | dialed
  /-- The connection has opened, and the sockets are about to be told so. -/
  | opened
  /-- The application is given a new socket. -/
  | joined (id : SocketId)
  /-- A packet is handed over to be sent, on behalf of a socket or of the engine. -/
  | handed (source : Option SocketId) (p : Packet)
  /-- A socket is told that its namespace is refused. -/
  | refused (id : SocketId)
  deriving DecidableEq

/-- **A socket has asked for its namespace** on the connection that was dialed last, and was not refused
since. -/
def Asked (history : List Deed) (id : SocketId) : Prop :=
  Since (fun x => x = .dialed ∨ x = .refused id)
    (fun x => ∃ p, x = .handed (some id) p ∧ p.isRequest = true) history

/-- **A socket was refused** since the connection opened. -/
def Refused (history : List Deed) (id : SocketId) : Prop :=
  Since (fun x => x = .opened) (fun x => x = .refused id) history

/-- **A socket was made for the application** since the connection opened. -/
def Joined (history : List Deed) (id : SocketId) : Prop :=
  Since (fun x => x = .opened) (fun x => x = .joined id) history

variable {τ : Type}

/-! ## Sockets -/

/-- Packets that are handed over on behalf of a socket. -/
def handed (id : SocketId) (ps : List Packet) : List Deed := ps.map (.handed (some id))

/-- A socket is told that the session is open. -/
def requestDeeds (c : Client τ) (id : SocketId) : List Deed :=
  match c.socket? id with
  | none => []
  | some s => handed id (s.requestOn c.engine.revision).2.outbound

/-- A socket leaves its namespace. -/
def leaveDeeds (c : Client τ) (id : SocketId) : List Deed :=
  match c.socket? id with
  | none => []
  | some s => handed id s.leave.2

/-- What is done with one socket after the other. -/
def eachDeeds (f : Client τ → SocketId → Client τ) (deeds : Client τ → SocketId → List Deed)
    (c : Client τ) : List SocketId → List Deed
  | [] => []
  | id :: rest => deeds c id ++ eachDeeds f deeds (f c id) rest

/-- An event is emitted. -/
def emitDeeds (c : Client τ) (ns name : String) (args : List Value) (reply : Option Label) :
    List Deed :=
  match c.registered? ns with
  | none => []
  | some id =>
    match c.socket? id with
    | none => []
    | some s => handed id (s.emit name args reply).2.toList

/-- A call: only a namespace that has no socket yet gives a new one. -/
def callDeeds (c : Client τ) : Call → List Deed
  | .join name =>
    match c.registered? (normalizeNamespace name) with
    | some _ => []
    | none => [.joined c.sockets.length]
  | _ => []

def callsDeeds (c : Client τ) : List Call → List Deed
  | [] => []
  | a :: rest => c.callDeeds a ++ (c.call a).callsDeeds rest

/-- A message for a namespace. -/
def routeDeeds (c : Client τ) (p : Packet) : List Deed :=
  match c.receiver? p with
  | none => []
  | some (id, s) =>
    (if p.kind = .connectError then [.refused id] else []) ++
      ((c.told id s p).callsDeeds (s.receive p).2.calls ++
        if (s.receive p).2.fails then [] else handed id (s.receive p).2.outbound)

section Transport

variable [Transport τ]

/-! ## Effects -/

/-- The session is open: every namespace is asked for. -/
def sweepDeeds (c : Client τ) : List Deed :=
  let c := if c.registry.contains defaultNamespace then c else c.addSocket defaultNamespace
  .opened :: eachDeeds requestSocket requestDeeds c c.socketIds

/-- **The deeds of an effect.** -/
def effectDeeds : Client τ × Engine.Effect → List Deed
  | (_, .openTransport ..) => [.dialed]
  | (_, .send p) => [.handed none p]
  | (c, .socketsOpen) => c.sweepDeeds
  | (c, .socketsClose) => eachDeeds leaveSocket leaveDeeds { c with registry := .nil } c.socketIds
  | _ => []

/-- The deeds of one input and all that follows. -/
def handleDeeds (c : Client τ) (i : Engine.Input) : List Deed :=
  (c.handleStages i).flatMap effectDeeds

/-! ## Turns -/

/-- The deeds of a command that is about a socket. -/
def commandDeeds (c : Client τ) : Command → List Deed
  | .emit ns name args reply => c.emitDeeds ns name args reply
  | .socketCreated ns =>
    if c.engine.state ≠ .opened then []
    else
      match c.registered? ns with
      | none => []
      | some id => c.requestDeeds id
  | .closeSocket ns =>
    match c.registered? ns with
    | none => []
    | some id => { c with registry := c.registry.erase ns }.leaveDeeds id
  | _ => []

/-- The deeds of a piece of work. -/
def workDeeds : Client τ × Work → List Deed
  | (c, .told i) => c.handleDeeds i
  | (c, .routed p) => c.routeDeeds p
  | (c, .ordered command) => c.commandDeeds command
  | _ => []

/-- **The deeds of a turn** if the task takes it. -/
def turnDeeds (c : Client τ) (t : Turn) : List Deed := (c.turnWork t).flatMap workDeeds

/-! ## Histories -/

/-- **A move** of any party, with its deeds. -/
inductive Stride : Client τ → List Deed → Client τ → Prop
  /-- The application makes a call, from any of its threads. -/
  | call (c : Client τ) (a : Call) : Stride c (c.callDeeds a) (c.call a)
  /-- The application registers a listener. -/
  | on (c : Client τ) (id : SocketId) (name : String) (listener : Listener) :
      Stride c [] (c.on id name listener)
  /-- The task takes a turn. -/
  | turn {c c' : Client τ} (t : Turn) (h : c.turn? t = some c') : Stride c (c.turnDeeds t) c'
  /-- The transport changes by itself, as it likes. -/
  | transport (c : Client τ) (transport : τ) : Stride c [] { c with transport }
  /-- Time passes. -/
  | elapse (c : Client τ) (time : Nat) : Stride c [] (c.elapseTo time)
  /-- While the task winds up, it learns that no event will come any more. -/
  | silence {c : Client τ} {deadline : Nat} (h : c.phase = .draining deadline) : Stride c [] c.finish

/-- **A run**, with its history. -/
inductive History (c₀ : Client τ) : List Deed → Client τ → Prop
  | nil : History c₀ [] c₀
  | stride {c c' : Client τ} {history deeds : List Deed} (h : History c₀ history c)
      (m : Stride c deeds c') : History c₀ (history ++ deeds) c'

variable {c c' c₀ : Client τ}

theorem Stride.move {deeds : List Deed} (h : Stride c deeds c') : ∃ marks, Move c marks c' := by
  cases h with
  | call a => exact ⟨_, .call c a⟩
  | on id name listener => exact ⟨_, .on c id name listener⟩
  | turn t ht => exact ⟨_, .turn t ht⟩
  | transport transport => exact ⟨_, .transport c transport⟩
  | elapse time => exact ⟨_, .elapse c time⟩
  | silence hphase => exact ⟨_, .silence hphase⟩

theorem Move.stride {marks : List Mark} (h : Move c marks c') : ∃ deeds, Stride c deeds c' := by
  cases h with
  | call a => exact ⟨_, .call c a⟩
  | on id name listener => exact ⟨_, .on c id name listener⟩
  | turn t ht => exact ⟨_, .turn t ht⟩
  | transport transport => exact ⟨_, .transport c transport⟩
  | elapse time => exact ⟨_, .elapse c time⟩
  | silence hphase => exact ⟨_, .silence hphase⟩

/-- Every history is that of a run. -/
theorem History.run {history : List Deed} (h : History c₀ history c) : ∃ trace, Run c₀ trace c := by
  induction h with
  | nil => exact ⟨[], .nil⟩
  | stride _ m ih =>
    obtain ⟨trace, hrun⟩ := ih
    obtain ⟨marks, hmove⟩ := m.move
    exact ⟨trace ++ marks, hrun.move hmove⟩

/-- **Every run has a history.** -/
theorem exists_history {trace : List Mark} (h : Run c₀ trace c) : ∃ history, History c₀ history c := by
  induction h with
  | nil => exact ⟨[], .nil⟩
  | move _ m ih =>
    obtain ⟨history, hhistory⟩ := ih
    obtain ⟨deeds, hstride⟩ := m.stride
    exact ⟨history ++ deeds, hhistory.stride hstride⟩

/-! ## Relations that follow the deeds -/

/-- **A relation that follows the deeds**, between two clients and what is done from one to the other. -/
structure Follows (R : Client τ → List Deed → Client τ → Prop) : Prop where
  /-- Only the engine, the sockets, the application's side, the phase and the journal are looked at. -/
  still : ∀ {c c' : Client τ}, Apart c c' → c'.engine = c.engine → c'.front = c.front →
    c'.phase = c.phase → c'.journal = c.journal → R c [] c'
  append : ∀ {c c' c'' : Client τ} {deeds more : List Deed}, R c deeds c' → R c' more c'' →
    R c (deeds ++ more) c''
  call : ∀ (c : Client τ) (a : Call), R c (c.callDeeds a) (c.call a)
  on : ∀ (c : Client τ) (id : SocketId) (name : String) (listener : Listener),
    R c [] (c.on id name listener)
  /-- The engine is told something. -/
  round : ∀ (c : Client τ) (i : Engine.Input), R c ((c.roundStages i).flatMap effectDeeds) (c.round i).1
  route : ∀ (c : Client τ) (p : Packet), R c (c.routeDeeds p) (c.route p)
  emit : ∀ (c : Client τ) (ns name : String) (args : List Value) (reply : Option Label),
    R c (c.emitDeeds ns name args reply) (c.emit ns name args reply)
  closeSocket : ∀ (c : Client τ) (ns : String), R c (c.commandDeeds (.closeSocket ns)) (c.closeSocket ns)
  /-- The command that came with a new socket is taken, and carried out. -/
  created : ∀ {c : Client τ} {ns : String} {rest : List Command}, c.commands = .socketCreated ns :: rest →
    R c (({ c with commands := rest } : Client τ).commandDeeds (.socketCreated ns))
      (({ c with commands := rest } : Client τ).socketCreated ns)
  /-- Any other command is taken. -/
  take : ∀ {c : Client τ} {command : Command} {rest : List Command}, c.commands = command :: rest →
    (∀ ns, command ≠ .socketCreated ns) → R c [] { c with commands := rest }
  drain : ∀ {c : Client τ} (deadline : Nat), c.phase = .running →
    R c [] { c with phase := .draining deadline }
  finish : ∀ c : Client τ, R c [] c.finish

namespace Follows

variable {R : Client τ → List Deed → Client τ → Prop} {c'' : Client τ} {deeds : List Deed}
  (h : Follows R)

include h

theorem after (hfirst : R c [] c') (hrest : R c' deeds c'') : R c deeds c'' := h.append hfirst hrest

theorem andThen (hfirst : R c deeds c') (hrest : R c' [] c'') : R c deeds c'' :=
  List.append_nil deeds ▸ h.append hfirst hrest

/-- **An input and all that follows from it.** -/
theorem handle (c : Client τ) (i : Engine.Input) : R c (c.handleDeeds i) (c.handle i) := by
  have hfeed : R c (c.handleDeeds i) (c.feed feedbackLimit [i]).1 :=
    feed_induction (R := fun c stages c' => R c (stages.flatMap effectDeeds) c')
      (fun c => h.still (.refl c) rfl rfl rfl rfl)
      (fun c c' c'' stages more hfirst hrest => by
        rw [List.flatMap_append]
        exact h.append hfirst hrest)
      (fun c normal => h.round c _) (h.round c i) 7
  exact h.andThen hfeed (h.still apart_publishStatus rfl rfl rfl rfl)

/-- What the engine is told, as a piece of work. -/
theorem told (c : Client τ) (i : Engine.Input) :
    R c ([(c, Work.told i)].flatMap workDeeds) (c.handle i) := by
  rw [List.flatMap_singleton]
  exact h.handle c i

/-- **It follows the work of turns**, by its deeds. -/
theorem turnWise : TurnWise (fun c works c' => R c (works.flatMap workDeeds) c') fun _ => True where
  append hfirst hrest := by
    rw [List.flatMap_append]
    exact h.append hfirst hrest
  counted c metrics _ _ := h.still ⟨rfl, rfl⟩ rfl rfl rfl rfl
  heard c i _ := h.told c i
  fed c id frame _ := h.still ⟨rfl, rfl⟩ rfl rfl rfl rfl
  routed c p := by
    rw [List.flatMap_singleton]
    exact h.route c p
  received _ := h.still ⟨rfl, rfl⟩ rfl rfl rfl rfl
  opened c := h.told c _
  lost c normal := by
    have hdetached : R c [] { c with current := none } := h.still ⟨rfl, rfl⟩ rfl rfl rfl rfl
    exact h.after hdetached (h.told _ _)
  fired c timers := h.still ⟨rfl, rfl⟩ rfl rfl rfl rfl
  taken hcom hinput := h.take hcom fun ns heq => by
    rw [heq] at hinput
    cases hinput
  told c i _ := h.told c i
  ordered {c command rest} hcom haside := by
    rw [List.flatMap_singleton]
    cases command with
    | emit ns name args reply => exact h.after (h.take hcom nofun) (h.emit _ ns name args reply)
    | socketCreated ns => exact h.created hcom
    | closeSocket ns => exact h.after (h.take hcom nofun) (h.closeSocket _ ns)
    | _ => cases haside
  drained deadline hphase := h.drain deadline hphase
  finished _ := h.finish _

/-- **A turn.** -/
theorem turn {t : Turn} (ht : c.turn? t = some c') : R c (c.turnDeeds t) c' :=
  h.turnWise.turn (fun _ _ => trivial) (fun _ _ _ _ _ => trivial) (taken_of_turn? ht)

/-- **A move.** -/
theorem stride (m : Stride c deeds c') : R c deeds c' := by
  cases m with
  | call a => exact h.call c a
  | on id name listener => exact h.on c id name listener
  | turn t ht => exact h.turn ht
  | transport transport => exact h.still ⟨rfl, rfl⟩ rfl rfl rfl rfl
  | elapse time =>
    have helapsed : R c [] { c with timers := c.timers.elapseTo time } :=
      h.still ⟨rfl, rfl⟩ rfl rfl rfl rfl
    rcases elapseTo_cases c time with heq | ⟨-, -, -, heq⟩ <;> rw [heq]
    · exact helapsed
    · exact h.after helapsed (h.finish _)
  | silence hphase => exact h.finish c

/-- **A history**, by induction on its moves. -/
theorem history {history : List Deed} (hh : History c₀ history c) : R c₀ history c := by
  induction hh with
  | nil => exact h.still (.refl c₀) rfl rfl rfl rfl
  | stride _ m ih => exact h.append ih (h.stride m)

end Follows

end Transport

end Client

end RealtimeClient
