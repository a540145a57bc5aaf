import Mathlib
import RealtimeClient.Proofs.Client.Deeds
import RealtimeClient.Proofs.Client.Front
import RealtimeClient.Proofs.Client.Queues

/-!
# What keeps the requests

Most of what happens to a client leaves it alone which of its sockets count as having asked for their
namespaces: no packet that asks is handed over, and no socket is told that the connection is gone.  A
socket comes in only if the application asks for one, and then a command is left to the task to ask for
its namespace.

* `Alive` — the task has neither ended nor failed, and still takes commands.
* `Deed.isPlain` — an entry by which nothing is asked for and nothing ends.
* `Keeps` — what is left of the requests, the commands and the registry.
* `keeps_call`, `keeps_emit`, `keeps_closeSocket`, `keeps_route` — single calls and turns;
  `keeps_carryOutAll` — effects that tell the sockets nothing.
-/

namespace RealtimeClient.Client

open Socket (Retains)

/-- Whether a namespace is asked for by an entry. -/
def Deed.asks : Deed → Bool
  | .handed _ p => p.isRequest
  | _ => false

/-- **Whether nothing is asked for by an entry**, and nothing begins or ends by it. -/
def Deed.isPlain : Deed → Bool
  | .joined _ => true
  | .handed _ p => !p.isRequest
  | .dialed | .opened | .refused _ => false

theorem Deed.asks_of_isPlain {x : Deed} (h : x.isPlain = true) : x.asks = false := by
  cases x <;> simp_all [isPlain, asks]

variable {τ : Type} {c c' c'' : Client τ} {deeds more : List Deed} {id : SocketId}

/-- **The task has neither ended nor failed.** -/
def Alive (c : Client τ) : Prop := c.phase = .running ∨ ∃ deadline, c.phase = .draining deadline

theorem Alive.of_phase (h : c.Alive) (hphase : c'.phase = c.phase) : c'.Alive := by
  rwa [Alive, hphase]

theorem Alive.commands_push (h : c.Alive) (command : Command) :
    (c.push command).commands = c.commands ++ [command] := by
  rw [push]
  rcases h with hphase | ⟨deadline, hphase⟩ <;> rw [hphase]

/-- **What keeps the requests.**  Sockets that count as having asked still do while they belong to the
client, nothing is asked for, no command is taken back, and for every socket that comes in there is a
command. -/
structure Keeps (c : Client τ) (deeds : List Deed) (c' : Client τ) : Prop where
  lives : Lives c c'
  retains : Evolves Retains c c'
  engine : c'.engine = c.engine
  phase : c'.phase = c.phase
  plain : ∀ x ∈ deeds, x.isPlain = true
  commands : ∀ command ∈ c.commands, command ∈ c'.commands
  entries : c.Alive → ∀ ns id, c'.registered? ns = some id →
    c.registered? ns = some id ∨ .joined id ∈ deeds ∧ .socketCreated ns ∈ c'.commands

namespace Keeps

/-- The application's side stays, and nothing comes in. -/
theorem of_front (lives : Lives c c') (retains : Evolves Retains c c') (core : c'.core = c.core)
    (front : c'.front = c.front)
    (entries : ∀ ns id, c'.registered? ns = some id → c.registered? ns = some id) : Keeps c [] c' where
  lives := lives
  retains := retains
  engine := congrArg Core.engine core
  phase := congrArg Core.phase core
  plain := List.forall_mem_nil _
  commands command hm := by
    have hcommands : c'.commands = c.commands := congrArg Front.commands front
    rwa [hcommands]
  entries _ ns id hns := .inl (entries ns id hns)

theorem of_apart (h : Apart c c') (core : c'.core = c.core) (front : c'.front = c.front) :
    Keeps c [] c' :=
  of_front (.of_apart h) (.of_apart Retains.refl h) core front fun ns _ hns =>
    (h.registered? ns).symm.trans hns

theorem refl (c : Client τ) : Keeps c [] c := of_apart (.refl c) rfl rfl

theorem trans (h : Keeps c deeds c') (h' : Keeps c' more c'') : Keeps c (deeds ++ more) c'' where
  lives := h.lives.trans h'.lives
  retains := h.retains.trans (fun _ _ _ => Retains.trans) h'.retains
  engine := h'.engine.trans h.engine
  phase := h'.phase.trans h.phase
  plain := List.forall_mem_append.2 ⟨h.plain, h'.plain⟩
  commands command hm := h'.commands command (h.commands command hm)
  entries halive ns id hns := by
    rcases h'.entries (halive.of_phase h.phase) ns id hns with hns | ⟨hjoined, hcommand⟩
    · rcases h.entries halive ns id hns with hns | ⟨hjoined, hcommand⟩
      · exact .inl hns
      · exact .inr ⟨List.mem_append_left _ hjoined, h'.commands _ hcommand⟩
    · exact .inr ⟨List.mem_append_right _ hjoined, hcommand⟩

/-- More entries by which nothing is asked for make no difference. -/
theorem of_plain (h : Keeps c deeds c') (hmore : ∀ x ∈ more, x.isPlain = true) :
    Keeps c (deeds ++ more) c' where
  lives := h.lives
  retains := h.retains
  engine := h.engine
  phase := h.phase
  plain := List.forall_mem_append.2 ⟨h.plain, hmore⟩
  commands := h.commands
  entries halive ns id hns :=
    (h.entries halive ns id hns).imp_right fun hnew => ⟨List.mem_append_left _ hnew.1, hnew.2⟩

end Keeps

theorem plain_handed {ps : List Packet} (h : ∀ p ∈ ps, p.isRequest = false) :
    ∀ x ∈ handed id ps, x.isPlain = true := by
  intro x hx
  obtain ⟨p, hp, rfl⟩ := List.mem_map.1 hx
  simp [Deed.isPlain, h p hp]

/-! ## Calls -/

/-- **Every new socket comes with a command.** -/
theorem keeps_joinSocket (name : String) : Keeps c (c.callDeeds (.join name)) (c.call (.join name)) where
  lives := lives_call _
  retains := evolves_call Socket.retains_respected _
  engine := congrArg Core.engine (core_call _)
  phase := congrArg Core.phase (core_call _)
  plain := by
    rw [callDeeds]
    split <;> simp [Deed.isPlain]
  commands _ hm := (adds_call _).mem hm
  entries halive ns id hns := by
    simp only [call, joinSocket, callDeeds] at hns ⊢
    cases hold : c.registered? (normalizeNamespace name) with
    | some key =>
      rw [hold] at hns
      exact .inl hns
    | none =>
      rw [hold] at hns
      have halive' : (c.addSocket (normalizeNamespace name)).Alive := halive.of_phase rfl
      dsimp only at hns ⊢
      rw [(apart_push _).registered?, registered?_addSocket] at hns
      rw [halive'.commands_push]
      split at hns
      · next h =>
        obtain rfl := Option.some.inj hns
        subst h
        exact .inr ⟨List.mem_singleton_self _, List.mem_append_right _ (List.mem_singleton_self _)⟩
      · exact .inl hns

/-- Any other call leaves the registry alone. -/
theorem registry_call {a : Call} (h : ∀ name, a ≠ .join name) : (c.call a).registry = c.registry := by
  cases a with
  | join name => exact absurd rfl (h name)
  | emit id name args reply => exact (apart_pushFor id fun ns => .emit ns name args reply).registry
  | leave id => exact (apart_pushFor id _).registry
  | off | offAll | onError | offError | setAuth | observe | ignoreSession | ignoreSockets => rfl
  | _ => exact (apart_push _).registry

theorem keeps_call (a : Call) : Keeps c (c.callDeeds a) (c.call a) := by
  by_cases h : ∃ name, a = .join name
  · obtain ⟨name, rfl⟩ := h
    exact keeps_joinSocket name
  · have hno (name : String) : a ≠ .join name := fun heq => h ⟨name, heq⟩
    have hdeeds : c.callDeeds a = [] := by
      cases a with
      | join name => exact absurd rfl (hno name)
      | _ => rfl
    rw [hdeeds]
    exact {
      lives := lives_call a
      retains := evolves_call Socket.retains_respected a
      engine := congrArg Core.engine (core_call a)
      phase := congrArg Core.phase (core_call a)
      plain := List.forall_mem_nil _
      commands := fun _ hm => (adds_call a).mem hm
      entries := fun _ ns _ hns => .inl (by rwa [registered?, registry_call hno] at hns) }

theorem keeps_callAll (calls : List Call) : Keeps c (c.callsDeeds calls) (c.callAll calls) := by
  induction calls generalizing c with
  | nil => exact .refl c
  | cons a rest ih => exact (keeps_call a).trans ih

theorem keeps_on (id : SocketId) (name : String) (listener : Listener) :
    Keeps c [] (c.on id name listener) where
  lives := lives_on id name listener
  retains := evolves_on Socket.retains_respected id name listener
  engine := rfl
  phase := rfl
  plain := List.forall_mem_nil _
  commands _ hm := hm
  entries _ _ _ hns := .inl hns

theorem plain_leaveDeeds (c : Client τ) (id : SocketId) : ∀ x ∈ c.leaveDeeds id, x.isPlain = true := by
  rw [leaveDeeds]
  split
  · exact List.forall_mem_nil _
  · next s _ => exact plain_handed s.isRequest_leave

theorem plain_emitDeeds (c : Client τ) (ns name : String) (args : List Value) (reply : Option Label) :
    ∀ x ∈ c.emitDeeds ns name args reply, x.isPlain = true := by
  rw [emitDeeds]
  split
  · exact List.forall_mem_nil _
  · split
    · exact List.forall_mem_nil _
    · next s _ =>
      exact plain_handed fun p hp => s.isRequest_emit name args reply p (Option.mem_toList.1 hp)

theorem forall_mem_eachDeeds {q : Deed → Prop} {f : Client τ → SocketId → Client τ}
    {deedsOf : Client τ → SocketId → List Deed} (h : ∀ c id, ∀ x ∈ deedsOf c id, q x) (c : Client τ)
    (ids : List SocketId) : ∀ x ∈ eachDeeds f deedsOf c ids, q x := by
  induction ids generalizing c with
  | nil => exact List.forall_mem_nil _
  | cons id rest ih => exact List.forall_mem_append.2 ⟨h c id, ih (f c id)⟩

/-- A socket gets a packet that neither refuses nor closes its namespace. -/
theorem keeps_told {s : Socket} {p : Packet} (hs : c.socket? id = some s) (hd : p.kind ≠ .disconnect)
    (hr : p.kind ≠ .connectError) : Keeps c [] (c.told id s p) := by
  have hapart := apart_told (c := c) id s p
  refine .of_front ((lives_step hs (.receive p)).apart hapart) ?_ (core_told id s p)
    (front_told id s p) fun ns _ hns => (hapart.registered? ns).symm.trans hns
  exact (evolves_step Retains.refl hs (.receive p) fun _ => s.retains_receive hd hr).apart hapart

section Transport

variable [Transport τ]

/-! ## Turns -/

theorem registry_emit (ns name : String) (args : List Value) (reply : Option Label) :
    (c.emit ns name args reply).registry = c.registry := by
  rw [emit]
  split
  · rfl
  · split
    · rfl
    · exact ((apart_sendAll _).trans apart_updateAckGauge).registry

theorem keeps_emit (ns name : String) (args : List Value) (reply : Option Label) :
    Keeps c (c.emitDeeds ns name args reply) (c.emit ns name args reply) := by
  have hkeeps : Keeps c [] (c.emit ns name args reply) :=
    .of_front (lives_emit ns name args reply)
      (evolves_emit Retains.refl ns fun s => s.retains_emit name args reply)
      (core_emit ns name args reply) (front_emit ns name args reply)
      fun key _ hkey => by rwa [registered?, registry_emit] at hkey
  exact hkeeps.of_plain (c.plain_emitDeeds ns name args reply)

/-- A socket that is closed leaves the registry. -/
theorem registered?_closeSocket (ns key : String) :
    (c.closeSocket ns).registered? key = if key = ns then none else c.registered? key := by
  rw [closeSocket]
  split
  · next hnone =>
    split
    · next heq => rw [heq, hnone]
    · rfl
  · rw [apart_updateAckGauge.registered?, registered?, registry_leaveSocket, ← registered?,
      registered?_erase]

theorem keeps_closeSocket (hf : Filed c) (ns : String) :
    Keeps c (c.commandDeeds (.closeSocket ns)) (c.closeSocket ns) := by
  have hkeeps : Keeps c [] (c.closeSocket ns) :=
    .of_front (lives_closeSocket ns) (evolves_closeSocket Socket.retains_respected hf ns)
      (core_closeSocket ns) (front_closeSocket ns) fun key id hkey => by
        rw [registered?_closeSocket] at hkey
        split at hkey
        · cases hkey
        · exact hkey
  have hplain : ∀ x ∈ c.commandDeeds (.closeSocket ns), x.isPlain = true := by
    unfold commandDeeds
    dsimp only
    split
    · exact List.forall_mem_nil _
    · exact plain_leaveDeeds _ _
  exact hkeeps.of_plain hplain

/-- A packet that closes its namespace: the socket leaves the registry. -/
theorem keeps_route_disconnect (hf : Filed c) {s : Socket} {p : Packet}
    (hr : c.receiver? p = some (id, s)) (hd : p.kind = .disconnect) : Keeps c [] (c.route p) := by
  have hreceive : s.receive p = (s.reset true, { lifecycle := some .disconnected }) := by
    simp only [Socket.receive, hd]
  have hroute : c.route p =
      ((c.told id s p).dispatch p.ns { lifecycle := some .disconnected }).updateAckGauge := by
    rw [route_of_some hr, received, hreceive]
    rfl
  refine .of_front (lives_route p)
    (evolves_route Socket.retains_respected hf fun hno => absurd hd hno) ?_ ?_ fun ns id hns => ?_
  · rw [hroute]
    exact (core_dispatch _ _).trans (core_told id s p)
  · rw [hroute]
    exact (front_dispatch _ _).trans (front_told id s p)
  · rw [hroute, apart_updateAckGauge.registered?] at hns
    exact ((apart_told _ s p).registered? ns).symm.trans ((shrinks_dispatch _).entries ns id hns)

/-- **A packet that does not refuse its namespace.**  If its listener fails, so does the task. -/
theorem keeps_route (hf : Filed c) {p : Packet} (hr : p.kind ≠ .connectError)
    (ho : ∀ id s, c.receiver? p = some (id, s) → s.Orderly) :
    ∃ c', Keeps c (c.routeDeeds p) c' ∧
      (c.route p = c' ∨ c.route p = { c' with phase := .failed, commands := [] }) := by
  cases hreceiver : c.receiver? p with
  | none =>
    refine ⟨c, ?_, .inl (route_of_none hreceiver)⟩
    rw [routeDeeds, hreceiver]
    exact .refl c
  | some receiver =>
    obtain ⟨id, s⟩ := receiver
    obtain ⟨-, hns, hs⟩ := receiver?_eq_some.1 hreceiver
    have hplain : ∀ x ∈ handed id (s.receive p).2.outbound, x.isPlain = true :=
      plain_handed (s.isRequest_receive (ho id s hreceiver) p)
    have hdeeds : c.routeDeeds p = (c.told id s p).callsDeeds (s.receive p).2.calls ++
        if (s.receive p).2.fails then [] else handed id (s.receive p).2.outbound := by
      rw [routeDeeds, hreceiver]
      dsimp only
      rw [if_neg hr, List.nil_append]
    rw [hdeeds]
    by_cases hd : p.kind = .disconnect
    · refine ⟨_, ?_, .inl rfl⟩
      simpa [Socket.receive, hd, callsDeeds, handed] using keeps_route_disconnect hf hreceiver hd
    · have hreceived : Keeps c _ (c.received id s p) :=
        (keeps_told hs hd hr).trans (keeps_callAll (s.receive p).2.calls)
      rw [route_of_some hreceiver]
      split
      · exact ⟨_, hreceived.of_plain (List.forall_mem_nil _), .inr rfl⟩
      · have hdispatch : Keeps (c.received id s p) []
            ((c.received id s p).dispatch p.ns (s.receive p).2).updateAckGauge :=
          .of_apart ((apart_dispatch _ (Socket.receive_lifecycle s hd)).trans apart_updateAckGauge)
            (core_dispatch _ _) (front_dispatch _ _)
        have hboth := hreceived.trans hdispatch
        rw [List.append_nil] at hboth
        exact ⟨_, hboth.of_plain hplain, .inl rfl⟩

/-! ## Effects -/

/-- An effect that tells the sockets nothing leaves them alone. -/
theorem apart_carryOut {f : Engine.Effect} (hends : f.endsSockets = false) (hopens : f ≠ .socketsOpen) :
    Apart c (c.carryOut f).1 := by
  cases f with
  | openTransport query headers => exact apart_openTransport query headers
  | closeTransport cause => exact apart_closeTransport cause
  | send p => exact apart_send p
  | arm | cancel | resetCodec => exact ⟨rfl, rfl⟩
  | socketsOpen => exact absurd rfl hopens
  | socketsDisconnect | socketsClose => cases hends
  | notify event => exact apart_notify event

/-- By an effect that neither opens the sockets nor sends a message nothing is asked for. -/
theorem asks_effectDeeds {f : Engine.Effect} (hplain : f.isPlain = true) (c : Client τ) :
    ∀ x ∈ effectDeeds (c, f), x.asks = false := by
  cases f with
  | socketsOpen => cases hplain
  | openTransport query headers => simp [effectDeeds, Deed.asks]
  | send p =>
    have hframe : p.frame ≠ .message := by simpa [Engine.Effect.isPlain] using hplain
    simp [effectDeeds, Deed.asks, Packet.isRequest, hframe]
  | socketsClose =>
    exact forall_mem_eachDeeds (fun c id x hx => Deed.asks_of_isPlain (plain_leaveDeeds c id x hx)) _ _
  | _ => exact List.forall_mem_nil _

theorem keeps_carryOut {f : Engine.Effect} (hcalm : f.isCalm = true) (hplain : f.isPlain = true) :
    Keeps c (effectDeeds (c, f)) (c.carryOut f).1 := by
  have hapart : Apart c (c.carryOut f).1 :=
    apart_carryOut (by cases f <;> first | rfl | cases hcalm) (by rintro rfl; cases hcalm)
  have hkeeps : Keeps c [] (c.carryOut f).1 := {
    lives := .of_apart hapart
    retains := .of_apart Retains.refl hapart
    engine := engine_carryOut f
    phase := phase_carryOut f
    plain := List.forall_mem_nil _
    commands := fun _ hm => (Adds.of_front (front_carryOut f)).mem hm
    entries := fun _ ns _ hns => .inl ((hapart.registered? ns).symm.trans hns) }
  have hdeeds : ∀ x ∈ effectDeeds (c, f), x.isPlain = true := by
    intro x hx
    have hasks := asks_effectDeeds hplain c x hx
    cases f with
    | openTransport | socketsOpen | socketsDisconnect | socketsClose => cases hcalm
    | send p =>
      obtain rfl := List.mem_singleton.1 hx
      simpa [Deed.isPlain, Deed.asks] using hasks
    | _ => cases hx
  exact hkeeps.of_plain hdeeds

/-- **Effects that tell the sockets nothing**, one after the other. -/
theorem keeps_carryOutAll {effects : List Engine.Effect} (hcalm : ∀ f ∈ effects, f.isCalm = true)
    (hplain : ∀ f ∈ effects, f.isPlain = true) :
    Keeps c ((c.stages effects).flatMap effectDeeds) (c.carryOutAll effects).1 := by
  induction effects generalizing c with
  | nil => exact .refl c
  | cons f rest ih =>
    have hfirst := keeps_carryOut (c := c) (hcalm f List.mem_cons_self) (hplain f List.mem_cons_self)
    exact hfirst.trans (ih (fun g hg => hcalm g (List.mem_cons_of_mem f hg))
      fun g hg => hplain g (List.mem_cons_of_mem f hg))

end Transport

end RealtimeClient.Client
