import Mathlib
import RealtimeClient.Proofs.Client.Coupling
import RealtimeClient.Proofs.Client.Handover
import RealtimeClient.Proofs.Client.Lives

/-!
# What the task can rely on

Between two turns of the task the registry is in order, no namespace counts as confirmed unless the
session is open, and an open session has a connection that the transport has opened, whether or not
it still has it.

* `Blank` — a client without sockets, to which nothing has happened.
* `MemoryTransport.Truthful` — the transport reports a connection's opening after it.
* `Unconfirmed`, `unconfirmed_carryOutAll` — what the end of a session leaves.
* `Standing` — the invariant; `standing_round`, `standing_turn`, `Step.standing` — what keeps it;
  **`standing_of_run`** — it holds along every run.
-/

namespace RealtimeClient

/-! ## The transport -/

namespace MemoryTransport

theorem state_emit (t : MemoryTransport) (event : TransportEvent) :
    (t.emit event).state = t.state := by
  unfold emit
  split <;> rfl

theorem opening_of_act {t : MemoryTransport} {a : PeerAction} (h : (t.act a).state = .opening) :
    t.state = .opening := by
  have hfinish (normal : Bool) (h : (t.finish normal).state = .opening) : t.state = .opening := by
    unfold finish at h
    split_ifs at h with hs
    · exact h
    · rw [state_emit] at h
      cases h
  cases a with
  | accept =>
    simp only [act, accept] at h
    split_ifs at h with hs
    · exact hs
    · exact h
  | refuse => exact hfinish false h
  | drop => exact hfinish false h
  | close => exact hfinish true h
  | send frame =>
    simp only [act, send] at h
    split_ifs at h
    · rwa [state_emit] at h
    · exact h
  | respondHttp status headers => rwa [act, respondHttp, state_emit] at h

/-- **What the transport reports is so**: events name connections that were given, and a connection
that is still to be opened is not reported open. -/
structure Truthful (t : MemoryTransport) : Prop where
  event_lt : ∀ p ∈ t.events, p.1.number < t.nextNumber
  current_lt : ∀ id, t.current = some id → id.number < t.nextNumber
  unopened : t.state = .opening → ∀ id, t.current = some id → (id, .opened) ∉ t.events

namespace Truthful

variable {t : MemoryTransport}

theorem of_new : Truthful new.installSink where
  event_lt p hp := by cases hp
  current_lt id hid := by cases hid
  unopened hs := by cases hs

theorem emit (h : Truthful t) {event : TransportEvent}
    (hev : t.state = .opening → event ≠ .opened) : Truthful (t.emit event) := by
  unfold MemoryTransport.emit
  split
  · next id _ hid =>
    refine ⟨fun p hp => ?_, h.current_lt, fun hs key hkey hm => ?_⟩
    · rcases List.mem_append.1 hp with hp | hp
      · exact h.event_lt p hp
      · obtain rfl := List.mem_singleton.1 hp
        exact h.current_lt id hid
    · rcases List.mem_append.1 hm with hm | hm
      · exact h.unopened hs key hkey hm
      · exact hev hs (Prod.mk.inj (List.mem_singleton.1 hm)).2.symm
  · exact h

/-- Nothing is known of a connection before it is given. -/
theorem dial (h : Truthful t) (url : String) (headers : Headers) :
    Truthful (t.dial url headers).2 := by
  unfold MemoryTransport.dial
  split_ifs
  · exact h
  · exact h
  · refine ⟨fun p hp => Nat.lt_succ_of_lt (h.event_lt p hp), fun id hid => ?_, fun _ id hid hm => ?_⟩
    · cases hid
      exact Nat.lt_succ_self _
    · cases hid
      exact Nat.lt_irrefl _ (h.event_lt _ hm)

theorem closed (h : Truthful t) (reasons : List String) :
    Truthful { t with state := .closed, closeReasons := reasons } where
  event_lt := h.event_lt
  current_lt := h.current_lt
  unopened hs := by cases hs

theorem hangUp (h : Truthful t) (reason : String) : Truthful (t.hangUp reason).2 := by
  unfold MemoryTransport.hangUp
  split_ifs
  · exact h
  · exact (h.closed _).emit (by simp)

theorem act (h : Truthful t) (a : PeerAction) : Truthful (t.act a) := by
  have hfinish (normal : Bool) : Truthful (t.finish normal) := by
    unfold finish
    split_ifs
    · exact h
    · exact (h.closed t.closeReasons).emit (by simp)
  cases a with
  | accept =>
    simp only [MemoryTransport.act, accept]
    split_ifs
    · have hopened : Truthful { t with state := .opened } :=
        ⟨h.event_lt, h.current_lt, by simp⟩
      exact hopened.emit (by simp)
    · exact h
  | refuse => exact hfinish false
  | drop => exact hfinish false
  | close => exact hfinish true
  | send frame =>
    simp only [MemoryTransport.act, send]
    split_ifs
    · exact h.emit (by simp)
    · exact h
  | respondHttp status headers => exact h.emit (by simp)

theorem taken (h : Truthful t) {p : ConnectionId × TransportEvent}
    {rest : List (ConnectionId × TransportEvent)} (hev : t.events = p :: rest) :
    Truthful { t with events := rest } where
  event_lt q hq := h.event_lt q (hev ▸ List.mem_cons_of_mem _ hq)
  current_lt := h.current_lt
  unopened hs id hid hm := h.unopened hs id hid (hev ▸ List.mem_cons_of_mem _ hm)

end Truthful

end MemoryTransport

namespace Client

/-! ## Confirmed namespaces -/

section Confirmed

variable {τ : Type} {c c' : Client τ}

/-- **No namespace counts as confirmed.** -/
def Unconfirmed (c : Client τ) : Prop :=
  ∀ ns id s, c.registered? ns = some id → c.socket? id = some s → s.connected = false

theorem Unconfirmed.hold (h : Unconfirmed c) (hf : Filed c) (hh : Hold c c') : Unconfirmed c' := by
  intro ns id s' hns hs'
  rcases hh.entries ns id hns with hold | ⟨-, t, ht, -, hnew⟩
  · obtain ⟨s, hs, -⟩ := hf ns id hold
    obtain ⟨t, ht, -, hrel⟩ := hh.sockets id s hs
    obtain rfl : t = s' := Option.some.inj (ht.symm.trans hs')
    have hno : s.connected = false := h ns id s hold hs
    refine Bool.eq_false_iff.2 fun hc => ?_
    rw [(hrel ⟨ns, hns⟩).calm hc] at hno
    cases hno
  · obtain rfl : t = s' := Option.some.inj (ht.symm.trans hs')
    exact Bool.eq_false_iff.2 fun hc => nomatch hnew.calm hc

theorem unconfirmed_of_registry (h : c.registry = .nil) : Unconfirmed c := by
  intro ns id s hns _
  rw [registered?, h] at hns
  cases hns

theorem connected_disconnectAll (final : Bool) (ids : List SocketId) {id : SocketId} {s : Socket}
    (h : id ∈ ids ∨ ∀ s, c.socket? id = some s → s.connected = false)
    (hs : (ids.foldl (fun c id => c.modifySocket id (·.disconnect final)) c).socket? id = some s) :
    s.connected = false := by
  induction ids generalizing c with
  | nil => exact h.resolve_left List.not_mem_nil s hs
  | cons key rest ih =>
    refine ih ?_ hs
    by_cases hkey : key = id
    · refine .inr fun t ht => ?_
      rw [socket?_modifySocket, if_pos hkey] at ht
      obtain ⟨s, -, rfl⟩ := Option.map_eq_some_iff.1 ht
      rfl
    · refine (h.imp_left fun hm => (List.mem_cons.1 hm).resolve_left (Ne.symm hkey)).imp_right ?_
      intro h t ht
      rw [socket?_modifySocket, if_neg hkey] at ht
      exact h t ht

theorem registry_disconnectSockets (final : Bool) :
    (c.disconnectSockets final).registry = c.registry := by
  have hfold (ids : List SocketId) (c : Client τ) :
      (ids.foldl (fun c id => c.modifySocket id (·.disconnect final)) c).registry = c.registry := by
    induction ids generalizing c with
    | nil => rfl
    | cons key rest ih => exact ih _
  exact hfold _ c

theorem unconfirmed_disconnectSockets (final : Bool) : Unconfirmed (c.disconnectSockets final) := by
  intro ns id s hns hs
  rw [registered?, registry_disconnectSockets] at hns
  exact connected_disconnectAll final _ (.inl (mem_socketIds hns)) hs

variable [Transport τ]

theorem registry_closeSockets : c.closeSockets.registry = .nil := by
  have hfold (ids : List SocketId) (c : Client τ) :
      (ids.foldl leaveSocket c).registry = c.registry := by
    induction ids generalizing c with
    | nil => rfl
    | cons key rest ih => exact (ih _).trans (registry_leaveSocket key)
  exact hfold _ _

/-- **Once the sockets are told that the connection is gone, no namespace counts as confirmed.** -/
theorem unconfirmed_carryOut {f : Engine.Effect} (hf : f.endsSockets = true) :
    Unconfirmed (c.carryOut f).1 := by
  cases f with
  | socketsDisconnect final => exact unconfirmed_disconnectSockets (c := c) final
  | socketsClose => exact unconfirmed_of_registry registry_closeSockets
  | _ => cases hf

end Confirmed

variable {c c' : Client MemoryTransport}

/-- **What a list of effects leaves unconfirmed.**  If one of them ends the sockets, or no namespace was
confirmed, none is, unless the sockets are told that the connection is open. -/
theorem unconfirmed_carryOutAll {effects : List Engine.Effect} (hf : Filed c)
    (hopen : .socketsOpen ∉ effects)
    (h : Unconfirmed c ∨ ∃ f ∈ effects, f.endsSockets = true) :
    Unconfirmed (c.carryOutAll effects).1 := by
  -- once an effect has ended the sockets, those behind it only have to hold what they find
  induction effects generalizing c with
  | nil => exact h.resolve_right fun ⟨f, hf, _⟩ => by cases hf
  | cons f rest ih =>
    have hrest : .socketsOpen ∉ rest := fun hm => hopen (List.mem_cons_of_mem _ hm)
    have hfiled : Filed (c.carryOut f).1 := (lives_carryOut f).filed hf
    by_cases hends : f.endsSockets = true
    · exact ih hfiled hrest (.inl (unconfirmed_carryOut hends))
    · have hholds : f.holds = true := by
        cases f with
        | socketsOpen => exact absurd List.mem_cons_self hopen
        | socketsDisconnect final => exact absurd rfl hends
        | _ => rfl
      refine ih hfiled hrest (h.imp (fun hu => hu.hold hf (hold_carryOut hholds)) ?_)
      rintro ⟨g, hg, hgends⟩
      rcases List.mem_cons.1 hg with rfl | hg
      · exact absurd hgends hends
      · exact ⟨g, hg, hgends⟩

/-! ## The invariant -/

/-- **What the task can rely on** when it begins a turn. -/
structure Standing (c : Client MemoryTransport) : Prop where
  /-- The registry is in order. -/
  filed : Filed c
  /-- The transport's reports are true. -/
  truthful : c.transport.Truthful
  /-- The connection of an open session is not still to be opened. -/
  awake : c.engine.state = .opened → c.transport.state ≠ .opening
  /-- Only an open session has confirmed namespaces. -/
  unconfirmed : c.engine.state ≠ .opened → Unconfirmed c

/-- **A client without sockets to which nothing has happened.** -/
structure Blank (c : Client MemoryTransport) : Prop extends Initial c where
  sockets : c.sockets = []
  registry : c.registry = .nil

/-- A client that was just started is one. -/
theorem Blank.of_start {settings : Settings} {epoch : Nat}
    (h : start settings MemoryTransport.new.installSink epoch = .ok c) : Blank c := by
  refine { Initial.of_start h with sockets := ?_, registry := ?_ }
  all_goals
    rw [start] at h
    split at h
    · cases h
    · split at h <;> cases h
      rfl

theorem Blank.standing (h : Blank c) : Standing c where
  filed ns id hns := by
    rw [registered?, h.registry] at hns
    cases hns
  truthful := h.transport ▸ .of_new
  awake hs := by
    obtain ⟨revision, policy, he⟩ := h.engine
    rw [he] at hs
    cases hs
  unconfirmed _ := unconfirmed_of_registry h.registry

namespace Standing

/-- What leaves the connection alone keeps the invariant if it keeps the registry in order and
confirms no namespace. -/
theorem aside (h : Standing c) (ha : Aside c c') (hf : Filed c')
    (hu : c.engine.state ≠ .opened → Unconfirmed c') : Standing c' where
  filed := hf
  truthful := by
    rw [ha.transport]
    exact { h.truthful with }
  awake := by
    rw [ha.engine, ha.state]
    exact h.awake
  unconfirmed := by
    rw [ha.engine]
    exact hu

theorem hold (h : Standing c) (ha : Aside c c') (hh : Hold c c') : Standing c' :=
  h.aside ha (hh.filed h.filed) fun hs => (h.unconfirmed hs).hold h.filed hh

end Standing

/-! ## Rounds -/

theorem truthful_carryOut (h : c.transport.Truthful) (f : Engine.Effect) :
    (c.carryOut f).1.transport.Truthful := by
  cases hq : f.isQuiet with
  | true =>
    rw [(aside_carryOut hq).1.transport]
    exact { h with }
  | false =>
    cases f with
    | openTransport query headers =>
      simp only [carryOut, openTransport]
      split <;> exact h.dial _ _
    | closeTransport cause =>
      simp only [carryOut, closeTransport]
      split <;> exact h.hangUp _
    | _ => cases hq

theorem truthful_carryOutAll (h : c.transport.Truthful) (effects : List Engine.Effect) :
    (c.carryOutAll effects).1.transport.Truthful := by
  induction effects generalizing c with
  | nil => exact h
  | cons f rest ih => exact ih (truthful_carryOut h f)

theorem not_opening_carryOut {f : Engine.Effect} (h : c.transport.state ≠ .opening)
    (hf : ∀ query headers, f ≠ .openTransport query headers) :
    (c.carryOut f).1.transport.state ≠ .opening := by
  cases hq : f.isQuiet with
  | true => rwa [(aside_carryOut hq).1.state]
  | false =>
    cases f with
    | openTransport query headers => exact absurd rfl (hf query headers)
    | closeTransport cause =>
      have hhang : (Transport.hangUp c.transport cause.reason).2.state ≠ .opening := by
        simp only [Transport.hangUp, MemoryTransport.hangUp]
        split_ifs
        · exact h
        · rw [MemoryTransport.state_emit]
          simp
      simp only [carryOut, closeTransport]
      split <;> exact hhang
    | _ => cases hq

/-- Only a dialed connection is still to be opened. -/
theorem not_opening_carryOutAll {effects : List Engine.Effect} (h : c.transport.state ≠ .opening)
    (hno : ¬Engine.Opens effects) : (c.carryOutAll effects).1.transport.state ≠ .opening := by
  induction effects generalizing c with
  | nil => exact h
  | cons f rest ih =>
    refine ih (not_opening_carryOut h ?_) ?_
    · rintro query headers rfl
      exact hno ⟨query, headers, List.mem_cons_self⟩
    · rintro ⟨query, headers, hm⟩
      exact hno ⟨query, headers, List.mem_cons_of_mem _ hm⟩

/-- **A round keeps what the task relies on.** -/
theorem standing_round (h : Standing c) {i : Engine.Input}
    (hi : i = .transportOpened → c.transport.state ≠ .opening) : Standing (c.round i).1 where
  filed := (lives_carryOutAll _).filed (Apart.filed ⟨rfl, rfl⟩ h.filed)
  truthful := truthful_carryOutAll (c := { c with engine := (c.engine.handle i).1 }) h.truthful _
  awake := by
    intro hs
    rw [engine_round] at hs
    -- an open session has not just asked for a connection
    have hno : ¬Engine.Opens (c.engine.handle i).2 := fun ho => by
      rw [((Engine.opens_iff _ _).1 ho).opens.2] at hs
      cases hs
    refine not_opening_carryOutAll ?_ hno
    by_cases hold : c.engine.state = .opened
    · exact h.awake hold
    · exact hi ((Engine.enters_opened_iff hold i).1 hs).2
  unconfirmed := by
    intro hs
    rw [engine_round] at hs
    have hfiled : Filed { c with engine := (c.engine.handle i).1 } := Apart.filed ⟨rfl, rfl⟩ h.filed
    refine unconfirmed_carryOutAll hfiled (fun ho => ?_) ?_
    · obtain ⟨hopening, rfl⟩ := (Engine.socketsOpen_mem_iff i).1 ho
      exact hs (by simp [Engine.handle, Engine.transportOpened, hopening])
    · by_cases hold : c.engine.state = .opened
      · exact .inr (Engine.endsSockets_of_left hold hs)
      · exact .inl (h.unconfirmed hold)

theorem standing_handle (h : Standing c) {i : Engine.Input}
    (hi : i = .transportOpened → c.transport.state ≠ .opening) : Standing (c.handle i) := by
  have hfeed : Standing c → Standing (c.feed feedbackLimit [i]).1 :=
    feed_induction (R := fun c _ c' => Standing c → Standing c') (fun _ h => h)
      (fun _ _ _ _ _ hr hr' h => hr' (hr h)) (fun _ _ h => standing_round h (by simp))
      (fun h => standing_round h hi) 7
  exact { hfeed h with }

/-! ## Turns -/

/-- Packets are handed to sockets while the session is open. -/
theorem standing_route (h : Standing c) (p : Packet) : Standing (c.route p) := by
  by_cases hs : c.engine.state = .opened
  · exact h.aside (aside_route p) ((lives_route p).filed h.filed) fun hno => absurd hs hno
  · rw [route, if_pos hs]
    exact h

/-- Frames keep it, and so do the packets that they complete. -/
theorem frameWise_standing : FrameWise fun (c : Client MemoryTransport)
    (_ : List (Client MemoryTransport × Work)) c' => Standing c → Standing c' where
  append h h' hc := h' (h hc)
  counted c metrics _ _ h := { h with }
  heard c i hi h := standing_handle h fun heq => by
    rw [heq] at hi
    cases hi
  fed c id frame _ h := { h with }
  routed c p h := standing_route h p

/-- **An event keeps it.**  A connection that is reported open is not still to be opened. -/
theorem standing_receiveEvent (h : Standing c) (hc : Coupled c) {id : ConnectionId}
    {event : TransportEvent} {rest : List (ConnectionId × TransportEvent)}
    (hev : c.transport.events = (id, event) :: rest) :
    Standing (({ c with transport := { c.transport with events := rest } } :
      Client MemoryTransport).receiveEvent id event) := by
  have htaken : Standing { c with transport := { c.transport with events := rest } } :=
    { h with truthful := h.truthful.taken hev }
  have htruthful := h.truthful
  refine frameWise_standing.receiveEvent (fun hopened hid h => ?_) (fun normal _ _ h => ?_) htaken
  · refine standing_handle h fun _ hs => ?_
    exact htruthful.unopened hs id (hc.linked id hid) (hev ▸ hopened ▸ List.mem_cons_self)
  · have hdetached : Standing { c with
        transport := { c.transport with events := rest }, current := none } := { h with }
    exact standing_handle hdetached (by simp)

theorem transport_disconnectSockets (final : Bool) :
    (c.disconnectSockets final).transport = c.transport := by
  have hfold (ids : List SocketId) (c : Client MemoryTransport) :
      (ids.foldl (fun c id => c.modifySocket id (·.disconnect final)) c).transport = c.transport := by
    induction ids generalizing c with
    | nil => rfl
    | cons key rest ih => exact ih _
  exact hfold _ c

/-- At the end of the task the transport has no connection. -/
theorem transport_finish :
    c.finish.transport =
      if c.transport.state = .closed then c.transport
      else (c.transport.hangUp Cause.user.reason).2 := by
  have hsame := transport_disconnectSockets (c := { c with timers := c.timers.cancelAll }) true
  simp only [finish, Transport.state, Transport.hangUp, hsame]

theorem standing_finish (h : Standing c) : Standing c.finish where
  filed ns id hns := by cases hns
  truthful := by
    rw [transport_finish]
    split_ifs
    · exact h.truthful
    · exact h.truthful.hangUp _
  awake _ := by
    rw [transport_finish]
    split_ifs with hs
    · simp [hs]
    · rw [MemoryTransport.hangUp, if_neg hs, MemoryTransport.state_emit]
      simp
  unconfirmed := fun _ => unconfirmed_of_registry rfl

theorem standing_finishIfClosed (h : Standing c) : Standing c.finishIfClosed := by
  rw [finishIfClosed]
  split
  · exact standing_finish h
  · exact h

theorem standing_execute (h : Standing c) {command : Command}
    (hreq : ∀ i, command = .engine i → i.isRequest = true) : Standing (c.execute command) := by
  cases command with
  | engine i =>
    refine standing_handle h ?_
    rintro rfl
    cases hreq _ rfl
  | emit ns name args reply => exact h.hold (aside_emit ns name args reply) (hold_emit ns name args reply)
  | socketCreated ns =>
    show Standing (c.socketCreated ns)
    rw [socketCreated]
    split
    · exact h
    · next hs =>
      split
      · exact h
      · next id _ =>
        exact h.aside (aside_requestSocket id) ((lives_requestSocket id).filed h.filed)
          fun hno => absurd hno hs
  | closeSocket ns => exact h.hold (aside_closeSocket ns) (hold_closeSocket h.filed ns)
  | shutdown =>
    have hclose := standing_handle h (i := .close) (by simp)
    exact standing_finishIfClosed { hclose with }

/-- **A turn keeps what the task relies on.** -/
theorem standing_turn (h : Standing c) (hc : Coupled c) {t : Turn} (ht : c.turn? t = some c') :
    Standing c' := by
  cases taken_of_turn? ht with
  | @command command rest hphase hcom =>
    have hrest : Standing { c with commands := rest } := { h with }
    exact standing_execute hrest (hc.command_taken hcom).2
  | event hphase hreceive =>
    obtain ⟨rest, hev, rfl⟩ := receive?_eq_some hreceive
    exact standing_receiveEvent h hc hev
  | lateEvent hphase hreceive =>
    obtain ⟨rest, hev, rfl⟩ := receive?_eq_some hreceive
    exact standing_finishIfClosed (standing_receiveEvent h hc hev)
  | @timer k timers =>
    have htimers : Standing { c with timers } := { h with }
    exact standing_handle htimers (by simp)

/-! ## Runs -/

/-- **A step keeps what the task relies on**, whichever party takes it. -/
theorem Step.standing (hstep : Step c c') (h : Standing c) (hc : c.phase ≠ .ended → Coupled c) :
    Standing c' := by
  cases hstep with
  | call a => exact h.hold (aside_call a) (hold_call a)
  | on id name listener => exact h.hold (aside_modifySocket id _) (hold_on id name listener)
  | turn t ht => exact standing_turn h (hc (taken_of_turn? ht).not_ended) ht
  | peer a =>
    exact { h with
      truthful := h.truthful.act a
      awake := fun hs hopening => h.awake hs (MemoryTransport.opening_of_act hopening) }
  | take => exact { h with truthful := { h.truthful with } }
  | elapse time =>
    have htimers : Standing { c with timers := c.timers.elapseTo time } := { h with }
    rcases elapseTo_cases c time with heq | ⟨-, -, -, heq⟩ <;> rw [heq]
    · exact htimers
    · exact standing_finish htimers

/-- **What the task relies on holds along every run**: by induction on the run. -/
theorem standing_of_run {c₀ : Client MemoryTransport} (h₀ : Blank c₀)
    (h : Relation.ReflTransGen Step c₀ c) : Standing c ∧ Reachable c := by
  induction h with
  | refl => exact ⟨h₀.standing, .initial h₀.toInitial⟩
  | tail _ hstep ih => exact ⟨hstep.standing ih.1 ih.2.coupled, ih.2.step hstep⟩

end Client

end RealtimeClient
