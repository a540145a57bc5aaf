import Mathlib
import RealtimeClient.Proofs.Client.Changes
import RealtimeClient.Proofs.Client.Talk

/-!
# Counting the callbacks that wait

How many callbacks wait for a reply is the sum over the sockets of the client.  The sum changes when an
event is emitted, when a reply comes, and when sockets lose their session for good or leave.  A gauge
shows it, and is set by hand at the end of what may change it.

* `pendingAcks_eq_sum` — the sum.
* `Tallied` — a change of neither the sum nor the gauge; `tallied_call`, `tallied_openSockets` and so on.
* `Unasked` — clients on which no callback waits; `Socket.Unwaiting`, `Evolves.unasked` — what keeps
  them so.
* `Reckons` — a change that keeps the gauge right, and asks for no reply; **`reckons_carryOut`**,
  **`reckons_receiveEvent`** — what the task does on its own.
-/

namespace RealtimeClient

namespace Client

variable {τ : Type} {c c' c'' : Client τ} {id : SocketId}

/-! ## The sum -/

/-- The callbacks that wait on one socket. -/
def acksOf (c : Client τ) (id : SocketId) : Nat := ((c.socket? id).map Socket.pendingAcks).getD 0

theorem pendingAcks_eq_sum (c : Client τ) : c.pendingAcks = (c.socketIds.map c.acksOf).sum := by
  rw [pendingAcks, List.sum_eq_foldl, List.foldl_map]
  rfl

/-- **A change of neither the sum nor the gauge.** -/
structure Tallied (c c' : Client τ) : Prop where
  acks : c'.pendingAcks = c.pendingAcks
  gauge : c'.metrics.acksPending = c.metrics.acksPending

namespace Tallied

@[refl] theorem refl (c : Client τ) : Tallied c c := ⟨rfl, rfl⟩

theorem trans (h : Tallied c c') (h' : Tallied c' c'') : Tallied c c'' :=
  ⟨h'.acks.trans h.acks, h'.gauge.trans h.gauge⟩

theorem foldl {α : Type} {f : Client τ → α → Client τ} (hf : ∀ c a, Tallied c (f c a)) (l : List α)
    (c : Client τ) : Tallied c (l.foldl f c) := by
  induction l generalizing c with
  | nil => exact refl c
  | cons a rest ih => exact (hf c a).trans (ih _)

theorem of_apart (h : Apart c c') (hgauge : c'.metrics.acksPending = c.metrics.acksPending) :
    Tallied c c' where
  acks := by
    have hids : c'.socketIds = c.socketIds := congrArg Dict.From.values h.registry
    rw [pendingAcks, pendingAcks, hids]
    simp only [h.socket?]
  gauge := hgauge

end Tallied

/-! ## Reports and calls -/

theorem tallied_notify (event : SessionEvent) : Tallied c (c.notify event) := by
  refine .of_apart (apart_notify event) ?_
  unfold notify
  dsimp only
  split <;> split <;> rfl

theorem tallied_notifySocketOpen (ns : String) : Tallied c (c.notifySocketOpen ns) := by
  rw [notifySocketOpen]
  split <;> exact ⟨rfl, rfl⟩

theorem tallied_push (command : Command) : Tallied c (c.push command) := by
  refine .of_apart (apart_push command) ?_
  rw [push]
  split <;> rfl

theorem tallied_pushFor (id : SocketId) (command : String → Command) :
    Tallied c (c.pushFor id command) := by
  rw [pushFor]
  split
  · exact tallied_push _
  · rfl

/-- A socket is changed, and as many callbacks wait on it as before. -/
theorem tallied_modifySocket (id : SocketId) {f : Socket → Socket}
    (hf : ∀ s, c.socket? id = some s → (f s).pendingAcks = s.pendingAcks) :
    Tallied c (c.modifySocket id f) where
  acks := by
    have hacks (key : SocketId) : (c.modifySocket id f).acksOf key = c.acksOf key := by
      rw [acksOf, acksOf, socket?_modifySocket]
      split
      · next hkey =>
        subst hkey
        cases hs : c.socket? id with
        | none => rfl
        | some s => exact hf s hs
      · rfl
    rw [pendingAcks_eq_sum, pendingAcks_eq_sum, funext hacks]
    rfl
  gauge := rfl

/-- On a new socket no callback waits. -/
theorem tallied_addSocket {ns : String} (hns : c.registered? ns = none) : Tallied c (c.addSocket ns) where
  acks := by
    have hacks (key : SocketId) : (c.addSocket ns).acksOf key = c.acksOf key := by
      rw [acksOf, acksOf]
      cases hs : c.socket? key with
      | some s => rw [socket?_addSocket ns hs]
      | none =>
        by_cases hkey : key = c.sockets.length
        · rw [hkey, socket?_addSocket_length]
          rfl
        · have hle : c.sockets.length ≤ key := by simpa [socket?] using hs
          have hnone : (c.addSocket ns).socket? key = none := by
            have hlt : c.sockets.length < key := Nat.lt_of_le_of_ne hle (Ne.symm hkey)
            simpa [socket?, addSocket] using hlt
          rw [hnone]
    have hnew : c.acksOf c.sockets.length = 0 := by rw [acksOf, socket?_length]; rfl
    have hids : (c.addSocket ns).socketIds.Perm (c.sockets.length :: c.socketIds) :=
      Dict.From.values_insert_perm _ _ c.registry hns
    rw [pendingAcks_eq_sum, pendingAcks_eq_sum, funext hacks, (hids.map c.acksOf).sum_eq, List.map_cons,
      List.sum_cons, hnew, Nat.zero_add]
  gauge := rfl

theorem tallied_joinSocket (name : String) : Tallied c (c.joinSocket name).2 := by
  unfold joinSocket
  dsimp only
  split
  · rfl
  · next hns => exact (tallied_addSocket hns).trans (tallied_push _)

/-- **No call of the application asks for a reply at once.** -/
theorem tallied_call (a : Call) : Tallied c (c.call a) := by
  cases a with
  | join ns => exact tallied_joinSocket ns
  | emit id name args reply => exact tallied_pushFor id fun ns => .emit ns name args reply
  | leave id => exact tallied_pushFor id _
  | off | offAll | onError | offError | setAuth => exact tallied_modifySocket _ fun _ _ => rfl
  | observe | ignoreSession | ignoreSockets => exact ⟨rfl, rfl⟩
  | _ => exact tallied_push _

theorem tallied_callAll (calls : List Call) : Tallied c (c.callAll calls) :=
  Tallied.foldl (fun _ a => tallied_call a) calls c

theorem tallied_on (id : SocketId) (name : String) (listener : Listener) :
    Tallied c (c.on id name listener) :=
  tallied_modifySocket id fun _ _ => rfl

section Transport

variable [Transport τ]

/-! ## Sending and asking for namespaces -/

theorem tallied_send (p : Packet) : Tallied c (c.send p) := by
  refine .of_apart (apart_send p) ?_
  rw [send]
  split
  · rw [writeFrames_eq]
  · rfl

theorem tallied_sendAll (ps : List Packet) : Tallied c (c.sendAll ps) :=
  Tallied.foldl (fun _ p => tallied_send p) ps c

theorem tallied_dispatch (ns : String) {o : Socket.Outcome} (ho : o.lifecycle ≠ some .disconnected) :
    Tallied c (c.dispatch ns o) := by
  unfold dispatch
  refine (tallied_sendAll o.outbound).trans ?_
  dsimp only
  split
  · rfl
  · exact tallied_notifySocketOpen ns
  · next h => exact absurd h ho

theorem tallied_requestSocket (id : SocketId) : Tallied c (c.requestSocket id) := by
  rw [requestSocket]
  split
  · rfl
  · next s hs =>
    have hrequested : (s.requestOn c.engine.revision).1.pendingAcks = s.pendingAcks := by
      rw [Socket.requestOn]
      split
      · rfl
      · split <;> rfl
    have hmodified := tallied_modifySocket (c := c) id
      (f := fun _ => (s.requestOn c.engine.revision).1) fun s' hs' => by
        cases hs.symm.trans hs'
        exact hrequested
    exact hmodified.trans (tallied_dispatch _ (Socket.requestOn_lifecycle s _))

theorem tallied_openSockets : Tallied c c.openSockets := by
  unfold openSockets
  dsimp only
  split
  · exact Tallied.foldl (fun _ id => tallied_requestSocket id) _ c
  · next hno =>
    have hns : c.registered? defaultNamespace = none := by
      simpa [registered?, Dict.From.contains] using hno
    exact (tallied_addSocket hns).trans (Tallied.foldl (fun _ id => tallied_requestSocket id) _ _)

end Transport

end Client

/-! ## Where no callback waits -/

namespace Socket

/-- **Nobody begins to wait on a socket** on which nobody waits. -/
def Unwaiting (s s' : Socket) : Prop := s.waiting = [] → s'.waiting = []

theorem unwaiting_reset (s : Socket) (final : Bool) : s.Unwaiting (s.reset final) := by
  intro h
  cases final
  · exact h
  · rfl

/-- **No packet makes anybody wait.** -/
theorem unwaiting_receive (s : Socket) (p : Packet) : s.Unwaiting (s.receive p).1 := by
  intro h
  cases hk : p.kind with
  | connect => simpa [receive, hk, confirm] using h
  | disconnect => simp [receive, hk, reset]
  | event | binaryEvent => simpa [receive, hk] using h
  | ack | binaryAck =>
    simp only [receive, hk, receiveAck]
    split
    · exact h
    · split
      · exact h
      · simp [h]
  | connectError => simpa [receive, hk, receiveRefusal] using s.unwaiting_reset false h

theorem unwaiting_requestOn (s : Socket) (revision : Revision) :
    s.Unwaiting (s.requestOn revision).1 := by
  intro h
  rw [requestOn]
  split
  · exact h
  · split <;> exact h

theorem unwaiting_respected : Respected Unwaiting where
  refl _ := id
  trans _ _ _ h h' := h' ∘ h
  edit s op hop h := by
    cases op <;> first | exact h | cases hop

/-- If a listener fails, nothing has become of the socket. -/
theorem receive_of_fails {s : Socket} {p : Packet} (h : (s.receive p).2.fails = true) :
    (s.receive p).1 = s := by
  cases hk : p.kind with
  | event | binaryEvent => simp [receive, hk]
  | connect => simp [receive, hk, confirm] at h
  | disconnect => simp [receive, hk] at h
  | connectError => simp [receive, hk, receiveRefusal] at h
  | ack | binaryAck =>
    simp only [receive, hk, receiveAck] at h ⊢
    split at h
    · rfl
    · split at h <;> cases h

end Socket

namespace Client

open Socket (Unwaiting unwaiting_respected)

variable {τ : Type} {c c' c'' : Client τ} {id : SocketId}

/-- **No callback waits** on any socket of the client. -/
def Unasked (c : Client τ) : Prop :=
  ∀ ns id s, c.registered? ns = some id → c.socket? id = some s → s.waiting = []

theorem Evolves.unasked (h : Evolves Unwaiting c c') (hf : Filed c) (hc : Unasked c) : Unasked c' := by
  intro ns id s' hns hs'
  rcases h.entries ns id hns with hold | ⟨-, s'', hs'', -, hnew⟩
  · obtain ⟨s, hs, -⟩ := hf ns id hold
    obtain ⟨s'', hs'', -, hkeeps⟩ := h.sockets id s hs
    cases hs'.symm.trans hs''
    exact hkeeps ⟨ns, hns⟩ (hc ns id s hold hs)
  · cases hs'.symm.trans hs''
    exact hnew rfl

theorem Unasked.pendingAcks_eq_zero (h : Unasked c) : c.pendingAcks = 0 := by
  rw [pendingAcks_eq_sum, List.sum_eq_zero_iff]
  intro n hn
  obtain ⟨id, hid, rfl⟩ := List.mem_map.1 hn
  obtain ⟨ns, hns⟩ := Dict.From.exists_get?_of_mem_values c.registry hid
  rw [acksOf]
  cases hs : c.socket? id with
  | none => rfl
  | some s => simp [Socket.pendingAcks, h ns id s hns hs]

/-! ## Keeping the gauge right -/

/-- **The gauge is right**: it shows how many callbacks wait, and nothing while none has. -/
def Reckoned (c : Client τ) : Prop := c.metrics.acksPending.getD 0 = c.pendingAcks

/-- The gauge has just been set. -/
theorem reckoned_updateAckGauge : Reckoned c.updateAckGauge := rfl

theorem Tallied.reckoned (h : Tallied c c') (hc : Reckoned c) : Reckoned c' := by
  rw [Reckoned, h.gauge, h.acks]
  exact hc

/-- **What keeps the gauge right and asks for no reply.** -/
structure Reckons (c c' : Client τ) : Prop where
  right : Reckoned c → Reckoned c'
  quiet : Filed c → Evolves Unwaiting c c'

namespace Reckons

theorem trans (h : Reckons c c') (h' : Reckons c' c'') : Reckons c c'' where
  right hc := h'.right (h.right hc)
  quiet hf := (h.quiet hf).trans unwaiting_respected.trans (h'.quiet ((h.quiet hf).filed hf))

theorem of_apart (h : Apart c c') (hgauge : c'.metrics.acksPending = c.metrics.acksPending) :
    Reckons c c' where
  right := (Tallied.of_apart h hgauge).reckoned
  quiet _ := .of_apart unwaiting_respected.refl h

theorem refl (c : Client τ) : Reckons c c := of_apart (.refl c) rfl

/-- The gauge is set at the end. -/
theorem of_refresh (h : Filed c → Evolves Unwaiting c c') : Reckons c c'.updateAckGauge where
  right _ := reckoned_updateAckGauge
  quiet hf := (h hf).apart apart_updateAckGauge

end Reckons

theorem reckons_call (a : Call) : Reckons c (c.call a) where
  right := (tallied_call a).reckoned
  quiet _ := evolves_call unwaiting_respected a

theorem reckons_on (id : SocketId) (name : String) (listener : Listener) :
    Reckons c (c.on id name listener) where
  right := (tallied_on id name listener).reckoned
  quiet _ := evolves_on unwaiting_respected id name listener

theorem evolves_disconnectSockets (final : Bool) : Evolves Unwaiting c (c.disconnectSockets final) :=
  Evolves.foldl unwaiting_respected.refl unwaiting_respected.trans
    (fun _ id => evolves_modifySocket unwaiting_respected.refl id (f := (·.disconnect final))
      fun s _ => ⟨rfl, fun _ => s.unwaiting_reset final⟩) _ c

section Transport

variable [Transport τ]

theorem reckons_openSockets : Reckons c c.openSockets where
  right := tallied_openSockets.reckoned
  quiet _ := by
    have hfold (c : Client τ) : Evolves Unwaiting c (c.socketIds.foldl requestSocket c) :=
      Evolves.foldl unwaiting_respected.refl unwaiting_respected.trans
        (fun c id => evolves_requestSocket unwaiting_respected.refl
          fun s => s.unwaiting_requestOn c.engine.revision) _ c
    unfold openSockets
    dsimp only
    split
    · exact hfold c
    · exact (evolves_addSocket unwaiting_respected.refl _).trans unwaiting_respected.trans (hfold _)

theorem evolves_closeSockets : Evolves Unwaiting c c.closeSockets := by
  have hleave (c : Client τ) (id : SocketId) : Evolves Unwaiting c (c.leaveSocket id) := by
    rw [leaveSocket]
    split
    · exact .of_apart unwaiting_respected.refl (.refl c)
    · next s hs =>
      exact (evolves_step unwaiting_respected.refl hs .leave fun _ => s.unwaiting_reset true).apart
        ((apart_sendAll _).trans (apart_notifySocketClose _))
  exact (evolves_clear unwaiting_respected.refl).trans unwaiting_respected.trans
    (Evolves.foldl unwaiting_respected.refl unwaiting_respected.trans hleave _ _)

/-- **What the engine asks for.** -/
theorem reckons_carryOut (f : Engine.Effect) : Reckons c (c.carryOut f).1 := by
  cases f with
  | openTransport query headers =>
    refine .of_apart (apart_openTransport query headers) ?_
    simp only [carryOut, openTransport]
    split <;> rfl
  | closeTransport cause =>
    refine .of_apart (apart_closeTransport cause) ?_
    simp only [carryOut, closeTransport]
    split <;> rfl
  | send p => exact .of_apart (apart_send p) (tallied_send p).gauge
  | arm | cancel | resetCodec => exact .of_apart ⟨rfl, rfl⟩ rfl
  | socketsOpen => exact reckons_openSockets
  | socketsDisconnect final => exact .of_refresh fun _ => evolves_disconnectSockets final
  | socketsClose => exact .of_refresh fun _ => evolves_closeSockets
  | notify event => exact .of_apart (apart_notify event) (tallied_notify event).gauge

theorem reckons_carryOutAll (effects : List Engine.Effect) : Reckons c (c.carryOutAll effects).1 := by
  induction effects generalizing c with
  | nil => exact .refl c
  | cons f rest ih => exact (reckons_carryOut f).trans ih

/-- **Inputs in order**, with all that follows. -/
theorem reckons_feed (rounds : Nat) (inputs : List Engine.Input) :
    Reckons c (c.feed rounds inputs).1 := by
  induction rounds generalizing c inputs with
  | zero => cases inputs <;> exact .refl c
  | succ rounds ih =>
    cases inputs with
    | nil => exact .refl c
    | cons i rest =>
      have hengine : Reckons c { c with engine := (c.engine.handle i).1 } := .of_apart ⟨rfl, rfl⟩ rfl
      rw [feed_succ]
      exact (hengine.trans (reckons_carryOutAll _)).trans (ih _)

theorem reckons_handle (i : Engine.Input) : Reckons c (c.handle i) :=
  (reckons_feed feedbackLimit [i]).trans (.of_apart apart_publishStatus rfl)

/-- **A message for a namespace.**  If its listener fails, the callbacks wait as before. -/
theorem reckons_route (p : Packet) : Reckons c (c.route p) where
  quiet hf := evolves_route unwaiting_respected hf fun _ s => s.unwaiting_receive p
  right h := by
    rw [route]
    split
    · exact h
    · split
      · exact h
      · split
        · exact h
        · next id _ _ s hs =>
          dsimp only
          split
          · next hfails =>
            have hsame := tallied_modifySocket (c := c) id (f := fun _ => (s.receive p).1)
              fun s' hs' => by
                cases hs.symm.trans hs'
                rw [Socket.receive_of_fails hfails]
            have hreported := hsame.trans
              (Tallied.foldl (f := report) (fun _ _ => ⟨rfl, rfl⟩) (s.receive p).2.notices _)
            exact (hreported.trans (tallied_callAll (s.receive p).2.calls)).reckoned h
          · exact reckoned_updateAckGauge

/-! ## Commands -/

theorem reckoned_emit (h : Reckoned c) (ns name : String) (args : List Value) (reply : Option Label) :
    Reckoned (c.emit ns name args reply) := by
  rw [emit]
  split
  · exact h
  · split
    · exact h
    · exact reckoned_updateAckGauge

theorem reckons_socketCreated (ns : String) : Reckons c (c.socketCreated ns) := by
  rw [socketCreated]
  split
  · exact .refl c
  · split
    · exact .refl c
    · next id _ =>
      exact ⟨(tallied_requestSocket id).reckoned, fun _ =>
        evolves_requestSocket unwaiting_respected.refl fun s => s.unwaiting_requestOn c.engine.revision⟩

theorem reckons_closeSocket (ns : String) : Reckons c (c.closeSocket ns) where
  quiet hf := evolves_closeSocket unwaiting_respected hf ns
  right h := by
    rw [closeSocket]
    split
    · exact h
    · exact reckoned_updateAckGauge

/-! ## Events -/

/-- Frames, and the packets that they complete. -/
theorem frameWise_reckons :
    FrameWise fun (c : Client τ) (_ : List (Client τ × Work)) c' => Reckons c c' where
  append h h' := h.trans h'
  counted _ _ _ hacks := .of_apart ⟨rfl, rfl⟩ hacks
  heard _ i _ := reckons_handle i
  fed _ _ _ _ := .of_apart ⟨rfl, rfl⟩ rfl
  routed _ p := reckons_route p

theorem reckons_receiveEvent (id : ConnectionId) (event : TransportEvent) :
    Reckons c (c.receiveEvent id event) := by
  refine frameWise_reckons.receiveEvent (fun _ _ => reckons_handle _) fun normal _ _ => ?_
  have hdetached : Reckons c { c with current := none } := .of_apart ⟨rfl, rfl⟩ rfl
  exact hdetached.trans (reckons_handle _)

end Transport

end Client

end RealtimeClient
