import Mathlib
import RealtimeClient.Proofs.Client.Deeds

/-!
# What is sent was handed over

A packet is sent if the transport is open when it is handed over, and otherwise dropped.  So the journal
has nothing but packets of the history, and has them in its order.

* `spoken` — the packets that were sent; `Sends` — they are among those that some deeds hand over.
* `sends_route`, `sends_carryOut`, `sends_follows` — what each thing that the task does sends.
* `History.spoken` — **what a run has sent was handed over**, in that order.
-/

namespace RealtimeClient.Client

/-- The packet of an entry of the journal. -/
def Entry.packet? : Entry → Option Packet
  | .sent _ p => some p
  | .notice _ => none

/-- The packet of an entry of a history. -/
def Deed.packet? : Deed → Option Packet
  | .handed _ p => some p
  | _ => none

variable {τ : Type} {c c' c'' : Client τ} {deeds more : List Deed} {id : SocketId}

/-- **The packets that were sent**, the oldest first. -/
def spoken (c : Client τ) : List Packet := (c.journal.filterMap Entry.packet?).reverse

/-- **What is sent is handed over by deeds**, in their order. -/
def Sends (c : Client τ) (deeds : List Deed) (c' : Client τ) : Prop :=
  c'.spoken.Sublist (c.spoken ++ deeds.filterMap Deed.packet?)

/-- Deeds need not lead to anything. -/
theorem sends_of_spoken (h : c'.spoken = c.spoken) : Sends c deeds c' := by
  rw [Sends, h]
  exact List.sublist_append_left _ _

theorem Sends.trans (h : Sends c deeds c') (h' : Sends c' more c'') : Sends c (deeds ++ more) c'' := by
  have hboth := List.Sublist.trans h' (List.Sublist.append_right h _)
  rwa [List.append_assoc, ← List.filterMap_append] at hboth

theorem Sends.of_spoken (h : Sends c deeds c') (hafter : c''.spoken = c'.spoken) : Sends c deeds c'' := by
  rwa [Sends, hafter]

/-! ## What sends nothing -/

theorem spoken_report (n : Notice) : (c.report n).spoken = c.spoken := rfl

theorem spoken_foldl {α : Type} {f : Client τ → α → Client τ} (hf : ∀ c a, (f c a).spoken = c.spoken)
    (as : List α) (c : Client τ) : (as.foldl f c).spoken = c.spoken := by
  induction as generalizing c with
  | nil => rfl
  | cons a rest ih => exact (ih (f c a)).trans (hf c a)

theorem spoken_notify (event : SessionEvent) : (c.notify event).spoken = c.spoken := by
  rw [notify]
  split <;> split <;> rfl

theorem spoken_notifySocketOpen (ns : String) : (c.notifySocketOpen ns).spoken = c.spoken := by
  rw [notifySocketOpen]
  split <;> rfl

theorem spoken_notifySocketClose (ns : String) : (c.notifySocketClose ns).spoken = c.spoken := by
  rw [notifySocketClose]
  split <;> rfl

theorem spoken_disconnectSockets (final : Bool) : (c.disconnectSockets final).spoken = c.spoken :=
  spoken_foldl (f := fun c id => c.modifySocket id (·.disconnect final)) (fun _ _ => rfl) _ c

theorem spoken_push (command : Command) : (c.push command).spoken = c.spoken := by
  rw [push]
  split <;> rfl

theorem spoken_pushFor (id : SocketId) (command : String → Command) :
    (c.pushFor id command).spoken = c.spoken := by
  rw [pushFor]
  split
  · exact spoken_push _
  · rfl

/-- Whatever the application asks for is left to the task. -/
theorem spoken_call (a : Call) : (c.call a).spoken = c.spoken := by
  cases a with
  | join name =>
    simp only [call, joinSocket]
    split
    · rfl
    · exact spoken_push _
  | emit id name args reply => exact spoken_pushFor id fun ns => .emit ns name args reply
  | leave id => exact spoken_pushFor id _
  | off | offAll | onError | offError | setAuth | observe | ignoreSession | ignoreSockets => rfl
  | _ => exact spoken_push _

theorem spoken_received (id : SocketId) (s : Socket) (p : Packet) :
    (c.received id s p).spoken = c.spoken :=
  (spoken_foldl (fun _ a => spoken_call a) _ _).trans (spoken_foldl (fun _ n => spoken_report n) _ _)

section Transport

variable [Transport τ]

theorem spoken_writeFrames (frames : List Frame) : (c.writeFrames frames).spoken = c.spoken := by
  induction frames generalizing c with
  | nil => rfl
  | cons frame rest ih =>
    rw [writeFrames]
    dsimp only
    split
    · exact ih
    · rfl

theorem spoken_finish : c.finish.spoken = c.spoken := spoken_disconnectSockets true

/-! ## What is sent -/

/-- **A packet is sent, or dropped.** -/
theorem sends_send (source : Option SocketId) (p : Packet) : Sends c [.handed source p] (c.send p) := by
  rw [send]
  split
  · rw [Sends, spoken_writeFrames]
    simp [spoken, Entry.packet?, Deed.packet?]
  · exact sends_of_spoken rfl

theorem sends_sendAll (id : SocketId) (ps : List Packet) : Sends c (handed id ps) (c.sendAll ps) := by
  induction ps generalizing c with
  | nil => exact sends_of_spoken rfl
  | cons p rest ih => exact (sends_send (some id) p).trans ih

theorem sends_dispatch (id : SocketId) (ns : String) (o : Socket.Outcome) :
    Sends c (handed id o.outbound) (c.dispatch ns o) := by
  have hsent := sends_sendAll (c := c) id o.outbound
  unfold dispatch
  dsimp only
  split
  · exact hsent
  · exact hsent.of_spoken (spoken_notifySocketOpen ns)
  · exact hsent.of_spoken (spoken_notifySocketClose ns)

theorem sends_requestSocket (id : SocketId) : Sends c (c.requestDeeds id) (c.requestSocket id) := by
  rw [requestDeeds, requestSocket]
  cases c.socket? id with
  | none => exact sends_of_spoken rfl
  | some s =>
    exact sends_dispatch (c := c.modifySocket id fun _ => (s.requestOn c.engine.revision).1) id s.ns _

theorem sends_leaveSocket (id : SocketId) : Sends c (c.leaveDeeds id) (c.leaveSocket id) := by
  rw [leaveDeeds, leaveSocket]
  cases c.socket? id with
  | none => exact sends_of_spoken rfl
  | some s =>
    have hsent := sends_sendAll (c := c.modifySocket id fun _ => s.leave.1) id s.leave.2
    exact hsent.of_spoken (spoken_notifySocketClose s.ns)

theorem sends_emit (ns name : String) (args : List Value) (reply : Option Label) :
    Sends c (c.emitDeeds ns name args reply) (c.emit ns name args reply) := by
  rw [emitDeeds, emit]
  cases c.registered? ns with
  | none => exact sends_of_spoken rfl
  | some id =>
    cases hs : c.socket? id with
    | none =>
      simp only [hs]
      exact sends_of_spoken rfl
    | some s =>
      simp only [hs]
      exact sends_sendAll (c := c.modifySocket id fun _ => (s.emit name args reply).1) id _

omit [Transport τ] in
theorem sends_each {f : Client τ → SocketId → Client τ} {deedsOf : Client τ → SocketId → List Deed}
    (h : ∀ c id, Sends c (deedsOf c id) (f c id)) (c : Client τ) (ids : List SocketId) :
    Sends c (eachDeeds f deedsOf c ids) (ids.foldl f c) := by
  induction ids generalizing c with
  | nil => exact sends_of_spoken rfl
  | cons id rest ih => exact (h c id).trans (ih (f c id))

theorem sends_openSockets : Sends c c.sweepDeeds c.openSockets := by
  rw [openSockets, sweepDeeds]
  rw [← List.singleton_append]
  have hadded : Sends c [.opened] (if c.registry.contains defaultNamespace then c
      else c.addSocket defaultNamespace) := by
    refine sends_of_spoken ?_
    split <;> rfl
  exact hadded.trans (sends_each (fun c id => sends_requestSocket id) _ _)

theorem sends_closeSocket (ns : String) :
    Sends c (c.commandDeeds (.closeSocket ns)) (c.closeSocket ns) := by
  unfold commandDeeds closeSocket
  dsimp only
  cases c.registered? ns with
  | none => exact sends_of_spoken rfl
  | some id => exact sends_leaveSocket (c := { c with registry := c.registry.erase ns }) id

theorem sends_socketCreated (ns : String) :
    Sends c (c.commandDeeds (.socketCreated ns)) (c.socketCreated ns) := by
  unfold commandDeeds socketCreated
  dsimp only
  split
  · exact sends_of_spoken rfl
  · cases c.registered? ns with
    | none => exact sends_of_spoken rfl
    | some id => exact sends_requestSocket id

/-- **A message for a namespace.** -/
theorem sends_route (p : Packet) : Sends c (c.routeDeeds p) (c.route p) := by
  cases hr : c.receiver? p with
  | none =>
    rw [route_of_none hr]
    exact sends_of_spoken rfl
  | some receiver =>
    obtain ⟨id, s⟩ := receiver
    have hreceived (deeds : List Deed) : Sends c deeds (c.received id s p) :=
      sends_of_spoken (spoken_received id s p)
    rw [route_of_some hr, routeDeeds, hr]
    dsimp only
    rw [← List.append_assoc]
    by_cases hf : (s.receive p).2.fails = true
    · rw [if_pos hf, if_pos hf]
      exact (hreceived _).of_spoken rfl
    · rw [if_neg hf, if_neg hf]
      exact (hreceived _).trans (sends_dispatch id p.ns _)

/-! ## What the task sends -/

/-- **An effect.** -/
theorem sends_carryOut (f : Engine.Effect) : Sends c (effectDeeds (c, f)) (c.carryOut f).1 := by
  cases f with
  | openTransport query headers =>
    refine sends_of_spoken ?_
    simp only [carryOut, openTransport]
    split <;> rfl
  | closeTransport cause =>
    refine sends_of_spoken ?_
    simp only [carryOut, closeTransport]
    split <;> rfl
  | send p => exact sends_send none p
  | arm | cancel | resetCodec => exact sends_of_spoken rfl
  | socketsOpen => exact sends_openSockets
  | socketsDisconnect final => exact sends_of_spoken (spoken_disconnectSockets final)
  | socketsClose =>
    exact sends_each (fun c id => sends_leaveSocket id) { c with registry := .nil } c.socketIds
  | notify event => exact sends_of_spoken (spoken_notify event)

theorem sends_carryOutAll (effects : List Engine.Effect) :
    Sends c ((c.stages effects).flatMap effectDeeds) (c.carryOutAll effects).1 := by
  induction effects generalizing c with
  | nil => exact sends_of_spoken rfl
  | cons f rest ih => exact (sends_carryOut f).trans ih

/-- **What is sent follows the deeds.** -/
theorem sends_follows : Follows (τ := τ) Sends where
  still _ _ _ _ hjournal := sends_of_spoken (by rw [spoken, spoken, hjournal])
  append := Sends.trans
  call _ a := sends_of_spoken (spoken_call a)
  on _ _ _ _ := sends_of_spoken rfl
  round _ _ := sends_carryOutAll _
  route _ := sends_route
  emit _ := sends_emit
  closeSocket _ := sends_closeSocket
  created _ := sends_socketCreated _
  take _ _ := sends_of_spoken rfl
  drain _ _ := sends_of_spoken rfl
  finish _ := sends_of_spoken spoken_finish

/-- **What a run has sent was handed over**, in that order. -/
theorem History.spoken {c₀ : Client τ} {history : List Deed} (h : History c₀ history c) :
    c.spoken.Sublist (c₀.spoken ++ history.filterMap Deed.packet?) :=
  sends_follows.history h

end Transport

end RealtimeClient.Client
