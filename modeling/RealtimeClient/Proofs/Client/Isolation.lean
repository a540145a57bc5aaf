import Mathlib
import RealtimeClient.Transport.Faulty
import RealtimeClient.Transport.WebSocket
import RealtimeClient.Proofs.Client.Assembly
import RealtimeClient.Proofs.Client.Views
import RealtimeClient.Proofs.Client.Wire

/-!
# Namespaces do not interfere

Namespaces share a connection, a registry and a task.  Still a namespace sees nothing of the others
while packets come in: what its sockets make of its packets, what their listeners and callbacks get, and
what becomes of its sockets and of its entry in the registry is a function of what happens in it.
Listeners have to keep to their own namespaces, as far as sockets are concerned.

Two things are shared for good, and the law stops at them.  Which reports on sockets the application
listens to is one choice for all namespaces, and any listener can change it.  And there is one transport,
which a write may find or leave closed.  So the reports on a namespace's standing are its own if no
listener of another namespace changes that choice, and the packets that go out for it are its own if
writing does not open or close the transport.

* `notices`, `Tells` — what is reported, and what a change adds to it; `tells_route` — a packet.
* `sent_sendAll`, `sent_route` — what a packet sends, where writing is steady.
* `SteadyWrites`, `Discreet` — what the two exceptions ask for.
* `Partitioned.story` — what happens in other namespaces does not show in a list about this one.
* **`namespaces_isolated`** — the law; `shared_isolated` — two namespaces that keep to themselves.
* `namespaces_share` — two that do not, in either way.
-/

namespace RealtimeClient

/-- Whether a report is about the standing of a namespace.  The others are what callbacks get. -/
def Notice.isStanding : Notice → Bool
  | .socketOpen _ | .socketClose _ => true
  | _ => false

/-- Whether a call changes which reports on sockets the application listens to. -/
def Call.tunes : Call → Bool
  | .observe .socketOpen | .observe .socketClose | .ignoreSockets => true
  | _ => false

namespace Client

open Socket (Operation Outcome)

variable {τ : Type} {c c' c'' : Client τ} {ns : String} {id : SocketId} {s : Socket} {a : Call}
  {p : Packet}

/-! ## Reports -/

/-- The report of an entry of the journal. -/
def Entry.notice? : Entry → Option Notice
  | .notice n => some n
  | .sent .. => none

/-- **What was reported**, the oldest first. -/
def notices (c : Client τ) : List Notice := (c.journal.filterMap Entry.notice?).reverse

/-- **Which reports on sockets are listened to.** -/
structure Hearing where
  socketOpen : Bool
  socketClose : Bool

namespace Hearing

/-- A call can change it. -/
def call (h : Hearing) : Call → Hearing
  | .observe .socketOpen => { h with socketOpen := true }
  | .observe .socketClose => { h with socketClose := true }
  | .ignoreSockets => { socketOpen := false, socketClose := false }
  | _ => h

/-- What is told of a change of standing. -/
def standing (h : Hearing) (ns : String) : Option Socket.Lifecycle → List Notice
  | none => []
  | some .connected => if h.socketOpen then [.socketOpen ns] else []
  | some .disconnected => if h.socketClose then [.socketClose ns] else []

/-- After an outcome. -/
def after (h : Hearing) (o : Outcome) : Hearing := o.calls.foldl call h

/-- **What is told of an outcome.**  A listener that fails ends the task. -/
def told (h : Hearing) (ns : String) (o : Outcome) : List Notice :=
  o.notices ++ if o.fails then [] else (h.after o).standing ns o.lifecycle

theorem call_of_not_tunes {h : Hearing} (ha : a.tunes = false) : h.call a = h := by
  cases a with
  | observe report => cases report <;> first | rfl | cases ha
  | ignoreSockets => cases ha
  | _ => rfl

theorem foldl_call_of_not_tunes {h : Hearing} {calls : List Call} (hcalls : ∀ a ∈ calls, a.tunes = false) :
    calls.foldl call h = h := by
  induction calls with
  | nil => rfl
  | cons a rest ih =>
    rw [List.foldl_cons, call_of_not_tunes (hcalls a List.mem_cons_self)]
    exact ih fun b hb => hcalls b (List.mem_cons_of_mem _ hb)

theorem isStanding_of_mem_standing {h : Hearing} {lifecycle : Option Socket.Lifecycle} {y : Notice}
    (hy : y ∈ h.standing ns lifecycle) : y.ns? = some ns ∧ y.isStanding = true := by
  unfold standing at hy
  split at hy
  · cases hy
  · split at hy
    · rw [List.mem_singleton.1 hy]
      exact ⟨rfl, rfl⟩
    · cases hy
  · split at hy
    · rw [List.mem_singleton.1 hy]
      exact ⟨rfl, rfl⟩
    · cases hy

/-- What is told of an outcome is about the namespace that it concerns. -/
theorem ns?_of_mem_told {h : Hearing} {o : Outcome} (ho : o.Concerns ns) {y : Notice}
    (hy : y ∈ h.told ns o) : y.ns? = some ns := by
  rcases List.mem_append.1 hy with hy | hy
  · exact ho.notices y hy
  · split at hy
    · cases hy
    · exact (isStanding_of_mem_standing hy).1

end Hearing

def hearing (c : Client τ) : Hearing where
  socketOpen := c.observers.socketOpen
  socketClose := c.observers.socketClose

/-- **Reports are added**, and the hearing may change. -/
structure Tells (c c' : Client τ) (h : Hearing) (told : List Notice) : Prop where
  notices : c'.notices = c.notices ++ told
  hearing : c'.hearing = h

namespace Tells

theorem nothing (hjournal : c'.journal = c.journal) (hhearing : c'.hearing = c.hearing) :
    Tells c c' c.hearing [] := ⟨by simp [Client.notices, hjournal], hhearing⟩

theorem trans {h h' : Hearing} {told more : List Notice} (hfirst : Tells c c' h told)
    (hthen : Tells c' c'' h' more) : Tells c c'' h' (told ++ more) where
  notices := by rw [hthen.notices, hfirst.notices, List.append_assoc]
  hearing := hthen.hearing

end Tells

theorem tells_report (n : Notice) : Tells c (c.report n) c.hearing [n] :=
  ⟨by simp [notices, report, Entry.notice?], rfl⟩

theorem tells_reports (told : List Notice) : Tells c (told.foldl report c) c.hearing told := by
  induction told generalizing c with
  | nil => exact .nothing rfl rfl
  | cons n rest ih => exact (tells_report n).trans ih

theorem tells_notifySocketOpen (ns : String) :
    Tells c (c.notifySocketOpen ns) c.hearing (c.hearing.standing ns (some .connected)) := by
  rw [notifySocketOpen]
  by_cases h : c.observers.socketOpen = true
  · have hhears : c.hearing.socketOpen = true := h
    rw [if_pos h, Hearing.standing, if_pos hhears]
    exact tells_report _
  · have hhears : ¬c.hearing.socketOpen = true := h
    rw [if_neg h, Hearing.standing, if_neg hhears]
    exact .nothing rfl rfl

theorem tells_notifySocketClose (ns : String) :
    Tells c (c.notifySocketClose ns) c.hearing (c.hearing.standing ns (some .disconnected)) := by
  rw [notifySocketClose]
  by_cases h : c.observers.socketClose = true
  · have hhears : c.hearing.socketClose = true := h
    rw [if_pos h, Hearing.standing, if_pos hhears]
    exact tells_report _
  · have hhears : ¬c.hearing.socketClose = true := h
    rw [if_neg h, Hearing.standing, if_neg hhears]
    exact .nothing rfl rfl

theorem tells_push (command : Command) : Tells c (c.push command) c.hearing [] := by
  rw [push]
  split <;> exact .nothing rfl rfl

theorem tells_pushFor (id : SocketId) (command : String → Command) :
    Tells c (c.pushFor id command) c.hearing [] := by
  rw [pushFor]
  split
  · exact tells_push _
  · exact .nothing rfl rfl

/-- **A call tells nothing.** -/
theorem tells_call (a : Call) : Tells c (c.call a) (c.hearing.call a) [] := by
  cases a with
  | join name =>
    simp only [call, joinSocket]
    split
    · exact .nothing rfl rfl
    · have hadd : Tells c (c.addSocket (normalizeNamespace name)) c.hearing [] := .nothing rfl rfl
      exact hadd.trans (tells_push _)
  | emit id name args reply => exact tells_pushFor id fun ns => .emit ns name args reply
  | leave id => exact tells_pushFor id _
  | observe report =>
    refine ⟨(List.append_nil _).symm, ?_⟩
    cases report <;> rfl
  | ignoreSockets => exact ⟨(List.append_nil _).symm, rfl⟩
  | off | offAll | onError | offError | setAuth | ignoreSession => exact .nothing rfl rfl
  | _ => exact tells_push _

theorem tells_callAll (calls : List Call) :
    Tells c (c.callAll calls) (calls.foldl Hearing.call c.hearing) [] := by
  induction calls generalizing c with
  | nil => exact .nothing rfl rfl
  | cons a rest ih =>
    have hcall := tells_call (c := c) a
    have hrest := ih (c := c.call a)
    rw [hcall.hearing] at hrest
    exact hcall.trans hrest

section Transport

variable [Transport τ]

/-- **Sending tells nothing.** -/
theorem tells_sendAll (ps : List Packet) : Tells c (c.sendAll ps) c.hearing [] := by
  have hsend (p : Packet) (c : Client τ) : (c.send p).notices = c.notices := by
    rw [send]
    split
    · rw [notices, writeFrames_eq]
      exact congrArg List.reverse (List.filterMap_cons_none rfl)
    · rfl
  have hnotices : (c.sendAll ps).notices = c.notices := by
    induction ps generalizing c with
    | nil => rfl
    | cons p rest ih => exact (ih (c := c.send p)).trans (hsend p c)
  refine ⟨hnotices.trans (List.append_nil _).symm, ?_⟩
  exact congrArg (fun f : Front => Hearing.mk f.observers.socketOpen f.observers.socketClose)
    (front_sendAll (c := c) ps)

theorem tells_dispatch (ns : String) (o : Outcome) :
    Tells c (c.dispatch ns o) c.hearing (c.hearing.standing ns o.lifecycle) := by
  have hsent := tells_sendAll (c := c) o.outbound
  unfold dispatch
  dsimp only
  split
  · next ho =>
    rw [ho]
    exact hsent
  · next ho =>
    have hopen := tells_notifySocketOpen (c := c.sendAll o.outbound) ns
    rw [hsent.hearing] at hopen
    rw [ho]
    exact hsent.trans hopen
  · next ho =>
    have herase : Tells (c.sendAll o.outbound) { c.sendAll o.outbound with
        registry := (c.sendAll o.outbound).registry.erase ns } (c.sendAll o.outbound).hearing [] :=
      .nothing rfl rfl
    have hclose := herase.trans (tells_notifySocketClose ns)
    rw [herase.hearing, hsent.hearing] at hclose
    rw [ho]
    exact hsent.trans hclose

/-- **What is told of a packet** is what is told of its socket's work. -/
theorem tells_route (hr : c.receiver? p = some (id, s)) :
    Tells c (c.route p) (c.hearing.after (s.receive p).2) (c.hearing.told p.ns (s.receive p).2) := by
  have hmodify : Tells c (c.modifySocket id fun _ => (s.receive p).1) c.hearing [] := .nothing rfl rfl
  have htold : Tells c (c.told id s p) c.hearing (s.receive p).2.notices :=
    hmodify.trans (tells_reports _)
  have hcalls := tells_callAll (c := c.told id s p) (s.receive p).2.calls
  rw [htold.hearing] at hcalls
  have hreceived : Tells c (c.received id s p) (c.hearing.after (s.receive p).2)
      (s.receive p).2.notices := by
    have hboth := htold.trans hcalls
    rwa [List.append_nil] at hboth
  rw [route_of_some hr, Hearing.told]
  split
  · rw [List.append_nil]
    exact ⟨hreceived.notices, hreceived.hearing⟩
  · have hdispatch := tells_dispatch (c := c.received id s p) p.ns (s.receive p).2
    rw [hreceived.hearing] at hdispatch
    have hboth := hreceived.trans hdispatch
    exact ⟨hboth.notices, hboth.hearing⟩

/-! ## Packets that go out -/

variable (τ) in
/-- **Writing does not open or close a transport.** -/
def SteadyWrites : Prop :=
  ∀ (t : τ) (frame : Frame), Transport.state (Transport.write t frame).2 = Transport.state t

/-- **The packets that go out.** -/
def outgoing (c : Client τ) (ps : List Packet) : List (Option ConnectionId × Packet) :=
  if Transport.state c.transport = .opened then ps.map (c.current, ·) else []

theorem outgoing_eq (hcurrent : c'.current = c.current)
    (hstate : Transport.state c'.transport = Transport.state c.transport) (ps : List Packet) :
    c'.outgoing ps = c.outgoing ps := by
  rw [outgoing, outgoing, hcurrent, hstate]

theorem sent_send (p : Packet) : (c.send p).sent = c.sent ++ c.outgoing [p] := by
  rw [send, outgoing]
  split
  · rw [sent, writeFrames_eq]
    simp [sent, Entry.sent?]
  · exact (List.append_nil _).symm

section Steady

variable (hw : SteadyWrites τ)

include hw

theorem state_writeFrames (frames : List Frame) :
    Transport.state (c.writeFrames frames).transport = Transport.state c.transport := by
  induction frames generalizing c with
  | nil => rfl
  | cons frame rest ih =>
    rw [writeFrames]
    dsimp only
    split
    · rw [ih]
      exact hw c.transport frame
    · exact hw c.transport frame

theorem state_send (p : Packet) :
    Transport.state (c.send p).transport = Transport.state c.transport := by
  rw [send]
  split
  · exact state_writeFrames hw (c := { c with journal := .sent c.current p :: c.journal }) _
  · rfl

theorem sent_sendAll (ps : List Packet) :
    (c.sendAll ps).sent = c.sent ++ c.outgoing ps ∧
      Transport.state (c.sendAll ps).transport = Transport.state c.transport := by
  induction ps generalizing c with
  | nil => exact ⟨by simp [sendAll, outgoing], rfl⟩
  | cons p rest ih =>
    obtain ⟨hsent, hstate⟩ := ih (c := c.send p)
    refine ⟨hsent.trans ?_, hstate.trans (state_send hw p)⟩
    rw [sent_send, outgoing_eq (steady_send p).current (state_send hw p), List.append_assoc]
    unfold outgoing
    split <;> rfl

theorem sent_dispatch (ns : String) (o : Outcome) :
    (c.dispatch ns o).sent = c.sent ++ c.outgoing o.outbound ∧
      Transport.state (c.dispatch ns o).transport = Transport.state c.transport := by
  have hmute {d : Client τ} (h : Mute (c.sendAll o.outbound) d) :
      d.sent = c.sent ++ c.outgoing o.outbound ∧
        Transport.state d.transport = Transport.state c.transport :=
    ⟨h.sent.trans (sent_sendAll hw _).1, (congrArg _ h.transport).trans (sent_sendAll hw _).2⟩
  unfold dispatch
  dsimp only
  split
  · exact sent_sendAll hw _
  · exact hmute (mute_notifySocketOpen ns)
  · have herase : Mute (c.sendAll o.outbound) { c.sendAll o.outbound with
        registry := (c.sendAll o.outbound).registry.erase ns } := ⟨⟨rfl, rfl, rfl, rfl, rfl⟩, rfl, rfl⟩
    exact hmute (herase.trans (mute_notifySocketClose ns))

/-- **What a packet sends** is what its socket hands over. -/
theorem sent_route (hr : c.receiver? p = some (id, s)) :
    (c.route p).sent =
        c.sent ++ (if (s.receive p).2.fails then [] else c.outgoing (s.receive p).2.outbound) ∧
      Transport.state (c.route p).transport = Transport.state c.transport := by
  have hreceived : Mute c (c.received id s p) :=
    ((mute_modifySocket id fun _ => (s.receive p).1).trans
      (Mute.foldl (fun _ n => mute_report n) _ _)).trans (mute_callAll _)
  rw [route_of_some hr]
  split
  · exact ⟨hreceived.sent.trans (List.append_nil _).symm, congrArg _ hreceived.transport⟩
  · obtain ⟨hsent, hstate⟩ := sent_dispatch hw (c := c.received id s p) p.ns (s.receive p).2
    have htransport : Transport.state (c.received id s p).transport = Transport.state c.transport :=
      congrArg _ hreceived.transport
    rw [outgoing_eq hreceived.current htransport, hreceived.sent] at hsent
    exact ⟨hsent, hstate.trans htransport⟩

end Steady

/-! ## Lists about a namespace -/

/-- **What outcomes add to a list**, one after the other.  An outcome may change what the next ones add. -/
def story {β σ : Type} (adds : σ → Outcome → List β) (next : σ → Outcome → σ) (h : σ) :
    List Outcome → List β
  | [] => []
  | o :: rest => adds h o ++ story adds next (next h o) rest

/-- **What happens in other namespaces does not show in a list about this one**, if whatever happens adds
to the list what its outcome in this namespace adds. -/
theorem Partitioned.story {β σ : Type} {n : String} {L : Client τ → List β} {H : Client τ → σ}
    {r : String → Call → Prop} (adds : σ → Outcome → List β) (next : σ → Outcome → σ)
    (hstep : ∀ (d : Client τ) (x : Happening), Partitioned d → d.AllCalls r →
      L (d.happen x) = L d ++ ((d.outcomeOf? n x).map (adds (H d))).getD [] ∧
        H (d.happen x) = ((d.outcomeOf? n x).map (next (H d))).getD (H d))
    (h : Partitioned c) (hr : c.AllCalls r) (xs : List Happening)
    (hxs : ∀ x ∈ xs, c.Admits c.StaysIn x ∧ c.Admits r x) :
    L (c.happenAll xs) = L c ++ Client.story adds next (H c) (c.outcomesOf n xs) := by
  induction xs generalizing c with
  | nil => exact (List.append_nil _).symm
  | cons x rest ih =>
    obtain ⟨hx, hxr⟩ := hxs x List.mem_cons_self
    have hrest := ih (h.after hx) (h.allCalls_happen hr hxr) fun y hy =>
      (hxs y (List.mem_cons_of_mem _ hy)).imp
        (fun hy => h.admits_happen hy fun _ _ => h.staysIn_happen)
        (fun hy => h.admits_happen hy fun _ _ => id)
    obtain ⟨hlist, hstate⟩ := hstep c x h hr
    refine hrest.trans ?_
    rw [hlist, hstate, outcomesOf]
    cases c.outcomeOf? n x with
    | none => simp
    | some o => simp [Client.story]

/-- **What was reported about a namespace**, the oldest first. -/
def noticesOf (c : Client τ) (n : String) : List Notice := c.notices.filter fun y => y.ns? = some n

/-- **What the callbacks of a namespace got**, the oldest first: its listeners, its error listener, and
those that waited for replies. -/
def callbacksOf (c : Client τ) (n : String) : List Notice :=
  (c.noticesOf n).filter fun y => !y.isStanding

/-- **What was handed to the open transport for a namespace**, the oldest first. -/
def sentFor (c : Client τ) (n : String) : List (Option ConnectionId × Packet) :=
  c.sent.filter fun x => x.2.frame = .message ∧ x.2.ns = n

/-- **Listeners of other namespaces leave it alone which reports on sockets the application listens
to.** -/
def Discreet (n ns : String) (a : Call) : Prop := ns ≠ n → a.tunes = false

omit [Transport τ] in
theorem noticesOf_append {n : String} {told : List Notice} (h : c'.notices = c.notices ++ told)
    (htold : ∀ y ∈ told, y.ns? = some ns) :
    c'.noticesOf n = c.noticesOf n ++ if ns = n then told else [] := by
  rw [noticesOf, h, List.filter_append, ← noticesOf]
  refine congrArg _ ?_
  split
  · next hn => exact List.filter_eq_self.2 fun y hy => by simp [htold y hy, hn]
  · next hn => exact List.filter_eq_nil_iff.2 fun y hy => by simpa [htold y hy] using hn

/-- What is told of a packet of another namespace is not about this one. -/
theorem Partitioned.noticesOf_route (h : Partitioned c) (hr : c.receiver? p = some (id, s)) (n : String) :
    (c.route p).noticesOf n =
      c.noticesOf n ++ if p.ns = n then c.hearing.told p.ns (s.receive p).2 else [] :=
  noticesOf_append (tells_route hr).notices fun _ hy => Hearing.ns?_of_mem_told (h.concerns hr) hy

theorem Partitioned.noticesOf_happen {n : String} {d : Client τ} (h : Partitioned d)
    (hd : d.AllCalls (Discreet n)) (x : Happening) :
    (d.happen x).noticesOf n =
        d.noticesOf n ++ ((d.outcomeOf? n x).map (d.hearing.told n)).getD [] ∧
      (d.happen x).hearing = ((d.outcomeOf? n x).map d.hearing.after).getD d.hearing := by
  cases x with
  | listen id name listener => exact ⟨(List.append_nil _).symm, rfl⟩
  | packet p =>
    cases hr : d.receiver? p with
    | none => simp [happen, route_of_none hr, outcomeOf?, outcome?, hr]
    | some receiver =>
      obtain ⟨id, s⟩ := receiver
      refine ⟨(h.noticesOf_route hr n).trans ?_, (tells_route hr).hearing.trans ?_⟩
      · by_cases hn : p.ns = n <;> simp [outcomeOf?, outcome?, hr, hn]
      · by_cases hn : p.ns = n
        · simp [outcomeOf?, outcome?, hr, hn]
        · have hcalls : ∀ a ∈ (s.receive p).2.calls, a.tunes = false := by
            intro a ha
            obtain ⟨-, hns, hs⟩ := receiver?_eq_some.1 hr
            obtain ⟨name, listener, e, hget, he, ha⟩ := Socket.mem_calls_receive ha
            exact hd p.ns id s hns hs name listener hget e (he.trans (h.filed.ns_eq hns hs)) a ha hn
          simp [outcomeOf?, hn, Hearing.after, Hearing.foldl_call_of_not_tunes hcalls]

/-- What callbacks get is told whoever listens to what else. -/
theorem Partitioned.callbacksOf_happen {n : String} {d : Client τ} (h : Partitioned d) (x : Happening) :
    (d.happen x).callbacksOf n =
      d.callbacksOf n ++
        ((d.outcomeOf? n x).map fun o => o.notices.filter fun y => !y.isStanding).getD [] := by
  cases x with
  | listen id name listener => exact (List.append_nil _).symm
  | packet p =>
    cases hr : d.receiver? p with
    | none => simp [happen, route_of_none hr, outcomeOf?, outcome?, hr]
    | some receiver =>
      obtain ⟨id, s⟩ := receiver
      have hstanding (hearing : Hearing) (lifecycle : Option Socket.Lifecycle) :
          (hearing.standing p.ns lifecycle).filter (fun y => !y.isStanding) = [] :=
        List.filter_eq_nil_iff.2 fun y hy => by
          simp [(Hearing.isStanding_of_mem_standing hy).2]
      have hroute := congrArg (List.filter fun y => !y.isStanding) (h.noticesOf_route hr n)
      refine hroute.trans ?_
      rw [List.filter_append]
      by_cases hn : p.ns = n
      · simp only [outcomeOf?, outcome?, hr, if_pos hn, Option.map_some, Option.getD_some, Hearing.told,
          List.filter_append, apply_ite (List.filter fun y : Notice => !y.isStanding), hstanding,
          List.filter_nil, ite_self, List.append_nil]
        rfl
      · simp only [outcomeOf?, if_neg hn, Option.map_none, Option.getD_none, List.filter_nil]
        rfl

/-- Where packets go: the connection, and whether the transport is open. -/
def line (c : Client τ) : Option ConnectionId × TransportState := (c.current, Transport.state c.transport)

/-- **What goes out of an outcome.**  A listener that fails ends the task. -/
def carries (line : Option ConnectionId × TransportState) (o : Outcome) :
    List (Option ConnectionId × Packet) :=
  if o.fails = false ∧ line.2 = .opened then o.outbound.map (line.1, ·) else []

theorem Partitioned.sentFor_happen (hw : SteadyWrites τ) {n : String} {d : Client τ}
    (h : Partitioned d) (x : Happening) :
    (d.happen x).sentFor n = d.sentFor n ++ ((d.outcomeOf? n x).map (carries d.line)).getD [] ∧
      (d.happen x).line = ((d.outcomeOf? n x).map fun _ => d.line).getD d.line := by
  cases x with
  | listen id name listener => exact ⟨(List.append_nil _).symm, rfl⟩
  | packet p =>
    cases hr : d.receiver? p with
    | none => simp [happen, route_of_none hr, outcomeOf?, outcome?, hr]
    | some receiver =>
      obtain ⟨id, s⟩ := receiver
      obtain ⟨hsent, hstate⟩ := sent_route hw hr
      have hcarries : (if (s.receive p).2.fails then [] else d.outgoing (s.receive p).2.outbound) =
          carries d.line (s.receive p).2 := by
        unfold carries outgoing line
        cases (s.receive p).2.fails <;> simp
      have habout : ∀ y ∈ carries d.line (s.receive p).2,
          y.2.frame = .message ∧ y.2.ns = p.ns := by
        intro y hy
        rw [carries] at hy
        split at hy
        · obtain ⟨q, hq, rfl⟩ := List.mem_map.1 hy
          exact (h.concerns hr).outbound q hq
        · cases hy
      have hline : (d.route p).line = d.line := Prod.ext (talk_route p).steady.current hstate
      refine ⟨?_, hline.trans (by cases d.outcomeOf? n (.packet p) <;> rfl)⟩
      rw [happen, sentFor, hsent, hcarries, List.filter_append, ← sentFor]
      refine congrArg _ ?_
      by_cases hn : p.ns = n
      · simp only [outcomeOf?, outcome?, hr, if_pos hn, Option.map_some, Option.getD_some]
        exact List.filter_eq_self.2 fun y hy => by simpa [hn] using habout y hy
      · simp only [outcomeOf?, if_neg hn, Option.map_none, Option.getD_none]
        exact List.filter_eq_nil_iff.2 fun y hy => by simpa [habout y hy] using hn

/-! ## Isolation -/

omit [Transport τ] in
theorem socket?_of_view {d : Client τ} {n : String} (h : c.view n = d.view n) (hs : c.socket? id = some s)
    (hn : s.ns = n) : d.socket? id = some s := by
  have hview : (d.view n).socket id = some s := by
    rw [← h]
    simp [view, hs, hn]
  exact (Option.filter_eq_some_iff.1 hview).1

/-- **Namespaces do not interfere.**  While the session is open, packets come in for any namespaces, of
any kinds, and listeners are registered in between.  If listeners touch no socket of another namespace,
then with all of other namespaces left out the sockets of a namespace make the same of its packets, its
callbacks get the same, and its entry in the registry and its sockets end up the same.  So do the reports
on it, if no listener of another namespace changes which reports on sockets the application listens to;
and the packets that are handed to the open transport for it, if writing does not open or close the
transport.  (After a listener that fails the task hands on no more packets.  The law is about those that
are handed on.) -/
theorem namespaces_isolated {c₀ : Client τ} {trace : List Mark} (h₀ : Unused c₀)
    (hrun : Run c₀ trace c) (hopen : c.engine.state = .opened) (n : String) (xs : List Happening)
    (hconfined : Confined c) (hadmits : ∀ x ∈ xs, c.Admits c.StaysIn x) :
    c.outcomesOf n xs = c.outcomesOf n (xs.filter (c.isOf n)) ∧
      (c.happenAll xs).registered? n = (c.happenAll (xs.filter (c.isOf n))).registered? n ∧
      (∀ id s, c.socket? id = some s → s.ns = n →
        (c.happenAll xs).socket? id = (c.happenAll (xs.filter (c.isOf n))).socket? id) ∧
      (c.happenAll xs).callbacksOf n = (c.happenAll (xs.filter (c.isOf n))).callbacksOf n ∧
      (c.AllCalls (Discreet n) → (∀ x ∈ xs, c.Admits (Discreet n) x) →
        (c.happenAll xs).noticesOf n = (c.happenAll (xs.filter (c.isOf n))).noticesOf n) ∧
      (SteadyWrites τ →
        (c.happenAll xs).sentFor n = (c.happenAll (xs.filter (c.isOf n))).sentFor n) := by
  have hhomely : AllHomely c := by
    intro ns id s hns hs
    obtain ⟨ops, hlife⟩ := hrun.life h₀ hns
    obtain rfl := Option.some.inj (hs.symm.trans hlife)
    exact (Socket.Homely.new ns).after ops
  have h : Partitioned c := ⟨hopen, hrun.filed h₀, hhomely, hconfined⟩
  have hown {r : String → Call → Prop} (hr : ∀ x ∈ xs, c.Admits r x) :
      ∀ x ∈ xs.filter (c.isOf n), c.Admits r x := fun x hx => hr x (List.mem_filter.1 hx).1
  obtain ⟨hview, houtcomes⟩ := h.view_happenAll n xs hadmits
  obtain ⟨hownView, hownOutcomes⟩ := h.view_happenAll n (xs.filter (c.isOf n)) (hown hadmits)
  rw [List.filter_filter] at hownView hownOutcomes
  simp only [Bool.and_self] at hownView hownOutcomes
  have hsame : (c.happenAll xs).view n = (c.happenAll (xs.filter (c.isOf n))).view n :=
    hview.trans hownView.symm
  have hsameOutcomes := houtcomes.trans hownOutcomes.symm
  have htrivial (ys : List Happening) : ∀ x ∈ ys, c.Admits (fun _ _ => True) x := by
    rintro (_ | ⟨id, name, listener⟩) -
    · trivial
    · exact fun _ _ _ _ _ _ => trivial
  refine ⟨hsameOutcomes, congrArg View.registered hsame, fun id s hs hn => ?_, ?_, fun hd hdiscreet => ?_,
    fun hw => ?_⟩
  · have hlives : Lives c (c.happenAll xs) := Lives.foldl (fun _ x => lives_happen x) xs c
    obtain ⟨s', hs', hns', -⟩ := hlives.sockets id s hs
    rw [hs', socket?_of_view hsame hs' (hns'.trans hn)]
  · have hstory := h.story (L := fun d => d.callbacksOf n) (H := fun _ => ()) (r := fun _ _ => True)
      (fun _ o => o.notices.filter fun y => !y.isStanding) (fun _ _ => ())
      (fun d x hd _ => ⟨hd.callbacksOf_happen x, by simp⟩) (fun _ _ _ _ _ _ _ _ _ _ _ _ => trivial)
    rw [hstory xs fun x hx => ⟨hadmits x hx, htrivial xs x hx⟩,
      hstory (xs.filter (c.isOf n)) fun x hx => ⟨hown hadmits x hx, htrivial _ x hx⟩, hsameOutcomes]
  · have hstory := h.story (L := fun d => d.noticesOf n) (H := hearing)
      (fun hearing o => hearing.told n o) Hearing.after
      (fun d x hd hcalls => hd.noticesOf_happen hcalls x) hd
    rw [hstory xs fun x hx => ⟨hadmits x hx, hdiscreet x hx⟩,
      hstory (xs.filter (c.isOf n)) fun x hx => ⟨hown hadmits x hx, hown hdiscreet x hx⟩, hsameOutcomes]
  · have hstory := h.story (L := fun d => d.sentFor n) (H := line) (r := fun _ _ => True)
      carries (fun line _ => line) (fun d x hd _ => hd.sentFor_happen hw x)
      (fun _ _ _ _ _ _ _ _ _ _ _ _ => trivial)
    rw [hstory xs fun x hx => ⟨hadmits x hx, htrivial xs x hx⟩,
      hstory (xs.filter (c.isOf n)) fun x hx => ⟨hown hadmits x hx, htrivial _ x hx⟩, hsameOutcomes]

end Transport

/-! ## Transports -/

theorem steadyWrites_memory : SteadyWrites MemoryTransport := by
  intro t frame
  change (t.write frame).2.state = t.state
  rw [MemoryTransport.write]
  split <;> rfl

theorem steadyWrites_faulty : SteadyWrites FaultyTransport := by
  intro t frame
  change (t.write frame).2.memory.state = t.memory.state
  rw [FaultyTransport.write]
  split
  · rfl
  · exact steadyWrites_memory t.memory frame

theorem steadyWrites_webSocket : SteadyWrites WebSocketTransport := by
  intro t frame
  change (t.write frame).2.state = t.state
  unfold WebSocketTransport.write
  split
  · rfl
  · next connection hactive =>
    split
    · simp only [WebSocketTransport.order, WebSocketTransport.state, hactive]
    · rfl

/-! ## Two namespaces over one connection -/

/-- Sockets without listeners. -/
theorem silent_of_map {c : Client τ} {n : Nat}
    (h : c.sockets.map Socket.listeners = List.replicate n .nil) :
    ∀ s ∈ c.sockets, s.listeners = .nil :=
  fun _ hs => List.eq_of_mem_replicate (h ▸ List.mem_map_of_mem hs)

/-- A listener that answers an event with another one. -/
def answering (id : SocketId) : Listener where
  label := 7
  react _ := { calls := [.emit id "answer" [] none] }

/-- The session is open, and two namespaces were asked for. -/
def sharedBefore : Client MemoryTransport :=
  let c := ((fresh.served (.connect .nil .nil)).acted .accept).turned .event
  ((c.served (.observe .socketOpen)).served (.join "/a")).served (.join "/b")

/-- The second one has a listener. -/
def shared : Client MemoryTransport := sharedBefore.on 2 "e" (answering 2)

/-- Both are confirmed, and the first one is left and refused while events come for both.  The second one
is given another listener in between. -/
def arrivals : List Happening :=
  [.packet (.connect "/a" none), .packet (.connect "/b" none), .packet (.event "/b" "e" []),
    .packet (.event "/a" "e" []), .packet (.disconnect "/a"), .listen 2 "f" (answering 2),
    .packet (.connectError "/a" .null), .packet (.event "/b" "f" [])]

theorem sharedBefore_run : Relation.ReflTransGen Step fresh sharedBefore := by
  refine .trans ?_ (run_served _ (.join "/b"))
  refine .trans ?_ (run_served _ (.join "/a"))
  refine .trans ?_ (run_served _ (.observe .socketOpen))
  refine .trans ?_ (run_turned _ .event)
  exact (run_served _ (.connect .nil .nil)).trans (run_acted _ .accept)

/-- Nobody listens before. -/
theorem sharedBefore_silent : ∀ s ∈ sharedBefore.sockets, s.listeners = .nil :=
  silent_of_map (n := 3) rfl

/-- Packets of "/a" are as good as not there for "/b". -/
theorem shared_isolated :
    let own : List Happening := [.packet (.connect "/b" none), .packet (.event "/b" "e" []),
      .listen 2 "f" (answering 2), .packet (.event "/b" "f" [])]
    Unused fresh ∧ (∃ trace, Run fresh trace shared) ∧ shared.engine.state = .opened ∧
      Confined shared ∧ (∀ x ∈ arrivals, shared.Admits shared.StaysIn x) ∧
      shared.AllCalls (Discreet "/b") ∧ (∀ x ∈ arrivals, shared.Admits (Discreet "/b") x) ∧
      SteadyWrites MemoryTransport ∧ arrivals.filter (shared.isOf "/b") = own ∧
      shared.outcomesOf "/b" arrivals = shared.outcomesOf "/b" own ∧
      (shared.happenAll arrivals).noticesOf "/b" = (shared.happenAll own).noticesOf "/b" ∧
      (shared.happenAll arrivals).sentFor "/b" = (shared.happenAll own).sentFor "/b" := by
  intro own
  obtain ⟨_, hbefore⟩ := exists_run sharedBefore_run
  have hfiled : Filed sharedBefore := hbefore.filed fresh_unused
  have hconfined : Confined shared := by
    refine Confined.on (allCalls_of_silent sharedBefore_silent _) hfiled (fun s hs e he a ha => ?_) "e"
    obtain rfl := List.mem_singleton.1 ha
    intro t ht
    rw [Option.some.inj (ht.symm.trans hs)]
  have hdiscreet : shared.AllCalls (Discreet "/b") := by
    refine AllCalls.on (allCalls_of_silent sharedBefore_silent _) hfiled (fun s hs e he a ha => ?_) "e"
    obtain rfl := List.mem_singleton.1 ha
    exact fun _ => rfl
  -- The only listener that comes in is one more for the socket of "/b".
  have hadmits {r : String → Call → Prop}
      (hr : ∀ s, shared.socket? 2 = some s → r s.ns (.emit 2 "answer" [] none)) :
      ∀ x ∈ arrivals, shared.Admits r x := by
    intro x hx
    cases x with
    | packet p => trivial
    | listen id name listener =>
      obtain ⟨rfl, rfl, rfl⟩ : id = 2 ∧ name = "f" ∧ listener = answering 2 := by
        simpa [arrivals] using hx
      intro s hs e he a ha
      obtain rfl := List.mem_singleton.1 ha
      exact hr s hs
  have hstays : ∀ x ∈ arrivals, shared.Admits shared.StaysIn x :=
    hadmits fun s hs t ht => by rw [Option.some.inj (ht.symm.trans hs)]
  have hlater : ∀ x ∈ arrivals, shared.Admits (Discreet "/b") x := hadmits fun s hs _ => rfl
  obtain ⟨trace, hrun⟩ : ∃ trace, Run fresh trace shared :=
    exists_run (sharedBefore_run.tail (.on _ 2 "e" (answering 2)))
  have hopen : shared.engine.state = .opened := by decide +kernel
  have hfilter : arrivals.filter (shared.isOf "/b") = own := rfl
  obtain ⟨houtcomes, -, -, -, hnotices, hsent⟩ :=
    namespaces_isolated fresh_unused hrun hopen "/b" arrivals hconfined hstays
  rw [hfilter] at houtcomes hnotices hsent
  exact ⟨fresh_unused, ⟨trace, hrun⟩, hopen, hconfined, hstays, hdiscreet, hlater, steadyWrites_memory,
    hfilter, houtcomes, hnotices hdiscreet hlater, hsent steadyWrites_memory⟩

/-! ## What namespaces share -/

/-- A listener that has the client report no more on sockets.  It touches none. -/
def silencing : Listener where
  label := 8
  react _ := { calls := [.ignoreSockets] }

/-- A listener that replies. -/
def replying : Listener where
  label := 9
  react _ := { replies := [[]] }

/-- The first namespace has a listener that touches no socket. -/
def silenced : Client MemoryTransport := sharedBefore.on 1 "e" silencing

/-- Over a transport whose peer does not wait, the session is open, and a namespace was asked for. -/
def pairedBefore : Client RestlessTransport :=
  let c := (settled.call (.connect .nil .nil)).advanced .command
  let c := { c with transport := c.transport.move (.act .accept) }.advanced .event
  (c.call (.join "/b")).advanced .command

/-- It and the default namespace reply to events, and the peer is going to drop the connection as soon as
a frame is written. -/
def paired : Client RestlessTransport :=
  let c := (pairedBefore.on 0 "e" replying).on 1 "e" replying
  { c with transport := { c.transport with script := [[], [.act .drop]] } }

theorem pairedBefore_run : Relation.ReflTransGen Interleaved settled pairedBefore := by
  have hconnect := Relation.ReflTransGen.single (Interleaved.call settled (.connect .nil .nil))
  have hdialed := hconnect.tail (interleaved_advanced (t := .command) (by decide +kernel))
  have haccepted := hdialed.tail (.peer _ (.act .accept))
  have hopened := haccepted.tail (interleaved_advanced (t := .event) (by decide +kernel))
  have hasked := hopened.tail (.call _ (.join "/b"))
  exact hasked.tail (interleaved_advanced (t := .command) (by decide +kernel))

/-- Its listeners make no calls. -/
theorem paired_confined : Confined paired := by
  have hsilent : ∀ s ∈ pairedBefore.sockets, s.listeners = .nil := silent_of_map (n := 2) rfl
  have hsettled := settled_untouched.toUnused
  obtain ⟨_, hrun⟩ := exists_run_of (fun _ _ => Interleaved.move) pairedBefore_run
  have hfirst : (pairedBefore.on 0 "e" replying).AllCalls paired.StaysIn :=
    (allCalls_of_silent hsilent _).on (hrun.filed hsettled)
      (fun _ _ _ _ _ ha => (List.not_mem_nil ha).elim) "e"
  have hboth : ((pairedBefore.on 0 "e" replying).on 1 "e" replying).AllCalls paired.StaysIn :=
    hfirst.on ((hrun.move (.on _ 0 "e" replying)).filed hsettled)
      (fun _ _ _ _ _ ha => (List.not_mem_nil ha).elim) "e"
  exact hboth

/-- An event that asks for a reply. -/
def ping (ns : String) : Happening := .packet ((Packet.event ns "e" []).withId 1)

/-- **What namespaces share.**  A listener of "/a" that touches no socket keeps it from the application
that "/b" is open.  And a reply to an event of the default namespace is the last that goes out, if the
peer drops the connection at it: the reply to the event of "/b" behind it does not. -/
theorem namespaces_share :
    Unused fresh ∧ (∃ trace, Run fresh trace silenced) ∧ silenced.engine.state = .opened ∧
      Confined silenced ∧
      (silenced.happenAll [.packet (.event "/a" "e" []), .packet (.connect "/b" none)]).noticesOf "/b" ≠
        (silenced.happenAll [.packet (.connect "/b" none)]).noticesOf "/b" ∧
      Unused settled ∧ (∃ trace, Run settled trace paired) ∧ paired.engine.state = .opened ∧
      Confined paired ∧
      (paired.happenAll [ping "/", ping "/b"]).sentFor "/b" ≠
        (paired.happenAll [ping "/b"]).sentFor "/b" := by
  obtain ⟨_, hbefore⟩ := exists_run sharedBefore_run
  have hsilenced : Confined silenced := by
    refine Confined.on (allCalls_of_silent sharedBefore_silent _) (hbefore.filed fresh_unused)
      (fun s hs e he a ha => ?_) "e"
    obtain rfl := List.mem_singleton.1 ha
    trivial
  have hpaired : Relation.ReflTransGen Interleaved settled paired :=
    ((pairedBefore_run.tail (.on _ 0 "e" replying)).tail (.on _ 1 "e" replying)).tail
      (.plan _ [[], [.act .drop]])
  exact ⟨fresh_unused, exists_run (sharedBefore_run.tail (.on _ 1 "e" silencing)), by decide +kernel,
    hsilenced, by decide +kernel, settled_untouched.toUnused,
    exists_run_of (fun _ _ => Interleaved.move) hpaired,
    by decide +kernel, paired_confined, by decide +kernel⟩

end Client

end RealtimeClient
