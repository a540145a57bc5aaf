import Mathlib
import RealtimeClient.Proofs.Client.Front
import RealtimeClient.Proofs.Client.Lives
import RealtimeClient.Proofs.Socket.Belonging

/-!
# What a namespace sees

A namespace sees its entry in the registry of a client and the sockets that were made for it.  While the
session is open, packets for it and listeners that its sockets are given change that view as the view
alone tells, and what happens in other namespaces changes nothing of it, if listeners touch no socket of
another namespace.

* `View` — the view, with what calls and packets make of it; `Client.view` — that of a client.
* `Confined` — listeners touch no socket of another namespace; `Confined.on` — registering one keeps it so.
* `Shrinks` — no entry of the registry, no socket and no listener comes in.
* `view_call`, `view_callAll`, `view_dispatch` — calls, and what follows from a socket's work.
* `receiver?`, `outcome?` — the socket that a packet goes to, and what it makes of it.
* `Happening` — a packet, or a listener that is registered; `isOf` — in which namespace.
* `Partitioned.view_route`, `Partitioned.view_happen`, **`Partitioned.view_happenAll`** — one packet, one
  happening, and a sequence of them.
-/

namespace RealtimeClient

open Socket (Operation Outcome)

/-- **What a call does to a socket at once**, apart from what it leaves to the task. -/
def Call.edit? : Call → Option (SocketId × Operation)
  | .off id name => some (id, .off name)
  | .offAll id => some (id, .offAll)
  | .onError id label => some (id, .setErrorListener (some label))
  | .offError id => some (id, .setErrorListener none)
  | .setAuth id auth => some (id, .setAuth auth)
  | _ => none

theorem Call.edit?_ne_on {a : Call} {id : SocketId} {op : Operation} (h : a.edit? = some (id, op))
    (name : String) (listener : Listener) : op ≠ .on name listener := by
  rintro rfl
  cases a <;> cases h

/-- **What happens while packets come in**: a packet is handed on, or a socket is given a listener, in
place of the one that it has for the event.  A listener with a state of its own is one that is registered
anew whenever that state changes. -/
inductive Happening
  | packet (p : Packet)
  | listen (id : SocketId) (name : String) (listener : Listener)

/-! ## The view -/

/-- **What a namespace sees of a client**: its entry in the registry, and its sockets. -/
structure View where
  registered : Option SocketId
  socket : SocketId → Option Socket

namespace View

/-- An operation on a socket, if the namespace sees it. -/
def operate (v : View) (id : SocketId) (op : Operation) : View :=
  { v with
    socket := fun key => if id = key then (v.socket key).map fun s => (s.step op).1 else v.socket key }

/-- A call. -/
def call (v : View) (a : Call) : View :=
  match a.edit? with
  | some (id, op) => v.operate id op
  | none => v

/-- The socket that a packet for the namespace goes to. -/
def receiver? (v : View) : Option (SocketId × Socket) :=
  v.registered.bind fun id => (v.socket id).map (id, ·)

/-- What the namespace's socket makes of a packet. -/
def outcome? (v : View) (p : Packet) : Option Outcome := v.receiver?.map fun r => (r.2.receive p).2

/-- **A packet for the namespace.** -/
def route (v : View) (p : Packet) : View :=
  match v.receiver? with
  | none => v
  | some (id, s) =>
    let v := (s.receive p).2.calls.foldl call (v.operate id (.receive p))
    if (s.receive p).2.fails = false ∧ (s.receive p).2.lifecycle = some .disconnected then
      { v with registered := none }
    else v

/-- **What happens in the namespace.** -/
def happen (v : View) : Happening → View
  | .packet p => v.route p
  | .listen id name listener => v.operate id (.on name listener)

/-- What the namespace's socket makes of it, if it is a packet. -/
def outcomeOf? (v : View) : Happening → Option Outcome
  | .packet p => v.outcome? p
  | .listen .. => none

/-- What the namespace's sockets make of what happens, one thing after the other. -/
def outcomes (v : View) : List Happening → List Outcome
  | [] => []
  | x :: rest => (v.outcomeOf? x).toList ++ (v.happen x).outcomes rest

theorem operate_of_none {v : View} {id : SocketId} (h : v.socket id = none) (op : Operation) :
    v.operate id op = v := by
  have hsocket : (fun key => if id = key then (v.socket key).map fun s => (s.step op).1
      else v.socket key) = v.socket := by
    funext key
    split
    · next hkey => rw [← hkey, h, Option.map_none]
    · rfl
  rw [operate, hsocket]

end View

namespace Client

variable {τ : Type}

/-- The namespace of a socket. -/
def home? (c : Client τ) (id : SocketId) : Option String := (c.socket? id).map Socket.ns

/-- What a namespace sees of a client. -/
def view (c : Client τ) (ns : String) : View where
  registered := c.registered? ns
  socket id := (c.socket? id).filter fun s => s.ns = ns

/-! ## Listeners that keep to their namespaces -/

/-- **A call stays in a namespace**, as far as it concerns sockets. -/
def StaysIn (c : Client τ) (ns : String) : Call → Prop
  | .join name => normalizeNamespace name = ns
  | .emit id .. | .leave id | .off id _ | .offAll id | .onError id _ | .offError id | .setAuth id _ =>
    ∀ s, c.socket? id = some s → s.ns = ns
  | _ => True

/-- **What all calls of listeners are like**, whatever event of their namespaces they get. -/
def AllCalls (c : Client τ) (r : String → Call → Prop) : Prop :=
  ∀ ns id s, c.registered? ns = some id → c.socket? id = some s →
    ∀ name listener, s.listeners.get? name = some listener →
      ∀ e : Event, e.ns = ns → ∀ a ∈ (listener.react e).calls, r ns a

/-- **Listeners touch no socket of another namespace.** -/
def Confined (c : Client τ) : Prop := c.AllCalls c.StaysIn

variable {c c' c'' : Client τ} {ns : String} {id : SocketId} {s : Socket} {a : Call} {p : Packet}

/-- It does not matter to a call what else there is to sockets than their namespaces. -/
theorem StaysIn.of_sockets (ha : c.StaysIn ns a)
    (h : ∀ id s', c'.socket? id = some s' → ∃ s, c.socket? id = some s ∧ s.ns = s'.ns) :
    c'.StaysIn ns a := by
  have hns (id : SocketId) (hid : ∀ s, c.socket? id = some s → s.ns = ns) (s' : Socket)
      (hs' : c'.socket? id = some s') : s'.ns = ns := by
    obtain ⟨s, hs, heq⟩ := h id s' hs'
    exact heq ▸ hid s hs
  cases a with
  | emit id name args reply => exact hns id ha
  | leave id => exact hns id ha
  | off id name => exact hns id ha
  | offAll id => exact hns id ha
  | onError id label => exact hns id ha
  | offError id => exact hns id ha
  | setAuth id auth => exact hns id ha
  | _ => exact ha

theorem AllCalls.imp {r r' : String → Call → Prop} (h : c.AllCalls r)
    (hr : ∀ ns a, r ns a → r' ns a) : c.AllCalls r' :=
  fun ns id s hns hs name listener hget e he a ha =>
    hr ns a (h ns id s hns hs name listener hget e he a ha)

/-- Without listeners there are no calls of listeners. -/
theorem allCalls_of_silent (h : ∀ s ∈ c.sockets, s.listeners = .nil) (r : String → Call → Prop) :
    c.AllCalls r := by
  intro ns id s hns hs name listener hget
  rw [h s (List.mem_of_getElem? hs)] at hget
  cases hget

/-- **A listener is registered.**  It is enough that its own calls are such. -/
theorem AllCalls.on {r : String → Call → Prop} (h : c.AllCalls r) (hf : Filed c) {listener : Listener}
    (hl : ∀ s, c.socket? id = some s → ∀ e : Event, e.ns = s.ns →
      ∀ a ∈ (listener.react e).calls, r s.ns a) (name : String) :
    (c.on id name listener).AllCalls r := by
  intro ns key s' hns hs' event l hget e he a ha
  have hns' : c.registered? ns = some key := hns
  rw [Client.on, socket?_modifySocket] at hs'
  split at hs'
  · next hkey =>
    obtain ⟨s, hs, rfl⟩ := Option.map_eq_some_iff.1 hs'
    rw [Socket.get?_listeners_on] at hget
    split at hget
    · obtain rfl := Option.some.inj hget
      have hsns : s.ns = ns := hf.ns_eq hns' hs
      exact hsns ▸ hl s (hkey ▸ hs) e (he.trans hsns.symm) a ha
    · exact h ns key s hns' hs event l hget e he a ha
  · exact h ns key s' hns' hs' event l hget e he a ha

/-- **A listener that keeps to the namespace of its socket may be registered.** -/
theorem Confined.on (h : Confined c) (hf : Filed c) {listener : Listener}
    (hl : ∀ s, c.socket? id = some s → ∀ e : Event, e.ns = s.ns →
      ∀ a ∈ (listener.react e).calls, c.StaysIn s.ns a) (name : String) :
    Confined (c.on id name listener) := by
  refine (AllCalls.on h hf hl name).imp fun ns a ha => ha.of_sockets fun key s' hs' => ?_
  rw [Client.on, socket?_modifySocket] at hs'
  split at hs'
  · obtain ⟨s, hs, rfl⟩ := Option.map_eq_some_iff.1 hs'
    exact ⟨s, hs, rfl⟩
  · exact ⟨s', hs', rfl⟩

/-- **Nothing comes in**: no entry of the registry, no socket and no listener. -/
structure Shrinks (c c' : Client τ) : Prop where
  entries : ∀ ns id, c'.registered? ns = some id → c.registered? ns = some id
  sockets : ∀ id s', c'.socket? id = some s' → ∃ s, c.socket? id = some s ∧ s.ns = s'.ns ∧
    ∀ name listener, s'.listeners.get? name = some listener → s.listeners.get? name = some listener

namespace Shrinks

theorem of_apart (h : Apart c c') : Shrinks c c' where
  entries ns _ hns := (h.registered? ns).symm.trans hns
  sockets id s hs := ⟨s, (h.socket? id).symm.trans hs, rfl, fun _ _ hl => hl⟩

theorem trans (h : Shrinks c c') (h' : Shrinks c' c'') : Shrinks c c'' where
  entries ns id hns := h.entries ns id (h'.entries ns id hns)
  sockets id s'' hs'' := by
    obtain ⟨s', hs', hns', hl'⟩ := h'.sockets id s'' hs''
    obtain ⟨s, hs, hns, hl⟩ := h.sockets id s' hs'
    exact ⟨s, hs, hns.trans hns', fun name l hget => hl name l (hl' name l hget)⟩

theorem staysIn (h : Shrinks c c') (ha : c.StaysIn ns a) : c'.StaysIn ns a :=
  ha.of_sockets fun id s' hs' => by
    obtain ⟨s, hs, hns, -⟩ := h.sockets id s' hs'
    exact ⟨s, hs, hns⟩

theorem allCalls (h : Shrinks c c') {r : String → Call → Prop} (hc : c.AllCalls r) :
    c'.AllCalls r := by
  intro ns id s' hns hs' name listener hget
  obtain ⟨s, hs, -, hl⟩ := h.sockets id s' hs'
  exact hc ns id s (h.entries ns id hns) hs name listener (hl name listener hget)

end Shrinks

/-- Operations that register no listener. -/
theorem shrinks_operate {op : Operation} (hop : ∀ name listener, op ≠ .on name listener)
    (id : SocketId) : Shrinks c (c.modifySocket id fun s => (s.step op).1) where
  entries _ _ hns := hns
  sockets key s' hs' := by
    rw [socket?_modifySocket] at hs'
    split at hs'
    · obtain ⟨s, hs, rfl⟩ := Option.map_eq_some_iff.1 hs'
      exact ⟨s, hs, (s.step_ns op).symm, fun _ _ => Socket.get?_listeners_step hop⟩
    · exact ⟨s', hs', rfl, fun _ _ hget => hget⟩

/-! ## Calls -/

/-- A call that concerns a socket is an operation on it. -/
theorem call_of_edit {op : Operation} (h : a.edit? = some (id, op)) :
    c.call a = c.modifySocket id fun s => (s.step op).1 := by
  cases a <;> cases h <;> rfl

/-- Any other call leaves the sockets alone: the namespace that it asks for has its socket. -/
theorem apart_call (h : a.edit? = none) (hns : (c.registered? ns).isSome = true)
    (ha : c.StaysIn ns a) : Apart c (c.call a) := by
  cases a with
  | join name =>
    have hname : normalizeNamespace name = ns := ha
    obtain ⟨id, hid⟩ := Option.isSome_iff_exists.1 hns
    simp only [call, joinSocket, hname, hid]
    rfl
  | emit id name args reply => exact apart_pushFor id fun ns => .emit ns name args reply
  | leave id => exact apart_pushFor id _
  | connect query headers => exact apart_push _
  | close => exact apart_push _
  | shutdown => exact apart_push _
  | setAttempts attempts => exact apart_push _
  | setDelay delay => exact apart_push _
  | setDelayMax delay => exact apart_push _
  | observe report => exact ⟨rfl, rfl⟩
  | ignoreSession => exact ⟨rfl, rfl⟩
  | ignoreSockets => exact ⟨rfl, rfl⟩
  | _ => cases h

/-- The socket that a call edits is one of the namespace. -/
theorem StaysIn.ns_eq {op : Operation} (h : a.edit? = some (id, op)) (ha : c.StaysIn ns a)
    (hs : c.socket? id = some s) : s.ns = ns := by
  cases a <;> cases h <;> exact ha s hs

theorem view_of_apart (h : Apart c c') (n : String) : c'.view n = c.view n := by
  simp only [view, h.registered?, h.socket?]

/-- **An operation on a socket, as namespaces see it.** -/
theorem view_operate (id : SocketId) (op : Operation) (n : String) :
    (c.modifySocket id fun s => (s.step op).1).view n = (c.view n).operate id op := by
  have hsocket (key : SocketId) :
      ((c.modifySocket id fun s => (s.step op).1).socket? key).filter (fun s => s.ns = n) =
        if id = key then ((c.socket? key).filter fun s => s.ns = n).map fun s => (s.step op).1
        else (c.socket? key).filter fun s => s.ns = n := by
    rw [socket?_modifySocket]
    split
    · cases c.socket? key with
      | none => rfl
      | some s => by_cases hn : s.ns = n <;> simp [Option.filter, hn]
    · rfl
  simp only [view, View.operate, hsocket]
  rfl

theorem view_socket_of_ne {n : String} (h : ∀ s, c.socket? id = some s → s.ns ≠ n) :
    (c.view n).socket id = none := by
  cases hs : c.socket? id with
  | none => simp [view, hs]
  | some s => simp [view, hs, h s hs]

/-- **A call that stays in a namespace**, as namespaces see it: no other one sees anything. -/
theorem view_call (hns : (c.registered? ns).isSome = true) (ha : c.StaysIn ns a) (n : String) :
    (c.call a).view n = if ns = n then (c.view n).call a else c.view n := by
  cases hedit : a.edit? with
  | none =>
    have hcall : (c.view n).call a = c.view n := by simp only [View.call, hedit]
    rw [view_of_apart (apart_call hedit hns ha) n, hcall, ite_self]
  | some edit =>
    obtain ⟨id, op⟩ := edit
    have hcall : (c.view n).call a = (c.view n).operate id op := by simp only [View.call, hedit]
    rw [call_of_edit hedit, view_operate, hcall]
    split
    · rfl
    · next hne =>
      refine View.operate_of_none (view_socket_of_ne fun s hs hn => hne ?_) op
      rw [← hn, ha.ns_eq hedit hs]

theorem shrinks_call (hns : (c.registered? ns).isSome = true) (ha : c.StaysIn ns a) :
    Shrinks c (c.call a) := by
  cases hedit : a.edit? with
  | none => exact .of_apart (apart_call hedit hns ha)
  | some edit =>
    rw [call_of_edit hedit]
    exact shrinks_operate (Call.edit?_ne_on hedit) _

theorem registered?_call (hns : (c.registered? ns).isSome = true) (ha : c.StaysIn ns a) (n : String) :
    (c.call a).registered? n = c.registered? n := by
  cases hedit : a.edit? with
  | none => exact (apart_call hedit hns ha).registered? n
  | some edit =>
    rw [call_of_edit hedit]
    rfl

/-- **Calls that stay in a namespace**, one after the other. -/
theorem view_callAll {calls : List Call} (hns : (c.registered? ns).isSome = true)
    (hcalls : ∀ a ∈ calls, c.StaysIn ns a) (n : String) :
    Shrinks c (c.callAll calls) ∧
      (c.callAll calls).view n = if ns = n then calls.foldl View.call (c.view n) else c.view n := by
  induction calls generalizing c with
  | nil => exact ⟨.of_apart (.refl c), by simp [callAll]⟩
  | cons a rest ih =>
    have ha : c.StaysIn ns a := hcalls a List.mem_cons_self
    have hshrinks := shrinks_call hns ha
    obtain ⟨hrest, hview⟩ := ih ((registered?_call hns ha ns).symm ▸ hns) fun b hb =>
      hshrinks.staysIn (hcalls b (List.mem_cons_of_mem _ hb))
    refine ⟨hshrinks.trans hrest, hview.trans ?_⟩
    rw [view_call hns ha]
    split <;> rfl

/-! ## Packets -/

theorem modifySocket_congr {f g : Socket → Socket}
    (h : ∀ s, c.socket? id = some s → f s = g s) : c.modifySocket id f = c.modifySocket id g := by
  have hsockets : c.sockets.modify id f = c.sockets.modify id g := by
    refine List.ext_getElem? fun key => ?_
    rw [List.getElem?_modify, List.getElem?_modify]
    split
    · next hkey =>
      subst hkey
      cases hs : c.sockets[id]? with
      | none => rfl
      | some s => simp [h s hs]
    · rfl
  rw [modifySocket, modifySocket, hsockets]

/-- **The socket that a packet goes to**, while the session is open. -/
def receiver? (c : Client τ) (p : Packet) : Option (SocketId × Socket) :=
  if c.engine.state ≠ .opened then none
  else (c.registered? p.ns).bind fun id => (c.socket? id).map (id, ·)

/-- **What that socket makes of it.** -/
def outcome? (c : Client τ) (p : Packet) : Option Outcome :=
  (c.receiver? p).map fun r => (r.2.receive p).2

/-- The client once the socket has got the packet, before its listener makes calls. -/
def told (c : Client τ) (id : SocketId) (s : Socket) (p : Packet) : Client τ :=
  (s.receive p).2.notices.foldl report (c.modifySocket id fun _ => (s.receive p).1)

/-- The client once the listener has made its calls. -/
def received (c : Client τ) (id : SocketId) (s : Socket) (p : Packet) : Client τ :=
  (c.told id s p).callAll (s.receive p).2.calls

theorem apart_told (id : SocketId) (s : Socket) (p : Packet) :
    Apart (c.modifySocket id fun _ => (s.receive p).1) (c.told id s p) :=
  Apart.foldl (fun _ n => apart_report n) _ _

theorem core_told (id : SocketId) (s : Socket) (p : Packet) : (c.told id s p).core = c.core :=
  core_foldl (fun _ n => core_report n) _ _

theorem front_told (id : SocketId) (s : Socket) (p : Packet) : (c.told id s p).front = c.front :=
  front_foldl (fun _ n => front_report n) _ _

theorem receiver?_eq_some :
    c.receiver? p = some (id, s) ↔
      c.engine.state = .opened ∧ c.registered? p.ns = some id ∧ c.socket? id = some s := by
  rw [receiver?]
  by_cases hopen : c.engine.state = .opened
  · rw [if_neg (not_not.2 hopen)]
    constructor
    · intro h
      obtain ⟨key, hns, h⟩ := Option.bind_eq_some_iff.1 h
      obtain ⟨t, ht, heq⟩ := Option.map_eq_some_iff.1 h
      obtain ⟨rfl, rfl⟩ := Prod.mk.inj heq
      exact ⟨hopen, hns, ht⟩
    · rintro ⟨-, hns, hs⟩
      simp [hns, hs]
  · simp [hopen]

/-- Every queue holds messages of its own namespace. -/
def AllHomely (c : Client τ) : Prop :=
  ∀ ns id s, c.registered? ns = some id → c.socket? id = some s → s.Homely

theorem Lives.allHomely (h : Lives c c') (hf : Filed c) (hc : AllHomely c) : AllHomely c' := by
  intro ns id s' hns hs'
  rcases h.entries ns id hns with hold | ⟨-, t, ht, -, ops, rfl⟩
  · obtain ⟨s, hs, -⟩ := hf ns id hold
    obtain ⟨t, ht, -, hlives⟩ := h.sockets id s hs
    obtain ⟨ops, rfl⟩ := hlives ⟨ns, hns⟩
    exact Option.some.inj (ht.symm.trans hs') ▸ (hc ns id s hold hs).after ops
  · exact Option.some.inj (ht.symm.trans hs') ▸ (Socket.Homely.new ns).after ops

/-- **What the routing of packets relies on.** -/
structure Partitioned (c : Client τ) : Prop where
  opened : c.engine.state = .opened
  filed : Filed c
  homely : AllHomely c
  confined : Confined c

/-- What a socket makes of a packet concerns the packet's namespace. -/
theorem Partitioned.concerns (h : Partitioned c) (hr : c.receiver? p = some (id, s)) :
    (s.receive p).2.Concerns p.ns := by
  obtain ⟨-, hns, hs⟩ := receiver?_eq_some.1 hr
  exact h.filed.ns_eq hns hs ▸ (h.homely p.ns id s hns hs).concerns p

/-- The namespace sees where its packets go. -/
theorem Partitioned.receiver?_view (h : Partitioned c) (p : Packet) :
    (c.view p.ns).receiver? = c.receiver? p := by
  rw [receiver?, if_neg (not_not.2 h.opened)]
  cases hns : c.registered? p.ns with
  | none => simp [View.receiver?, view, hns]
  | some id =>
    obtain ⟨s, hs, hs'⟩ := h.filed p.ns id hns
    simp [View.receiver?, view, hns, hs, hs']

/-- What a packet's receiver gets, as namespaces see it. -/
theorem Partitioned.view_received (h : Partitioned c) (hr : c.receiver? p = some (id, s)) (n : String) :
    Shrinks c (c.received id s p) ∧
      (c.received id s p).view n =
        if p.ns = n then (s.receive p).2.calls.foldl View.call ((c.view n).operate id (.receive p))
        else c.view n := by
  obtain ⟨-, hns, hs⟩ := receiver?_eq_some.1 hr
  have hsns : s.ns = p.ns := h.filed.ns_eq hns hs
  have hoperate : c.modifySocket id (fun _ => (s.receive p).1) =
      c.modifySocket id fun t => (t.step (.receive p)).1 :=
    modifySocket_congr fun t ht => by
      obtain rfl : s = t := Option.some.inj (hs.symm.trans ht)
      rfl
  have hshrinks : Shrinks c (c.told id s p) := by
    refine Shrinks.trans ?_ (.of_apart (apart_told id s p))
    rw [hoperate]
    exact shrinks_operate (by simp) id
  have hstays : ∀ a ∈ (s.receive p).2.calls, c.StaysIn p.ns a := by
    intro a ha
    obtain ⟨name, listener, e, hget, he, ha⟩ := Socket.mem_calls_receive ha
    exact h.confined p.ns id s hns hs name listener hget e (he.trans hsns) a ha
  have hregistered : ((c.told id s p).registered? p.ns).isSome = true := by
    rw [(apart_told id s p).registered?]
    exact Option.isSome_iff_exists.2 ⟨id, hns⟩
  obtain ⟨hcalls, hview⟩ := view_callAll hregistered (fun a ha => hshrinks.staysIn (hstays a ha)) n
  refine ⟨hshrinks.trans hcalls, hview.trans ?_⟩
  rw [view_of_apart (apart_told id s p), hoperate, view_operate]
  split
  · rfl
  · next hne =>
    refine View.operate_of_none (view_socket_of_ne fun t ht htn => hne ?_) _
    obtain rfl : s = t := Option.some.inj (hs.symm.trans ht)
    exact hsns.symm.trans htn

section Transport

variable [Transport τ]

theorem route_of_none (h : c.receiver? p = none) : c.route p = c := by
  rw [route]
  split
  · rfl
  · next hs =>
    split
    · rfl
    · next id hns =>
      split
      · rfl
      · next s hs' =>
        rw [receiver?_eq_some.2 ⟨not_not.1 hs, hns, hs'⟩] at h
        cases h

theorem route_of_some (h : c.receiver? p = some (id, s)) :
    c.route p =
      if (s.receive p).2.fails then { c.received id s p with phase := .failed, commands := [] }
      else ((c.received id s p).dispatch p.ns (s.receive p).2).updateAckGauge := by
  obtain ⟨hopen, hns, hs⟩ := receiver?_eq_some.1 h
  simp only [route, hopen, hns, hs, received]
  rfl

/-- **What follows from a socket's work**, as namespaces see it. -/
theorem view_dispatch (o : Outcome) (n : String) :
    (c.dispatch ns o).view n =
      if ns = n ∧ o.lifecycle = some .disconnected then { c.view n with registered := none }
      else c.view n := by
  by_cases ho : o.lifecycle = some .disconnected
  · have hdispatch : c.dispatch ns o =
        { c.sendAll o.outbound with
          registry := (c.sendAll o.outbound).registry.erase ns }.notifySocketClose ns := by
      simp only [dispatch, ho]
    have hsent : Apart c (c.sendAll o.outbound) := apart_sendAll _
    rw [hdispatch, view_of_apart (apart_notifySocketClose ns)]
    simp only [view, registered?_erase, hsent.registered?, ho, and_true]
    have hsocket (id : SocketId) : ({ c.sendAll o.outbound with
        registry := (c.sendAll o.outbound).registry.erase ns } : Client τ).socket? id =
          c.socket? id := hsent.socket? id
    simp only [hsocket]
    by_cases hn : n = ns
    · simp [hn]
    · simp [hn, Ne.symm hn]
  · rw [view_of_apart (apart_dispatch ns ho)]
    simp [ho]

theorem shrinks_dispatch (o : Outcome) : Shrinks c (c.dispatch ns o) := by
  have hsent : Shrinks c (c.sendAll o.outbound) := .of_apart (apart_sendAll _)
  unfold dispatch
  dsimp only
  split
  · exact hsent
  · exact hsent.trans (.of_apart (apart_notifySocketOpen ns))
  · have herased : Shrinks (c.sendAll o.outbound) { c.sendAll o.outbound with
        registry := (c.sendAll o.outbound).registry.erase ns } := by
      refine ⟨fun key id hkey => ?_, fun id s' hs' => ⟨s', hs', rfl, fun _ _ hl => hl⟩⟩
      rw [registered?_erase] at hkey
      split at hkey
      · cases hkey
      · exact hkey
    exact (hsent.trans herased).trans (.of_apart (apart_notifySocketClose ns))

/-- **A packet, as namespaces see it.**  For its own namespace it is what the namespace's view makes of
it; no other one sees anything. -/
theorem Partitioned.view_route (h : Partitioned c) (p : Packet) (n : String) :
    Shrinks c (c.route p) ∧
      (c.route p).view n = if p.ns = n then (c.view n).route p else c.view n := by
  cases hr : c.receiver? p with
  | none =>
    rw [route_of_none hr]
    refine ⟨.of_apart (.refl c), ?_⟩
    split
    · next hn =>
      have hnone : (c.view n).receiver? = none := hn ▸ (h.receiver?_view p).trans hr
      simp only [View.route, hnone]
    · rfl
  | some receiver =>
    obtain ⟨id, s⟩ := receiver
    obtain ⟨hshrinks, hview⟩ := h.view_received hr n
    have hroute (hn : p.ns = n) : (c.view n).receiver? = some (id, s) :=
      hn ▸ (h.receiver?_view p).trans hr
    rw [route_of_some hr]
    cases hfails : (s.receive p).2.fails with
    | true =>
      have hfailed : Apart (c.received id s p)
          { c.received id s p with phase := .failed, commands := [] } := ⟨rfl, rfl⟩
      refine ⟨hshrinks.trans (.of_apart hfailed), ?_⟩
      rw [if_pos rfl, view_of_apart hfailed, hview]
      split
      · next hn => simp [View.route, hroute hn, hfails]
      · rfl
    | false =>
      refine ⟨(hshrinks.trans (shrinks_dispatch _)).trans (.of_apart apart_updateAckGauge), ?_⟩
      rw [if_neg (by simp), view_of_apart apart_updateAckGauge, view_dispatch, hview]
      by_cases hn : p.ns = n
      · simp [View.route, hroute hn, hfails, hn]
      · simp [hn]

theorem engine_route (c : Client τ) (p : Packet) : (c.route p).engine = c.engine := by
  rcases core_route (c := c) p with hcore | hcore <;> exact congrArg Core.engine hcore

/-! ## Sequences -/

/-- **Something happens.** -/
def happen (c : Client τ) : Happening → Client τ
  | .packet p => c.route p
  | .listen id name listener => c.on id name listener

/-- **It happens in a namespace**: a packet is for it, or the socket that is given a listener is its. -/
def isOf (c : Client τ) (n : String) : Happening → Bool
  | .packet p => p.ns = n
  | .listen id _ _ => c.home? id = some n

/-- **What the calls of a listener are like** that is registered. -/
def Admits (c : Client τ) (r : String → Call → Prop) : Happening → Prop
  | .packet _ => True
  | .listen id _ listener =>
    ∀ s, c.socket? id = some s → ∀ e : Event, e.ns = s.ns → ∀ a ∈ (listener.react e).calls, r s.ns a

theorem lives_happen (x : Happening) : Lives c (c.happen x) := by
  cases x with
  | packet p => exact lives_route p
  | listen id name listener => exact lives_on id name listener

namespace Partitioned

variable {x : Happening}

/-- Sockets keep to their namespaces, and none comes in. -/
theorem home?_happen (h : Partitioned c) (x : Happening) (id : SocketId) :
    (c.happen x).home? id = c.home? id := by
  cases x with
  | packet p =>
    cases hs : c.socket? id with
    | some s =>
      obtain ⟨s', hs', hns, -⟩ := (lives_route p).sockets id s hs
      simp [home?, happen, hs, hs', hns]
    | none =>
      cases hs' : (c.route p).socket? id with
      | none => simp [home?, happen, hs, hs']
      | some s' =>
        obtain ⟨s, hsome, -⟩ := (h.view_route p p.ns).1.sockets id s' hs'
        rw [hs] at hsome
        cases hsome
  | listen key name listener =>
    simp only [home?, happen, Client.on, socket?_modifySocket]
    split
    · cases c.socket? id <;> rfl
    · rfl

theorem isOf_happen (h : Partitioned c) (x : Happening) (n : String) :
    (c.happen x).isOf n = c.isOf n := by
  funext y
  cases y with
  | packet p => rfl
  | listen id name listener => simp only [isOf, h.home?_happen x id]

/-- A socket that is there after something has happened was there before. -/
theorem socket?_of_happen (h : Partitioned c) {s' : Socket} (hs' : (c.happen x).socket? id = some s') :
    ∃ s, c.socket? id = some s ∧ s.ns = s'.ns := by
  have hhome := h.home?_happen x id
  simp only [home?, hs', Option.map_some] at hhome
  exact Option.map_eq_some_iff.1 hhome.symm

/-- A listener that may be registered may be registered later, too. -/
theorem admits_happen (h : Partitioned c) {r r' : String → Call → Prop} {y : Happening}
    (hy : c.Admits r y) (hr : ∀ ns a, r ns a → r' ns a) : (c.happen x).Admits r' y := by
  cases y with
  | packet p => trivial
  | listen id name listener =>
    intro s' hs' e he a ha
    obtain ⟨s, hs, hns⟩ := h.socket?_of_happen hs'
    exact hr _ a (hns ▸ hy s hs e (he.trans hns.symm) a ha)

theorem staysIn_happen (h : Partitioned c) (ha : c.StaysIn ns a) : (c.happen x).StaysIn ns a :=
  ha.of_sockets fun _ _ hs' => h.socket?_of_happen hs'

/-- **What the calls of listeners are like** does not change. -/
theorem allCalls_happen (h : Partitioned c) {r : String → Call → Prop} (hr : c.AllCalls r)
    (hx : c.Admits r x) : (c.happen x).AllCalls r := by
  cases x with
  | packet p => exact (h.view_route p p.ns).1.allCalls hr
  | listen id name listener => exact hr.on h.filed hx name

/-- **The assumptions stay.** -/
theorem after (h : Partitioned c) (hx : c.Admits c.StaysIn x) : Partitioned (c.happen x) where
  opened := by
    cases x with
    | packet p => exact (engine_route c p).symm ▸ h.opened
    | listen id name listener => exact h.opened
  filed := (lives_happen x).filed h.filed
  homely := (lives_happen x).allHomely h.filed h.homely
  confined := (h.allCalls_happen h.confined hx).imp fun _ _ => h.staysIn_happen

/-- **Something happens, as namespaces see it.** -/
theorem view_happen (h : Partitioned c) (x : Happening) (n : String) :
    (c.happen x).view n = if c.isOf n x then (c.view n).happen x else c.view n := by
  cases x with
  | packet p => simpa [isOf, happen, View.happen] using (h.view_route p n).2
  | listen id name listener =>
    have hview : (c.happen (.listen id name listener)).view n =
        (c.view n).operate id (.on name listener) :=
      view_operate id (.on name listener) n
    rw [hview]
    split
    · rfl
    · next hne =>
      refine View.operate_of_none (view_socket_of_ne fun s hs hn => hne ?_) _
      simp [isOf, home?, hs, hn]

end Partitioned

/-- **Things happen**, one after the other. -/
def happenAll (c : Client τ) (xs : List Happening) : Client τ := xs.foldl happen c

/-- What the socket of a namespace makes of it, if it is a packet for the namespace. -/
def outcomeOf? (c : Client τ) (n : String) : Happening → Option Outcome
  | .packet p => if p.ns = n then c.outcome? p else none
  | .listen .. => none

/-- **What the sockets of a namespace make of its packets**, in order: what their listeners and
callbacks get, what is to be sent, and what becomes of the namespace. -/
def outcomesOf (c : Client τ) (n : String) : List Happening → List Outcome
  | [] => []
  | x :: rest => (c.outcomeOf? n x).toList ++ (c.happen x).outcomesOf n rest

omit [Transport τ] in
/-- What happens in a namespace has the outcome that the namespace sees. -/
theorem Partitioned.outcomeOf?_view (h : Partitioned c) {n : String} {x : Happening}
    (hx : c.isOf n x = true) : (c.view n).outcomeOf? x = c.outcomeOf? n x := by
  cases x with
  | packet p =>
    obtain rfl : p.ns = n := by simpa [isOf] using hx
    simp only [View.outcomeOf?, outcomeOf?, View.outcome?, outcome?, if_true, h.receiver?_view]
  | listen id name listener => rfl

omit [Transport τ] in
/-- What happens elsewhere has none. -/
theorem outcomeOf?_of_not {n : String} {x : Happening} (hx : ¬c.isOf n x = true) :
    c.outcomeOf? n x = none := by
  cases x with
  | packet p => exact if_neg (by simpa [isOf] using hx)
  | listen id name listener => rfl

/-- **A namespace sees what happens in it, and nothing else.** -/
theorem Partitioned.view_happenAll (h : Partitioned c) (n : String) (xs : List Happening)
    (hxs : ∀ x ∈ xs, c.Admits c.StaysIn x) :
    (c.happenAll xs).view n = (xs.filter (c.isOf n)).foldl View.happen (c.view n) ∧
      c.outcomesOf n xs = (c.view n).outcomes (xs.filter (c.isOf n)) := by
  induction xs generalizing c with
  | nil => exact ⟨rfl, rfl⟩
  | cons x rest ih =>
    have hx : c.Admits c.StaysIn x := hxs x List.mem_cons_self
    obtain ⟨hview, houtcomes⟩ := ih (h.after hx) fun y hy =>
      h.admits_happen (hxs y (List.mem_cons_of_mem _ hy)) fun _ _ => h.staysIn_happen
    rw [h.isOf_happen, h.view_happen x n] at hview houtcomes
    by_cases hn : c.isOf n x = true
    · rw [if_pos hn] at hview houtcomes
      rw [List.filter_cons_of_pos hn, outcomesOf, ← h.outcomeOf?_view hn, houtcomes]
      exact ⟨hview, rfl⟩
    · rw [if_neg hn] at hview houtcomes
      rw [List.filter_cons_of_neg hn, outcomesOf, outcomeOf?_of_not hn, houtcomes]
      exact ⟨hview, rfl⟩

end Transport

end Client

end RealtimeClient
