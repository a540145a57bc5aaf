import RealtimeClient.Proofs.Client.Registry
import RealtimeClient.Proofs.Socket.Operations

/-!
# What becomes of sockets by single operations

Setting up a socket, its listeners and its authentication, is of no consequence for the events that
wait in it and for its standing.  So a relation between sockets that is about those only holds between
all sockets of a client before and after a call; and it holds over whatever the task does with a single
socket, if it does over the operation itself.  A socket that leaves the client is not looked at any more.

* `Operation.isEdit`, `Socket.Respected` — the setting up of sockets, and the relations that it respects.
* `evolves_call`, `evolves_on` — the application's side.
* `evolves_emit`, `evolves_requestSocket`, `evolves_leaveSocket`, `evolves_closeSocket`,
  `evolves_route` — the task's.
-/

namespace RealtimeClient

namespace Socket

/-- **Whether an operation sets up a socket**: its listeners or its authentication. -/
def Operation.isEdit : Operation → Bool
  | .on .. | .off _ | .offAll | .setErrorListener _ | .setAuth _ => true
  | _ => false

/-- **A relation that is respected** by setting up sockets. -/
structure Respected (r : Socket → Socket → Prop) : Prop where
  refl : ∀ s, r s s
  trans : ∀ s₁ s₂ s₃, r s₁ s₂ → r s₂ s₃ → r s₁ s₃
  edit : ∀ (s : Socket) (op : Operation), op.isEdit = true → r s (s.step op).1

end Socket

namespace Client

open Socket (Operation Respected)

variable {τ : Type} {c c' : Client τ} {r : Socket → Socket → Prop} {id : SocketId} {s : Socket}

/-- An operation on the socket that was looked up. -/
theorem evolves_step (hr : ∀ s, r s s) (hs : c.socket? id = some s) (op : Operation)
    (hop : c.Member id → r s (s.step op).1) :
    Evolves r c (c.modifySocket id fun _ => (s.step op).1) :=
  evolves_modifySocket hr id fun s' hs' => by
    obtain rfl : s = s' := Option.some.inj (hs.symm.trans hs')
    exact ⟨s.step_ns op, hop⟩

/-- A socket whose entry is erased does not belong to the client any more: it has no other. -/
theorem Filed.not_member_erase (h : Filed c) {ns : String} (hns : c.registered? ns = some id) :
    ¬({ c with registry := c.registry.erase ns } : Client τ).Member id := by
  rintro ⟨key, hkey⟩
  rw [registered?_erase] at hkey
  split at hkey
  · cases hkey
  · next hne =>
    obtain ⟨s, hs, rfl⟩ := h ns id hns
    exact hne (h.ns_eq hkey hs).symm

/-! ## The application -/

section Application

variable (h : Respected r)

include h

theorem evolves_edit (id : SocketId) (op : Operation) (hop : op.isEdit = true) :
    Evolves r c (c.modifySocket id fun s => (s.step op).1) :=
  evolves_modifySocket h.refl id fun s _ => ⟨s.step_ns op, fun _ => h.edit s op hop⟩

theorem evolves_joinSocket (name : String) : Evolves r c (c.joinSocket name).2 := by
  unfold joinSocket
  dsimp only
  split
  · exact .of_apart h.refl (.refl c)
  · exact (evolves_addSocket h.refl _).apart (apart_push _)

/-- **A call changes sockets by setting them up only.** -/
theorem evolves_call (a : Call) : Evolves r c (c.call a) := by
  have hapart {c' : Client τ} (ha : Apart c c') : Evolves r c c' := .of_apart h.refl ha
  cases a with
  | join ns => exact evolves_joinSocket h ns
  | emit id name args reply => exact hapart (apart_pushFor id fun ns => .emit ns name args reply)
  | leave id => exact hapart (apart_pushFor id _)
  | off id name => exact evolves_edit h id (.off name) rfl
  | offAll id => exact evolves_edit h id .offAll rfl
  | onError id label => exact evolves_edit h id (.setErrorListener (some label)) rfl
  | offError id => exact evolves_edit h id (.setErrorListener none) rfl
  | setAuth id auth => exact evolves_edit h id (.setAuth auth) rfl
  | observe report => exact hapart ⟨rfl, rfl⟩
  | ignoreSession => exact hapart ⟨rfl, rfl⟩
  | ignoreSockets => exact hapart ⟨rfl, rfl⟩
  | _ => exact hapart (apart_push _)

theorem evolves_callAll (calls : List Call) : Evolves r c (c.callAll calls) :=
  Evolves.foldl h.refl h.trans (fun _ a => evolves_call h a) calls c

theorem evolves_on (id : SocketId) (name : String) (listener : Listener) :
    Evolves r c (c.on id name listener) :=
  evolves_edit h id (.on name listener) rfl

end Application

/-! ## The task -/

section Transport

variable [Transport τ]

theorem evolves_emit (hr : ∀ s, r s s) (ns : String) {name : String} {args : List Value}
    {reply : Option Label} (hemit : ∀ s : Socket, r s (s.emit name args reply).1) :
    Evolves r c (c.emit ns name args reply) := by
  rw [emit]
  split
  · exact .of_apart hr (.refl c)
  · split
    · exact .of_apart hr (.refl c)
    · next s hs =>
      exact (evolves_step hr hs (.emit name args reply) fun _ => hemit s).apart
        ((apart_sendAll _).trans apart_updateAckGauge)

theorem evolves_requestSocket (hr : ∀ s, r s s)
    (hrequest : ∀ s : Socket, r s (s.requestOn c.engine.revision).1) :
    Evolves r c (c.requestSocket id) := by
  rw [requestSocket]
  split
  · exact .of_apart hr (.refl c)
  · next s hs =>
    exact (evolves_step hr hs (.requestOn c.engine.revision) fun _ => hrequest s).apart
      (apart_dispatch _ (Socket.requestOn_lifecycle s _))

/-- What leaves the namespace does not belong to the client any more. -/
theorem evolves_leaveSocket (hr : ∀ s, r s s) (hm : ¬c.Member id) : Evolves r c (c.leaveSocket id) := by
  rw [leaveSocket]
  split
  · exact .of_apart hr (.refl c)
  · next s hs =>
    exact (evolves_step hr hs .leave fun h => absurd h hm).apart
      ((apart_sendAll _).trans (apart_notifySocketClose _))

theorem evolves_closeSocket (h : Respected r) (hf : Filed c) (ns : String) :
    Evolves r c (c.closeSocket ns) := by
  rw [closeSocket]
  split
  · exact .of_apart h.refl (.refl c)
  · next id hns =>
    have herase : Evolves r c { c with registry := c.registry.erase ns } := evolves_erase h.refl ns
    have hleave := evolves_leaveSocket h.refl (hf.not_member_erase hns)
    exact (herase.trans h.trans hleave).apart apart_updateAckGauge

/-- **A packet**, by what it makes of its socket.  Where it closes the namespace, the socket leaves the
client. -/
theorem evolves_route (h : Respected r) (hf : Filed c) {p : Packet}
    (hreceive : p.kind ≠ .disconnect → ∀ s : Socket, r s (s.receive p).1) :
    Evolves r c (c.route p) := by
  rw [route]
  split
  · exact .of_apart h.refl (.refl c)
  · split
    · exact .of_apart h.refl (.refl c)
    · next id hns =>
      split
      · exact .of_apart h.refl (.refl c)
      · next s hs =>
        by_cases hd : p.kind = .disconnect
        · have herase : Evolves r c { c with registry := c.registry.erase p.ns } :=
            evolves_erase h.refl p.ns
          have hgone := evolves_step (c := { c with registry := c.registry.erase p.ns }) h.refl hs
            (.receive p) fun hm => absurd hm (hf.not_member_erase hns)
          simp only [Socket.step, Socket.receive, hd] at hgone ⊢
          exact (herase.trans h.trans hgone).apart
            ((apart_notifySocketClose _).trans apart_updateAckGauge)
        · have hstep := (evolves_step h.refl hs (.receive p) fun _ => hreceive hd s).apart
            (Apart.foldl (fun _ n => apart_report n) (s.receive p).2.notices _)
          have hcalls := hstep.trans h.trans (evolves_callAll h (s.receive p).2.calls)
          dsimp only
          split
          · exact hcalls.apart ⟨rfl, rfl⟩
          · exact hcalls.apart ((apart_dispatch _ (Socket.receive_lifecycle s hd)).trans
              apart_updateAckGauge)

end Transport

end Client

end RealtimeClient
