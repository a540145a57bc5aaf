import Mathlib
import RealtimeClient.Client.Turns
import RealtimeClient.Proofs.Dict

/-!
# The registry and the sockets

A client keeps every socket that was ever made, and its registry says which of them belong to it,
one for each namespace.  Sockets come and go in the registry only: a socket that has left is never
put back, and the namespace's next socket is a new one.

* `Apart` — a change that leaves sockets and registry alone, as sending and reporting do.
* `Member`, `Filed` — the sockets that belong to the client; each is filed under its own namespace.
* `Evolves` — what becomes of the sockets: those that stay change as a relation allows, and those that
  come are new.
* `evolves_modifySocket`, `evolves_addSocket`, `evolves_erase`, `evolves_clear` — the changes that all
  others are made of.
-/

namespace RealtimeClient.Client

variable {τ : Type} {c c' c'' : Client τ}

/-! ## What leaves the sockets alone -/

/-- **A change that leaves the sockets and the registry alone.** -/
structure Apart (c c' : Client τ) : Prop where
  sockets : c'.sockets = c.sockets
  registry : c'.registry = c.registry

namespace Apart

@[refl] theorem refl (c : Client τ) : Apart c c := ⟨rfl, rfl⟩

theorem trans (h : Apart c c') (h' : Apart c' c'') : Apart c c'' :=
  ⟨h'.sockets.trans h.sockets, h'.registry.trans h.registry⟩

theorem foldl {α : Type} {f : Client τ → α → Client τ} (hf : ∀ c a, Apart c (f c a)) (l : List α)
    (c : Client τ) : Apart c (l.foldl f c) := by
  induction l generalizing c with
  | nil => exact refl c
  | cons a rest ih => exact (hf c a).trans (ih _)

theorem socket? (h : Apart c c') (id : SocketId) : c'.socket? id = c.socket? id := by
  rw [Client.socket?, Client.socket?, h.sockets]

theorem registered? (h : Apart c c') (ns : String) : c'.registered? ns = c.registered? ns := by
  rw [Client.registered?, Client.registered?, h.registry]

end Apart

theorem apart_report (n : Notice) : Apart c (c.report n) := ⟨rfl, rfl⟩

theorem apart_updateAckGauge : Apart c c.updateAckGauge := ⟨rfl, rfl⟩

theorem apart_publishStatus : Apart c c.publishStatus := ⟨rfl, rfl⟩

theorem apart_notify (event : SessionEvent) : Apart c (c.notify event) := by
  unfold notify
  dsimp only
  split <;> split <;> exact ⟨rfl, rfl⟩

theorem apart_notifySocketOpen (ns : String) : Apart c (c.notifySocketOpen ns) := by
  rw [notifySocketOpen]
  split
  · exact apart_report _
  · rfl

theorem apart_notifySocketClose (ns : String) : Apart c (c.notifySocketClose ns) := by
  rw [notifySocketClose]
  split
  · exact apart_report _
  · rfl

theorem apart_push (command : Command) : Apart c (c.push command) := by
  rw [push]
  split <;> exact ⟨rfl, rfl⟩

theorem apart_pushFor (id : SocketId) (command : String → Command) :
    Apart c (c.pushFor id command) := by
  rw [pushFor]
  split
  · exact apart_push _
  · rfl

section Transport

variable [Transport τ]

theorem apart_writeFrames (frames : List Frame) : Apart c (c.writeFrames frames) := by
  induction frames generalizing c with
  | nil => rfl
  | cons frame rest ih =>
    have hwrite : Apart c { c with
        metrics := c.metrics.recordFrame .outbound frame.size
        transport := (Transport.write c.transport frame).2 } := ⟨rfl, rfl⟩
    rw [writeFrames]
    dsimp only
    split
    · exact hwrite.trans ih
    · exact hwrite

theorem apart_send (p : Packet) : Apart c (c.send p) := by
  rw [send]
  split
  · have hjournal : Apart c { c with journal := .sent c.current p :: c.journal } := ⟨rfl, rfl⟩
    exact hjournal.trans (apart_writeFrames _)
  · rfl

theorem apart_sendAll (ps : List Packet) : Apart c (c.sendAll ps) :=
  Apart.foldl (fun _ p => apart_send p) ps c

/-- Unless the server has closed the namespace, what follows from a socket's work is sending and
reporting. -/
theorem apart_dispatch (ns : String) {o : Socket.Outcome} (ho : o.lifecycle ≠ some .disconnected) :
    Apart c (c.dispatch ns o) := by
  unfold dispatch
  refine (apart_sendAll o.outbound).trans ?_
  dsimp only
  split
  · rfl
  · exact apart_notifySocketOpen ns
  · next h => exact absurd h ho

theorem apart_openTransport (query : Query) (headers : Headers) :
    Apart c (c.openTransport query headers).1 := by
  rw [openTransport]
  dsimp only
  split <;> exact ⟨rfl, rfl⟩

theorem apart_closeTransport (cause : Cause) : Apart c (c.closeTransport cause).1 := by
  rw [closeTransport]
  dsimp only
  split <;> exact ⟨rfl, rfl⟩

theorem registry_leaveSocket (id : SocketId) : (c.leaveSocket id).registry = c.registry := by
  rw [leaveSocket]
  split
  · rfl
  · exact ((apart_notifySocketClose _).registry.trans (apart_sendAll _).registry)

end Transport

/-! ## Single changes -/

theorem socket?_modifySocket (id key : SocketId) (f : Socket → Socket) :
    (c.modifySocket id f).socket? key =
      if id = key then (c.socket? key).map f else c.socket? key := by
  simp only [socket?, modifySocket, List.getElem?_modify]
  split
  · rfl
  · exact Option.map_id_apply

theorem lt_of_socket? {id : SocketId} {s : Socket} (h : c.socket? id = some s) :
    id < c.sockets.length :=
  (List.getElem?_eq_some_iff.1 h).1

theorem socket?_addSocket {id : SocketId} {s : Socket} (ns : String) (h : c.socket? id = some s) :
    (c.addSocket ns).socket? id = some s := by
  rw [socket?, addSocket, List.getElem?_append_left (lt_of_socket? h)]
  exact h

theorem socket?_addSocket_length (ns : String) :
    (c.addSocket ns).socket? c.sockets.length = some (Socket.new ns) := by
  simp [socket?, addSocket]

theorem socket?_length : c.socket? c.sockets.length = none := by
  simp [socket?]

theorem registered?_addSocket (ns key : String) :
    (c.addSocket ns).registered? key =
      if key = ns then some c.sockets.length else c.registered? key := by
  simp only [registered?, addSocket, Dict.insert]
  split
  · next h =>
    rw [h]
    exact Dict.From.get?_insert_self ns _ _ _
  · next h => exact Dict.From.get?_insert_of_ne _ h _ _

theorem registered?_erase (ns key : String) :
    ({ c with registry := c.registry.erase ns } : Client τ).registered? key =
      if key = ns then none else c.registered? key := by
  simp only [registered?]
  split
  · next h =>
    rw [h]
    exact Dict.From.get?_erase_self ns _
  · next h => exact Dict.From.get?_erase_of_ne h _

/-- The number of a registered socket is among those that the client goes through. -/
theorem mem_socketIds {ns : String} {id : SocketId} (h : c.registered? ns = some id) :
    id ∈ c.socketIds :=
  Dict.From.mem_values_of_get? _ h

/-! ## What becomes of the sockets -/

/-- **A socket belongs to the client**, under some namespace. -/
def Member (c : Client τ) (id : SocketId) : Prop := ∃ ns, c.registered? ns = some id

/-- **Every entry of the registry is a socket of its namespace.** -/
def Filed (c : Client τ) : Prop :=
  ∀ ns id, c.registered? ns = some id → ∃ s, c.socket? id = some s ∧ s.ns = ns

/-- **What becomes of the sockets of a client.**  None goes away or changes its namespace, those that
belong to the client afterwards have changed as `r` allows, and what entered the registry is a new
socket. -/
structure Evolves (r : Socket → Socket → Prop) (c c' : Client τ) : Prop where
  sockets : ∀ id s, c.socket? id = some s →
    ∃ s', c'.socket? id = some s' ∧ s'.ns = s.ns ∧ (c'.Member id → r s s')
  entries : ∀ ns id, c'.registered? ns = some id →
    c.registered? ns = some id ∨
      c.socket? id = none ∧ ∃ s', c'.socket? id = some s' ∧ s'.ns = ns ∧ r (.new ns) s'

variable {r r' : Socket → Socket → Prop} {id : SocketId} {ns : String} {s : Socket}

/-- A namespace has one socket, and a socket has one namespace. -/
theorem Filed.ns_eq (h : Filed c) (hns : c.registered? ns = some id) (hs : c.socket? id = some s) :
    s.ns = ns := by
  obtain ⟨s', hs', rfl⟩ := h ns id hns
  rw [hs] at hs'
  cases hs'
  rfl

theorem Apart.filed (h : Apart c c') (hc : Filed c) : Filed c' := by
  intro ns id hns
  rw [h.registered?] at hns
  rw [h.socket?]
  exact hc ns id hns

namespace Evolves

theorem of_apart (hr : ∀ s, r s s) (h : Apart c c') : Evolves r c c' where
  sockets id s hs := ⟨s, (h.socket? id).trans hs, rfl, fun _ => hr s⟩
  entries ns _ hns := .inl ((h.registered? ns).symm.trans hns)

theorem apart (h : Evolves r c c') (ha : Apart c' c'') : Evolves r c c'' where
  sockets id s hs := by
    obtain ⟨s', hs', hns, hrel⟩ := h.sockets id s hs
    refine ⟨s', (ha.socket? id).trans hs', hns, ?_⟩
    rintro ⟨ns, hm⟩
    exact hrel ⟨ns, (ha.registered? ns).symm.trans hm⟩
  entries ns id hns := by
    rw [ha.registered?] at hns
    rw [ha.socket?]
    exact h.entries ns id hns

/-- A member that was there before was a member before. -/
theorem registered (h : Evolves r c c') (hs : c.socket? id = some s)
    (hns : c'.registered? ns = some id) : c.registered? ns = some id := by
  rcases h.entries ns id hns with hns | ⟨hnone, -⟩
  · exact hns
  · rw [hs] at hnone
    cases hnone

theorem member (h : Evolves r c c') (hs : c.socket? id = some s) (hm : c'.Member id) :
    c.Member id := by
  obtain ⟨ns, hns⟩ := hm
  exact ⟨ns, h.registered hs hns⟩

theorem mono (hr : ∀ s s', r s s' → r' s s') (h : Evolves r c c') : Evolves r' c c' where
  sockets id s hs := by
    obtain ⟨s', hs', hns, hrel⟩ := h.sockets id s hs
    exact ⟨s', hs', hns, fun hm => hr s s' (hrel hm)⟩
  entries ns id hns := by
    refine (h.entries ns id hns).imp_right ?_
    rintro ⟨hnone, s', hs', hs'ns, hrel⟩
    exact ⟨hnone, s', hs', hs'ns, hr _ _ hrel⟩

theorem trans (ht : ∀ s₁ s₂ s₃, r s₁ s₂ → r s₂ s₃ → r s₁ s₃) (h : Evolves r c c')
    (h' : Evolves r c' c'') : Evolves r c c'' where
  sockets id s hs := by
    obtain ⟨s', hs', hns', hrel'⟩ := h.sockets id s hs
    obtain ⟨s'', hs'', hns'', hrel''⟩ := h'.sockets id s' hs'
    exact ⟨s'', hs'', hns''.trans hns', fun hm => ht _ _ _ (hrel' (h'.member hs' hm)) (hrel'' hm)⟩
  entries ns id hns := by
    rcases h'.entries ns id hns with hmid | ⟨hnone, hnew⟩
    · refine (h.entries ns id hmid).imp_right ?_
      rintro ⟨hnone, s', hs', hs'ns, hrel'⟩
      obtain ⟨s'', hs'', hns'', hrel''⟩ := h'.sockets id s' hs'
      exact ⟨hnone, s'', hs'', hns''.trans hs'ns, ht _ _ _ hrel' (hrel'' ⟨ns, hns⟩)⟩
    · refine .inr ⟨?_, hnew⟩
      -- the socket was not there in between, so it was not there before
      cases hs : c.socket? id with
      | none => rfl
      | some s =>
        obtain ⟨s', hs', -⟩ := h.sockets id s hs
        rw [hs'] at hnone
        cases hnone

theorem filed (h : Evolves r c c') (hc : Filed c) : Filed c' := by
  intro ns id hns
  rcases h.entries ns id hns with hold | ⟨-, s', hs', hns', -⟩
  · obtain ⟨s, hs, rfl⟩ := hc ns id hold
    obtain ⟨s', hs', hns', -⟩ := h.sockets id s hs
    exact ⟨s', hs', hns'⟩
  · exact ⟨s', hs', hns'⟩

theorem foldl {α : Type} {f : Client τ → α → Client τ} (hr : ∀ s, r s s)
    (ht : ∀ s₁ s₂ s₃, r s₁ s₂ → r s₂ s₃ → r s₁ s₃) (hf : ∀ c a, Evolves r c (f c a)) (l : List α)
    (c : Client τ) : Evolves r c (l.foldl f c) := by
  induction l generalizing c with
  | nil => exact of_apart hr (.refl c)
  | cons a rest ih => exact (hf c a).trans ht (ih _)

end Evolves

/-- **A socket is changed.**  It has to change as `r` allows if it belongs to the client. -/
theorem evolves_modifySocket (hr : ∀ s, r s s) (id : SocketId) {f : Socket → Socket}
    (hf : ∀ s, c.socket? id = some s → (f s).ns = s.ns ∧ (c.Member id → r s (f s))) :
    Evolves r c (c.modifySocket id f) where
  sockets key s hs := by
    rw [socket?_modifySocket]
    split
    · next h =>
      subst h
      exact ⟨f s, by rw [hs]; rfl, (hf s hs).1, (hf s hs).2⟩
    · exact ⟨s, hs, rfl, fun _ => hr s⟩
  entries ns key hns := .inl hns

theorem evolves_addSocket (hr : ∀ s, r s s) (ns : String) : Evolves r c (c.addSocket ns) where
  sockets _ s hs := ⟨s, socket?_addSocket ns hs, rfl, fun _ => hr s⟩
  entries key id hkey := by
    rw [registered?_addSocket] at hkey
    split at hkey
    · next h =>
      subst h
      cases hkey
      exact .inr ⟨socket?_length, _, socket?_addSocket_length key, rfl, hr _⟩
    · exact .inl hkey

theorem evolves_erase (hr : ∀ s, r s s) (ns : String) :
    Evolves r c { c with registry := c.registry.erase ns } where
  sockets id s hs := ⟨s, hs, rfl, fun _ => hr s⟩
  entries key id hkey := by
    rw [registered?_erase] at hkey
    split at hkey
    · cases hkey
    · exact .inl hkey

theorem evolves_clear (hr : ∀ s, r s s) : Evolves r c { c with registry := .nil } where
  sockets id s hs := ⟨s, hs, rfl, fun _ => hr s⟩
  entries key id hkey := by cases hkey

end RealtimeClient.Client
