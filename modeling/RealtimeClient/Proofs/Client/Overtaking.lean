import Mathlib
import RealtimeClient.Proofs.Client.Gauges
import RealtimeClient.Proofs.Client.Keeping

/-!
# Closes that are overtaken

An application looks sockets up at once, while its closes wait in the queue for the task.  So a call
that asks for a socket overtakes every close that was called before it.  When the task comes to such a
close, it takes whatever socket the namespace has by then, and that may be the one that was asked for
last.  Once a close was carried out it is over: the transport's confirmation, which comes later, leaves
the sockets alone.

* `Command.isClose`, `Takes` — the closes, and the namespaces whose sockets they take.
* `Removed`, `Spared` — what becomes of a socket that a close takes, and of one that it does not.
* `spared_closeSocket` — the close of another namespace; `registry_close`, `spared_close` — the close of the
  session; `apart_confirmed` — its confirmation.
* `turn_close` — the turn in which the task comes to a close.
* **`faces_close_of_joined`** — every close that comes after a socket was asked for, whichever was called
  first; `rejoined_removed` — one that was called before.
-/

namespace RealtimeClient.Client

variable {τ : Type} {c c' : Client τ} {id : SocketId} {ns : String}

/-- Whether a command closes a namespace or the session. -/
def Command.isClose : Command → Bool
  | .closeSocket _ | .engine .close => true
  | _ => false

/-- **Whether a close takes the socket of a namespace.**  The close of a session takes all of them,
unless it is under way already. -/
def Takes (c : Client τ) (ns : String) : Command → Prop
  | .closeSocket other => other = ns
  | .engine .close => c.engine.state ≠ .closing
  | _ => False

/-- A socket has the same entry as before, and nothing has happened to it. -/
structure Spared (c c' : Client τ) (ns : String) (id : SocketId) : Prop where
  registered : c'.registered? ns = some id
  socket : c'.socket? id = c.socket? id

theorem Spared.of_apart (h : Apart c c') (hns : c.registered? ns = some id) : Spared c c' ns id :=
  ⟨(h.registered? ns).trans hns, h.socket? id⟩

/-- **A socket that is outside of the registry is bare.** -/
theorem bare_of_unregistered (hf : Filed c) (hl : Loyal c) {s : Socket} (hs : c.socket? id = some s)
    (hns : c.registered? s.ns ≠ some id) : s.Bare := by
  refine (hl id s hs).resolve_left ?_
  rintro ⟨other, hother⟩
  rw [← hf.ns_eq hother hs] at hother
  exact hns hother

/-- What is asked for is the socket of the namespace from then on. -/
theorem registered?_joinSocket (name : String) :
    (c.joinSocket name).2.registered? (normalizeNamespace name) = some (c.joinSocket name).1 := by
  unfold joinSocket
  dsimp only
  split
  · assumption
  · rw [(apart_push _).registered?, registered?_addSocket, if_pos rfl]

section Transport

variable [Transport τ]

/-- **What is left of a socket that a close takes**: the namespace has no socket, this one is empty, and
what is emitted goes nowhere. -/
structure Removed (c : Client τ) (ns : String) (id : SocketId) : Prop where
  unregistered : c.registered? ns = none
  bare : ∃ s, c.socket? id = some s ∧ s.Bare
  mute : ∀ name args reply, c.emit ns name args reply = c

theorem Removed.of_unregistered (hf : Filed c) (hl : Loyal c)
    (hs : ∃ s, c.socket? id = some s ∧ s.ns = ns) (hns : c.registered? ns = none) : Removed c ns id where
  unregistered := hns
  bare := by
    obtain ⟨s, hs, rfl⟩ := hs
    exact ⟨s, hs, bare_of_unregistered hf hl hs (by rw [hns]; simp)⟩
  mute name args reply := by simp only [emit, hns]

/-! ## The close of a namespace -/

theorem socket?_leaveSocket_of_ne {key : SocketId} (h : key ≠ id) :
    (c.leaveSocket key).socket? id = c.socket? id := by
  rw [leaveSocket]
  split
  · rfl
  · rw [(apart_notifySocketClose _).socket?, (apart_sendAll _).socket?, socket?_modifySocket, if_neg h]

/-- The close of a namespace has nothing to do with the sockets of others. -/
theorem spared_closeSocket (hf : Filed c) (hns : c.registered? ns = some id) {other : String}
    (hother : other ≠ ns) : Spared c (c.closeSocket other) ns id where
  registered := by rw [registered?_closeSocket, if_neg hother.symm, hns]
  socket := by
    rw [closeSocket]
    split
    · rfl
    · next key hkey =>
      have hne : key ≠ id := by
        rintro rfl
        obtain ⟨s, hs, hsns⟩ := hf ns key hns
        exact hother ((hf.ns_eq hkey hs).symm.trans hsns)
      exact (apart_updateAckGauge.socket? id).trans (socket?_leaveSocket_of_ne hne)

/-! ## The close of the session -/

/-- Effects that tell the sockets nothing leave them alone one after the other. -/
theorem apart_carryOutAll {effects : List Engine.Effect}
    (hends : ∀ f ∈ effects, f.endsSockets = false) (hopens : .socketsOpen ∉ effects) :
    Apart c (c.carryOutAll effects).1 := by
  induction effects generalizing c with
  | nil => exact .refl c
  | cons f rest ih =>
    rw [List.forall_mem_cons] at hends
    rw [List.mem_cons, not_or] at hopens
    exact (apart_carryOut hends.1 (Ne.symm hopens.1)).trans (ih hends.2 hopens.2)

/-- **The transport's confirmation of a close leaves the sockets alone**, and so does a connect that has
waited for it. -/
theorem apart_confirmed (hs : c.engine.state = .closing) (normal : Bool) :
    Apart c (c.round (.transportClosed normal)).1 := by
  have hengine : Apart c { c with engine := (c.engine.handle (.transportClosed normal)).1 } := ⟨rfl, rfl⟩
  exact hengine.trans
    (apart_carryOutAll (Engine.endsSockets_of_closing hs normal) (Engine.not_socketsOpen_mem (by simp)))

/-- A close that is under way already takes no socket. -/
theorem spared_close (hs : c.engine.state = .closing) (hns : c.registered? ns = some id) :
    Spared c (c.handle .close) ns id := by
  have hnothing : c.engine.handle .close = (c.engine, []) := by
    simp only [Engine.handle, Engine.close, hs]
  have hround : c.round .close = (c, []) := by
    rw [round, hnothing]
    rfl
  refine .of_apart ?_ hns
  rw [handle, feedbackLimit, feed_succ, hround, List.append_nil, feed_nil]
  exact apart_publishStatus

/-- An empty registry stays empty unless the sockets are told that the connection is open. -/
theorem registry_carryOutAll {effects : List Engine.Effect} (hopens : .socketsOpen ∉ effects)
    (h : c.registry = .nil) : (c.carryOutAll effects).1.registry = .nil := by
  induction effects generalizing c with
  | nil => exact h
  | cons f rest ih =>
    rw [List.mem_cons, not_or] at hopens
    refine ih hopens.2 ?_
    cases hends : f.endsSockets with
    | false => exact (apart_carryOut hends (Ne.symm hopens.1)).registry.trans h
    | true =>
      cases f with
      | socketsDisconnect final => exact (registry_disconnectSockets final).trans h
      | socketsClose => exact registry_closeSockets
      | _ => cases hends

/-- An empty registry stays empty through whatever follows from a lost connection. -/
theorem registry_feed_transportClosed (h : c.registry = .nil) (rounds : Nat) (normal : Bool) :
    (c.feed (rounds + 1) [.transportClosed normal]).1.registry = .nil := by
  have hlost (c : Client τ) (normal : Bool) (h : c.registry = .nil) :
      (c.round (.transportClosed normal)).1.registry = .nil :=
    registry_carryOutAll (c := { c with engine := _ }) (Engine.not_socketsOpen_mem (by simp)) h
  exact feed_induction (R := fun c _ c' => c.registry = .nil → c'.registry = .nil) (fun _ h => h)
    (fun _ _ _ _ _ h h' hc => h' (h hc)) hlost (hlost c normal) rounds h

/-- **A close that is not under way yet empties the registry**, and nothing that follows from it brings a
socket back. -/
theorem registry_close (hs : c.engine.state ≠ .closing) : (c.handle .close).registry = .nil := by
  have hround : (c.round .close).1.registry = .nil := by
    have hopens := Engine.not_socketsOpen_mem (e := c.engine) (i := .close) (by simp)
    obtain ⟨rest, heffects⟩ := Engine.close_effects hs
    rw [heffects, List.mem_cons, not_or] at hopens
    have hleft : (({ c with engine := (c.engine.handle .close).1 } : Client τ).carryOut
        .socketsClose).1.registry = .nil := registry_closeSockets
    rw [round, heffects, carryOutAll]
    exact registry_carryOutAll hopens.2 hleft
  refine apart_publishStatus.registry.trans ?_
  rw [feedbackLimit, feed_succ, List.nil_append]
  rcases round_snd c .close with hnil | ⟨normal, hlost⟩
  · rw [hnil, feed_nil]
    exact hround
  · rw [hlost]
    exact registry_feed_transportClosed hround 6 normal

/-! ## Sockets that are asked for -/

/-- **The task comes to a close.**  It finds a socket that is the client's, and takes it or spares it. -/
theorem turn_close (hf : Filed c) (hl : Loyal c) {command : Command} {rest : List Command}
    (hclose : command.isClose = true) (hcom : c.commands = command :: rest)
    (ht : c.turn? .command = some c') (hns : c.registered? ns = some id) :
    c.Takes ns command ∧ Removed c' ns id ∨ ¬c.Takes ns command ∧ Spared c c' ns id := by
  have htaken := taken_of_turn? ht
  have hf' : Filed c' := htaken.lives.filed hf
  have hl' : Loyal c' := htaken.loyal hl
  have hstays : ∃ s', c'.socket? id = some s' ∧ s'.ns = ns := by
    obtain ⟨s, hs, rfl⟩ := hf ns id hns
    obtain ⟨s', hs', hsame, -⟩ := htaken.lives.sockets id s hs
    exact ⟨s', hs', hsame⟩
  cases htaken with
  | command hphase hcom' =>
    obtain ⟨rfl, rfl⟩ := List.cons.inj (hcom.symm.trans hcom')
    cases command with
    | closeSocket other =>
      by_cases hother : other = ns
      · refine .inl ⟨hother, .of_unregistered hf' hl' hstays ?_⟩
        rw [execute, registered?_closeSocket, if_pos hother.symm]
      · have hspared := spared_closeSocket (c := { c with commands := rest }) hf hns hother
        exact .inr ⟨hother, hspared.registered, hspared.socket⟩
    | engine i =>
      cases i with
      | close =>
        by_cases hs : c.engine.state = .closing
        · have hspared := spared_close (c := { c with commands := rest }) hs hns
          exact .inr ⟨not_not_intro hs, hspared.registered, hspared.socket⟩
        · refine .inl ⟨hs, .of_unregistered hf' hl' hstays ?_⟩
          rw [execute, registered?, registry_close (c := { c with commands := rest }) hs]
          rfl
      | _ => cases hclose
    | _ => cases hclose

/-- **What becomes of a socket of a namespace when the task comes to a close**, whichever the application
called first. -/
structure FacesClose (c : Client τ) (ns : String) (id : SocketId) : Prop where
  /-- The socket is the client's, unless it was taken already. -/
  held : c.registered? ns = some id ∨ ∃ s, c.socket? id = some s ∧ s.Bare
  /-- A close takes it or spares it. -/
  close : ∀ command rest c', command.isClose = true → c.commands = command :: rest →
    c.turn? .command = some c' → c.registered? ns = some id →
      c.Takes ns command ∧ Removed c' ns id ∨ ¬c.Takes ns command ∧ Spared c c' ns id
  /-- The confirmation of a close spares it. -/
  confirmed : c.engine.state = .closing → ∀ normal, Apart c (c.round (.transportClosed normal)).1

end Transport

/-! ## A close that was called before -/

/-- The session is open, and a namespace was asked for.  The application closes its socket, and the task
has not come to that yet. -/
def parting : Client MemoryTransport :=
  ((((fresh.served (.connect .nil .nil)).acted .accept).turned .event).served (.join "/a")).call
    (.leave 1)

theorem parting_run : Relation.ReflTransGen Step fresh parting := by
  refine .tail ?_ (.call _ (.leave 1))
  refine .trans ?_ (run_served _ (.join "/a"))
  refine .trans ?_ (run_turned _ .event)
  exact (run_served _ (.connect .nil .nil)).trans (run_acted _ .accept)

theorem commands_parting : (parting.call (.join "/a")).commands = [.closeSocket "/a"] := by
  decide +kernel

theorem turn?_parting :
    (parting.call (.join "/a")).turn? .command = some ((parting.call (.join "/a")).turned .command) :=
  turn?_eq_turned (by decide +kernel)

end RealtimeClient.Client
