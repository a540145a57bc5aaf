import Mathlib
import RealtimeClient.Proofs.Client.Changes
import RealtimeClient.Proofs.Client.Runs
import RealtimeClient.Proofs.Engine.SocketUse

/-!
# What holds the queues

A socket that belongs to the client holds on to the events in its queue, through whatever the
application and the task do, with two exceptions: when its namespace is confirmed the queue is
sent, and when the connection is gone for good the queue is given up.

* `Socket.Holds` — the queue keeps what is in it, and the namespace is not confirmed; `Hold` — this of
  every socket that stays with the client.
* `hold_call`, `hold_emit`, `hold_closeSocket`, `hold_route` — what the application and the task do with
  single sockets.
* `Effect.holds`, `hold_carryOut` — the effects that let every queue be.
* `feed_induction` — what holds of rounds holds of an input and all that follows;
  **`hold_handle`** — the inputs that let every queue be.
-/

namespace RealtimeClient

/-- **Whether an effect lets every queue be.** -/
def Engine.Effect.holds : Engine.Effect → Bool
  | .socketsOpen => false
  | .socketsDisconnect final => !final
  | _ => true

/-- **A socket holds its queue**: nothing leaves it, and the namespace is not confirmed. -/
structure Socket.Holds (s s' : Socket) : Prop where
  queue : s.queue <+: s'.queue
  calm : s'.connected = true → s.connected = true

namespace Socket.Holds

variable {s s₁ s₂ s₃ : Socket}

theorem refl (s : Socket) : s.Holds s := ⟨List.prefix_rfl, id⟩

theorem trans (h : s₁.Holds s₂) (h' : s₂.Holds s₃) : s₁.Holds s₃ :=
  ⟨h.queue.trans h'.queue, h.calm ∘ h'.calm⟩

theorem of_eq {s' : Socket} (hq : s'.queue = s.queue) (hc : s'.connected = true → s.connected = true) :
    s.Holds s' :=
  ⟨by rw [hq], hc⟩

theorem disconnect (s : Socket) : s.Holds (s.disconnect false) := of_eq rfl nofun

theorem emit (s : Socket) (name : String) (args : List Value) (reply : Option Label) :
    s.Holds (s.emit name args reply).1 := by
  rw [emit_eq]
  cases reply with
  | none =>
    split
    · exact refl s
    · exact ⟨List.prefix_append _ _, id⟩
  | some label =>
    split
    · exact of_eq rfl id
    · exact ⟨List.prefix_append _ _, id⟩

/-- Of all packets, those that confirm the namespace or close it let the queue go. -/
theorem receive (s : Socket) {p : Packet} (hc : p.kind ≠ .connect) (hd : p.kind ≠ .disconnect) :
    s.Holds (s.receive p).1 := by
  cases hk : p.kind with
  | connect => exact absurd hk hc
  | disconnect => exact absurd hk hd
  | event | binaryEvent =>
    simp only [Socket.receive, hk]
    exact refl s
  | ack | binaryAck =>
    simp only [Socket.receive, hk, receiveAck]
    split
    · exact refl s
    · split
      · exact refl s
      · exact of_eq rfl id
  | connectError =>
    simp only [Socket.receive, hk, receiveRefusal]
    exact disconnect s

theorem respected : Respected Holds where
  refl := refl
  trans _ _ _ := trans
  edit s op hop := by
    cases op with
    | on | off | offAll | setErrorListener | setAuth => exact of_eq rfl fun h => h
    | _ => cases hop

end Socket.Holds

namespace Client

open Socket (Holds)

variable {τ : Type} {c c' c'' : Client τ}

/-- What a client's sockets become while they hold their queues. -/
abbrev Hold (c c' : Client τ) : Prop := Evolves Holds c c'

namespace Hold

theorem of_apart (h : Apart c c') : Hold c c' := Evolves.of_apart Holds.refl h

theorem refl (c : Client τ) : Hold c c := of_apart (.refl c)

theorem trans (h : Hold c c') (h' : Hold c' c'') : Hold c c'' :=
  Evolves.trans (fun _ _ _ => Holds.trans) h h'

theorem foldl {α : Type} {f : Client τ → α → Client τ} (hf : ∀ c a, Hold c (f c a)) (l : List α)
    (c : Client τ) : Hold c (l.foldl f c) :=
  Evolves.foldl Holds.refl (fun _ _ _ => Holds.trans) hf l c

end Hold

/-- Whether the connection is gone for good in the course of a turn. -/
def GivesUp (stages : List (Client τ × Engine.Effect)) : Prop :=
  ∃ st ∈ stages, st.2 = .socketsDisconnect true

theorem givesUp_append {stages more : List (Client τ × Engine.Effect)} :
    GivesUp (stages ++ more) ↔ GivesUp stages ∨ GivesUp more := by
  simp only [GivesUp, List.mem_append, or_and_right, exists_or]

/-! ## Calls -/

/-- **A call of the application holds every queue.** -/
theorem hold_call (a : Call) : Hold c (c.call a) := evolves_call Holds.respected a

theorem hold_on (id : SocketId) (name : String) (listener : Listener) :
    Hold c (c.on id name listener) :=
  evolves_on Holds.respected id name listener

/-! ## Single sockets -/

theorem hold_disconnectSockets : Hold c (c.disconnectSockets false) :=
  Hold.foldl (fun _ id => evolves_modifySocket Holds.refl id (f := (·.disconnect false))
    fun s _ => ⟨rfl, fun _ => Holds.disconnect s⟩) _ c

section Transport

variable [Transport τ]

theorem hold_emit (ns name : String) (args : List Value) (reply : Option Label) :
    Hold c (c.emit ns name args reply) :=
  evolves_emit Holds.refl ns fun s => Holds.emit s name args reply

theorem hold_closeSocket (h : Filed c) (ns : String) : Hold c (c.closeSocket ns) :=
  evolves_closeSocket Holds.respected h ns

/-- **A packet that does not confirm a namespace holds every queue.**  Where it closes one, the socket
leaves the client. -/
theorem hold_route (h : Filed c) {p : Packet} (hc : p.kind ≠ .connect) : Hold c (c.route p) :=
  evolves_route Holds.respected h fun hd s => Holds.receive s hc hd

/-! ## Effects -/

theorem hold_leaveAll (h : c.registry = .nil) (ids : List SocketId) :
    Hold c (ids.foldl leaveSocket c) := by
  induction ids generalizing c with
  | nil => exact .refl c
  | cons id rest ih =>
    have hm : ¬c.Member id := by
      rintro ⟨ns, hns⟩
      rw [registered?, h] at hns
      cases hns
    have hleft : (c.leaveSocket id).registry = .nil := (registry_leaveSocket id).trans h
    exact (evolves_leaveSocket Holds.refl hm).trans (fun _ _ _ => Holds.trans) (ih hleft)

theorem hold_closeSockets : Hold c c.closeSockets :=
  (evolves_clear Holds.refl).trans (fun _ _ _ => Holds.trans) (hold_leaveAll rfl _)

theorem hold_carryOut {f : Engine.Effect} (hf : f.holds = true) : Hold c (c.carryOut f).1 := by
  cases f with
  | openTransport query headers => exact .of_apart (apart_openTransport query headers)
  | closeTransport cause => exact .of_apart (apart_closeTransport cause)
  | send p => exact .of_apart (apart_send p)
  | arm k delay => exact .of_apart ⟨rfl, rfl⟩
  | cancel k => exact .of_apart ⟨rfl, rfl⟩
  | resetCodec => exact .of_apart ⟨rfl, rfl⟩
  | socketsOpen => cases hf
  | socketsDisconnect final =>
    cases final with
    | false => exact hold_disconnectSockets.apart apart_updateAckGauge
    | true => cases hf
  | socketsClose => exact hold_closeSockets.apart apart_updateAckGauge
  | notify event => exact .of_apart (apart_notify event)

theorem hold_carryOutAll {effects : List Engine.Effect} (hf : ∀ f ∈ effects, f.holds = true) :
    Hold c (c.carryOutAll effects).1 := by
  induction effects generalizing c with
  | nil => exact .refl c
  | cons f rest ih =>
    exact (hold_carryOut (hf f List.mem_cons_self)).trans
      (ih fun g hg => hf g (List.mem_cons_of_mem f hg))

/-! ## Inputs -/

/-- **Whatever follows from an effect is the end of the connection.** -/
theorem carryOut_snd {f : Engine.Effect} {i : Engine.Input} (h : (c.carryOut f).2 = some i) :
    ∃ normal, i = .transportClosed normal := by
  cases f with
  | openTransport query headers =>
    simp only [carryOut, openTransport] at h
    split at h
    · cases h
    · exact ⟨false, (Option.some.inj h).symm⟩
  | closeTransport cause =>
    simp only [carryOut, closeTransport] at h
    split at h
    · cases h
    · exact ⟨_, (Option.some.inj h).symm⟩
  | _ => cases h

theorem carryOutAll_snd {effects : List Engine.Effect} {i : Engine.Input}
    (h : i ∈ (c.carryOutAll effects).2) : ∃ normal, i = .transportClosed normal := by
  induction effects generalizing c with
  | nil => cases h
  | cons f rest ih =>
    rcases List.mem_append.1 h with h | h
    · exact carryOut_snd (Option.mem_toList.1 h)
    · exact ih h

/-- The effects of one round. -/
def roundStages (c : Client τ) (i : Engine.Input) : List (Client τ × Engine.Effect) :=
  { c with engine := (c.engine.handle i).1 }.stages (c.engine.handle i).2

/-- **What holds of rounds holds of an input and all that follows from it.**  Whatever follows is the
end of a connection. -/
theorem feed_induction {R : Client τ → List (Client τ × Engine.Effect) → Client τ → Prop}
    (nil : ∀ c, R c [] c)
    (append : ∀ c c' c'' l l', R c l c' → R c' l' c'' → R c (l ++ l') c'')
    (lost : ∀ c normal, R c (c.roundStages (.transportClosed normal))
      (c.round (.transportClosed normal)).1)
    {i : Engine.Input} (first : R c (c.roundStages i) (c.round i).1) (rounds : Nat) :
    R c (c.feedStages (rounds + 1) [i]) (c.feed (rounds + 1) [i]).1 := by
  -- from the second round on every input is the end of a connection, which the induction needs to know
  have hrest (rounds : Nat) (c : Client τ) (inputs : List Engine.Input)
      (hi : ∀ i ∈ inputs, ∃ normal, i = .transportClosed normal) :
      R c (c.feedStages rounds inputs) (c.feed rounds inputs).1 := by
    induction rounds generalizing c inputs with
    | zero => cases inputs <;> exact nil c
    | succ rounds ih =>
      cases inputs with
      | nil => exact nil c
      | cons i rest =>
        obtain ⟨normal, rfl⟩ := hi i List.mem_cons_self
        rw [feed_succ, feedStages]
        refine append _ _ _ _ _ (lost c normal) (ih _ _ fun j hj => ?_)
        rcases List.mem_append.1 hj with hj | hj
        · exact hi j (List.mem_cons_of_mem _ hj)
        · exact carryOutAll_snd hj
  rw [feed_succ, feedStages]
  refine append _ _ _ _ _ first (hrest _ _ _ fun j hj => ?_)
  exact carryOutAll_snd hj

theorem mem_stages {effects : List Engine.Effect} {f : Engine.Effect} (h : f ∈ effects) :
    ∃ st ∈ c.stages effects, st.2 = f := by
  induction effects generalizing c with
  | nil => cases h
  | cons g rest ih =>
    rcases List.mem_cons.1 h with rfl | h
    · exact ⟨_, List.mem_cons_self, rfl⟩
    · obtain ⟨st, hst, heq⟩ := ih (c := (c.carryOut g).1) h
      exact ⟨st, List.mem_cons_of_mem _ hst, heq⟩

/-- **A round holds every queue**, unless the sockets are told that the connection is open, or gone
for good. -/
theorem hold_round {i : Engine.Input} (hopen : .socketsOpen ∉ (c.engine.handle i).2)
    (hup : ¬GivesUp (c.roundStages i)) : Hold c (c.round i).1 := by
  have hengine : Hold c { c with engine := (c.engine.handle i).1 } := .of_apart ⟨rfl, rfl⟩
  refine hengine.trans (hold_carryOutAll fun f hf => ?_)
  cases f with
  | socketsOpen => exact absurd hf hopen
  | socketsDisconnect final =>
    cases final with
    | false => rfl
    | true => exact absurd (mem_stages hf) hup
  | _ => rfl

/-- **An input and all that follows hold every queue**, with the same exceptions. -/
theorem hold_handle {i : Engine.Input} (hopen : .socketsOpen ∉ (c.engine.handle i).2)
    (hup : ¬GivesUp (c.handleStages i)) : Hold c (c.handle i) := by
  have hfeed : ¬GivesUp (c.feedStages feedbackLimit [i]) →
      Hold c (c.feed feedbackLimit [i]).1 :=
    feed_induction (R := fun c stages c' => ¬GivesUp stages → Hold c c') (fun c _ => .refl c)
      (fun _ _ _ _ _ h h' hup => by
        rw [givesUp_append, not_or] at hup
        exact (h hup.1).trans (h' hup.2))
      (fun c normal => hold_round (Engine.not_socketsOpen_mem (by simp)))
      (hold_round hopen) 7
  exact (hfeed hup).apart apart_publishStatus

end Transport

end Client

end RealtimeClient
