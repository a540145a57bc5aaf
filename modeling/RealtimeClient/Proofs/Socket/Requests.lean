import Mathlib
import RealtimeClient.Proofs.Client.Changes
import RealtimeClient.Proofs.Socket.Emissions

/-!
# How a socket asks for its namespace

A socket asks for its namespace with a connect packet when it is told that the session is open, and then
counts as having asked until the connection is gone, the namespace is refused, or the socket is closed.
Nothing else that a socket hands out is such a packet.

* `Packet.isRequest` — the packets that ask for a namespace.
* `Retains` — a socket that has asked still counts as such; `retains_emit`, `retains_receive`.
* `requestOn_cases` — **a socket asks only if it does not count as having asked**, and never for the
  default namespace where that needs no request.
* `isRequest_emit`, `isRequest_leave`, `isRequest_receive` — whatever else it hands out asks for nothing.
-/

namespace RealtimeClient

/-- **Whether a packet asks for a namespace.** -/
def Packet.isRequest (p : Packet) : Bool := p.frame = .message && p.kind = .connect

theorem Packet.isRequest_of_kind {p : Packet} (h : p.kind ≠ .connect) : p.isRequest = false := by
  simp [isRequest, h]

theorem Packet.isRequest_of_isEvent {p : Packet} (h : p.kind.isEvent = true) : p.isRequest = false :=
  isRequest_of_kind fun hk => by
    rw [hk] at h
    cases h

theorem Packet.isRequest_of_isAck {p : Packet} (h : p.kind.isAck = true) : p.isRequest = false :=
  isRequest_of_kind fun hk => by
    rw [hk] at h
    cases h

namespace Socket

variable {s : Socket}

/-! ## Having asked -/

/-- **A socket that counts as having asked for its namespace still does.** -/
def Retains (s s' : Socket) : Prop := s.requested = true → s'.requested = true

theorem Retains.refl (s : Socket) : s.Retains s := id

theorem Retains.trans {s s' s'' : Socket} (h : s.Retains s') (h' : s'.Retains s'') : s.Retains s'' :=
  h' ∘ h

theorem retains_respected : Respected Retains where
  refl := Retains.refl
  trans _ _ _ := Retains.trans
  edit s op hop := by
    cases op with
    | on | off | offAll | setErrorListener | setAuth => exact id
    | _ => cases hop

theorem retains_emit (s : Socket) (name : String) (args : List Value) (reply : Option Label) :
    s.Retains (s.emit name args reply).1 := by
  rw [emit_eq]
  cases reply <;> split_ifs <;> exact id

/-- Only a refusal and the end of the namespace take that away. -/
theorem retains_receive (s : Socket) {p : Packet} (hd : p.kind ≠ .disconnect)
    (hr : p.kind ≠ .connectError) : s.Retains (s.receive p).1 := by
  cases hk : p.kind with
  | disconnect => exact absurd hk hd
  | connectError => exact absurd hk hr
  | connect =>
    simp only [receive, hk]
    exact fun _ => rfl
  | event | binaryEvent =>
    simp only [receive, hk]
    exact id
  | ack | binaryAck =>
    simp only [receive, hk, receiveAck]
    split
    · exact id
    · split <;> exact id

theorem retains_requestOn (s : Socket) (revision : Revision) : s.Retains (s.requestOn revision).1 := by
  unfold requestOn
  split_ifs
  · exact id
  · exact fun _ => rfl
  · exact fun _ => rfl

/-- Whoever is told that the session is open has asked then. -/
theorem requestOn_requested (h : Orderly s) (revision : Revision) :
    (s.requestOn revision).1.requested = true := by
  unfold requestOn
  split_ifs with hasked
  · exact hasked.elim id h.requested
  · rfl
  · rfl

/-! ## Asking -/

/-- **A socket asks only if it does not count as having asked**, and never for the default namespace
where that needs no request. -/
theorem requestOn_cases (h : Orderly s) (revision : Revision) :
    (∀ p ∈ (s.requestOn revision).2.outbound, p.isRequest = false) ∨
      s.requested = false ∧
        (s.ns = defaultNamespace → revision.connectsDefaultNamespace = true) ∧
        (s.requestOn revision).2.outbound = [.connect s.ns s.auth] := by
  unfold requestOn
  split_ifs with hasked hauto
  · exact .inl nofun
  · exact .inl fun p hp => Packet.isRequest_of_isEvent (h.events p hp)
  · refine .inr ⟨Bool.eq_false_iff.2 fun hr => hasked (.inl hr), fun hns => ?_, rfl⟩
    by_contra hno
    exact hauto ⟨hns, hno⟩

theorem isRequest_emit (s : Socket) (name : String) (args : List Value) (reply : Option Label) :
    ∀ p ∈ (s.emit name args reply).2, p.isRequest = false := by
  intro p hp
  rw [emit_eq] at hp
  split_ifs at hp
  · obtain rfl := Option.mem_some.1 hp
    exact Packet.isRequest_of_isEvent (isEvent_prepare s name args reply)
  · cases hp

theorem isRequest_leave (s : Socket) : ∀ p ∈ s.leave.2, p.isRequest = false := by
  intro p hp
  rw [leave] at hp
  split at hp
  · rw [List.mem_singleton.1 hp]
    rfl
  · cases hp

/-- A confirmation lets the queue go, which holds events; and an event may be replied to. -/
theorem isRequest_receive (h : Orderly s) (p : Packet) :
    ∀ q ∈ (s.receive p).2.outbound, q.isRequest = false := by
  intro q hq
  cases hk : p.kind with
  | connect =>
    simp only [receive, hk] at hq
    exact Packet.isRequest_of_isEvent (h.events q hq)
  | disconnect =>
    simp only [receive, hk] at hq
    cases hq
  | event | binaryEvent =>
    simp only [receive, hk] at hq
    obtain ⟨id, values, rfl⟩ := mem_receiveEvent_outbound hq
    exact Packet.isRequest_of_isAck (isAck_ack s.ns id values)
  | ack | binaryAck =>
    simp only [receive, hk, receiveAck] at hq
    split at hq
    · cases hq
    · split at hq <;> cases hq
  | connectError =>
    simp only [receive, hk] at hq
    cases hq

end Socket

end RealtimeClient
