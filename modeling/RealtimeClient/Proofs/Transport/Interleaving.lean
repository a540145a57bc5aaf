import Mathlib
import RealtimeClient.Proofs.Transport.Protocol

/-!
# A peer that does not wait

The peer of an in-memory transport runs in a thread of its own.  It can act between any two things that
the client does with the transport: after it was found open and before the first frame is written, and
between two frames of one packet.  `RestlessTransport` is the in-memory transport with such a peer: a
script says what the peer does at each moment.

* `PeerMove`, `RestlessTransport` — the peer acts, or takes what was written; `moment` — the moments
  before and after each operation of the client.
* `recorded`, `wire` — the frames that were written, taken ones included, and those of one connection.
* `Over` — connections on which nothing will be written any more.
* `Goes` — what the peer's moves and the client's writes leave; `goes_moment`, `goes_write`,
  `goes_hangUp`, `dial_cases` — the operations.
* `Orderly` — names of connections are new, and ends are true; `Orderly.goes`, `Orderly.given`.
-/

namespace RealtimeClient

/-- **What the peer does** on its own. -/
inductive PeerMove
  | act (a : MemoryTransport.PeerAction)
  | take

/-- **An in-memory transport whose peer does not wait.**  The script has what the peer does at the next
moments; what it has taken is kept with the connection. -/
structure RestlessTransport where
  memory : MemoryTransport
  script : List (List PeerMove)
  taken : List (ConnectionId × Frame)

namespace RestlessTransport

/-- A transport whose events are received and whose peer follows a script. -/
def new (script : List (List PeerMove)) : RestlessTransport :=
  { memory := MemoryTransport.new.installSink, script, taken := [] }

def move (t : RestlessTransport) : PeerMove → RestlessTransport
  | .act a => { t with memory := t.memory.act a }
  | .take => { t with memory := t.memory.takeWritten.2, taken := t.taken ++ t.memory.written }

/-- The peer makes the moves that the script has for this moment. -/
def moment (t : RestlessTransport) : RestlessTransport :=
  match t.script with
  | [] => t
  | moves :: rest => moves.foldl move { t with script := rest }

def dial (t : RestlessTransport) (url : String) (headers : Headers) :
    Except TransportError ConnectionId × RestlessTransport :=
  let (answer, memory) := t.moment.memory.dial url headers
  (answer, { t.moment with memory }.moment)

def hangUp (t : RestlessTransport) (reason : String) :
    Except TransportError Unit × RestlessTransport :=
  let (answer, memory) := t.moment.memory.hangUp reason
  (answer, { t.moment with memory }.moment)

def write (t : RestlessTransport) (frame : Frame) : Except TransportError Unit × RestlessTransport :=
  let (answer, memory) := t.moment.memory.write frame
  (answer, { t.moment with memory }.moment)

def receive? (t : RestlessTransport) :
    Option ((ConnectionId × TransportEvent) × RestlessTransport) :=
  t.memory.receive?.map fun (event, memory) => (event, { t with memory }.moment)

instance : Transport RestlessTransport where
  dial := dial
  hangUp := hangUp
  write := write
  state t := t.memory.state
  receive? := receive?

/-! ## Frames -/

/-- **The frames that were written**, those that the peer has taken included. -/
def recorded (t : RestlessTransport) : List (ConnectionId × Frame) := t.taken ++ t.memory.written

/-- **The frames that were recorded on a connection.** -/
def wire (t : RestlessTransport) (id : ConnectionId) : List Frame :=
  (t.recorded.filter (·.1 = id)).map (·.2)

/-- **A connection that has ended**, or that the transport has not at all. -/
def Over (t : RestlessTransport) (id : ConnectionId) : Prop :=
  t.memory.state = .closed ∨ t.memory.current ≠ some id

variable {t t' t'' : RestlessTransport} {id : ConnectionId} {m : MemoryTransport}

theorem wire_eq (h : t'.recorded = t.recorded) (id : ConnectionId) : t'.wire id = t.wire id := by
  rw [wire, wire, h]

/-- Frames of one connection are recorded behind the others. -/
theorem wire_append {frames : List Frame} (h : t'.recorded = t.recorded ++ frames.map (id, ·))
    (key : ConnectionId) : t'.wire key = t.wire key ++ if id = key then frames else [] := by
  rw [wire, wire, h, List.filter_append, List.map_append]
  refine congrArg _ ?_
  rw [List.filter_map, List.map_map]
  split
  · next hkey =>
    rw [List.filter_eq_self.2 fun frame _ => by simp [hkey]]
    exact List.map_id _
  · next hkey =>
    rw [List.filter_eq_nil_iff.2 fun frame _ => by simp [hkey]]
    rfl

/-! ## What the peer can do -/

/-- **What the peer's moves leave**, and the client's writes.  A closed transport stays closed, an open
connection is not asked for anew, and what is reported is reported of the connection at hand. -/
structure Goes (t t' : RestlessTransport) : Prop where
  current : t'.memory.current = t.memory.current
  nextNumber : t'.memory.nextNumber = t.memory.nextNumber
  closed : t.memory.state = .closed → t'.memory.state = .closed
  opening : t'.memory.state = .opening → t.memory.state = .opening
  events : ∀ p ∈ t'.memory.events, p ∈ t.memory.events ∨
    t.memory.current = some p.1 ∧ ∀ normal, p.2 = .closed normal → t'.memory.state = .closed

namespace Goes

@[refl] theorem refl (t : RestlessTransport) : Goes t t := ⟨rfl, rfl, id, id, fun _ => .inl⟩

theorem trans (h : Goes t t') (h' : Goes t' t'') : Goes t t'' where
  current := h'.current.trans h.current
  nextNumber := h'.nextNumber.trans h.nextNumber
  closed hs := h'.closed (h.closed hs)
  opening hs := h.opening (h'.opening hs)
  events p hp := by
    rcases h'.events p hp with hp | ⟨hid, hend⟩
    · rcases h.events p hp with hp | ⟨hid, hend⟩
      · exact .inl hp
      · exact .inr ⟨hid, fun normal hn => h'.closed (hend normal hn)⟩
    · exact .inr ⟨h.current ▸ hid, hend⟩

theorem isOver (h : Goes t t') (ho : t.Over id) : t'.Over id := by
  rcases ho with hs | hid
  · exact .inl (h.closed hs)
  · exact .inr (h.current ▸ hid)

end Goes

theorem mem_events_emit {event : TransportEvent} {p : ConnectionId × TransportEvent}
    (h : p ∈ (m.emit event).events) : p ∈ m.events ∨ m.current = some p.1 ∧ p.2 = event := by
  unfold MemoryTransport.emit at h
  split at h
  · next hid =>
    rcases List.mem_append.1 h with hp | hp
    · exact .inl hp
    · obtain rfl := List.mem_singleton.1 hp
      exact .inr ⟨hid, rfl⟩
  · exact .inl h

/-- A report of the connection at hand, in a new state. -/
theorem goes_emit {state : TransportState} {event : TransportEvent} {reasons : List String}
    (hclosed : t.memory.state = .closed → state = .closed)
    (hopening : state = .opening → t.memory.state = .opening)
    (hend : ∀ normal, event = .closed normal → state = .closed) :
    Goes t { t with
      memory := { t.memory with state, closeReasons := reasons }.emit event } := by
  rw [MemoryTransport.emit_same]
  refine ⟨rfl, rfl, hclosed, hopening, fun p hp => ?_⟩
  rcases mem_events_emit hp with hp | ⟨hid, rfl⟩
  · exact .inl hp
  · exact .inr ⟨hid, hend⟩

theorem goes_move (move : PeerMove) : Goes t (t.move move) := by
  have hfinish (normal : Bool) : Goes t { t with memory := t.memory.finish normal } := by
    rw [MemoryTransport.finish]
    split
    · rfl
    · exact goes_emit (fun _ => rfl) (by simp) fun _ _ => rfl
  cases move with
  | take => exact ⟨rfl, rfl, id, id, fun _ => .inl⟩
  | act a =>
    cases a with
    | accept =>
      simp only [RestlessTransport.move, MemoryTransport.act, MemoryTransport.accept]
      split
      · next hs => exact goes_emit (by simp [hs]) (by simp) (by simp)
      · rfl
    | refuse => exact hfinish false
    | drop => exact hfinish false
    | close => exact hfinish true
    | send frame =>
      simp only [RestlessTransport.move, MemoryTransport.act, MemoryTransport.send]
      split
      · exact goes_emit id id (by simp)
      · rfl
    | respondHttp status headers => exact goes_emit id id (by simp)

theorem recorded_move (move : PeerMove) : (t.move move).recorded = t.recorded := by
  have hemit (m : MemoryTransport) (event : TransportEvent) : (m.emit event).written = m.written := by
    rw [MemoryTransport.emit_same]
  have hfinish (normal : Bool) : (t.memory.finish normal).written = t.memory.written := by
    rw [MemoryTransport.finish]
    split
    · rfl
    · exact hemit _ _
  cases move with
  | take => simp [RestlessTransport.move, recorded, MemoryTransport.takeWritten]
  | act a =>
    refine congrArg (t.taken ++ ·) ?_
    cases a with
    | accept =>
      simp only [RestlessTransport.move, MemoryTransport.act, MemoryTransport.accept]
      split
      · exact hemit _ _
      · rfl
    | refuse => exact hfinish false
    | drop => exact hfinish false
    | close => exact hfinish true
    | send frame =>
      simp only [RestlessTransport.move, MemoryTransport.act, MemoryTransport.send]
      split
      · exact hemit _ _
      · rfl
    | respondHttp status headers => exact hemit _ _

theorem goes_moves (moves : List PeerMove) : Goes t (moves.foldl move t) := by
  induction moves generalizing t with
  | nil => rfl
  | cons move rest ih => exact (goes_move move).trans ih

theorem recorded_moves (moves : List PeerMove) : (moves.foldl move t).recorded = t.recorded := by
  induction moves generalizing t with
  | nil => rfl
  | cons move rest ih => exact ih.trans (recorded_move move)

theorem goes_moment (t : RestlessTransport) : Goes t t.moment := by
  unfold moment
  split
  · rfl
  · next rest _ =>
    have hscript : Goes t { t with script := rest } := ⟨rfl, rfl, id, id, fun _ => .inl⟩
    exact hscript.trans (goes_moves _)

theorem recorded_moment (t : RestlessTransport) : t.moment.recorded = t.recorded := by
  unfold moment
  split
  · rfl
  · exact recorded_moves _

/-! ## What the client can do -/

/-- **A write on a connection.**  The frame is recorded on it, or the connection has ended. -/
theorem write_cases (hid : t.memory.current = some id) (hs : t.memory.state ≠ .opening) (frame : Frame) :
    Goes t (t.write frame).2 ∧
      ((t.write frame).1 = .ok () ∧ (t.write frame).2.recorded = t.recorded ++ [(id, frame)] ∨
        (∃ e, (t.write frame).1 = .error e) ∧ (t.write frame).2.recorded = t.recorded ∧
          (t.write frame).2.memory.state = .closed) := by
  have hbefore := goes_moment t
  have hid' : t.moment.memory.current = some id := hbefore.current.trans hid
  have hs' : t.moment.memory.state ≠ .opening := fun h => hs (hbefore.opening h)
  rw [write]
  rcases t.moment.memory.write_cases frame with ⟨id', -, hcurrent, heq⟩ | ⟨hopened, heq⟩
  · obtain rfl : id' = id := Option.some.inj (hcurrent.symm.trans hid')
    have hwritten : Goes t.moment { t.moment with
        memory := { t.moment.memory with written := t.moment.memory.written ++ [(id', frame)] } } :=
      ⟨rfl, rfl, id, id, fun _ => .inl⟩
    rw [heq]
    refine ⟨hbefore.trans (hwritten.trans (goes_moment _)), .inl ⟨rfl, ?_⟩⟩
    rw [recorded_moment, ← recorded_moment t]
    simp [recorded]
  · have hclosed : t.moment.memory.state = .closed := by
      cases hstate : t.moment.memory.state with
      | closed => rfl
      | opening => exact absurd hstate hs'
      | opened => exact nomatch hid'.symm.trans (hopened hstate)
    rw [heq]
    exact ⟨hbefore.trans (goes_moment _), .inr ⟨⟨_, rfl⟩,
      (recorded_moment _).trans (recorded_moment t), (goes_moment _).closed hclosed⟩⟩

/-- **After a hang-up the connection has ended**, whatever is answered. -/
theorem goes_hangUp (t : RestlessTransport) (reason : String) :
    Goes t (t.hangUp reason).2 ∧ (t.hangUp reason).2.recorded = t.recorded ∧
      (t.hangUp reason).2.memory.state = .closed := by
  have hbefore := goes_moment t
  rw [hangUp, MemoryTransport.hangUp]
  by_cases hs : t.moment.memory.state = .closed
  · rw [if_pos hs]
    exact ⟨hbefore.trans (goes_moment _), (recorded_moment _).trans (recorded_moment t),
      (goes_moment _).closed hs⟩
  · rw [if_neg hs]
    have hends : Goes t.moment { t.moment with
        memory := { t.moment.memory with
          state := .closed
          closeReasons := t.moment.memory.closeReasons ++ [reason] }.emit (.closed true) } :=
      goes_emit (fun _ => rfl) (by simp) fun _ _ => rfl
    refine ⟨hbefore.trans (hends.trans (goes_moment _)), ?_, (goes_moment _).closed ?_⟩
    · rw [recorded_moment, ← recorded_moment t, recorded, MemoryTransport.emit_same]
      rfl
    · rw [MemoryTransport.emit_same]

/-- **A transport without a connection gives a new one**, or refuses and stays as it is. -/
theorem dial_cases (hs : t.memory.state = .closed) (url : String) (headers : Headers) :
    (∃ t₁, (t.dial url headers).1 = .ok ⟨t.memory.nextNumber⟩ ∧ Goes t₁ (t.dial url headers).2 ∧
        (t.dial url headers).2.recorded = t.recorded ∧
        t₁.memory.current = some ⟨t.memory.nextNumber⟩ ∧
        t₁.memory.nextNumber = t.memory.nextNumber + 1 ∧ t₁.memory.state = .opening ∧
        ∀ p ∈ t₁.memory.events, p ∈ t.memory.events ∨ t.memory.current = some p.1) ∨
      (∃ e, (t.dial url headers).1 = .error e) ∧ Goes t (t.dial url headers).2 ∧
        (t.dial url headers).2.recorded = t.recorded := by
  have hbefore := goes_moment t
  have hs' : t.moment.memory.state = .closed := hbefore.closed hs
  by_cases hsink : t.moment.memory.sink = .missing
  · refine .inr ?_
    simp only [dial, MemoryTransport.dial, hs', hsink, ne_eq, not_true, if_false, if_true]
    exact ⟨⟨_, rfl⟩, hbefore.trans (goes_moment _), (recorded_moment _).trans (recorded_moment t)⟩
  · refine .inl ?_
    simp only [dial, MemoryTransport.dial, hs', hsink, ne_eq, not_true, if_false,
      ← hbefore.nextNumber]
    refine ⟨_, trivial, goes_moment _, ?_, rfl, rfl, rfl,
      fun p hp => (hbefore.events p hp).imp id And.left⟩
    exact (recorded_moment _).trans (recorded_moment t)

/-- The oldest event is taken, and nothing else. -/
theorem receive?_cases {p : ConnectionId × TransportEvent} (h : t.receive? = some (p, t')) :
    p ∈ t.memory.events ∧ Goes t t' ∧ t'.recorded = t.recorded := by
  simp only [receive?, MemoryTransport.receive?, Option.map_eq_some_iff] at h
  obtain ⟨⟨event, memory⟩, hreceive, heq⟩ := h
  split at hreceive
  · cases hreceive
  · next rest hevents =>
    cases hreceive
    cases heq
    have htaken : Goes t { t with memory := { t.memory with events := rest } } :=
      ⟨rfl, rfl, id, id, fun p hp => .inl (hevents ▸ List.mem_cons_of_mem _ hp)⟩
    exact ⟨hevents ▸ List.mem_cons_self, htaken.trans (goes_moment _), recorded_moment _⟩

/-! ## Names and ends -/

/-- **What holds at every moment.**  No name of a connection is yet to be given, and if the end of the
connection at hand is reported, it has ended. -/
structure Orderly (t : RestlessTransport) : Prop where
  event_lt : ∀ p ∈ t.memory.events, p.1.number < t.memory.nextNumber
  current_lt : ∀ id, t.memory.current = some id → id.number < t.memory.nextNumber
  recorded_lt : ∀ w ∈ t.recorded, w.1.number < t.memory.nextNumber
  ended : ∀ id normal, (id, .closed normal) ∈ t.memory.events → t.memory.current = some id →
    t.memory.state = .closed

namespace Orderly

theorem of_new (script : List (List PeerMove)) : Orderly (new script) where
  event_lt := by simp [new, MemoryTransport.new, MemoryTransport.installSink]
  current_lt := by simp [new, MemoryTransport.new, MemoryTransport.installSink]
  recorded_lt := by simp [new, recorded, MemoryTransport.new, MemoryTransport.installSink]
  ended := by simp [new, MemoryTransport.new, MemoryTransport.installSink]

/-- The moves of the peer, and writes on connections that were given. -/
theorem goes (h : Orderly t) (hg : Goes t t')
    (hrecorded : ∀ w ∈ t'.recorded, w ∈ t.recorded ∨ w.1.number < t.memory.nextNumber) :
    Orderly t' where
  event_lt p hp := by
    rw [hg.nextNumber]
    rcases hg.events p hp with hp | ⟨hid, -⟩
    · exact h.event_lt p hp
    · exact h.current_lt _ hid
  current_lt id hid := by
    rw [hg.nextNumber]
    exact h.current_lt id (hg.current ▸ hid)
  recorded_lt w hw := by
    rw [hg.nextNumber]
    exact (hrecorded w hw).elim (h.recorded_lt w) fun hlt => hlt
  ended id normal hm hid := by
    rw [hg.current] at hid
    rcases hg.events _ hm with hm | ⟨-, hend⟩
    · exact hg.closed (h.ended id normal hm hid)
    · exact hend normal rfl

/-- A connection is given, under a name of its own. -/
theorem given (h : Orderly t) (hg : Goes t' t'') (hrecorded : t''.recorded = t.recorded)
    (hcurrent : t'.memory.current = some ⟨t.memory.nextNumber⟩)
    (hnext : t'.memory.nextNumber = t.memory.nextNumber + 1)
    (hevents : ∀ p ∈ t'.memory.events, p ∈ t.memory.events ∨ t.memory.current = some p.1) :
    Orderly t'' := by
  have hlt (p : ConnectionId × TransportEvent) (hp : p ∈ t'.memory.events) :
      p.1.number < t.memory.nextNumber := by
    rcases hevents p hp with hp | hid
    · exact h.event_lt p hp
    · exact h.current_lt _ hid
  constructor
  · intro p hp
    rw [hg.nextNumber, hnext]
    rcases hg.events p hp with hp | ⟨hid, -⟩
    · exact Nat.lt_succ_of_lt (hlt p hp)
    · have hfresh : (⟨t.memory.nextNumber⟩ : ConnectionId) = p.1 := Option.some.inj (hcurrent.symm.trans hid)
      rw [← hfresh]
      exact Nat.lt_succ_self _
  · intro id hid
    rw [hg.current, hcurrent] at hid
    cases hid
    rw [hg.nextNumber, hnext]
    exact Nat.lt_succ_self _
  · intro w hw
    rw [hg.nextNumber, hnext]
    exact Nat.lt_succ_of_lt (h.recorded_lt w (hrecorded ▸ hw))
  · intro id normal hm hid
    rw [hg.current, hcurrent] at hid
    cases hid
    rcases hg.events _ hm with hm | ⟨-, hend⟩
    · exact absurd (hlt _ hm) (Nat.lt_irrefl _)
    · exact hend normal rfl

/-- Nothing is recorded under a name that is yet to be given. -/
theorem wire_fresh (h : Orderly t) (hid : t.memory.nextNumber ≤ id.number) : t.wire id = [] := by
  rw [wire, List.map_eq_nil_iff, List.filter_eq_nil_iff]
  intro w hw
  have hlt := h.recorded_lt w hw
  simp only [decide_eq_true_eq]
  rintro rfl
  exact absurd hlt (Nat.not_lt.2 hid)

end Orderly

end RestlessTransport

end RealtimeClient
