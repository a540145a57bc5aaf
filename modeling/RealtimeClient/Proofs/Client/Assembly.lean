import Mathlib
import RealtimeClient.Proofs.Since
import RealtimeClient.Proofs.Client.Delivery
import RealtimeClient.Proofs.Client.Traces
import RealtimeClient.Proofs.Codec.Lifecycle

/-!
# Packets of one connection

A packet can take many frames, and its connection can be lost in between.  What the codec has of it
then stays where it is until the next connection is asked for; whatever the old connection still has
to say is turned away by its name.  Each of the two alone would let frames of different connections
into one packet.

* `Engine.Renews`, `renews_handle` — the engine has the codec give up what it waits for **before every
  dial**.
* `lastDial` — the latest dial of a trace, and its answer.
* `Collects`, `Assembled` — a packet under way, and one that is complete, from frames that came behind
  each other under the name that the latest dial was answered with.
* `Assembling`, `assembling_carryOut`, `assembling_fed` — the invariant of a client and its trace, and
  what effects and frames make of it.
* `receiveEvent_late` — an event of another connection than the current one.
* `frames_never_mix` — both, over any run and any transport.
-/

namespace RealtimeClient

/-! ## The codec is renewed before a dial -/

namespace Engine

/-- **The codec is told to give up what it waits for before every dial**, in a list of effects of
which it was told so already, or not. -/
def Renews (renewed : Bool) : List Effect → Prop
  | [] => True
  | f :: rest =>
    ((∃ query headers, f = .openTransport query headers) → renewed = true) ∧
      Renews (renewed || decide (f = .resetCodec)) rest

theorem renews_of_not_opens {effects : List Effect} (h : ¬Opens effects) (renewed : Bool) :
    Renews renewed effects := by
  induction effects generalizing renewed with
  | nil => trivial
  | cons f rest ih =>
    refine ⟨?_, ih ?_ _⟩
    · rintro ⟨query, headers, rfl⟩
      exact absurd ⟨query, headers, List.mem_cons_self⟩ h
    · rintro ⟨query, headers, hm⟩
      exact h ⟨query, headers, List.mem_cons_of_mem f hm⟩

/-- **Whatever the engine is told, it renews the codec before it dials.** -/
theorem renews_handle (e : Engine) (i : Input) : Renews false (e.handle i).2 := by
  by_cases hb : Begins e i
  · cases hb with
    | connect hs query headers =>
      cases hp : e.reconnectPending <;>
        simp [handle, Engine.connect, hs, hp, startAttempt, Renews]
    | deferred hs hd normal =>
      obtain ⟨⟨query, headers⟩, hd⟩ := Option.isSome_iff_exists.1 hd
      rw [handle, transportClosed_of_deferred hs hd]
      cases hp : e.reconnectPending <;>
        simp [Engine.connect, disconnected, startAttempt, cancelHeartbeat, hp, Renews]
    | retry hs hp =>
      simp [handle, Engine.timerFired, hs, hp, startAttempt, Renews]
  · refine renews_of_not_opens ?_ false
    rw [opens_iff]
    exact hb

end Engine

namespace Client

/-! ## What traces tell -/

/-- The answer that a dial got. -/
def dialed? : Mark → Option (Except TransportError ConnectionId)
  | .dialed answer => some answer
  | _ => none

/-- **The answer to the latest dial.** -/
def lastDial (trace : List Mark) : Option (Except TransportError ConnectionId) :=
  (trace.filterMap dialed?).getLast?

/-- A text and buffers behind it, all of one connection. -/
def packetMarks (id : ConnectionId) (s : String) (data : List Bytes) : List Mark :=
  .fed id (.text s) :: data.map fun d => .fed id (.binary d)

/-- **A packet under way** has come, so far, in the latest frames: its text and some buffers, all under
the name that the dial before them was answered with. -/
def Collects (revision : Revision) (trace : List Mark) (p : Codec.Partial) : Prop :=
  ∃ id before s data began, trace = before ++ packetMarks id s data ∧
    lastDial before = some (.ok id) ∧ Codec.readText s.toList = .ok began ∧
      p = began.load revision data

/-- **A packet was assembled from frames of one connection**: a text and buffers, fed behind each other
under the name that the dial before them was answered with.  It is the packet that a new codec gives
for these frames, with the last one of them. -/
def Assembled (revision : Revision) (trace : List Mark) (p : Packet) : Prop :=
  ∃ id before s data, trace = before ++ packetMarks id s data ∧ lastDial before = some (.ok id) ∧
    ((Codec.new revision).feedAll (.text s :: data.map .binary)).2 =
      List.replicate data.length (Except.ok none) ++ [Except.ok (some p)]

/-- Every packet of a trace was assembled from frames of one connection. -/
def AllAssembled (revision : Revision) (trace : List Mark) : Prop :=
  ∀ earlier p later, trace = earlier ++ Mark.decoded p :: later → Assembled revision earlier p

variable {revision : Revision} {trace : List Mark} {p : Codec.Partial}

theorem lastDial_append (trace more : List Mark) :
    lastDial (trace ++ more) = (lastDial more).or (lastDial trace) := by
  rw [lastDial, List.filterMap_append, List.getLast?_append, lastDial, lastDial]

theorem lastDial_dialed (trace : List Mark) (answer : Except TransportError ConnectionId) :
    lastDial (trace ++ [Mark.dialed answer]) = some answer := by
  rw [lastDial_append]
  rfl

/-- A frame is no dial. -/
theorem lastDial_fed (trace : List Mark) (id : ConnectionId) (frame : Frame) :
    lastDial (trace ++ [Mark.fed id frame]) = lastDial trace := by
  rw [lastDial_append]
  rfl

theorem lastDial_packetMarks (before : List Mark) (id : ConnectionId) (s : String)
    (data : List Bytes) : lastDial (before ++ packetMarks id s data) = lastDial before := by
  have hnone : lastDial (packetMarks id s data) = none := by
    simp [lastDial, packetMarks, List.filterMap_cons, List.filterMap_map, dialed?, Function.comp_def]
  rw [lastDial_append, hnone]
  rfl

/-- Marks among which no packet is leave the packets of a trace as they are. -/
theorem AllAssembled.append (h : AllAssembled revision trace) {marks : List Mark}
    (hno : ∀ q, .decoded q ∉ marks) : AllAssembled revision (trace ++ marks) := by
  intro earlier q later heq
  rcases split_append heq with ⟨between, htrace, -⟩ | ⟨between, -, hmarks⟩
  · exact h earlier q between htrace
  · exact absurd (hmarks ▸ by simp) (hno q)

/-- A further packet only has to be assembled itself. -/
theorem AllAssembled.concat (h : AllAssembled revision trace) {q : Packet}
    (hq : Assembled revision trace q) : AllAssembled revision (trace ++ [Mark.decoded q]) := by
  intro earlier q' later heq
  rcases split_append heq with ⟨between, htrace, -⟩ | ⟨between, rfl, hmarks⟩
  · exact h earlier q' between htrace
  · cases between with
    | nil =>
      obtain ⟨⟨⟩, -⟩ := List.cons.inj hmarks
      rwa [List.append_nil]
    | cons mark rest => simp at hmarks

/-- A packet under way whose buffers have all come is assembled. -/
theorem Collects.assembled (h : Collects revision trace p) (hlen : p.buffers.length = p.expected)
    {q : Packet} (hq : p.finish = .ok q) : Assembled revision trace q := by
  obtain ⟨id, before, s, data, began, htrace, hdial, hs, rfl⟩ := h
  have hempty : began.buffers.length = 0 := by
    rw [Codec.readText_buffers hs]
    rfl
  have hdata : data.length = began.expected := by
    rw [Codec.length_load, hempty, Nat.zero_add] at hlen
    exact hlen
  refine ⟨id, before, s, data, htrace, hdial, ?_⟩
  have hload : (began.load (Codec.new revision).revision data).finish = .ok q := hq
  rw [Codec.feedAll_text_complete _ hs hdata, hdata, hload]
  rfl

/-! ## The invariant -/

variable {τ : Type} {c c' : Client τ}

/-- **What a client and its trace have in common.** -/
structure Assembling (revision : Revision) (trace : List Mark) (c : Client τ) : Prop where
  revision_eq : c.codec.revision = revision
  /-- The connection that counts is the one that was dialed last. -/
  current : ∀ id, c.current = some id → lastDial trace = some (.ok id)
  /-- What the codec waits with has come in the latest frames. -/
  pending : ∀ p, c.codec.pending = some p →
    Collects revision trace p ∧ p.buffers.length < p.expected
  all : AllAssembled revision trace

namespace Assembling

/-- Nothing waits in the codec. -/
theorem of_none (hrevision : c.codec.revision = revision)
    (hcurrent : ∀ id, c.current = some id → lastDial trace = some (.ok id))
    (hnone : c.codec.pending = none) (hall : AllAssembled revision trace) :
    Assembling revision trace c where
  revision_eq := hrevision
  current := hcurrent
  pending p hp := by
    rw [hnone] at hp
    cases hp
  all := hall

/-- Nothing is collected before anything has happened. -/
theorem of_unused (h : Unused c) : Assembling c.codec.revision [] c := by
  refine .of_none rfl ?_ (by rw [h.codec]; rfl) ?_
  · intro id hid
    rw [h.current] at hid
    cases hid
  · intro earlier p later heq
    simp at heq

/-- The codec may give up what it waits for, and the connection may be over. -/
theorem weaken (h : Assembling revision trace c) (hrevision : c'.codec.revision = c.codec.revision)
    (hpending : ∀ p, c'.codec.pending = some p → c.codec.pending = some p)
    (hcurrent : ∀ id, c'.current = some id → c.current = some id) : Assembling revision trace c' where
  revision_eq := hrevision.trans h.revision_eq
  current id hid := h.current id (hcurrent id hid)
  pending p hp := h.pending p (hpending p hp)
  all := h.all

/-- What waits goes on with a frame of the connection that counts: a text begins a packet, and a
buffer goes to the one that waits. -/
theorem collects_next (h : Assembling revision trace c) {id : ConnectionId}
    (hid : c.current = some id) {frame : Frame} (hnext : c.codec.next frame = .ok p) :
    Collects revision (trace ++ [Mark.fed id frame]) p ∧ p.buffers.length ≤ p.expected := by
  have hdial : lastDial trace = some (.ok id) := h.current id hid
  cases frame with
  | text s =>
    have hs : Codec.readText s.toList = .ok p := hnext
    refine ⟨⟨id, trace, s, [], p, rfl, hdial, hs, (Codec.load_nil p revision).symm⟩, ?_⟩
    rw [Codec.readText_buffers hs]
    exact Nat.zero_le _
  | binary d =>
    cases hwaits : c.codec.pending with
    | none => simp [Codec.next, hwaits] at hnext
    | some waiting =>
      obtain ⟨⟨id', before, s, data, began, rfl, hbefore, hs, rfl⟩, hlt⟩ := h.pending waiting hwaits
      -- no dial has come in between, so the frame is of the same connection
      rw [lastDial_packetMarks, hbefore] at hdial
      obtain rfl : id' = id := by simpa using hdial
      obtain rfl : (began.load revision data).load revision [d] = p := by
        simpa [Codec.next, hwaits, h.revision_eq] using hnext
      refine ⟨⟨id', before, s, data ++ [d], began, ?_, hbefore, hs, ?_⟩, ?_⟩
      · simp [packetMarks]
      · rw [Codec.load_append]
      · rw [Codec.length_load, Codec.load_expected]
        exact hlt

end Assembling

/-- **A frame of the connection that counts.** -/
theorem assembling_fed (h : Assembling revision trace c) {id : ConnectionId}
    (hid : c.current = some id) (frame : Frame) :
    Assembling revision (trace ++ c.fedMarks id frame)
      { c with codec := (c.codec.feed frame).1 } := by
  have hfed : AllAssembled revision (trace ++ [Mark.fed id frame]) := h.all.append (by simp)
  have hcurrent : ∀ id', c.current = some id' →
      lastDial (trace ++ [Mark.fed id frame]) = some (.ok id') := by
    intro id' hid'
    rw [lastDial_fed]
    exact h.current id' hid'
  have hrevision : (c.codec.feed frame).1.revision = revision :=
    (Codec.feed_revision c.codec frame).trans h.revision_eq
  generalize hcodec : (c.codec.feed frame).1 = codec at hrevision ⊢
  obtain ⟨e, hfeed⟩ | ⟨p, hnext, hge, hfeed⟩ | ⟨p, hnext, hlt, hfeed⟩ :=
    Codec.feed_cases c.codec frame
  · have hmarks : c.fedMarks id frame = [Mark.fed id frame] := by rw [fedMarks, hfeed]
    rw [hmarks]
    rw [hfeed] at hcodec
    exact .of_none hrevision hcurrent (hcodec ▸ rfl) hfed
  · obtain ⟨hcollects, hle⟩ := h.collects_next hid hnext
    have hnone : codec.pending = none := by
      rw [← hcodec, hfeed]
      rfl
    cases hfinish : p.finish with
    | error e =>
      have hmarks : c.fedMarks id frame = [Mark.fed id frame] := by
        rw [fedMarks, hfeed, hfinish]
        rfl
      rw [hmarks]
      exact .of_none hrevision hcurrent hnone hfed
    | ok q =>
      have hmarks : c.fedMarks id frame = [Mark.fed id frame] ++ [Mark.decoded q] := by
        rw [fedMarks, hfeed, hfinish]
        rfl
      have hassembled : Assembled revision (trace ++ [Mark.fed id frame]) q :=
        hcollects.assembled (le_antisymm hle hge) hfinish
      rw [hmarks, ← List.append_assoc]
      refine .of_none hrevision ?_ hnone (hfed.concat hassembled)
      intro id' hid'
      rw [lastDial_append]
      exact hcurrent id' hid'
  · have hmarks : c.fedMarks id frame = [Mark.fed id frame] := by rw [fedMarks, hfeed]
    have hwaits : codec.pending = some p := by rw [← hcodec, hfeed]
    rw [hmarks]
    refine ⟨hrevision, hcurrent, ?_, hfed⟩
    intro p' hp'
    obtain rfl : p = p' := Option.some.inj (hwaits.symm.trans hp')
    exact ⟨(h.collects_next hid hnext).1, hlt⟩

variable [Transport τ]

/-- **An effect**: if it dials, nothing waits. -/
theorem assembling_carryOut (h : Assembling revision trace c) {f : Engine.Effect}
    (hf : (∃ query headers, f = .openTransport query headers) → c.codec.pending = none) :
    Assembling revision (trace ++ dialMarks (c, f)) (c.carryOut f).1 := by
  by_cases hopens : ∃ query headers, f = .openTransport query headers
  · have hnone : c.codec.pending = none := hf hopens
    obtain ⟨query, headers, rfl⟩ := hopens
    have hall (answer : Except TransportError ConnectionId) :
        AllAssembled revision (trace ++ [Mark.dialed answer]) := h.all.append (by simp)
    simp only [carryOut, openTransport, dialMarks]
    generalize Transport.dial c.transport _ headers = answered
    obtain ⟨e | id, transport⟩ := answered
    · refine .of_none h.revision_eq ?_ hnone (hall _)
      intro id hid
      cases hid
    · refine .of_none h.revision_eq ?_ hnone (hall _)
      intro id' hid'
      obtain rfl : id = id' := Option.some.inj hid'
      exact lastDial_dialed trace _
  · have hmarks : dialMarks (c, f) = [] := by
      cases f with
      | openTransport query headers => exact absurd ⟨query, headers, rfl⟩ hopens
      | _ => rfl
    rw [hmarks, List.append_nil]
    have hcodec := codec_carryOut (c := c) f
    refine h.weaken ?_ ?_ ?_
    · rw [hcodec]
      cases f <;> rfl
    · intro p hp
      rw [hcodec] at hp
      cases f <;> first | exact hp | cases hp
    · intro id hid
      rcases current_carryOut (c := c) (f := f) fun query headers heq => hopens ⟨query, headers, heq⟩
        with hsame | ⟨hnone, -⟩
      · rwa [hsame] at hid
      · rw [hnone] at hid
        cases hid

/-- Effects in order, the codec being renewed before each dial. -/
theorem assembling_carryOutAll {effects : List Engine.Effect} {renewed : Bool}
    (hrenews : Engine.Renews renewed effects) (hnone : renewed = true → c.codec.pending = none)
    (h : Assembling revision trace c) :
    Assembling revision (trace ++ (c.stages effects).flatMap dialMarks) (c.carryOutAll effects).1 := by
  induction effects generalizing c trace renewed with
  | nil => simpa [stages, carryOutAll] using h
  | cons f rest ih =>
    obtain ⟨hdials, hrest⟩ := hrenews
    have hfirst := assembling_carryOut h fun hopens => hnone (hdials hopens)
    rw [stages, List.flatMap_cons, ← List.append_assoc]
    refine ih hrest ?_ hfirst
    intro hrenewed
    rw [codec_carryOut]
    rcases Bool.or_eq_true_iff.1 hrenewed with hbefore | hnow
    · cases f <;> first | exact hnone hbefore | rfl
    · obtain rfl : f = .resetCodec := of_decide_eq_true hnow
      rfl

/-- **The invariant composes**, so it holds of whole runs. -/
theorem assembling_composes (revision : Revision) :
    Composes (fun (c : Client τ) marks c' => ∀ trace, Assembling revision trace c →
      Assembling revision (trace ++ marks) c') fun _ => True where
  still hengine hcodec hcurrent trace h := by
    rw [List.append_nil]
    exact h.weaken (by rw [hcodec]) (fun p hp => hcodec ▸ hp) fun id hid => hcurrent ▸ hid
  append hfirst hrest trace h := by
    rw [← List.append_assoc]
    exact hrest _ (hfirst trace h)
  detach c trace h := by
    rw [List.append_nil]
    exact h.weaken rfl (fun _ hp => hp) nofun
  round c i _ trace h := by
    have hengine : Assembling revision trace { c with engine := (c.engine.handle i).1 } :=
      h.weaken rfl (fun _ hp => hp) fun _ hid => hid
    exact assembling_carryOutAll (c.engine.renews_handle i) nofun hengine
  fed c id frame hid trace h := assembling_fed h hid frame

/-! ## Late events -/

theorem receiveEvent_late {id : ConnectionId} (hid : c.current ≠ some id) (event : TransportEvent) :
    c.receiveEvent id event = c :=
  if_pos hid

/-- **An event of another connection than the current one is taken and has no effect.** -/
theorem turn?_event_late (hdraining : Draining c) {id : ConnectionId} {event : TransportEvent}
    {transport : τ} (hreceive : Transport.receive? c.transport = some ((id, event), transport))
    (hid : c.current ≠ some id) (ht : c.turn? .event = some c') : c' = { c with transport } := by
  have hlate : ({ c with transport } : Client τ).receiveEvent id event = { c with transport } :=
    receiveEvent_late (c := { c with transport }) hid event
  simp only [turn?, hreceive, Option.map_some] at ht
  split at ht
  · next h => cases h
  · rw [← Option.some.inj ht, hlate]
  · next h => cases h
  · next deadline hphase _ =>
    -- the session is not closed, so that the task goes on to wait
    have hopen : c.engine.state ≠ .closed := hdraining deadline hphase
    rw [← Option.some.inj ht, hlate]
    exact if_neg hopen
  · cases ht

/-- **Frames of different connections never mix**, over whatever transport, and however late events
come.  Every packet that the codec gives was assembled from frames fed behind each other under one
name, the one that the latest dial was answered with; and an event under any other name than the
current one changes nothing but that it is taken. -/
theorem frames_never_mix {c₀ c : Client τ} {trace : List Mark} (h₀ : Unused c₀)
    (hrun : Run c₀ trace c) :
    (∀ earlier p later, trace = earlier ++ Mark.decoded p :: later →
        Assembled c₀.codec.revision earlier p) ∧
      ∀ id event transport c', Transport.receive? c.transport = some ((id, event), transport) →
        c.current ≠ some id → c.turn? .event = some c' → c' = { c with transport } := by
  constructor
  · have hassembling := (assembling_composes c₀.codec.revision).run hrun [] (.of_unused h₀)
    rw [List.nil_append] at hassembling
    exact hassembling.all
  · intro id event transport c' hreceive hid ht
    exact turn?_event_late (hrun.draining h₀) hreceive hid ht

/-! ## A connection in the middle of a packet -/

theorem fresh_unused : Unused fresh := ⟨⟨_, _, rfl⟩, rfl, rfl, rfl, rfl, rfl⟩

/-- A text with a buffer to come. -/
def announced : Frame := .text "451-[\"e\",\x7b\"_placeholder\":true,\"num\":0\x7d]"

/-- The first connection brings a text, and its buffer is on the way when the connection is lost.
The application closes before the client learns of either, and connects again. -/
def interrupted : Client MemoryTransport :=
  let c := ((fresh.served (.connect .nil .nil)).acted .accept).turned .event
  let c := (c.acted (.send announced)).turned .event
  (((c.acted (.send (.binary [1]))).acted .drop).served .close).served (.connect .nil .nil)

/-- The second connection opens, behind what is left of the first one, and brings a text. -/
def resumed : Client MemoryTransport :=
  ((((interrupted.turned .event).turned .event).acted .accept).turned .event).acted
    (.send (.text "42[\"e\"]"))

theorem interrupted_run : Relation.ReflTransGen Step fresh interrupted := by
  refine .trans ?_ (run_served _ (.connect .nil .nil))
  refine .trans ?_ (run_served _ .close)
  refine .trans ?_ (run_acted _ .drop)
  refine .trans ?_ (run_acted _ (.send (.binary [1])))
  refine .trans ?_ (run_turned _ .event)
  refine .trans ?_ (run_acted _ (.send announced))
  refine .trans ?_ (run_turned _ .event)
  exact (run_served _ (.connect .nil .nil)).trans (run_acted _ .accept)

theorem resumed_run : Relation.ReflTransGen Step fresh resumed := by
  refine .trans ?_ (run_acted _ (.send (.text "42[\"e\"]")))
  refine .trans ?_ (run_turned _ .event)
  refine .trans ?_ (run_acted _ .accept)
  exact interrupted_run.trans ((run_turned _ .event).trans (run_turned _ .event))

theorem turn?_eq_turned {c : Client MemoryTransport} {t : Turn} (h : (c.turn? t).isSome = true) :
    c.turn? t = some (c.turned t) := by
  obtain ⟨c', ht⟩ := Option.isSome_iff_exists.1 h
  rw [turned, ht]
  rfl

/-- The buffer of the first connection is turned away, and the packet of the second one is assembled
from its text alone. -/
theorem resumed_assembles :
    interrupted.turned .event = { interrupted with
        transport := { interrupted.transport with events := [(⟨1⟩, .closed false)] } } ∧
      ∃ trace, Run fresh (trace ++ [Mark.fed ⟨2⟩ (.text "42[\"e\"]")] ++
          Mark.decoded (.event "/" "e" []) :: []) (resumed.turned .event) ∧
        Assembled .v4 (trace ++ [Mark.fed ⟨2⟩ (.text "42[\"e\"]")]) (.event "/" "e" []) := by
  constructor
  · obtain ⟨trace, hrun⟩ := exists_run interrupted_run
    have hturn : (interrupted.turn? .event).isSome = true := by decide +kernel
    exact (frames_never_mix fresh_unused hrun).2 ⟨1⟩ (.message (.binary [1])) _ _ rfl (by decide)
      (turn?_eq_turned hturn)
  · obtain ⟨trace, hrun⟩ := exists_run resumed_run
    have hturn : (resumed.turn? .event).isSome = true := by decide +kernel
    have hmarks : resumed.turnMarks .event =
        [.fed ⟨2⟩ (.text "42[\"e\"]"), .decoded (.event "/" "e" [])] := by
      decide +kernel
    have hlast := hrun.move (.turn .event (turn?_eq_turned hturn))
    rw [hmarks, ← List.singleton_append, ← List.append_assoc] at hlast
    exact ⟨trace, hlast, (frames_never_mix fresh_unused hlast).1 _ _ [] rfl⟩

end Client

end RealtimeClient
