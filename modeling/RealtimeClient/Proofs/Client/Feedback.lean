import Mathlib
import RealtimeClient.Proofs.Client.Coupling
import RealtimeClient.Proofs.Client.Front
import RealtimeClient.Proofs.Client.Traces
import RealtimeClient.Transport.Faulty

/-!
# The feedback loop

What the engine asks for can be refused at once, and a refusal is the next thing that the engine is
told, which may make it ask again.  The task goes round this loop until no input waits.  Whatever the
transport answers, it does not go round more than three times, and then there is a connection exactly
if the engine has one in mind.

* `Attached` — a connection exactly while the engine is not closed; `Fits` — the moment at which an
  input may come; `Ready` — the invariant between two turns.
* `Loop` — the loop itself, with the inputs that the engine is handed; `Loop.unique`, `loop_handle` —
  there is one way through it, and it ends.
* `Settles`, `settles_round` — what a round makes of the connection; `Loop.attached` — and the loop.
* `turnHands` — the inputs with which a turn enters the loop; `turnStages_eq` — all effects of a turn
  come from them.
* `Serves`, `Taken.serves` — what a turn does with them; `Run.ready` — runs keep the invariant.
* **`feedback_ends`** — the loop ends after three inputs at most, and leaves the client attached.
-/

namespace RealtimeClient.Client

variable {τ : Type} {c c' d : Client τ}

/-! ## The connection and the engine -/

/-- **There is a connection exactly while the engine is not closed.** -/
def Attached (c : Client τ) : Prop := c.current.isSome = true ↔ c.engine.state ≠ .closed

/-- **The moment at which an input may come.**  The end of a connection is told when there is none any
more; everything else is told to a client that has not missed an end. -/
def Fits (c : Client τ) : Engine.Input → Prop
  | .transportClosed _ => c.current = none
  | _ => Attached c

theorem Attached.of_core (h : c'.core = c.core) (hc : Attached c) : Attached c' := by
  have hcurrent : c'.current = c.current := congrArg Core.current h
  have hengine : c'.engine = c.engine := congrArg Core.engine h
  rwa [Attached, hcurrent, hengine]

theorem Attached.withEngine (h : Attached c) {e : Engine}
    (he : e.state = .closed ↔ c.engine.state = .closed) : Attached { c with engine := e } :=
  h.trans (not_congr he.symm)

theorem fits_of_attached {i : Engine.Input} (hi : ∀ normal, i ≠ .transportClosed normal)
    (h : Attached c) : Fits c i := by
  cases i with
  | transportClosed normal => exact absurd rfl (hi normal)
  | _ => exact h

/-- An application cannot ask for the end of a connection. -/
theorem ne_transportClosed_of_request {i : Engine.Input} (hi : i.isRequest = true) (normal : Bool) :
    i ≠ .transportClosed normal := by
  rintro rfl
  cases hi

theorem ne_transportClosed_of_arrival {i : Engine.Input} (hi : i.isArrival = true) (normal : Bool) :
    i ≠ .transportClosed normal := by
  rintro rfl
  cases hi

/-- **The invariant between two turns**: until the task has ended the client is attached, and nobody
but the transport tells of a lost connection. -/
structure Ready (c : Client τ) : Prop where
  attached : c.phase ≠ .ended → Attached c
  wishes : Wishes c.commands

theorem Unused.ready (h : Unused c) (hcom : c.commands = []) : Ready c where
  attached _ := by
    obtain ⟨revision, policy, hengine⟩ := h.engine
    simp [Attached, h.current, hengine, Engine.new]
  wishes := hcom ▸ wishes_nil

theorem Ready.of_core (h : Ready c) (hcore : c'.core = c.core) (hadds : Adds c c') : Ready c' where
  attached hphase := by
    have hsame : c'.phase = c.phase := congrArg Core.phase hcore
    exact (h.attached (hsame ▸ hphase)).of_core hcore
  wishes := hadds.wishes h.wishes

/-- **What part of a turn does**: the engine is told everything in its time, and the client is attached
again. -/
structure Serves (hands : List (Client τ × Engine.Input)) (c' : Client τ) : Prop where
  fits : ∀ h ∈ hands, Fits h.1 h.2
  attached : Attached c'
  wishes : Wishes c'.commands

theorem serves_nil (h : Attached c) (hw : Wishes c.commands) : Serves [] c := ⟨by simp, h, hw⟩

variable [Transport τ]

/-! ## The loop -/

/-- **The loop over the inputs that wait**: as long as there is one, the engine is handed it and its
effects are carried out, and what follows from them waits behind the others.  The second list has the
inputs that were handed. -/
inductive Loop : Client τ → List Engine.Input → List Engine.Input → Client τ → Prop
  | done (c : Client τ) : Loop c [] [] c
  | step {c d : Client τ} {i : Engine.Input} {rest handed : List Engine.Input}
      (h : Loop (c.round i).1 (rest ++ (c.round i).2) handed d) : Loop c (i :: rest) (i :: handed) d

/-- **There is one way through the loop.** -/
theorem Loop.unique {d' : Client τ} {inputs handed handed' : List Engine.Input}
    (h : Loop c inputs handed d) (h' : Loop c inputs handed' d') : handed = handed' ∧ d = d' := by
  induction h generalizing handed' with
  | done c =>
    cases h'
    exact ⟨rfl, rfl⟩
  | step _ ih =>
    cases h' with
    | step h' =>
      obtain ⟨rfl, rfl⟩ := ih h'
      exact ⟨rfl, rfl⟩

theorem Loop.of_round {i : Engine.Input} {next handed : List Engine.Input} (h : (c.round i).2 = next)
    (hl : Loop (c.round i).1 next handed d) : Loop c [i] (i :: handed) d :=
  .step (h ▸ hl)

/-- If nothing is left over after so many inputs, the loop ends with them. -/
theorem loop_feed {rounds : Nat} {inputs : List Engine.Input} (h : (c.feed rounds inputs).2 = []) :
    ∃ handed, Loop c inputs handed (c.feed rounds inputs).1 ∧ handed.length ≤ rounds := by
  induction rounds generalizing c inputs with
  | zero =>
    cases inputs with
    | nil => exact ⟨[], .done c, le_rfl⟩
    | cons i rest => cases h
  | succ rounds ih =>
    cases inputs with
    | nil => exact ⟨[], .done c, Nat.zero_le _⟩
    | cons i rest =>
      rw [feed_succ] at h ⊢
      obtain ⟨handed, hloop, hle⟩ := ih h
      exact ⟨i :: handed, .step hloop, Nat.succ_le_succ hle⟩

/-- **The loop ends**, after three inputs at most, and the status is published. -/
theorem loop_handle (c : Client τ) (i : Engine.Input) :
    ∃ handed d, Loop c [i] handed d ∧ handed.length ≤ 3 ∧ c.handle i = d.publishStatus := by
  obtain ⟨handed, hloop, hle⟩ := loop_feed (c.feed_enough i 0)
  obtain ⟨_, hlimit, -⟩ := loop_feed (c.feed_feedbackLimit i)
  obtain ⟨-, heq⟩ := hlimit.unique hloop
  exact ⟨handed, _, hloop, hle, congrArg publishStatus heq⟩

/-! ## What a round makes of the connection -/

/-- What a round may leave: an attached client to which nothing follows, or the news that the
connection is gone. -/
def Settles (r : Client τ × List Engine.Input) : Prop :=
  r.2 = [] ∧ Attached r.1 ∨ ∃ normal, r.2 = [.transportClosed normal] ∧ r.1.current = none

section Rounds

variable {earlier : List Engine.Effect}

/-- Effects that leave the connection alone. -/
theorem settles_of_quiet (hq : Engine.Quiet earlier) (h : Attached c) :
    Settles (c.carryOutAll earlier) := by
  refine .inl ⟨carryOutAll_snd_of_quiet hq, ?_⟩
  rwa [Attached, current_carryOutAll_of_quiet hq, engine_carryOutAll]

/-- A dial is answered with a connection, or refused. -/
theorem settles_dial (hq : Engine.Quiet earlier) (hs : c.engine.state = .opening) (query : Query)
    (headers : Headers) : Settles (c.carryOutAll (earlier ++ [.openTransport query headers])) := by
  have hengine := engine_carryOutAll c earlier
  rw [carryOutAll_append hq]
  simp only [carryOut, openTransport]
  split
  · refine .inl ⟨rfl, ?_⟩
    simp [Attached, hengine, hs]
  · exact .inr ⟨false, rfl, rfl⟩

/-- A close is accepted, or there is no connection any more. -/
theorem settles_hangUp (hq : Engine.Quiet earlier) (h : Attached c) (cause : Cause) :
    Settles (c.carryOutAll (earlier ++ [.closeTransport cause])) := by
  have hattached : Attached (c.carryOutAll earlier).1 := by
    rwa [Attached, current_carryOutAll_of_quiet hq, engine_carryOutAll]
  rw [carryOutAll_append hq]
  simp only [carryOut, closeTransport]
  split
  · exact .inl ⟨rfl, hattached⟩
  · exact .inr ⟨_, rfl, rfl⟩

/-- **A round leaves the client attached**, unless the transport has refused. -/
theorem settles_round {i : Engine.Input} (h : Fits c i) : Settles (c.round i) := by
  by_cases hi : ∃ normal, i = .transportClosed normal
  · obtain ⟨normal, rfl⟩ := hi
    have hnone : c.current = none := h
    rw [round, Engine.handle]
    rcases c.engine.transportClosed_use normal with
      ⟨hq, hclosed⟩ | ⟨-, earlier, query, headers, heq, hq, hopening⟩
    · exact settles_of_quiet hq (by simp [Attached, hnone, hclosed])
    · rw [heq]
      exact settles_dial hq hopening query headers
  · have hattached : Attached c := by
      cases i with
      | transportClosed normal => exact absurd ⟨normal, rfl⟩ hi
      | _ => exact h
    rw [round]
    cases Engine.use_of_handle (e := c.engine) fun normal heq => hi ⟨normal, heq⟩ with
    | still hq hstate => exact settles_of_quiet hq (hattached.withEngine (by rw [hstate]))
    | connected hq hbefore hafter =>
      exact settles_of_quiet hq (hattached.withEngine (by simp [hbefore, hafter]))
    | hangsUp earlier cause heq hq hbefore hafter =>
      rw [heq]
      refine settles_hangUp hq (hattached.withEngine ?_) cause
      rcases hafter with hafter | hafter <;> simp [hafter, hbefore]
    | dials _ earlier query headers heq hq hbefore hafter =>
      rw [heq]
      exact settles_dial hq hafter query headers

end Rounds

/-- **At the end of the loop the client is attached.** -/
theorem Loop.attached {inputs handed : List Engine.Input} (h : Loop c inputs handed d)
    (hs : Settles (c, inputs)) : Attached d := by
  induction h with
  | done c =>
    rcases hs with ⟨-, hattached⟩ | ⟨_, heq, -⟩
    · exact hattached
    · cases heq
  | step _ ih =>
    rcases hs with ⟨heq, -⟩ | ⟨normal, heq, hnone⟩
    · cases heq
    · cases heq
      exact ih (settles_round (i := .transportClosed normal) hnone)

theorem Loop.attached_of_fits {i : Engine.Input} {handed : List Engine.Input}
    (h : Loop c [i] handed d) (hfits : Fits c i) : Attached d := by
  cases h with
  | step h => exact h.attached (settles_round hfits)

theorem attached_handle {i : Engine.Input} (h : Fits c i) : Attached (c.handle i) := by
  obtain ⟨handed, d, hloop, -, heq⟩ := loop_handle c i
  rw [heq]
  exact (hloop.attached_of_fits h).of_core core_publishStatus

/-! ## The inputs of a turn -/

/-- The input of a piece of work, if it tells the engine something. -/
def workHands : Client τ × Work → List (Client τ × Engine.Input)
  | (c, .told i) => [(c, i)]
  | _ => []

/-- **The inputs with which a turn enters the loop**, each with the client at that moment. -/
def turnHands (c : Client τ) (t : Turn) : List (Client τ × Engine.Input) :=
  (c.turnWork t).flatMap workHands

/-- **All effects of a turn come from these inputs.** -/
theorem turnStages_eq (c : Client τ) (t : Turn) :
    c.turnStages t = (c.turnHands t).flatMap fun h => h.1.handleStages h.2 := by
  have hpiece (w : Client τ × Work) :
      workStages w = (workHands w).flatMap fun h => h.1.handleStages h.2 := by
    obtain ⟨c, _ | _ | _ | _⟩ := w <;> simp [workStages, workHands]
  rw [turnStages, turnHands, List.flatMap_assoc, funext hpiece]

/-! ## Between two turns -/

theorem ready_finish : Ready c.finish where
  attached hphase := absurd rfl hphase
  wishes := wishes_nil

theorem serves_told {i : Engine.Input} (hfits : Fits c i) (hw : Wishes c.commands) :
    Serves (workHands (c, .told i)) (c.handle i) where
  fits _ hm := List.mem_singleton.1 hm ▸ hfits
  attached := attached_handle hfits
  wishes := (Adds.of_front (front_handle i)).wishes hw

/-- A message for a namespace may make the task fail, which does not concern the connection. -/
theorem Attached.route (h : Attached c) (p : Packet) : Attached (c.route p) := by
  rcases core_route (c := c) p with hcore | hcore
  · exact h.of_core hcore
  · have hengine : (c.route p).engine = c.engine := congrArg Core.engine hcore
    have hcurrent : (c.route p).current = c.current := congrArg Core.current hcore
    rwa [Attached, hengine, hcurrent]

theorem wishes_route (h : Wishes c.commands) (p : Packet) : Wishes (c.route p).commands := by
  rcases adds_route (c := c) p with hadds | ⟨-, hnil⟩
  · exact hadds.wishes h
  · exact hnil ▸ wishes_nil

theorem adds_ordered {command : Command} (h : command.input? = none) : Adds c (c.execute command) := by
  cases command with
  | emit ns name args reply => exact .of_front (front_emit ns name args reply)
  | socketCreated ns => exact .of_front (front_socketCreated ns)
  | closeSocket ns => exact .of_front (front_closeSocket ns)
  | _ => cases h

/-- **The pieces of a turn.** -/
theorem turnWise_serves : TurnWise (fun (c : Client τ) works c' => Attached c → Wishes c.commands →
    Serves (works.flatMap workHands) c') fun i => ∀ normal, i ≠ .transportClosed normal where
  append hfirst hrest h hw := by
    have hs := hfirst h hw
    have hs' := hrest hs.attached hs.wishes
    refine ⟨fun hand hm => ?_, hs'.attached, hs'.wishes⟩
    rw [List.flatMap_append] at hm
    exact (List.mem_append.1 hm).elim (hs.fits hand) (hs'.fits hand)
  counted c metrics _ _ h hw := serves_nil h hw
  heard c i hi h hw := by
    rw [List.flatMap_singleton]
    exact serves_told (fits_of_attached (ne_transportClosed_of_arrival hi) h) hw
  fed c id frame _ h hw := serves_nil h hw
  routed c p h hw := serves_nil (h.route p) (wishes_route hw p)
  received _ h hw := serves_nil h hw
  opened c h hw := by
    have hfits : Fits c .transportOpened := h
    rw [List.flatMap_singleton]
    exact serves_told hfits hw
  lost c normal _ hw := by
    have hdetached : Fits { c with current := none } (.transportClosed normal) := rfl
    rw [List.flatMap_singleton]
    exact serves_told hdetached hw
  fired c timers h hw := serves_nil h hw
  taken hcom _ h hw := serves_nil h fun i hi => hw i (hcom ▸ List.mem_cons_of_mem _ hi)
  told c i hi h hw := by
    rw [List.flatMap_singleton]
    exact serves_told (fits_of_attached hi h) hw
  ordered {c command rest} hcom haside h hw := by
    have hrest : Wishes rest := fun i hi => hw i (hcom ▸ List.mem_cons_of_mem _ hi)
    exact serves_nil (h.of_core (core_ordered (c := { c with commands := rest }) haside))
      ((adds_ordered (c := { c with commands := rest }) haside).wishes hrest)
  drained deadline _ h hw := serves_nil h hw
  finished {c} hclosed _ _ := by
    have hengine : c.finish.engine = c.engine := congrArg Core.engine core_finish
    have hcurrent : c.finish.current = none := rfl
    exact serves_nil (by simp [Attached, hengine, hcurrent, hclosed]) wishes_nil

/-- **Turns.** -/
theorem Taken.serves {t : Turn} (ht : Taken c t c') (h : Ready c) : Serves (c.turnHands t) c' := by
  refine turnWise_serves.turn (fun _ _ => nofun) (fun _ command hmem i hi => ?_) ht
    (h.attached ht.not_ended) h.wishes
  cases command with
  | engine j =>
    cases hi
    exact ne_transportClosed_of_request (h.wishes i hmem)
  | shutdown =>
    cases hi
    nofun
  | _ => cases hi

theorem Move.ready {marks : List Mark} (m : Move c marks c') (h : Ready c) : Ready c' := by
  cases m with
  | call a => exact h.of_core (core_call a) (adds_call a)
  | on id name listener => exact ⟨h.attached, h.wishes⟩
  | turn t ht =>
    have hserves := (taken_of_turn? ht).serves h
    exact ⟨fun _ => hserves.attached, hserves.wishes⟩
  | transport transport => exact ⟨h.attached, h.wishes⟩
  | elapse time =>
    rcases elapseTo_cases c time with heq | ⟨-, -, -, heq⟩ <;> rw [heq]
    · exact ⟨h.attached, h.wishes⟩
    · exact ready_finish
  | silence => exact ready_finish

/-- **Runs**, by induction on their moves. -/
theorem Run.ready {trace : List Mark} (hrun : Run c trace c') (h : Ready c) : Ready c' := by
  induction hrun with
  | nil => exact h
  | move _ m ih => exact m.ready ih

/-! ## The loop ends -/

/-- **The feedback loop ends**, over whatever transport and whatever it answers.  For every input with
which a turn enters the loop, the engine is handed three inputs at most, and at the end there is a
connection exactly if the engine is not closed. -/
theorem feedback_ends {c₀ : Client τ} {trace : List Mark} {t : Turn} {i : Engine.Input}
    (h₀ : Unused c₀) (hcom : c₀.commands = []) (hrun : Run c₀ trace c) (ht : c.turn? t = some c')
    (hands : (d, i) ∈ c.turnHands t) :
    (∃ handed last, Loop d [i] handed last) ∧
      ∀ handed last, Loop d [i] handed last →
        handed.length ≤ 3 ∧ d.handle i = last.publishStatus ∧
          (last.current.isSome = true ↔ last.engine.state ≠ .closed) := by
  have hready : Ready c := hrun.ready (h₀.ready hcom)
  have hfits : Fits d i := ((taken_of_turn? ht).serves hready).fits (d, i) hands
  obtain ⟨handed, last, hloop, hle, hhandle⟩ := loop_handle d i
  refine ⟨⟨handed, last, hloop⟩, fun handed' last' hloop' => ?_⟩
  obtain ⟨rfl, rfl⟩ := hloop.unique hloop'
  exact ⟨hle, hhandle, hloop.attached_of_fits hfits⟩

/-! ## A transport that refuses everything -/

/-- The client after a turn, if there is one to take. -/
def after (c : Client FaultyTransport) (t : Turn) : Client FaultyTransport := (c.turn? t).getD c

theorem Run.after {c₀ c : Client FaultyTransport} {trace : List Mark} (h : Run c₀ trace c) (t : Turn) :
    ∃ trace, Run c₀ trace (c.after t) := by
  rw [Client.after]
  cases ht : c.turn? t with
  | none => exact ⟨trace, h⟩
  | some c' => exact ⟨_, h.move (.turn t ht)⟩

/-- A client over a transport whose faults are off. -/
def unspoilt : Client FaultyTransport := { fresh with transport := .new }

/-- The application connects and closes, and the close hangs.  It connects again, which has to wait. -/
def hanging : Client FaultyTransport :=
  let c := (unspoilt.call (.connect .nil .nil)).after .command
  let c := ({ c with transport := { c.transport with holdsClose := true } }.call .close).after .command
  (c.call (.connect .nil .nil)).after .command

/-- The first connection is accepted after all, and from then on the transport refuses everything. -/
def refusing : Client FaultyTransport :=
  { hanging with
    transport :=
      { hanging.transport.act .accept with
        dialFault := some .noEventSink
        hangUpFault := some (.sendFailed "fault") } }

/-- The task has taken the event. -/
def accepted : Client FaultyTransport :=
  { refusing with
    transport := { refusing.transport with memory := { refusing.transport.memory with events := [] } } }

theorem refusing_run : ∃ trace, Run unspoilt trace refusing := by
  obtain ⟨_, h⟩ := (Run.nil.move (.call unspoilt (.connect .nil .nil))).after .command
  obtain ⟨_, h⟩ := ((h.move (.transport _ _)).move (.call _ .close)).after .command
  obtain ⟨_, h⟩ := (h.move (.call _ (.connect .nil .nil))).after .command
  exact ⟨_, h.move (.transport hanging _)⟩

/-- The news of the connection leads round the loop three times: its close is refused, the connect
that has waited is made, and that is refused as well. -/
theorem refusing_feedback :
    Unused unspoilt ∧ unspoilt.commands = [] ∧ (∃ trace, Run unspoilt trace refusing) ∧
      (refusing.turn? .event).isSome = true ∧
      (accepted, .transportOpened) ∈ refusing.turnHands .event ∧
      ∃ last, Loop accepted [.transportOpened]
          [.transportOpened, .transportClosed false, .transportClosed false] last ∧
        (last.current.isSome = true ↔ last.engine.state ≠ .closed) := by
  have hunused : Unused unspoilt := ⟨⟨_, _, rfl⟩, rfl, rfl, rfl, rfl, rfl⟩
  have hturn : (refusing.turn? .event).isSome = true := by decide +kernel
  have hands : (accepted, .transportOpened) ∈ refusing.turnHands .event := List.mem_singleton.2 rfl
  obtain ⟨trace, hrun⟩ := refusing_run
  obtain ⟨c', ht⟩ := Option.isSome_iff_exists.1 hturn
  obtain ⟨-, hends⟩ := feedback_ends hunused rfl hrun ht hands
  have hclose : (accepted.round .transportOpened).2 = [.transportClosed false] := by decide +kernel
  have hdial : ((accepted.round .transportOpened).1.round (.transportClosed false)).2 =
      [.transportClosed false] := by decide +kernel
  have hlast : (((accepted.round .transportOpened).1.round (.transportClosed false)).1.round
      (.transportClosed false)).2 = [] := by decide +kernel
  have hloop : Loop accepted [.transportOpened]
      [.transportOpened, .transportClosed false, .transportClosed false] _ :=
    .of_round hclose (.of_round hdial (.of_round hlast (.done _)))
  exact ⟨hunused, rfl, ⟨trace, hrun⟩, hturn, hands, _, hloop, (hends _ _ hloop).2.2⟩

end RealtimeClient.Client
