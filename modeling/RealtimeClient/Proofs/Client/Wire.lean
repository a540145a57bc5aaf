import Mathlib
import RealtimeClient.Proofs.Client.Feedback
import RealtimeClient.Proofs.Client.Talk
import RealtimeClient.Proofs.Transport.Interleaving

/-!
# What the wire carries

The server puts binary packets together from frames that follow each other, so a packet must go out as a
whole and in one piece.  The peer may end the connection at any moment, also between two frames of one
packet.  Then the rest of that packet is dropped, and because a connection that has ended stays so, the
cut packet is the last one that the connection carries.

* `said` — the packets that were handed over while a connection was open; `Spelled` — frames that are
  whole packets, except that the last one may be cut if the connection is over.
* `send_cases` — a packet is recorded in one piece, and as a whole unless that ends the connection.
* `Wired` — the invariant; `Wired.talk`, `Wired.round`, `Wired.turn` — it holds from turn to turn.
* `Interleaved` — one step of a run with a peer that does not wait.
* **`wire_carries_packets`** — what every connection carries, in every run.
-/

namespace RealtimeClient.Client

/-! ## Spelling -/

section Spelling

variable {τ : Type}

/-- **The packets that were handed to the transport while it was open on a connection**, in order. -/
def said (c : Client τ) (id : ConnectionId) : List Packet :=
  c.sent.filterMap fun s => if s.1 = some id then some s.2 else none

/-- **Frames that are whole packets**, except that the last packet may be cut if the connection is
over. -/
def Spelled (revision : Revision) (gone : Prop) (ps : List Packet) (frames : List Frame) : Prop :=
  frames = ps.flatMap (Codec.encode revision) ∨
    gone ∧ ∃ earlier p cut, ps = earlier ++ [p] ∧
      frames = earlier.flatMap (Codec.encode revision) ++ cut ∧
      cut <+: Codec.encode revision p ∧ cut ≠ Codec.encode revision p

variable {revision : Revision} {gone gone' : Prop} {ps : List Packet} {frames : List Frame}

theorem Spelled.mono (h : Spelled revision gone ps frames) (ho : gone → gone') :
    Spelled revision gone' ps frames :=
  h.imp id fun ⟨hover, hcut⟩ => ⟨ho hover, hcut⟩

/-- A packet on a connection that is not over: it is recorded as a whole, or the connection is over
then. -/
theorem Spelled.send (h : Spelled revision gone ps frames) (hlive : ¬gone) {p : Packet}
    {cut : List Frame} (hcut : cut <+: Codec.encode revision p)
    (hwhole : cut = Codec.encode revision p ∨ gone') :
    Spelled revision gone' (ps ++ [p]) (frames ++ cut) := by
  have hframes : frames = ps.flatMap (Codec.encode revision) := h.resolve_right fun ho => hlive ho.1
  by_cases heq : cut = Codec.encode revision p
  · exact .inl (by rw [hframes, heq, List.flatMap_append, List.flatMap_singleton])
  · exact .inr ⟨hwhole.resolve_left heq, ps, p, cut, rfl, by rw [hframes], hcut, heq⟩

end Spelling

variable {c c' : Client RestlessTransport} {id : ConnectionId} {revision : Revision}
  {kept : ConnectionId → List Frame → Prop}

/-! ## One packet -/

/-- **Frames in order**: they are recorded until the connection ends. -/
theorem writeFrames_cases (hid : c.transport.memory.current = some id)
    (hs : c.transport.memory.state ≠ .opening) (frames : List Frame) :
    c.transport.Goes (c.writeFrames frames).transport ∧
      ∃ cut, cut <+: frames ∧
        (c.writeFrames frames).transport.recorded = c.transport.recorded ++ cut.map (id, ·) ∧
        (cut = frames ∨ (c.writeFrames frames).transport.memory.state = .closed) := by
  induction frames generalizing c with
  | nil => exact ⟨.refl _, [], List.nil_prefix, by simp [writeFrames], .inl rfl⟩
  | cons frame rest ih =>
    have hwrite : Transport.write c.transport frame = c.transport.write frame := rfl
    obtain ⟨hgoes, ⟨hok, hrecorded⟩ | ⟨⟨e, herror⟩, hrecorded, hclosed⟩⟩ :=
      RestlessTransport.write_cases hid hs frame
    · simp only [writeFrames, hwrite, hok]
      obtain ⟨hrest, cut, hcut, hmore, hend⟩ := @ih
        { c with metrics := c.metrics.recordFrame .outbound frame.size,
                 transport := (c.transport.write frame).2 }
        (hgoes.current.trans hid) (fun h => hs (hgoes.opening h))
      refine ⟨hgoes.trans hrest, frame :: cut, List.cons_prefix_cons.2 ⟨rfl, hcut⟩, ?_, ?_⟩
      · rw [hmore, hrecorded, List.append_assoc]
        rfl
      · exact hend.imp (congrArg _) fun hclosed => hclosed
    · simp only [writeFrames, hwrite, herror]
      exact ⟨hgoes, [], List.nil_prefix, by simpa using hrecorded, .inr hclosed⟩

/-- **A packet on an open connection** is recorded in one piece, and as a whole unless the connection
ends by then. -/
theorem send_cases (hid : c.transport.memory.current = some id)
    (hs : c.transport.memory.state = .opened) (p : Packet) :
    c.transport.Goes (c.send p).transport ∧ (c.send p).sent = c.sent ++ [(c.current, p)] ∧
      ∃ cut, cut <+: Codec.encode c.codec.revision p ∧
        (c.send p).transport.recorded = c.transport.recorded ++ cut.map (id, ·) ∧
        (cut = Codec.encode c.codec.revision p ∨ (c.send p).transport.memory.state = .closed) := by
  have hopen : Transport.state c.transport = .opened := hs
  rw [send, if_pos hopen]
  obtain ⟨hgoes, hcut⟩ := writeFrames_cases
    (c := { c with journal := .sent c.current p :: c.journal }) hid (by simp [hs])
    (Codec.encode c.codec.revision p)
  refine ⟨hgoes, ?_, hcut⟩
  rw [sent, writeFrames_eq]
  simp [sent, Entry.sent?]

/-- While the transport is not open, nothing is handed to it. -/
theorem send_of_not_open (hs : c.transport.memory.state ≠ .opened) (p : Packet) : c.send p = c := by
  rw [send]
  exact if_neg hs

/-! ## The invariant -/

/-- **The invariant.**  Unless the transport is closed, its connection is the client's, and every
connection carries what it should.  `kept` says what was recorded on connections that are over. -/
structure Wired (revision : Revision) (kept : ConnectionId → List Frame → Prop)
    (c : Client RestlessTransport) : Prop where
  coded : c.codec.revision = revision
  linked : c.transport.memory.state ≠ .closed →
    ∃ id, c.current = some id ∧ c.transport.memory.current = some id
  orderly : c.transport.Orderly
  named : ∀ s ∈ c.sent, ∃ id, s.1 = some id ∧ id.number < c.transport.memory.nextNumber
  spelled : ∀ id, Spelled revision (c.transport.Over id) (c.said id) (c.transport.wire id)
  stays : ∀ id frames, kept id frames →
    id.number < c.transport.memory.nextNumber ∧ c.transport.Over id ∧ c.transport.wire id = frames

theorem said_eq (h : c'.sent = c.sent) (id : ConnectionId) : c'.said id = c.said id := by
  rw [said, said, h]

/-- A packet is said on the connection that it was handed over for. -/
theorem said_append {p : Packet} (h : c'.sent = c.sent ++ [(some id, p)]) (key : ConnectionId) :
    c'.said key = c.said key ++ if id = key then [p] else [] := by
  rw [said, h, List.filterMap_append]
  by_cases hkey : id = key <;> simp [said, hkey]

namespace Wired

theorem free_of_detached (h : Wired revision kept c) (hnone : c.current = none) :
    c.transport.memory.state = .closed := by
  by_contra hs
  obtain ⟨id, hid, -⟩ := h.linked hs
  exact nomatch hnone.symm.trans hid

theorem said_fresh (h : Wired revision kept c) (hid : c.transport.memory.nextNumber ≤ id.number) :
    c.said id = [] := by
  rw [said, List.filterMap_eq_nil_iff]
  intro s hs
  obtain ⟨key, hkey, hlt⟩ := h.named s hs
  rw [hkey, if_neg]
  rintro heq
  cases heq
  exact absurd hlt (Nat.not_lt.2 hid)

/-- **Only what the transport is, what was handed to it, the connection and the revision count.** -/
theorem same (h : Wired revision kept c) (htransport : c'.transport = c.transport)
    (hsent : c'.sent = c.sent) (hcurrent : c'.current = c.current)
    (hrevision : c'.codec.revision = c.codec.revision) : Wired revision kept c' where
  coded := hrevision.trans h.coded
  linked := by
    rw [htransport, hcurrent]
    exact h.linked
  orderly := htransport ▸ h.orderly
  named := by
    rw [htransport, hsent]
    exact h.named
  spelled id := by
    rw [htransport, said_eq hsent]
    exact h.spelled id
  stays id frames hk := by
    rw [htransport]
    exact h.stays id frames hk

/-- **The peer moves.** -/
theorem goes (h : Wired revision kept c) {t : RestlessTransport} (hg : c.transport.Goes t)
    (hrecorded : t.recorded = c.transport.recorded) : Wired revision kept { c with transport := t } where
  coded := h.coded
  linked hs := by
    obtain ⟨id, hid, hlinked⟩ := h.linked fun hclosed => hs (hg.closed hclosed)
    exact ⟨id, hid, hg.current.trans hlinked⟩
  orderly := h.orderly.goes hg fun w hw => .inl (hrecorded ▸ hw)
  named s hs := by
    rw [hg.nextNumber]
    exact h.named s hs
  spelled id := by
    have hspelled := (h.spelled id).mono hg.isOver
    rwa [← RestlessTransport.wire_eq hrecorded] at hspelled
  stays id frames hk := by
    obtain ⟨hlt, hover, hwire⟩ := h.stays id frames hk
    exact ⟨hg.nextNumber ▸ hlt, hg.isOver hover, (RestlessTransport.wire_eq hrecorded id).trans hwire⟩

/-- The connection is let go of once it has ended. -/
theorem detach (h : Wired revision kept c) (hs : c.transport.memory.state = .closed) :
    Wired revision kept { c with current := none } where
  coded := h.coded
  linked hlive := absurd hs hlive
  orderly := h.orderly
  named := h.named
  spelled := h.spelled
  stays := h.stays

/-- **A packet is handed over.** -/
theorem send (h : Wired revision kept c) (p : Packet) : Wired revision kept (c.send p) := by
  by_cases hs : c.transport.memory.state = .opened
  · obtain ⟨id, hid, hlinked⟩ := h.linked (by simp [hs])
    obtain ⟨hgoes, hsent, cut, hcut, hrecorded, hend⟩ := send_cases hlinked hs p
    have hlt := h.orderly.current_lt id hlinked
    have hlive : ¬c.transport.Over id := by simp [RestlessTransport.Over, hs, hlinked]
    have hsteady := steady_send (c := c) p
    rw [h.coded] at hcut hend
    have hwire (key : ConnectionId) : (c.send p).transport.wire key =
        c.transport.wire key ++ if id = key then cut else [] :=
      RestlessTransport.wire_append hrecorded key
    have hsaid (key : ConnectionId) : (c.send p).said key =
        c.said key ++ if id = key then [p] else [] :=
      said_append (hid ▸ hsent) key
    constructor
    · exact hsteady.revision.trans h.coded
    · intro _
      exact ⟨id, hsteady.current.trans hid, hgoes.current.trans hlinked⟩
    · refine h.orderly.goes hgoes fun w hw => ?_
      rw [hrecorded, List.mem_append] at hw
      refine hw.imp_right fun hw => ?_
      obtain ⟨frame, -, rfl⟩ := List.mem_map.1 hw
      exact hlt
    · intro s hm
      rw [hsent, List.mem_append, List.mem_singleton] at hm
      rw [hgoes.nextNumber]
      rcases hm with hm | rfl
      · exact h.named s hm
      · exact ⟨id, hid, hlt⟩
    · intro key
      rw [hwire, hsaid]
      by_cases hkey : id = key
      · subst hkey
        rw [if_pos rfl, if_pos rfl]
        exact (h.spelled id).send hlive hcut (hend.imp_right .inl)
      · rw [if_neg hkey, if_neg hkey, List.append_nil, List.append_nil]
        exact (h.spelled key).mono hgoes.isOver
    · intro key frames hk
      obtain ⟨hnumber, hover, hframes⟩ := h.stays key frames hk
      have hkey : id ≠ key := fun heq => hlive (heq ▸ hover)
      refine ⟨hgoes.nextNumber ▸ hnumber, hgoes.isOver hover, ?_⟩
      rw [hwire, if_neg hkey, List.append_nil, hframes]
  · rwa [send_of_not_open hs]

/-- **Whatever the task does between two answers of the engine.** -/
theorem talk (h : Wired revision kept c) (ht : Talk c c') : Wired revision kept c' := by
  induction ht with
  | refl => exact h
  | mute _ hm ih => exact ih.same hm.transport hm.sent hm.current hm.revision
  | send _ p ih => exact ih.send p

/-! ### What the engine asks for -/

/-- **A connection is hung up**: it has ended then, and if it had before, the client lets go of it. -/
theorem closeTransport (h : Wired revision kept c) (cause : Cause) :
    Wired revision kept (c.closeTransport cause).1 := by
  obtain ⟨hgoes, hrecorded, hclosed⟩ := c.transport.goes_hangUp cause.reason
  have hhung : Transport.hangUp c.transport cause.reason = c.transport.hangUp cause.reason := rfl
  simp only [Client.closeTransport, hhung]
  split
  · exact h.goes hgoes hrecorded
  · exact (h.goes hgoes hrecorded).detach hclosed

/-- **A connection is asked for** when there is none.  The new one has carried nothing yet. -/
theorem openTransport (h : Wired revision kept c) (hnone : c.current = none) (query : Query)
    (headers : Headers) : Wired revision kept (c.openTransport query headers).1 := by
  have hfree := h.free_of_detached hnone
  have hdial (url : String) : Transport.dial c.transport url headers = c.transport.dial url headers := rfl
  simp only [Client.openTransport, hdial]
  generalize c.endpoint.connectionUrl c.engine.revision.number c.engine.sessionId c.unixTime query = url
  rcases RestlessTransport.dial_cases hfree url headers with
    ⟨t, hok, hgoes, hrecorded, hcurrent, hnext, -, hevents⟩ | ⟨⟨e, herror⟩, hgoes, hrecorded⟩
  · simp only [hok]
    constructor
    · exact h.coded
    · exact fun _ => ⟨_, rfl, hgoes.current.trans hcurrent⟩
    · exact h.orderly.given hgoes hrecorded hcurrent hnext hevents
    · intro s hs
      obtain ⟨key, hkey, hlt⟩ := h.named s hs
      rw [hgoes.nextNumber, hnext]
      exact ⟨key, hkey, Nat.lt_succ_of_lt hlt⟩
    · intro key
      rw [RestlessTransport.wire_eq hrecorded]
      by_cases hkey : key = ⟨c.transport.memory.nextNumber⟩
      · subst hkey
        have hsaid : c.said ⟨c.transport.memory.nextNumber⟩ = [] := h.said_fresh le_rfl
        have hnothing := congrArg (List.flatMap (Codec.encode revision)) hsaid
        exact .inl ((h.orderly.wire_fresh le_rfl).trans hnothing.symm)
      · refine (h.spelled key).mono fun _ => .inr ?_
        rw [hgoes.current, hcurrent]
        exact fun heq => hkey (Option.some.inj heq).symm
    · intro key frames hk
      obtain ⟨hlt, -, hwire⟩ := h.stays key frames hk
      refine ⟨?_, .inr ?_, (RestlessTransport.wire_eq hrecorded key).trans hwire⟩
      · rw [hgoes.nextNumber, hnext]
        exact Nat.lt_succ_of_lt hlt
      · rw [hgoes.current, hcurrent]
        rintro heq
        cases heq
        exact absurd hlt (Nat.lt_irrefl _)
  · simp only [herror]
    exact (h.goes hgoes hrecorded).detach (hgoes.closed hfree)

/-- **A round**: the engine is told something at its time. -/
theorem round (h : Wired revision kept c) {i : Engine.Input} (hf : Fits c i) :
    Wired revision kept (c.round i).1 := by
  have hstart : Wired revision kept { c with engine := (c.engine.handle i).1 } := h.same rfl rfl rfl rfl
  have hquiet {effects : List Engine.Effect} (hq : Engine.Quiet effects) : Wired revision kept
      ({ c with engine := (c.engine.handle i).1 }.carryOutAll effects).1 :=
    hstart.talk (talk_carryOutAll hq)
  have hdial {earlier : List Engine.Effect} (hq : Engine.Quiet earlier) (hnone : c.current = none)
      (query : Query) (headers : Headers) : Wired revision kept
      ({ c with engine := (c.engine.handle i).1 }.carryOutAll
        (earlier ++ [Engine.Effect.openTransport query headers])).1 := by
    rw [carryOutAll_append hq]
    exact (hquiet hq).openTransport ((current_carryOutAll_of_quiet hq _).trans hnone) query headers
  rw [Client.round]
  by_cases hi : ∃ normal, i = .transportClosed normal
  · obtain ⟨normal, rfl⟩ := hi
    rcases c.engine.transportClosed_use normal with ⟨hq, -⟩ | ⟨-, earlier, query, headers, heq, hq, -⟩
    · exact hquiet hq
    · have heffects : (c.engine.handle (.transportClosed normal)).2 =
          earlier ++ [Engine.Effect.openTransport query headers] := heq
      rw [heffects]
      exact hdial hq hf query headers
  · cases Engine.use_of_handle (e := c.engine) fun normal heq => hi ⟨normal, heq⟩ with
    | still hq => exact hquiet hq
    | connected hq => exact hquiet hq
    | hangsUp earlier cause heq hq =>
      rw [heq, carryOutAll_append hq]
      exact (hquiet hq).closeTransport cause
    | dials _ earlier query headers heq hq hbefore =>
      have hattached : Attached c := by
        cases i with
        | transportClosed normal => exact absurd ⟨normal, rfl⟩ hi
        | _ => exact hf
      have hnone : c.current = none := by
        by_contra hsome
        exact hattached.1 (Option.isSome_iff_ne_none.2 hsome) hbefore
      rw [heq]
      exact hdial hq hnone query headers

/-- **The loop over what follows.** -/
theorem loop {d : Client RestlessTransport} {inputs handed : List Engine.Input}
    (hl : Loop c inputs handed d) (h : Wired revision kept c) (hs : Settles (c, inputs)) :
    Wired revision kept d := by
  induction hl with
  | done c => exact h
  | step _ ih =>
    rcases hs with ⟨heq, -⟩ | ⟨normal, heq, hnone⟩
    · cases heq
    · cases heq
      have hfits : Fits _ (.transportClosed normal) := hnone
      exact ih (h.round hfits) (settles_round hfits)

/-- **One input and all that follows.** -/
theorem handle (h : Wired revision kept c) {i : Engine.Input} (hf : Fits c i) :
    Wired revision kept (c.handle i) := by
  obtain ⟨handed, d, hloop, -, heq⟩ := loop_handle c i
  have hd : Wired revision kept d := by
    cases hloop with
    | step hrest => exact loop hrest (h.round hf) (settles_round hf)
  rw [heq]
  exact hd.same rfl rfl rfl rfl

/-! ### Turns -/

theorem finish (h : Wired revision kept c) : Wired revision kept c.finish := by
  have hdisconnected : Mute { c with timers := c.timers.cancelAll }
      ({ c with timers := c.timers.cancelAll }.disconnectSockets true) := mute_disconnectSockets true
  have hlast : Wired revision kept ({ c with timers := c.timers.cancelAll }.disconnectSockets true) :=
    h.same hdisconnected.transport hdisconnected.sent hdisconnected.current hdisconnected.revision
  rw [Client.finish]
  dsimp only
  generalize { c with timers := c.timers.cancelAll }.disconnectSockets true = last at hlast ⊢
  split
  · next hs => exact (hlast.detach hs).same rfl rfl rfl rfl
  · obtain ⟨hgoes, hrecorded, hclosed⟩ := last.transport.goes_hangUp Cause.user.reason
    exact ((hlast.goes hgoes hrecorded).detach hclosed).same rfl rfl rfl rfl

theorem finishIfClosed (h : Wired revision kept c) : Wired revision kept c.finishIfClosed := by
  rw [Client.finishIfClosed]
  split
  · exact h.finish
  · exact h

/-- Frames, and the packets that they complete. -/
theorem frameWise : FrameWise fun (c : Client RestlessTransport)
    (_ : List (Client RestlessTransport × Work)) c' =>
      Wired revision kept c ∧ Attached c → Wired revision kept c' ∧ Attached c' where
  append h h' hc := h' (h hc)
  counted c metrics _ _ h := ⟨h.1.same rfl rfl rfl rfl, h.2⟩
  heard c i hi h := by
    have hfits : Fits c i := fits_of_attached (ne_transportClosed_of_arrival hi) h.2
    exact ⟨h.1.handle hfits, attached_handle hfits⟩
  fed c id frame _ h := ⟨h.1.talk (mute_fed c frame).talk, h.2⟩
  routed c p h := ⟨h.1.talk (talk_route p), h.2.route p⟩

/-- **An event.**  A connection whose end is reported has ended. -/
theorem receiveEvent (h : Wired revision kept c) (hready : Ready c) (hphase : c.phase ≠ .ended)
    {event : TransportEvent}
    (hended : ∀ normal, event = .closed normal → c.current = some id →
      c.transport.memory.state = .closed) : Wired revision kept (c.receiveEvent id event) := by
  refine (frameWise.receiveEvent (fun _ _ h => ?_) (fun normal hclosed hid h => ?_)
    ⟨h, hready.attached hphase⟩).1
  · have hfits : Fits c .transportOpened := h.2
    exact ⟨h.1.handle hfits, attached_handle hfits⟩
  · have hdetached : Fits { c with current := none } (.transportClosed normal) := rfl
    exact ⟨(h.1.detach (hended normal hclosed hid)).handle hdetached, attached_handle hdetached⟩

theorem execute (h : Wired revision kept c) (hready : Ready c) (hphase : c.phase ≠ .ended)
    {command : Command} (hw : ∀ i, command = .engine i → i.isRequest = true) :
    Wired revision kept (c.execute command) := by
  have hattached : Attached c := hready.attached hphase
  cases command with
  | engine i => exact h.handle (fits_of_attached (ne_transportClosed_of_request (hw i rfl)) hattached)
  | emit ns name args reply => exact h.talk (talk_emit ns name args reply)
  | socketCreated ns => exact h.talk (talk_socketCreated ns)
  | closeSocket ns => exact h.talk (talk_closeSocket ns)
  | shutdown =>
    have hclosed := h.handle (i := .close) hattached
    have hdraining : Wired revision kept { c.handle .close with
        phase := .draining ((c.handle .close).timers.now + shutdownGrace) } :=
      hclosed.same rfl rfl rfl rfl
    exact hdraining.finishIfClosed

/-- The event that a turn takes. -/
theorem received (h : Wired revision kept c) {event : TransportEvent} {t : RestlessTransport}
    (hreceive : Transport.receive? c.transport = some ((id, event), t)) :
    Wired revision kept { c with transport := t } ∧
      ∀ normal, event = .closed normal → c.current = some id → t.memory.state = .closed := by
  obtain ⟨hmem, hgoes, hrecorded⟩ := RestlessTransport.receive?_cases hreceive
  refine ⟨h.goes hgoes hrecorded, ?_⟩
  rintro normal rfl hid
  by_contra hs
  obtain ⟨id', hid', hlinked⟩ := h.linked fun hclosed => hs (hgoes.closed hclosed)
  obtain rfl : id = id' := Option.some.inj (hid.symm.trans hid')
  exact hs (hgoes.closed (h.orderly.ended id normal hmem hlinked))

/-- **A turn.** -/
theorem turn (h : Wired revision kept c) (hready : Ready c) {t : Turn} (ht : Taken c t c') :
    Wired revision kept c' := by
  cases ht with
  | @command command rest hphase hcom =>
    have hwishes : Wishes (command :: rest) := hcom ▸ hready.wishes
    have hrest : Ready { c with commands := rest } :=
      ⟨hready.attached, fun i hi => hwishes i (List.mem_cons_of_mem _ hi)⟩
    have htaken : Wired revision kept { c with commands := rest } := h.same rfl rfl rfl rfl
    exact htaken.execute hrest (by simp [hphase]) fun i hi => hwishes i (hi ▸ List.mem_cons_self)
  | @event id event transport hphase hreceive =>
    obtain ⟨htaken, hended⟩ := h.received hreceive
    exact htaken.receiveEvent ⟨hready.attached, hready.wishes⟩ (by simp [hphase]) hended
  | @lateEvent id event transport deadline hphase hreceive =>
    obtain ⟨htaken, hended⟩ := h.received hreceive
    exact (htaken.receiveEvent ⟨hready.attached, hready.wishes⟩ (by simp [hphase]) hended).finishIfClosed
  | @timer k timers hphase hnext =>
    have hfired : Wired revision kept { c with timers } := h.same rfl rfl rfl rfl
    exact hfired.handle (i := .timerFired k) (hready.attached (by simp [hphase]))

end Wired

/-! ## Runs with a peer that does not wait -/

/-- **A client to which nothing has happened**, over a transport to which nothing has happened. -/
structure Untouched (c : Client RestlessTransport) : Prop extends Unused c where
  commands : c.commands = []
  journal : c.journal = []
  transport : ∃ script, c.transport = .new script

/-- **One step of a run.**  Besides moving between two turns, the peer plans what it will do within
them. -/
inductive Interleaved : Client RestlessTransport → Client RestlessTransport → Prop
  | call (c : Client RestlessTransport) (a : Call) : Interleaved c (c.call a)
  | on (c : Client RestlessTransport) (id : SocketId) (name : String) (listener : Listener) :
      Interleaved c (c.on id name listener)
  | turn {c c' : Client RestlessTransport} (t : Turn) (h : c.turn? t = some c') : Interleaved c c'
  | peer (c : Client RestlessTransport) (move : PeerMove) :
      Interleaved c { c with transport := c.transport.move move }
  | plan (c : Client RestlessTransport) (script : List (List PeerMove)) :
      Interleaved c { c with transport := { c.transport with script } }
  | elapse (c : Client RestlessTransport) (time : Nat) : Interleaved c (c.elapseTo time)

theorem Interleaved.move (h : Interleaved c c') : ∃ marks, Move c marks c' := by
  cases h with
  | call a => exact ⟨_, .call c a⟩
  | on id name listener => exact ⟨_, .on c id name listener⟩
  | turn t ht => exact ⟨_, .turn t ht⟩
  | peer move => exact ⟨_, .transport c _⟩
  | plan script => exact ⟨_, .transport c _⟩
  | elapse time => exact ⟨_, .elapse c time⟩

theorem Interleaved.wired (hstep : Interleaved c c') (hready : Ready c) (h : Wired revision kept c) :
    Wired revision kept c' := by
  cases hstep with
  | call a => exact h.talk (mute_call a).talk
  | on id name listener => exact h.talk (mute_on id name listener).talk
  | turn t ht => exact h.turn hready (taken_of_turn? ht)
  | peer move => exact h.goes (RestlessTransport.goes_move move) (RestlessTransport.recorded_move move)
  | plan script => exact h.goes ⟨rfl, rfl, id, id, fun _ => .inl⟩ rfl
  | elapse time =>
    have helapsed : Wired revision kept { c with timers := c.timers.elapseTo time } :=
      h.same rfl rfl rfl rfl
    rcases elapseTo_cases c time with heq | ⟨-, -, -, heq⟩ <;> rw [heq]
    · exact helapsed
    · exact helapsed.finish

open Relation (ReflTransGen)

/-- **Runs**, by induction on their steps. -/
theorem wired_of_run (hrun : ReflTransGen Interleaved c c') (hready : Ready c)
    (h : Wired revision kept c) : Ready c' ∧ Wired revision kept c' := by
  induction hrun with
  | refl => exact ⟨hready, h⟩
  | tail _ hstep ih =>
    obtain ⟨marks, hmove⟩ := hstep.move
    exact ⟨hmove.ready ih.1, hstep.wired ih.1 ih.2⟩

theorem Untouched.wired (h : Untouched c) : Wired c.codec.revision (fun _ _ => False) c := by
  obtain ⟨script, htransport⟩ := h.transport
  have hclosed : c.transport.memory.state = .closed := by rw [htransport]; rfl
  have hsent : c.sent = [] := by rw [sent, h.journal]; rfl
  constructor
  · rfl
  · exact fun hs => absurd hclosed hs
  · rw [htransport]
    exact .of_new script
  · simp [hsent]
  · intro id
    have hwire : c.transport.wire id = [] := by rw [htransport]; rfl
    exact .inl (by rw [hwire, said, hsent]; rfl)
  · exact fun _ _ hk => hk.elim

/-- **What the wire carries.**  In every run, also if the peer acts between two frames of one packet:

* every packet that was handed over was handed over for a connection, and what was recorded on a
  connection is the packets for it, whole and in their order, except that the last one may be cut if the
  connection is over;
* once a connection is over, nothing more is recorded on it;
* a packet that is handed to an open transport is recorded in one piece on the connection of that moment,
  and as a whole unless the connection has ended when this is done; to a transport that is not open
  nothing is handed. -/
theorem wire_carries_packets {c₀ : Client RestlessTransport} (h₀ : Untouched c₀)
    (hrun : ReflTransGen Interleaved c₀ c) :
    (∀ s ∈ c.sent, ∃ id, s.1 = some id) ∧
      (∀ id, Spelled c₀.codec.revision (c.transport.Over id) (c.said id) (c.transport.wire id)) ∧
      (∀ id c', id.number < c.transport.memory.nextNumber → c.transport.Over id →
        ReflTransGen Interleaved c c' →
          c'.transport.Over id ∧ c'.transport.wire id = c.transport.wire id) ∧
      ∀ (d : Client RestlessTransport) (p : Packet),
        (d.transport.memory.state ≠ .opened → d.send p = d) ∧
          ∀ id, d.transport.memory.state = .opened → d.transport.memory.current = some id →
            (d.send p).sent = d.sent ++ [(d.current, p)] ∧
              ∃ cut, cut <+: Codec.encode d.codec.revision p ∧
                (d.send p).transport.recorded = d.transport.recorded ++ cut.map (id, ·) ∧
                (cut = Codec.encode d.codec.revision p ∨
                  (d.send p).transport.memory.state = .closed) := by
  obtain ⟨hready, hwired⟩ := wired_of_run hrun (h₀.toUnused.ready h₀.commands) h₀.wired
  refine ⟨fun s hs => (hwired.named s hs).imp fun _ => And.left, hwired.spelled,
    fun id c' hlt hover hlater => ?_,
    fun d p => ⟨fun hs => send_of_not_open hs p, fun id hs hid => (send_cases hid hs p).2⟩⟩
  have hkept : Wired c₀.codec.revision (fun key frames => key = id ∧ frames = c.transport.wire id) c :=
    { hwired with stays := fun key frames heq => heq.1 ▸ heq.2 ▸ ⟨hlt, hover, rfl⟩ }
  exact ((wired_of_run hlater hready hkept).2.stays id _ ⟨rfl, rfl⟩).2

/-! ## A packet that is cut -/

/-- The client after a turn, if there is one to take. -/
def advanced (c : Client RestlessTransport) (t : Turn) : Client RestlessTransport := (c.turn? t).getD c

theorem interleaved_advanced {t : Turn} (h : (c.turn? t).isSome = true) :
    Interleaved c (c.advanced t) := by
  obtain ⟨c', ht⟩ := Option.isSome_iff_exists.1 h
  rw [advanced, ht]
  exact .turn t ht

/-- A client under the older revision, which opens the default namespace by itself. -/
def settled : Client RestlessTransport :=
  { fresh with engine := .new .v3 .default, codec := .new .v3, transport := .new [] }

theorem settled_untouched : Untouched settled :=
  ⟨⟨⟨_, _, rfl⟩, rfl, rfl, rfl, rfl, rfl⟩, rfl, rfl, ⟨[], rfl⟩⟩

/-- The session is open, and an event with a buffer waits to be sent. -/
def loaded : Client RestlessTransport :=
  let c := (settled.call (.connect .nil .nil)).advanced .command
  let c := { c with transport := c.transport.move (.act .accept) }.advanced .event
  c.call (.emit 0 "x" [.binary [7]] none)

/-- The peer drops the connection right after the first frame. -/
def torn : Client RestlessTransport :=
  { loaded with transport := { loaded.transport with script := [[], [.act .drop]] } }.advanced .command

theorem torn_run : ReflTransGen Interleaved settled torn := by
  have hconnect := ReflTransGen.single (Interleaved.call settled (.connect .nil .nil))
  have hdialed := hconnect.tail (interleaved_advanced (t := .command) (by decide +kernel))
  have haccepted := hdialed.tail (.peer _ (.act .accept))
  have hopened := haccepted.tail (interleaved_advanced (t := .event) (by decide +kernel))
  have hemitted := hopened.tail (.call _ (.emit 0 "x" [.binary [7]] none))
  have hplanned := hemitted.tail (.plan loaded [[], [.act .drop]])
  exact hplanned.tail (interleaved_advanced (t := .command) (by decide +kernel))

/-- The text is recorded and the buffer is not, and nothing ever follows on that connection. -/
theorem torn_packet :
    let p := Packet.event "/" "x" [.binary [7]]
    let text : Frame := .text "451-[\"x\",\x7b\"_placeholder\":true,\"num\":0\x7d]"
    Untouched settled ∧ ReflTransGen Interleaved settled torn ∧ torn.said ⟨1⟩ = [p] ∧
      Codec.encode .v3 p = [text, .binary [4, 7]] ∧
      Spelled .v3 (torn.transport.Over ⟨1⟩) (torn.said ⟨1⟩) (torn.transport.wire ⟨1⟩) ∧
      ∀ c', ReflTransGen Interleaved torn c' → c'.transport.wire ⟨1⟩ = [text] := by
  intro p text
  obtain ⟨-, hspelled, hstays, -⟩ := wire_carries_packets settled_untouched torn_run
  have hover : torn.transport.Over ⟨1⟩ := .inl (by decide +kernel)
  have hwire : torn.transport.wire ⟨1⟩ = [text] := by decide +kernel
  refine ⟨settled_untouched, torn_run, by decide +kernel, by decide +kernel, hspelled ⟨1⟩, fun c' hlater => ?_⟩
  rw [(hstays ⟨1⟩ c' (by decide +kernel) hover hlater).2, hwire]

end RealtimeClient.Client
