import Mathlib
import RealtimeClient.Proofs.Client.Queues

/-!
# Handing packets to the transport

What is sent goes to the transport frame by frame.  An open transport carries all of it, and a
transport that is not open carries nothing; there is nothing in between, since the transport does not
change its state by being written to.

* `MemoryTransport.carry` — what becomes of frames; `transport_writeFrames`, `transport_sendAll` — all
  that sending does to the transport.
* `Handed` — packets were handed over one after the other.
* `Passes` — a change in which every queue is held or handed over; `passes_requestSocket`,
  `passes_openSockets`, `passes_route` — the moments at which queues are.
-/

namespace RealtimeClient

namespace MemoryTransport

/-- **What becomes of frames**: the open transport carries them on its connection, and otherwise they
are lost. -/
def carry (t : MemoryTransport) (frames : List Frame) : List (ConnectionId × Frame) :=
  match t.state, t.current with
  | .opened, some id => frames.map (id, ·)
  | _, _ => []

variable {t : MemoryTransport}

@[simp] theorem carry_nil (t : MemoryTransport) : t.carry [] = [] := by
  unfold carry
  split <;> rfl

theorem carry_append (t : MemoryTransport) (frames more : List Frame) :
    t.carry (frames ++ more) = t.carry frames ++ t.carry more := by
  unfold carry
  split
  · exact List.map_append
  · rfl

theorem carry_of_open {id : ConnectionId} (hs : t.state = .opened) (hid : t.current = some id)
    (frames : List Frame) : t.carry frames = frames.map (id, ·) := by
  simp only [carry, hs, hid]

/-- A frame is written if the transport is open, and else nothing is ever carried. -/
theorem write_or (t : MemoryTransport) (frame : Frame) :
    (∃ id, t.state = .opened ∧ t.current = some id ∧
        t.write frame = (.ok (), { t with written := t.written ++ [(id, frame)] })) ∨
      (∀ frames, t.carry frames = []) ∧ t.write frame = (.error .connectionClosed, t) := by
  unfold write
  split
  · next id hs hid => exact .inl ⟨id, hs, hid, rfl⟩
  · next hno =>
    refine .inr ⟨fun frames => ?_, rfl⟩
    unfold carry
    split
    · next id hs hid => exact absurd hid (hno id hs)
    · rfl

theorem carry_of_not_open (hs : t.state ≠ .opened) (frames : List Frame) : t.carry frames = [] := by
  unfold carry
  split
  · next h _ => exact absurd h hs
  · rfl

end MemoryTransport

namespace Client

variable {c c' c'' : Client MemoryTransport}

/-! ## Sending -/

/-- **Frames are carried all together or not at all.** -/
theorem transport_writeFrames (frames : List Frame) :
    (c.writeFrames frames).transport =
      { c.transport with written := c.transport.written ++ c.transport.carry frames } := by
  induction frames generalizing c with
  | nil => simp [writeFrames]
  | cons frame rest ih =>
    rcases c.transport.write_or frame with ⟨id, hs, hid, hwrite⟩ | ⟨hlost, hwrite⟩
    · simp only [writeFrames, Transport.write, hwrite, ih]
      simp [MemoryTransport.carry_of_open, hs, hid]
    · -- the frames behind are not tried, and would have been lost as well
      simp only [writeFrames, Transport.write, hwrite, hlost, List.append_nil]

theorem transport_send (p : Packet) :
    (c.send p).transport =
      { c.transport with
          written := c.transport.written ++ c.transport.carry (Codec.encode c.codec.revision p) } := by
  rw [send]
  split
  · exact transport_writeFrames _
  · next hs => simp [MemoryTransport.carry_of_not_open hs]

theorem codec_send (p : Packet) : (c.send p).codec = c.codec := congrArg Core.codec (core_send p)

/-- The frames of packets, as the client's codec writes them. -/
def framesOf (c : Client MemoryTransport) (ps : List Packet) : List Frame :=
  ps.flatMap (Codec.encode c.codec.revision)

theorem framesOf_append (ps more : List Packet) :
    c.framesOf (ps ++ more) = c.framesOf ps ++ c.framesOf more :=
  List.flatMap_append

/-- **Packets are carried one after the other**, or none of them is. -/
theorem transport_sendAll (ps : List Packet) :
    (c.sendAll ps).transport =
      { c.transport with
          written := c.transport.written ++ c.transport.carry (c.framesOf ps) } := by
  induction ps generalizing c with
  | nil => simp [sendAll, framesOf]
  | cons p rest ih =>
    have hcons : c.sendAll (p :: rest) = (c.send p).sendAll rest := rfl
    have hcarry (frames : List Frame) :
        (c.send p).transport.carry frames = c.transport.carry frames := by
      rw [transport_send]
      rfl
    rw [hcons, ih, hcarry, transport_send]
    simp [framesOf, codec_send, MemoryTransport.carry_append]

theorem transport_dispatch (ns : String) (o : Socket.Outcome) :
    (c.dispatch ns o).transport = (c.sendAll o.outbound).transport := by
  unfold dispatch
  dsimp only
  split
  · rfl
  · rw [notifySocketOpen]
    split <;> rfl
  · rw [notifySocketClose]
    split <;> rfl

theorem codec_dispatch (ns : String) (o : Socket.Outcome) : (c.dispatch ns o).codec = c.codec :=
  congrArg Core.codec (core_dispatch ns o)

/-! ## Handing over -/

/-- **Packets were handed to the transport**, one after the other and nothing between them. -/
def Handed (c c' : Client MemoryTransport) (ps : List Packet) : Prop :=
  ∃ before after, c'.transport.written =
    c.transport.written ++ before ++ c.transport.carry (c.framesOf ps) ++ after

/-- **A change in which every queue is held or handed over**, while the transport stays as it is but
for what is written to it. -/
structure Passes (c c' : Client MemoryTransport) : Prop where
  codec : c'.codec = c.codec
  transport : ∃ more, c'.transport =
    { c.transport with written := c.transport.written ++ more }
  sockets : ∀ id s, c.socket? id = some s →
    ∃ s', c'.socket? id = some s' ∧ (s.queue <+: s'.queue ∨ Handed c c' s.queue)

namespace Passes

theorem of_apart (h : Apart c c') (hcodec : c'.codec = c.codec)
    (htransport : c'.transport = c.transport) : Passes c c' where
  codec := hcodec
  transport := ⟨[], by rw [htransport, List.append_nil]⟩
  sockets id s hs := ⟨s, (h.socket? id).trans hs, .inl List.prefix_rfl⟩

theorem refl (c : Client MemoryTransport) : Passes c c := of_apart (.refl c) rfl rfl

theorem trans (h : Passes c c') (h' : Passes c' c'') : Passes c c'' := by
  obtain ⟨more, hmore⟩ := h.transport
  obtain ⟨more', hmore'⟩ := h'.transport
  have hcarry (ps : List Packet) :
      c'.transport.carry (c'.framesOf ps) = c.transport.carry (c.framesOf ps) := by
    rw [framesOf, h.codec, hmore]
    rfl
  refine ⟨h'.codec.trans h.codec, ⟨more ++ more', ?_⟩, fun id s hs => ?_⟩
  · rw [hmore', hmore, List.append_assoc]
  · obtain ⟨s', hs', hq⟩ := h.sockets id s hs
    obtain ⟨s'', hs'', hq'⟩ := h'.sockets id s' hs'
    refine ⟨s'', hs'', ?_⟩
    rcases hq with hq | ⟨before, after, hwritten⟩
    · rcases hq' with hq' | ⟨before, after, hwritten'⟩
      · exact .inl (hq.trans hq')
      · -- what was there before was handed over with what came behind it
        obtain ⟨rest, hrest⟩ := hq
        refine .inr ⟨more ++ before, c.transport.carry (c.framesOf rest) ++ after, ?_⟩
        rw [hwritten', hcarry, ← hrest, framesOf_append, MemoryTransport.carry_append, hmore]
        simp only [List.append_assoc]
    · refine .inr ⟨before, after ++ more', ?_⟩
      rw [hmore', hwritten]
      simp only [List.append_assoc]

theorem foldl {α : Type} {f : Client MemoryTransport → α → Client MemoryTransport}
    (hf : ∀ c a, Passes c (f c a)) (l : List α) (c : Client MemoryTransport) :
    Passes c (l.foldl f c) := by
  induction l generalizing c with
  | nil => exact refl c
  | cons a rest ih => exact (hf c a).trans (ih _)

end Passes

theorem passes_addSocket (ns : String) : Passes c (c.addSocket ns) where
  codec := rfl
  transport := ⟨[], by rw [List.append_nil]; rfl⟩
  sockets id s hs := ⟨s, socket?_addSocket ns hs, .inl List.prefix_rfl⟩

/-- **A socket does its work, and what it gives out is sent.**  Its queue has to be held, or given
out as a whole. -/
theorem passes_dispatch {id : SocketId} {s s' : Socket} {o : Socket.Outcome} (ns : String)
    (hs : c.socket? id = some s) (ho : o.lifecycle ≠ some .disconnected)
    (hq : s.queue <+: s'.queue ∨ o.outbound = s.queue) :
    Passes c ((c.modifySocket id fun _ => s').dispatch ns o) := by
  have hapart := apart_dispatch (c := c.modifySocket id fun _ => s') ns ho
  have htransport : ((c.modifySocket id fun _ => s').dispatch ns o).transport =
      { c.transport with
          written := c.transport.written ++ c.transport.carry (c.framesOf o.outbound) } := by
    rw [transport_dispatch, transport_sendAll]
    rfl
  refine ⟨codec_dispatch ns o, ⟨_, htransport⟩, fun key t ht => ?_⟩
  rw [hapart.socket?, socket?_modifySocket]
  split
  · next h =>
    subst h
    obtain rfl : s = t := Option.some.inj (hs.symm.trans ht)
    refine ⟨s', by rw [hs]; rfl, hq.imp_right fun hout => ⟨[], [], ?_⟩⟩
    rw [htransport, hout, List.append_nil, List.append_nil]
  · exact ⟨t, ht, .inl List.prefix_rfl⟩

/-- **Asking for a namespace** hands the queue over where the namespace needs no request. -/
theorem passes_requestSocket (id : SocketId) : Passes c (c.requestSocket id) := by
  rw [requestSocket]
  split
  · exact .refl c
  · next s hs =>
    exact passes_dispatch s.ns hs (Socket.requestOn_lifecycle s _) (Socket.requestOn_queue s _)

theorem passes_openSockets : Passes c c.openSockets := by
  unfold openSockets
  dsimp only
  split
  · exact Passes.foldl (fun _ id => passes_requestSocket id) _ c
  · exact (passes_addSocket _).trans (Passes.foldl (fun _ id => passes_requestSocket id) _ _)

/-- **The confirmation of a namespace** hands its queue over. -/
theorem passes_route {p : Packet} (hp : p.kind = .connect) : Passes c (c.route p) := by
  rw [route]
  split
  · exact .refl c
  · split
    · exact .refl c
    · next id _ =>
      split
      · exact .refl c
      · next s hs =>
        have hreceive : s.receive p = s.confirm := by simp only [Socket.receive, hp]
        rw [hreceive]
        have hdispatch :
            Passes c ((c.modifySocket id fun _ => s.confirm.1).dispatch p.ns s.confirm.2) :=
          passes_dispatch p.ns hs (Socket.confirm_lifecycle s) (.inr rfl)
        exact hdispatch.trans (.of_apart apart_updateAckGauge rfl rfl)

end Client

end RealtimeClient
