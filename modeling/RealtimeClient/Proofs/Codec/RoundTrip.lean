import Mathlib
import RealtimeClient.Proofs.Codec.Frames
import RealtimeClient.Proofs.Codec.Header
import RealtimeClient.Proofs.Codec.Placeholders

/-!
# Streams of packets

Encoding and decoding share nothing but the layout of the frames.  Events and acks survive the way
through both, and so does a stream of them: each packet is complete with the last of its frames and
not before, and none leaves anything behind for the next one.

* `Transmissible` — the events and acks that survive.
* `feedAll_encode` — one packet; `feedAll_stream` — **a stream of packets**, into any codec.
-/

namespace RealtimeClient.Codec

/-! ## What survives -/

/-- **Whether a part of a value survives**: it is neither a double nor a lookalike of a
placeholder. -/
def isPlain (v : Value) : Bool := isNotDouble v && !isLookalike v

theorem isFaithful_of_isPlain (v : Value) (h : isPlain v = true) : isFaithful v = true := by
  simp only [isPlain, isNotDouble, Bool.and_eq_true, Bool.not_eq_true'] at h
  cases v with
  | double x => simp [Value.isDouble] at h
  | _ => simp [isFaithful, h.2]

theorem isNotDouble_of_isPlain (v : Value) (h : isPlain v = true) : isNotDouble v = true :=
  (Bool.and_eq_true_iff.1 h).1

/-- The JSON that stands for the payload of an event or ack. -/
def payloadJson (p : Packet) : Json := .array (extractItems p.payload []).1

/-- **The packets that survive**: events and acks with a namespace of the right form, and with a
payload of plain values whose JSON is not nested too deeply.  The buffers are counted in 64 bits. -/
structure Transmissible (p : Packet) : Prop where
  frame : p.frame = .message
  kind : p.kind.isEvent ∨ p.kind.isAck
  slash : p.ns.toList.head? = some '/'
  comma : ',' ∉ p.ns.toList
  plain : Value.allItems isPlain p.payload = true
  depth : (payloadJson p).depth ≤ 127
  countable : p.attachmentCount < UInt64.size

/-! ## Encoding -/

/-- The buffers of a packet in the order of their numbers. -/
def attachments (p : Packet) : List Bytes := Value.buffersOfItems p.payload

theorem length_attachments (p : Packet) : (attachments p).length = p.attachmentCount :=
  Value.length_buffersOfItems p.payload

/-- The JSON and the buffers of an event or ack are those of its values. -/
theorem messageBody_of_list {p : Packet} (h : p.kind.isEvent ∨ p.kind.isAck) :
    messageBody p = (some (payloadJson p), attachments p) := by
  have hbuffers : (extractItems p.payload []).2 = attachments p := by
    rw [extractItems_snd, List.nil_append, attachments]
  simp only [messageBody, if_pos h, hbuffers]
  rfl

/-- The header of an encoded event or ack. -/
def headerOf (p : Packet) : Header :=
  { kind := p.settleKind.kind, count := p.attachmentCount, ns := p.ns, id := p.id }

namespace Transmissible

variable {p : Packet} (h : Transmissible p)

include h

/-- The text of an event or ack is its header and its payload in an array. -/
theorem encodeText_eq :
    encodeText p = ((headerOf p).write ++ (payloadJson p).write, attachments p) := by
  have hcount : (attachments p ≠ []) ↔ p.attachmentCount > 0 := by
    rw [← length_attachments, gt_iff_lt, List.length_pos_iff]
  simp only [encodeText, h.frame, messageBody_of_list h.kind, length_attachments, hcount, headerOf, Packet.settleKind]
  rfl

/-- The frames of an event or ack: one text, and one run of bytes for each buffer. -/
theorem encode_eq (revision : Revision) :
    encode revision p =
      .text (String.ofList ('4' :: ((headerOf p).write ++ (payloadJson p).write))) ::
        (attachments p).map (binaryFrame revision) := by
  simp only [encode, h.encodeText_eq, h.frame]
  rfl

/-- Its header fits together: the kind is that with buffers exactly if there are some. -/
theorem wellFormed_headerOf : (headerOf p).WellFormed where
  binary := by
    rcases h.kind with hk | hk <;> by_cases hc : 0 < p.attachmentCount <;>
      cases hp : p.kind <;> simp_all [headerOf, Packet.settleKind, PacketKind.withBinary,
        PacketKind.isBinary, PacketKind.isEvent, PacketKind.isAck]
  bound := h.countable
  slash := h.slash
  comma := h.comma

/-- The kind that fits the payload is an event's or ack's too. -/
theorem kind_settleKind : p.settleKind.kind.isEvent ∨ p.settleKind.kind.isAck := by
  rcases h.kind with hk | hk <;> by_cases hc : 0 < p.attachmentCount <;>
    cases hp : p.kind <;> simp_all [Packet.settleKind, PacketKind.withBinary, PacketKind.isEvent,
      PacketKind.isAck]

end Transmissible

/-- The text of an array cannot be taken for a part of a header. -/
theorem separate_write_array (items : List Json) : Header.Separate (Json.array items).write := by
  have hhead : (Json.array items).write.head? = some '[' := by cases items <;> rfl
  intro c hc
  obtain rfl : '[' = c := Option.some.inj (hhead.symm.trans hc)
  exact ⟨by decide, by decide⟩

/-! ## Decoding -/

/-- The packet under way after the text of an event or ack. -/
def begun (p : Packet) : Partial :=
  { header := { p.settleKind with payload := [] }, body := some (payloadJson p)
    expected := p.attachmentCount, buffers := [] }

/-- **The text of an event or ack is read back.** -/
theorem Transmissible.readText_eq {p : Packet} (h : Transmissible p) :
    readText ('4' :: ((headerOf p).write ++ (payloadJson p).write)) = .ok (begun p) := by
  have hheader := Header.read_write h.wellFormed_headerOf
    (separate_write_array (extractItems p.payload []).1)
  have hfree : (payloadJson p).isFloatFree = true :=
    areFloatFree_extractItems p.payload
      (Value.allItems_mono isNotDouble_of_isPlain p.payload h.plain) []
  have hjson := Json.read_write hfree h.depth
  have hne : (payloadJson p).write ≠ [] := by
    rw [payloadJson]
    cases (extractItems p.payload []).1 <;> simp [Json.write]
  have hbody : readBody (payloadJson p).write = .ok (some (payloadJson p)) := by
    simp only [readBody, if_neg hne, hjson]
  have hkind : (digit? '4').bind FrameKind.ofNumber? = some .message := rfl
  simp only [readText, hkind, readMessage, payloadJson] at hheader hbody ⊢
  simp only [bind, Except.bind, hheader, hbody]
  simp only [begun, headerOf, payloadJson, Packet.settleKind, h.frame]
  rfl

/-- The mark in front of a binary frame is taken off again. -/
theorem frameBuffer_mark (revision : Revision) (data : Bytes) :
    frameBuffer revision (if revision.prefixesBinary then binaryMark :: data else data) = data := by
  cases hr : revision.prefixesBinary <;> simp [frameBuffer, hr]

/-- **With all its buffers in place the packet is complete**, and it is the one that was sent. -/
theorem Transmissible.finish_eq {p : Packet} (h : Transmissible p) :
    ({ begun p with buffers := attachments p } : Partial).finish = .ok p.settleKind := by
  have hcount : 0 + Value.binaryCountOfItems p.payload ≤ UInt64.size := by
    rw [Nat.zero_add]
    exact h.countable.le
  have hrestore := restoreItems_extractItems p.payload
    (Value.allItems_mono isFaithful_of_isPlain p.payload h.plain) [] [] hcount 0
  simp only [List.nil_append, List.append_nil, Nat.zero_add] at hrestore
  have hpayload : Partial.payload { p.settleKind with payload := [] } (.array p.payload) =
      .ok p.payload := by
    have hframe : p.settleKind.frame = .message := h.frame
    simp [Partial.payload, hframe, h.kind_settleKind]
  simp only [Partial.finish, begun, payloadJson, restore, attachments, hrestore, bind, Except.bind]
  simp only [Packet.attachmentCount, ne_eq, not_true, if_false, pure, Except.pure]
  simp only [Packet.settleKind] at hpayload ⊢
  simp [hpayload]

/-! ## The way through both -/

/-- **A text and the buffers behind it, as they are written**: the packet is complete with the last of
them. -/
theorem feedAll_text_written (c : Codec) {s : String} {q : Partial} (hs : readText s.toList = .ok q)
    {buffers : List Bytes} (hlen : buffers.length = q.expected) :
    c.feedAll (.text s :: buffers.map (binaryFrame c.revision)) =
      (c.reset, List.replicate q.expected (.ok none) ++
        [({ q with buffers := buffers } : Partial).finish.map some]) := by
  let data := buffers.map fun data => if c.revision.prefixesBinary then binaryMark :: data else data
  have hframes : buffers.map (binaryFrame c.revision) = data.map Frame.binary := by
    rw [List.map_map]
    rfl
  have hbuffers : data.map (frameBuffer c.revision) = buffers := by
    rw [List.map_map]
    exact List.map_id'' (frameBuffer_mark c.revision) _
  have hload : q.load c.revision data = { q with buffers := buffers } := by
    rw [Partial.load, hbuffers, readText_buffers hs, List.nil_append]
  have hcount : data.length = q.expected := by rw [List.length_map, hlen]
  rw [hframes, feedAll_text_complete c hs hcount, hload]

/-- **One packet, into any codec.**  It is complete with its last frame and not before, and nothing
is left of it. -/
theorem feedAll_encode {p : Packet} (h : Transmissible p) (c : Codec) :
    c.feedAll (encode c.revision p) =
      (c.reset, List.replicate ((encode c.revision p).length - 1) (.ok none) ++
        [.ok (some p.settleKind)]) := by
  have htext : readText (String.ofList ('4' :: ((headerOf p).write ++ (payloadJson p).write))).toList =
      .ok (begun p) := by
    rw [String.toList_ofList, h.readText_eq]
  have hlen : (attachments p).length = (begun p).expected := length_attachments p
  rw [h.encode_eq, feedAll_text_written c htext hlen, h.finish_eq, List.length_cons, List.length_map, hlen]
  rfl

/-- What is answered to the frames of a packet: nothing before the last one, and then the packet,
with the kind that fits its payload. -/
def answers (revision : Revision) (p : Packet) : List (Except Error (Option Packet)) :=
  List.replicate ((encode revision p).length - 1) (.ok none) ++ [.ok (some p.settleKind)]

/-- **A stream of packets survives**, whatever the codec had been waiting for.  Nothing is refused,
each packet comes out with its last frame, and after the last packet nothing waits. -/
theorem feedAll_stream (c : Codec) (packets : List Packet)
    (h : ∀ p ∈ packets, Transmissible p) :
    (c.feedAll (packets.flatMap (encode c.revision))).2 = packets.flatMap (answers c.revision) ∧
      (packets ≠ [] → (c.feedAll (packets.flatMap (encode c.revision))).1.hasPending = false) := by
  have hreset (packets : List Packet) (h : ∀ p ∈ packets, Transmissible p) :
      c.reset.feedAll (packets.flatMap (encode c.revision)) =
        (c.reset, packets.flatMap (answers c.revision)) := by
    induction packets with
    | nil => rfl
    | cons p rest ih =>
      have hp := feedAll_encode (h p List.mem_cons_self) c.reset
      rw [reset_revision, reset_reset] at hp
      rw [List.flatMap_cons, feedAll_append, hp, ih fun q hq => h q (.tail _ hq)]
      rfl
  cases packets with
  | nil => exact ⟨rfl, fun hne => absurd rfl hne⟩
  | cons p rest =>
    have hp := feedAll_encode (h p List.mem_cons_self) c
    have hrest := hreset rest fun q hq => h q (.tail _ hq)
    rw [List.flatMap_cons, feedAll_append, hp, hrest]
    exact ⟨rfl, fun _ => rfl⟩

/-- An event with two buffers, one of them inside of an object. -/
def upload : Packet :=
  { frame := .message, kind := .event, ns := "/files", id := some 7
    payload := [.string "put", .binary [4, 1],
      .object (Dict.ofList [("part", .binary [2]), ("at", .array [.int (-3), .null])])] }

/-- An answer without a payload. -/
def receipt : Packet :=
  { frame := .message, kind := .binaryAck, ns := "/", id := some 0, payload := [] }

/-- A codec of the older revision that waits for the buffer of another packet. -/
def interrupted : Codec := { revision := .v3, pending := some (begun upload) }

/-- Both survive, one after the other, and what was under way is given up. -/
theorem feedAll_interrupted :
    (interrupted.feedAll ([upload, receipt].flatMap (encode .v3))).2 =
        [.ok none, .ok none, .ok (some { upload with kind := .binaryEvent }),
          .ok (some { receipt with kind := .ack })] ∧
      (interrupted.feedAll ([upload, receipt].flatMap (encode .v3))).1.hasPending = false := by
  have hupload : Transmissible upload :=
    ⟨rfl, by decide, by decide, by decide, by decide, by decide, by decide⟩
  have hreceipt : Transmissible receipt :=
    ⟨rfl, by decide, by decide, by decide, by decide, by decide, by decide⟩
  have h := feedAll_stream interrupted [upload, receipt] (by simp [hupload, hreceipt])
  exact ⟨h.1, h.2 (by simp)⟩

end RealtimeClient.Codec
