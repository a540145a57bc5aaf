import Mathlib
import RealtimeClient.Proofs.Codec.Layout
import RealtimeClient.Proofs.Codec.RoundTrip

/-!
# What arrives of a packet

A packet is written whatever it is like, and it may be one that no reader makes the same of, or anything
at all.  What becomes of it is settled by its text: a text that is refused takes the buffers behind it
with it, and of a text that is read as many buffers are awaited as were written.

* `arrivals` — the packets that a fresh codec makes of the frames of a packet.
* `messageText` — the text of a message; `encode_message` — its frames.
* `arrivals_of_refused`, `arrivals_of_read` — **the text settles what arrives**; `arrivals_of_unreadable` —
  nothing does where no JSON is left behind the header.
* `readText_messageText`, `arrivals_eq` — a header in form, before a payload that cannot be taken for a
  part of it; `arrivals_of_empty` — before no payload at all.
-/

namespace RealtimeClient.Codec

/-- The packets among the answers to frames. -/
def packetsIn (answers : List (Except Error (Option Packet))) : List Packet :=
  answers.filterMap fun answer => answer.toOption.join

/-- **What arrives of a packet**: all that a fresh codec makes of its frames. -/
def arrivals (revision : Revision) (p : Packet) : List Packet :=
  packetsIn ((new revision).feedAll (encode revision p)).2

variable {revision : Revision} {p : Packet}

/-! ## The frames of a message -/

/-- The header that is written for a message. -/
def writtenHeader (p : Packet) : Header :=
  { kind := p.kind.withBinary ((messageBody p).2 ≠ []), count := (messageBody p).2.length, ns := p.ns
    id := p.id }

/-- The payload that is written for a message. -/
def writtenBody (p : Packet) : List Char := ((messageBody p).1.map Json.write).getD []

/-- **The text of a message.** -/
def messageText (p : Packet) : List Char := '4' :: ((writtenHeader p).write ++ writtenBody p)

/-- Its parts. -/
theorem messageText_eq (p : Packet) :
    messageText p = '4' :: (writtenHeader p).kind.digit :: (Header.countText (writtenHeader p).count ++
      (Header.namespaceText p.ns ++ (Header.idText p.id ++ writtenBody p))) := by
  rw [messageText, Header.write_eq]
  simp [writtenHeader]

theorem encode_message (hframe : p.frame = .message) (revision : Revision) :
    encode revision p =
      .text (String.ofList (messageText p)) :: (messageBody p).2.map (binaryFrame revision) := by
  simp only [encode, encodeText, hframe, messageText, writtenHeader, writtenBody]
  rfl

/-! ## The text settles what arrives -/

theorem packetsIn_cons (answer : Except Error (Option Packet))
    (answers : List (Except Error (Option Packet))) :
    packetsIn (answer :: answers) = answer.toOption.join.toList ++ packetsIn answers := by
  rw [packetsIn, List.filterMap_cons, packetsIn]
  cases answer.toOption.join <;> rfl

/-- Frames that only wait, and the one that completes the packet. -/
theorem packetsIn_complete (n : Nat) (result : Except Error Packet) :
    packetsIn (List.replicate n (.ok none) ++ [result.map some]) = result.toOption.toList := by
  induction n with
  | zero => cases result <;> rfl
  | succ n ih =>
    rw [List.replicate_succ, List.cons_append, packetsIn_cons, ih]
    rfl

/-- Buffers that no packet waits for. -/
theorem packetsIn_unexpected (revision : Revision) (buffers : List Bytes) :
    packetsIn ((new revision).feedAll (buffers.map (binaryFrame revision))).2 = [] := by
  induction buffers with
  | nil => rfl
  | cons data rest ih =>
    rw [List.map_cons, feedAll_cons, packetsIn_cons]
    exact ih

/-- **Of a text that is refused nothing arrives**, and its buffers are refused with it. -/
theorem arrivals_of_refused (hframe : p.frame = .message) (h : ∀ q, readText (messageText p) ≠ .ok q) :
    arrivals revision p = [] := by
  cases hread : readText (messageText p) with
  | ok q => exact absurd hread (h q)
  | error e =>
    have hfeed : (new revision).feed (.text (String.ofList (messageText p))) = (new revision, .error e) := by
      simp only [feed, String.toList_ofList, hread]
      rfl
    rw [arrivals, encode_message hframe, feedAll_cons, packetsIn_cons, hfeed]
    exact packetsIn_unexpected revision _

/-- Nothing arrives where what is left behind the header is no JSON. -/
theorem arrivals_of_unreadable (hframe : p.frame = .message) {text : List Char}
    (htext : messageText p = '4' :: text)
    (h : ∀ header body, Header.read text = .ok (header, body) → body ≠ [] ∧ ∀ json, Json.read body ≠ .ok json) :
    arrivals revision p = [] := by
  refine arrivals_of_refused hframe fun q hread => ?_
  rw [htext] at hread
  obtain ⟨header, body, json, hheader, hbody, -⟩ := readMessage_eq_ok hread
  obtain ⟨hne, hnot⟩ := h header body hheader
  obtain ⟨json, hjson⟩ := json_of_readBody hbody hne
  exact hnot json hjson

/-- **Of a text that is read the packet arrives**, if it can be put together. -/
theorem arrivals_of_read (hframe : p.frame = .message) {q : Partial}
    (h : readText (messageText p) = .ok q) (hlen : q.expected = (messageBody p).2.length) :
    arrivals revision p = ({ q with buffers := (messageBody p).2 } : Partial).finish.toOption.toList := by
  have htext : readText (String.ofList (messageText p)).toList = .ok q := by
    rw [String.toList_ofList, h]
  rw [arrivals, encode_message hframe]
  exact (congrArg (fun r => packetsIn r.2) (feedAll_text_written (new revision) htext hlen.symm)).trans
    (packetsIn_complete _ _)

/-! ## Texts that begin with a header -/

/-- The packet under way after the text of a message, with the payload that was read. -/
def underway (p : Packet) (json : Option Json) : Partial :=
  { header := { frame := .message, kind := (writtenHeader p).kind, ns := p.ns, id := p.id, payload := [] }
    body := json, expected := (messageBody p).2.length, buffers := [] }

/-- **A header in form is read**, before a payload that cannot be taken for a part of it. -/
theorem readText_messageText (hw : (writtenHeader p).WellFormed) (hr : Header.Separate (writtenBody p)) :
    readText (messageText p) = (readBody (writtenBody p)).map (underway p) := by
  have hkind : (digit? '4').bind FrameKind.ofNumber? = some .message := rfl
  have hheader := Header.read_write hw hr
  simp only [messageText, readText, hkind, readMessage, bind, Except.bind, hheader]
  cases readBody (writtenBody p) <;> rfl

/-- **What arrives of a message with such a header.** -/
theorem arrivals_eq (hframe : p.frame = .message) (hw : (writtenHeader p).WellFormed)
    (hr : Header.Separate (writtenBody p)) :
    arrivals revision p =
      match readBody (writtenBody p) with
      | .ok json => ({ underway p json with buffers := (messageBody p).2 } : Partial).finish.toOption.toList
      | .error _ => [] := by
  have hread := readText_messageText hw hr
  cases hbody : readBody (writtenBody p) with
  | ok json =>
    rw [hbody] at hread
    exact arrivals_of_read hframe hread rfl
  | error e =>
    refine arrivals_of_refused hframe fun q hq => ?_
    rw [hread, hbody] at hq
    cases hq

/-! ## Messages without a payload -/

/-- Only events and acks have a twin. -/
theorem withBinary_of_not {kind : PacketKind} (hkind : ¬(kind.isEvent ∨ kind.isAck)) (binary : Bool) :
    kind.withBinary binary = kind ∧ kind.isBinary = false := by
  cases kind <;> simp_all [PacketKind.withBinary, PacketKind.isBinary, PacketKind.isEvent,
    PacketKind.isAck]

section Empty

variable (hpayload : p.payload = []) (hkind : ¬(p.kind.isEvent ∨ p.kind.isAck))

include hpayload hkind

theorem messageBody_of_empty : messageBody p = (none, []) := by
  rw [messageBody, if_neg hkind, hpayload]

theorem writtenHeader_of_empty : writtenHeader p = { kind := p.kind, count := 0, ns := p.ns, id := p.id } := by
  simp only [writtenHeader, messageBody_of_empty hpayload hkind, (withBinary_of_not hkind _).1,
    List.length_nil]

theorem writtenBody_of_empty : writtenBody p = [] := by
  rw [writtenBody, messageBody_of_empty hpayload hkind]
  rfl

/-- **A message without a payload arrives as it is.** -/
theorem arrivals_of_empty (hframe : p.frame = .message) (hslash : p.ns.toList.head? = some '/')
    (hcomma : ',' ∉ p.ns.toList) : arrivals revision p = [p] := by
  have hheader := writtenHeader_of_empty hpayload hkind
  have hwritten := writtenBody_of_empty hpayload hkind
  have hw : (writtenHeader p).WellFormed := by
    rw [hheader]
    exact ⟨(withBinary_of_not hkind false).2, (by decide : 0 < numberBound), hslash, hcomma⟩
  have hseparate : Header.Separate (writtenBody p) := by
    rw [hwritten]
    simp [Header.Separate]
  have hbody : readBody (writtenBody p) = .ok none := by
    rw [hwritten]
    rfl
  rw [arrivals_eq hframe hw hseparate, hbody]
  simp only [Partial.finish, underway, hheader, messageBody_of_empty hpayload hkind, List.length_nil]
  obtain ⟨frame, kind, ns, id, payload⟩ := p
  subst hframe hpayload
  rfl

end Empty

end RealtimeClient.Codec
