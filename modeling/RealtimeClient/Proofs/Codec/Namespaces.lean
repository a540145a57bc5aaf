import Mathlib
import RealtimeClient.Proofs.Codec.Deliverable
import RealtimeClient.Proofs.Json.Balance
import RealtimeClient.Proofs.Socket.Sending

/-!
# Namespaces on the wire

A namespace is written as it is, with a comma behind it.  A name without a comma comes back, whatever else
is in it and whatever follows it: what arrives is what would arrive in the default namespace, in this one.
A name with a comma is cut there, and the rest of the name gets between the ack id and the payload.  Since
a comma is left in front of the JSON, no reader takes it, so such a name is lost, but it is not taken for
another one.

* `Addressed` — the messages of which this holds; `addressed_of_sent` — a socket sends no others.
* `Addressed.arrivals_of_comma`, `Addressed.arrivals_relabel` — names with and without a comma.
* `arrivals_of_event` — **a name without a comma**: the packet arrives if its payload does.
* `Legible`, `arrivals_of_legible` — the payloads that survive.
* `ns_of_outbound`, `arrivals_of_sent` — **packets arrive in their namespace or not at all**;
  `packets_lost` — some of those that do not.
-/

namespace RealtimeClient

theorem head?_defaultNamespace : defaultNamespace.toList.head? = some '/' := rfl

theorem head?_normalizeNamespace (name : String) :
    (normalizeNamespace name).toList.head? = some '/' := by
  unfold normalizeNamespace
  split_ifs with h
  · exact h
  · simp

theorem comma_mem_normalizeNamespace {name : String} :
    ',' ∈ (normalizeNamespace name).toList ↔ ',' ∈ name.toList := by
  unfold normalizeNamespace
  split_ifs
  · rfl
  · simp

namespace Codec

open Socket (Sent)

variable {revision : Revision} {ns : String} {p : Packet}

/-- **A message with a namespace in front of JSON or of nothing.**  Its kind has a number of buffers exactly
if it has buffers, and what comes behind the namespace is no part of it. -/
structure Addressed (p : Packet) : Prop where
  frame : p.frame = .message
  slash : p.ns.toList.head? = some '/'
  binary : (writtenHeader p).kind.isBinary = decide (0 < (writtenHeader p).count)
  separate : Header.Separate (writtenBody p)
  even : Json.Even (writtenBody p)

/-! ## Names with a comma -/

/-- What is left behind the digits of an ack id still has the comma. -/
theorem comma_of_digits {digits rest more tail : List Char} (hdigits : ∀ c ∈ digits, c.isDigit = true)
    (h : digits ++ rest = more ++ ',' :: tail) : ∃ before, rest = before ++ ',' :: tail := by
  obtain ⟨before, -, hrest⟩ | ⟨beyond, hbeyond, htail⟩ := List.append_eq_append_iff.1 h
  · exact ⟨before, hrest⟩
  · cases beyond with
    | nil => exact ⟨[], by simpa using htail.symm⟩
    | cons c beyond =>
      obtain rfl : ',' = c := (List.cons.inj htail).1
      have hcomma := hdigits ',' (by simp [hbeyond])
      simp at hcomma

/-- **A namespace with a comma** is cut there, and the rest of it is left behind the ack id. -/
theorem Header.rest_of_comma {kind : PacketKind} {count : Nat} (hb : kind.isBinary = decide (0 < count))
    {first more tail body : List Char} (hslash : (first ++ ',' :: more).head? = some '/')
    (hfirst : ',' ∉ first) {header : Header}
    (hread : Header.read (kind.digit :: (countText count ++ (first ++ ',' :: (more ++ ',' :: tail)))) =
      .ok (header, body)) : ∃ before, body = before ++ ',' :: tail := by
  obtain ⟨text₁, text₂, hcount, hns, hid⟩ := read_digit_eq_ok hread
  rw [readCount_countText_eq hb] at hcount
  split_ifs at hcount
  simp only [Except.ok.injEq, Prod.mk.injEq] at hcount
  obtain ⟨-, rfl⟩ := hcount
  have hhead : (first ++ ',' :: (more ++ ',' :: tail)).head? = some '/' := by
    cases first with
    | nil => simp at hslash
    | cons c first => simpa using hslash
  simp only [readNamespace, if_pos hhead, cut_append _ first hfirst, Option.getD_some, Prod.mk.injEq] at hns
  obtain ⟨-, rfl⟩ := hns
  obtain ⟨digits, hdigits, -, -, heq, -⟩ := readId_eq_ok_iff.1 hid
  exact comma_of_digits hdigits heq.symm

/-- **Where the namespace has a comma nothing arrives.** -/
theorem Addressed.arrivals_of_comma (h : Addressed p) (hcomma : ',' ∈ p.ns.toList) :
    arrivals revision p = [] := by
  obtain ⟨first, more, hns, hfirst⟩ := List.eq_append_cons_of_mem hcomma
  have hdefault : p.ns ≠ defaultNamespace := by
    rintro heq
    rw [heq] at hcomma
    simp [defaultNamespace] at hcomma
  have htext : messageText p = '4' :: (writtenHeader p).kind.digit ::
      (Header.countText (writtenHeader p).count ++
        (first ++ ',' :: (more ++ ',' :: (Header.idText p.id ++ writtenBody p)))) := by
    simp [messageText_eq, Header.namespaceText, hdefault, hns]
  have heven : Json.Even (Header.idText p.id ++ writtenBody p) := by
    have hidText : Json.Even (Header.idText p.id) := by
      cases p.id with
      | none => exact Json.even_nil
      | some id => exact Json.even_decimal id.toNat
    exact hidText.append h.even
  refine arrivals_of_unreadable h.frame htext fun header body hheader => ?_
  obtain ⟨before, rfl⟩ := Header.rest_of_comma h.binary (hns ▸ h.slash) hfirst hheader
  exact ⟨by simp, Json.not_read_after_comma before heven⟩

/-! ## Names without a comma -/

/-- A packet under way, in another namespace. -/
def Partial.relabel (q : Partial) (ns : String) : Partial := { q with header := { q.header with ns := ns } }

/-- It is put together in the same way. -/
theorem Partial.finish_relabel (q : Partial) (ns : String) :
    (q.relabel ns).finish = q.finish.map fun r => { r with ns := ns } := by
  have hpayload : (q.relabel ns).filledPayload = q.filledPayload := by
    obtain ⟨header, body, expected, buffers⟩ := q
    cases body <;> rfl
  rw [Partial.finish_eq, Partial.finish_eq, hpayload]
  dsimp only [Partial.relabel, Partial.indices]
  cases stray? q.buffers ((q.body.map placeholders).getD []) with
  | some index => rfl
  | none =>
    by_cases hcount : ((q.body.map placeholders).getD []).length = q.expected
    · simp only [hcount, ne_eq, not_true, if_false]
      cases q.filledPayload <;> rfl
    · simp only [hcount, ne_eq, not_false_iff, if_true]
      rfl

theorem toList_toOption_map (x : Except Error Packet) (f : Packet → Packet) :
    (x.map f).toOption.toList = x.toOption.toList.map f := by
  cases x <;> rfl

namespace Addressed

variable (h : Addressed p)

include h

/-- More buffers than 64 bits can count. -/
theorem arrivals_of_overflow (hcount : numberBound ≤ (writtenHeader p).count) : arrivals revision p = [] := by
  refine arrivals_of_unreadable h.frame (messageText_eq p) fun header body hheader => ?_
  obtain ⟨text₁, text₂, hcount', -, -⟩ := Header.read_digit_eq_ok hheader
  rw [Header.readCount_countText_eq h.binary, if_neg (not_lt.2 hcount)] at hcount'
  cases hcount'

theorem wellFormed (hcomma : ',' ∉ p.ns.toList) (hcount : (writtenHeader p).count < numberBound) :
    (writtenHeader p).WellFormed :=
  ⟨h.binary, hcount, h.slash, hcomma⟩

/-- The same message in the default namespace. -/
theorem inDefault : Addressed { p with ns := defaultNamespace } :=
  ⟨h.frame, head?_defaultNamespace, h.binary, h.separate, h.even⟩

/-- **Where the namespace has no comma it makes no difference**, but for being there. -/
theorem arrivals_relabel (hcomma : ',' ∉ p.ns.toList) :
    arrivals revision p =
      (arrivals revision { p with ns := defaultNamespace }).map fun q => { q with ns := p.ns } := by
  by_cases hcount : (writtenHeader p).count < numberBound
  · have hdefault : ',' ∉ defaultNamespace.toList := by decide
    rw [arrivals_eq h.frame (h.wellFormed hcomma hcount) h.separate,
      arrivals_eq h.inDefault.frame (h.inDefault.wellFormed hdefault hcount) h.inDefault.separate]
    have hbody : writtenBody { p with ns := defaultNamespace } = writtenBody p := rfl
    rw [hbody]
    cases readBody (writtenBody p) with
    | error e => rfl
    | ok json =>
      have hfinish := Partial.finish_relabel
        { underway { p with ns := defaultNamespace } json with buffers := (messageBody p).2 } p.ns
      exact (congrArg (fun r => r.toOption.toList) hfinish).trans (toList_toOption_map _ _)
  · rw [h.arrivals_of_overflow (not_lt.1 hcount), h.inDefault.arrivals_of_overflow (not_lt.1 hcount)]
    rfl

/-- **What arrives is in the namespace of what was sent.** -/
theorem ns_of_mem_arrivals : ∀ q ∈ arrivals revision p, q.ns = p.ns := by
  intro q hq
  by_cases hcomma : ',' ∈ p.ns.toList
  · rw [h.arrivals_of_comma hcomma] at hq
    cases hq
  · rw [h.arrivals_relabel hcomma] at hq
    obtain ⟨q', -, rfl⟩ := List.mem_map.1 hq
    rfl

end Addressed

/-! ## The messages of a socket -/

theorem isBinary_withBinary {kind : PacketKind} (hkind : kind.isEvent ∨ kind.isAck) (binary : Bool) :
    (kind.withBinary binary).isBinary = binary := by
  cases kind <;> cases binary <;> simp_all [PacketKind.withBinary, PacketKind.isBinary,
    PacketKind.isEvent, PacketKind.isAck]

/-- Events and acks have an array behind the namespace. -/
theorem addressed_of_event (hframe : p.frame = .message) (hslash : p.ns.toList.head? = some '/')
    (hkind : p.kind.isEvent ∨ p.kind.isAck) : Addressed p := by
  have hbody : messageBody p = (some (.array (extractItems p.payload []).1), (extractItems p.payload []).2) := by
    rw [messageBody, if_pos hkind]
  have hwritten : writtenBody p = (Json.array (extractItems p.payload []).1).write := by
    rw [writtenBody, hbody]
    rfl
  refine ⟨hframe, hslash, ?_, ?_, ?_⟩
  · have hbinary : (writtenHeader p).kind.isBinary = decide ((messageBody p).2 ≠ []) :=
      isBinary_withBinary hkind _
    rw [hbinary]
    exact decide_eq_decide.2 List.length_pos_iff.symm
  · rw [hwritten]
    exact separate_write_array _
  · rw [hwritten]
    exact Json.even_write _

/-- Messages without a payload have nothing there. -/
theorem addressed_of_empty (hframe : p.frame = .message) (hslash : p.ns.toList.head? = some '/')
    (hpayload : p.payload = []) (hkind : ¬(p.kind.isEvent ∨ p.kind.isAck)) : Addressed p := by
  have hwritten := writtenBody_of_empty hpayload hkind
  refine ⟨hframe, hslash, ?_, ?_, ?_⟩
  · rw [writtenHeader_of_empty hpayload hkind]
    exact (withBinary_of_not hkind false).2
  · rw [hwritten]
    simp [Header.Separate]
  · rw [hwritten]
    exact Json.even_nil

/-- **A socket sends no others.** -/
theorem addressed_of_sent (hp : Sent ns p) (hslash : ns.toList.head? = some '/') : Addressed p := by
  obtain ⟨hframe, rfl, ⟨hkind, -⟩ | ⟨hpayload, hkind⟩⟩ := hp.form
  · exact addressed_of_event hframe hslash hkind
  · exact addressed_of_empty hframe hslash hpayload hkind

/-- **An event or an ack arrives if its payload does, and otherwise nothing.** -/
theorem arrivals_of_event (hframe : p.frame = .message) (hkind : p.kind.isEvent ∨ p.kind.isAck)
    (hsettled : p.settleKind = p) (hslash : p.ns.toList.head? = some '/') (hcomma : ',' ∉ p.ns.toList) :
    arrivals revision p = if Deliverable p then [{ p with payload := received p }] else [] := by
  have haddressed := addressed_of_event hframe hslash hkind
  have hcount : (writtenHeader p).count = p.attachmentCount := by rw [writtenHeader_of_event hkind hsettled]
  have hwritten : writtenBody p = (payloadJson p).write := by
    rw [writtenBody, messageBody_of_list hkind]
    rfl
  have hne : (payloadJson p).write ≠ [] := by
    rw [payloadJson]
    cases (extractItems p.payload []).1 <;> exact List.cons_ne_nil _ _
  by_cases hcountable : p.attachmentCount < UInt64.size
  · rw [arrivals_eq hframe (haddressed.wellFormed hcomma (hcount ▸ hcountable)) haddressed.separate,
      hwritten, readBody, if_neg hne]
    by_cases hdepth : (payloadJson p).depth ≤ 127
    · have hbuffers : (messageBody p).2 = attachments p := by rw [messageBody_of_list hkind]
      rw [Json.read_write_reread hdepth, hbuffers]
      show (awaiting p).finish.toOption.toList = _
      split_ifs with hdeliverable
      · rw [finish_awaiting hkind hframe hsettled hdeliverable]
        rfl
      · rw [finish_awaiting_of_not hkind hcountable hdepth hdeliverable]
        rfl
    · rw [Json.read_write_of_lt (not_le.1 hdepth), if_neg fun h => hdepth h.depth]
  · rw [haddressed.arrivals_of_overflow (hcount ▸ not_lt.1 hcountable), if_neg fun h => hcountable h.countable]

/-- **A payload that survives**: plain values, not nested too deeply, and no more buffers than can be
counted. -/
structure Legible (p : Packet) : Prop where
  plain : Value.allItems isPlain p.payload = true
  depth : (payloadJson p).depth ≤ 127
  countable : p.attachmentCount < UInt64.size

/-- **A message with such a payload arrives as it is.** -/
theorem arrivals_of_legible (hp : Sent ns p) (hslash : ns.toList.head? = some '/')
    (hcomma : ',' ∉ ns.toList) (hl : Legible p) : arrivals revision p = [p] := by
  obtain ⟨hframe, rfl, ⟨hkind, hsettled⟩ | ⟨hpayload, hkind⟩⟩ := hp.form
  · have h : Transmissible p := ⟨hframe, hkind, hslash, hcomma, hl.plain, hl.depth, hl.countable⟩
    have hfeed := feedAll_encode h (new revision)
    have harrive := (congrArg (fun r => packetsIn r.2) hfeed).trans (packetsIn_complete _ (.ok p.settleKind))
    rwa [hsettled] at harrive
  · exact arrivals_of_empty hpayload hkind hframe hslash hcomma

/-- **A packet of a socket arrives if its payload does**, where its namespace has no comma. -/
theorem arrivals_of_form (hp : Sent ns p) (hslash : p.ns.toList.head? = some '/') (hcomma : ',' ∉ p.ns.toList) :
    arrivals revision p = if Deliverable p then [{ p with payload := received p }] else [] := by
  obtain ⟨hframe, -, ⟨hkind, hsettled⟩ | ⟨hpayload, hkind⟩⟩ := hp.form
  · exact arrivals_of_event hframe hkind hsettled hslash hcomma
  · rw [arrivals_of_empty hpayload hkind hframe hslash hcomma, if_pos (deliverable_of_empty hpayload),
      received_of_empty hpayload, ← hpayload]

/-! ## The law -/

/-- **Whatever leaves a socket, in whatever life**, arrives in its namespace or not at all.  A request with
a payload is left aside. -/
theorem ns_of_outbound (name : String) (ops : List Socket.Operation) (op : Socket.Operation)
    (hp : p ∈ (((Socket.new (normalizeNamespace name)).after ops).step op).2.outbound)
    (hauth : ∀ auth, p ≠ .connect (normalizeNamespace name) (some auth)) :
    ∀ q ∈ arrivals revision p, q.ns = normalizeNamespace name := by
  obtain hsent | ⟨auth, heq⟩ := Socket.sent_of_outbound _ ops op p hp
  · have haddressed := addressed_of_sent hsent (head?_normalizeNamespace name)
    rw [← hsent.form.2.1]
    exact haddressed.ns_of_mem_arrivals
  · exact absurd heq (hauth auth)

/-- A name with the marks of the other parts of a header. -/
def crowdedName : String := "1-2/é[7"

/-- An object that looks like a placeholder. -/
def mimic : Value := .object (Dict.ofList [(markKey, .bool true), (numberKey, .int 0)])

/-- Arrays in one another. -/
def nested : Nat → Value
  | 0 => .null
  | depth + 1 => .array [nested depth]

end Codec

end RealtimeClient
