import Mathlib
import RealtimeClient.Proofs.Codec.Arrival
import RealtimeClient.Proofs.Json.Balance

/-!
# The payload of a request

The request of a namespace and its refusal carry one value, and its JSON stands where the header ends.
Nothing keeps the two apart.  A number is taken for the ack id that the message does not have, and the
payload is gone.  Buffers are announced by a number that the reader of these kinds does not know of: the
number is taken for the ack id, its dash is left in front of the JSON, and the text is refused.  Every
other value arrives.

* `Carries` — the two messages with a value.
* `extract_write_cons` — what the JSON of a value begins with.
* `Carries.arrivals_value`, `Carries.arrivals_number`, `Carries.arrivals_buffers` — the three cases.
* `arrivals_of_carries` — **the payloads that arrive**.
-/

namespace RealtimeClient.Codec

/-- **The messages that carry one value as it is.** -/
inductive Carries (ns : String) (v : Value) : Packet → Prop
  | connect : Carries ns v (.connect ns (some v))
  | connectError : Carries ns v (.connectError ns v)

/-- **The first character of a value's JSON** is no slash, and it is a digit for natural numbers only. -/
theorem extract_write_cons {v : Value} (hplain : v.all isPlain = true) (A : List Bytes) :
    ∃ c rest, (extract v A).1.write = c :: rest ∧ c ≠ '/' ∧
      (c.isDigit = true → ∃ i, v = .int i ∧ 0 ≤ i) := by
  cases v with
  | null => exact ⟨'n', _, rfl, by decide, fun h => absurd h (by decide)⟩
  | bool b => cases b <;> exact ⟨_, _, rfl, by decide, fun h => absurd h (by decide)⟩
  | int i =>
    by_cases hi : i < 0
    · have hneg : i.toInt < 0 := Int64.lt_iff_toInt_lt.1 hi
      exact ⟨'-', Decimal.write i.toInt.natAbs, by simp [extract, Value.toJsonWith, Json.Number.ofInt, hi,
        Json.write, Json.Number.write, Decimal.writeInt, hneg], by decide, fun h => absurd h (by decide)⟩
    · obtain ⟨c, rest, heq, hc, -⟩ := Decimal.write_cons i.toUInt64.toNat
      have hslash : c ≠ '/' := by
        rintro rfl
        simp at hc
      exact ⟨c, rest, by simp [extract, Value.toJsonWith, Json.Number.ofInt, hi, Json.write,
        Json.Number.write, heq], hslash, fun _ => ⟨i, rfl, Int64.not_lt.1 hi⟩⟩
  | double x => simp [Value.all, isPlain, isNotDouble, Value.isDouble] at hplain
  | string s => exact ⟨'"', _, rfl, by decide, fun h => absurd h (by decide)⟩
  | binary data => exact ⟨'\x7b', _, rfl, by decide, fun h => absurd h (by decide)⟩
  | array items =>
    rw [extract_array]
    cases (extractItems items A).1 <;> exact ⟨'[', _, rfl, by decide, fun h => absurd h (by decide)⟩
  | object members =>
    rw [extract_object]
    cases (extractMembers members A).1 <;> exact ⟨'\x7b', _, rfl, by decide, fun h => absurd h (by decide)⟩

/-- **Digits right behind a kind without buffers** are taken for the ack id, with what they end with. -/
theorem Header.rest_of_digits {kind : PacketKind} (hkind : kind.isBinary = false) {n : Nat}
    {rest body : List Char} (hrest : ∀ c, rest.head? = some c → c.isDigit = false) {header : Header}
    (hread : Header.read (kind.digit :: (Decimal.write n ++ rest)) = .ok (header, body)) : body = rest := by
  obtain ⟨text₁, text₂, hcount, hns, hid⟩ := read_digit_eq_ok hread
  -- There is no number of buffers and no namespace.
  simp only [readCount, hkind, Bool.false_eq_true, if_false, Except.ok.injEq, Prod.mk.injEq] at hcount
  obtain ⟨-, rfl⟩ := hcount
  obtain ⟨c, digits, hwrite, hc, -⟩ := Decimal.write_cons n
  have hslash : (Decimal.write n ++ rest).head? ≠ some '/' := by
    rw [hwrite]
    rintro h
    obtain rfl : c = '/' := Option.some.inj h
    simp at hc
  simp only [readNamespace, if_neg hslash, Prod.mk.injEq] at hns
  obtain ⟨-, rfl⟩ := hns
  -- So the digits are those of the ack id, and all of them are.
  obtain ⟨digits', hdigits', -, hstops, heq, -⟩ := readId_eq_ok_iff.1 hid
  have hsplit := (takeWhile_digits (Decimal.write n) (fun _ => Decimal.isDigit_of_mem_write) hrest).2
  rw [heq, (takeWhile_digits digits' hdigits' hstops).2] at hsplit
  exact hsplit

/-- The message with an ack id in place of its payload. -/
def emptied (p : Packet) (id : UInt64) : Packet := { p with id := some id, payload := [] }

namespace Carries

variable {ns : String} {v : Value} {p : Packet} (hp : Carries ns v p)

include hp

theorem frame : p.frame = .message := by cases hp <;> rfl

theorem ns_eq : p.ns = ns := by cases hp <;> rfl

theorem id_eq : p.id = none := by cases hp <;> rfl

theorem payload : p.payload = [v] := by cases hp <;> rfl

theorem not_isEvent : ¬(p.kind.isEvent ∨ p.kind.isAck) := by
  cases hp <;> rintro (h | h) <;> cases h

theorem not_isBinary : p.kind.isBinary = false := (withBinary_of_not hp.not_isEvent false).2

theorem messageBody_eq : messageBody p = (some (extract v []).1, v.buffers) := by
  have hbuffers : (extract v []).2 = v.buffers := by rw [extract_snd, List.nil_append]
  cases hp <;> rw [← hbuffers] <;> rfl

theorem writtenHeader_eq :
    writtenHeader p = { kind := p.kind, count := v.binaryCount, ns := ns, id := none } := by
  simp only [writtenHeader, hp.messageBody_eq, hp.ns_eq, hp.id_eq, Value.length_buffers]
  cases hp <;> rfl

theorem writtenBody_eq : writtenBody p = (extract v []).1.write := by
  rw [writtenBody, hp.messageBody_eq]
  rfl

/-! ## Values that arrive -/

theorem wellFormed (hslash : ns.toList.head? = some '/') (hcomma : ',' ∉ ns.toList)
    (hcount : v.binaryCount = 0) : (writtenHeader p).WellFormed := by
  rw [hp.writtenHeader_eq, hcount]
  exact ⟨hp.not_isBinary, (by decide : 0 < numberBound), hslash, hcomma⟩

/-- **A value without buffers arrives**, unless it is a natural number. -/
theorem arrivals_value (revision : Revision) (hslash : ns.toList.head? = some '/')
    (hcomma : ',' ∉ ns.toList) (hplain : v.all isPlain = true) (hdepth : (extract v []).1.depth ≤ 127)
    (hcount : v.binaryCount = 0) (hnumber : ∀ i, v = .int i → i < 0) : arrivals revision p = [p] := by
  obtain ⟨c, rest, hwrite, hc, hdigit⟩ := extract_write_cons hplain []
  have hseparate : Header.Separate (writtenBody p) := by
    rw [hp.writtenBody_eq, hwrite]
    rintro d hd
    obtain rfl : c = d := Option.some.inj hd
    refine ⟨Bool.eq_false_iff.2 fun hdig => ?_, hc⟩
    obtain ⟨i, hi, hnonneg⟩ := hdigit hdig
    exact Int64.not_lt.2 hnonneg (hnumber i hi)
  have hfree := isFloatFree_extract v (Value.all_mono isNotDouble_of_isPlain v hplain) []
  have hbody : readBody (writtenBody p) = .ok (some (extract v []).1) := by
    have hne : (extract v []).1.write ≠ [] := by simp [hwrite]
    simp only [hp.writtenBody_eq, readBody, if_neg hne, Json.read_write hfree hdepth]
  have hrestore := restore_extract v (Value.all_mono isFaithful_of_isPlain v hplain) [] []
    (by simp [hcount]) 0
  have hnone : v.buffers = [] := List.length_eq_zero_iff.1 (v.length_buffers.trans hcount)
  simp only [hnone, List.nil_append, hcount, Nat.add_zero] at hrestore
  rw [arrivals_eq hp.frame (hp.wellFormed hslash hcomma hcount) hseparate, hbody]
  simp only [Partial.finish, underway, hp.messageBody_eq, hnone, hrestore]
  cases hp <;> rfl

/-! ## Numbers -/

/-- **A natural number has the text of an ack id.** -/
theorem encode_number (revision : Revision) {i : Int64} (hv : v = .int i) (hi : 0 ≤ i) :
    encode revision p = encode revision (emptied p i.toUInt64) := by
  have hbuffers : v.buffers = [] := by
    rw [hv]
    rfl
  have hcount : v.binaryCount = 0 := by
    rw [hv]
    rfl
  have hwrite : (extract v []).1.write = Decimal.write i.toUInt64.toNat := by
    simp [hv, extract, Value.toJsonWith, Json.Number.ofInt, Int64.not_lt.2 hi, Json.write,
      Json.Number.write]
  have hheader : writtenHeader (emptied p i.toUInt64) =
      { kind := p.kind, count := 0, ns := p.ns, id := some i.toUInt64 } :=
    writtenHeader_of_empty rfl hp.not_isEvent
  have hbody : writtenBody (emptied p i.toUInt64) = [] := writtenBody_of_empty rfl hp.not_isEvent
  have htext : messageText p = messageText (emptied p i.toUInt64) := by
    simp [messageText, hp.writtenHeader_eq, hp.writtenBody_eq, hheader, hbody, hwrite, hcount, hp.ns_eq,
      Header.write_eq, Header.idText]
  rw [encode_message hp.frame, encode_message (p := emptied p i.toUInt64) hp.frame, htext,
    hp.messageBody_eq, messageBody_of_empty (p := emptied p i.toUInt64) rfl hp.not_isEvent, hbuffers]

/-- **A natural number arrives as an ack id**, without a payload. -/
theorem arrivals_number (revision : Revision) (hslash : ns.toList.head? = some '/')
    (hcomma : ',' ∉ ns.toList) {i : Int64} (hv : v = .int i) (hi : 0 ≤ i) :
    arrivals revision p = [emptied p i.toUInt64] := by
  rw [← hp.ns_eq] at hslash hcomma
  rw [arrivals, hp.encode_number revision hv hi, ← arrivals]
  exact arrivals_of_empty (p := emptied p i.toUInt64) rfl hp.not_isEvent hp.frame hslash hcomma

/-! ## Buffers -/

/-- **A value with buffers does not arrive.** -/
theorem arrivals_buffers (revision : Revision) (hslash : ns.toList.head? = some '/')
    (hplain : v.all isPlain = true) (hcount : 0 < v.binaryCount) : arrivals revision p = [] := by
  -- Behind the number of buffers there is a namespace, an array or an object.
  obtain ⟨c, rest, hrest, hc⟩ : ∃ c rest,
      Header.namespaceText ns ++ (extract v []).1.write = c :: rest ∧ c.isDigit = false := by
    by_cases hd : ns = defaultNamespace
    · obtain ⟨c, rest, hwrite, -, hdigit⟩ := extract_write_cons hplain []
      refine ⟨c, rest, by simp [Header.namespaceText, hd, hwrite], Bool.eq_false_iff.2 fun hdig => ?_⟩
      obtain ⟨i, rfl, -⟩ := hdigit hdig
      simp [Value.binaryCount] at hcount
    · obtain ⟨path, hpath⟩ := List.head?_eq_some_iff.1 hslash
      exact ⟨'/', path ++ ',' :: (extract v []).1.write, by simp [Header.namespaceText, hd, hpath], by decide⟩
  have htext : messageText p =
      '4' :: p.kind.digit :: (Decimal.write v.binaryCount ++ '-' :: c :: rest) := by
    simp [messageText_eq, hp.writtenHeader_eq, hp.writtenBody_eq, hp.ns_eq, hp.id_eq, Header.countText,
      hcount, Header.idText, hrest]
  have hdash : ∀ d, ('-' :: c :: rest).head? = some d → d.isDigit = false := by
    rintro d hd
    obtain rfl : '-' = d := Option.some.inj hd
    decide
  refine arrivals_of_unreadable hp.frame htext fun header body hheader => ?_
  obtain rfl := Header.rest_of_digits hp.not_isBinary hdash hheader
  exact ⟨List.cons_ne_nil _ _, Json.not_read_after_minus hc rest⟩

end Carries

/-! ## The three cases -/

/-- **The payload of a request arrives exactly if it has no buffers and is no natural number.**  A natural
number arrives as the ack id of a message without a payload, and with buffers nothing arrives. -/
theorem arrivals_of_carries (revision : Revision) {ns : String} {v : Value} {p : Packet}
    (hp : Carries ns v p) (hslash : ns.toList.head? = some '/') (hcomma : ',' ∉ ns.toList)
    (hplain : v.all isPlain = true) (hdepth : (extract v []).1.depth ≤ 127) :
    (arrivals revision p = [p] ↔ v.binaryCount = 0 ∧ ∀ i, v = .int i → i < 0) ∧
      (∀ i, v = .int i → 0 ≤ i → arrivals revision p = [{ p with id := some i.toUInt64, payload := [] }]) ∧
      (0 < v.binaryCount → arrivals revision p = []) := by
  have hnumber (i : Int64) (hv : v = .int i) (hi : 0 ≤ i) := hp.arrivals_number revision hslash hcomma hv hi
  have hbuffers := hp.arrivals_buffers revision hslash hplain
  refine ⟨⟨fun harrive => ⟨?_, fun i hv => ?_⟩, fun h => ?_⟩, hnumber, hbuffers⟩
  · by_contra hcount
    rw [hbuffers (by omega)] at harrive
    cases harrive
  · by_contra hi
    rw [hnumber i hv (Int64.not_lt.1 hi), List.singleton_inj] at harrive
    have hpayload := hp.payload
    rw [← harrive] at hpayload
    cases hpayload
  · exact hp.arrivals_value revision hslash hcomma hplain hdepth h.1 h.2

/-- A request whose payload has a natural number inside. -/
def guestRequest : Packet := .connect "/guests" (some (.array [.int 5, .string "x"]))

/-- It arrives, and so does a refusal with a negative number. -/
theorem arrivals_guestRequest :
    arrivals .v3 guestRequest = [guestRequest] ∧
      arrivals .v4 (.connectError "/" (.int (-5))) = [.connectError "/" (.int (-5))] := by
  have hrequest : Carries "/guests" (.array [.int 5, .string "x"]) guestRequest := .connect
  have hrefusal : Carries "/" (.int (-5)) (.connectError "/" (.int (-5))) := .connectError
  have hguest := arrivals_of_carries .v3 hrequest (by decide) (by decide) (by decide) (by decide)
  have hrefused := arrivals_of_carries .v4 hrefusal (by decide) (by decide) (by decide) (by decide)
  refine ⟨hguest.1.2 ⟨rfl, by simp⟩, hrefused.1.2 ⟨rfl, fun i hi => ?_⟩⟩
  cases hi
  decide

/-- **Two payloads that do not arrive**: a natural number, which is taken for an ack id, and a buffer. -/
theorem natural_number_not_payload :
    (Value.int 5).all isPlain = true ∧ (Value.binary [1]).all isPlain = true ∧
      (extract (.int 5) []).1.depth ≤ 127 ∧ (extract (.binary [1]) []).1.depth ≤ 127 ∧
      arrivals .v4 (.connect "/" (some (.int 5))) =
        [{ Packet.connect "/" none with id := some 5 }] ∧
      arrivals .v4 (.connect "/" (some (.int 5))) ≠ [.connect "/" (some (.int 5))] ∧
      arrivals .v4 (.connect "/" (some (.binary [1]))) = [] := by
  decide +kernel

end RealtimeClient.Codec
