import Mathlib
import RealtimeClient.Proofs.Codec.Arrival
import RealtimeClient.Proofs.Codec.Attachments

/-!
# Payloads that arrive

Of an event or an ack with a header in form either one packet arrives or none.  What decides is neither the
numbers in the payload, whose text is always read, nor its strings, but only how deep it is nested and which
of its objects look like placeholders: the reader counts them as such, and does not look for others inside of
them.  So a lookalike is one too many, unless there is a buffer inside of it for which no placeholder is seen.

* `placeholders_reread` — the placeholders that are read are those that were written.
* `placeholders_extract` — without lookalikes they are those of the buffers.
* `Deliverable` — the payloads that arrive; `received` — what they are then; `deliverable_of_isDistinct` —
  payloads without lookalikes.
* `finish_awaiting`, `finish_awaiting_of_not` — **what is put together** of an event or an ack.
-/

namespace RealtimeClient.Codec

/-! ## Placeholders that are read -/

/-- What is under a key is read from what was written there. -/
theorem get?_rereadMembers (key : String) {lo : Option String} (members : Dict.From Json lo) :
    (Json.rereadMembers members).get? key = (members.get? key).map Json.reread := by
  induction members with
  | nil => rfl
  | cons key' above value rest ih =>
    rw [Json.rereadMembers, Dict.From.get?, Dict.From.get?]
    split
    · rfl
    · exact ih

theorem toNatural?_reread (n : Json.Number) : n.reread.toNatural? = n.toNatural? := by
  cases n with
  | natural n => rw [Json.Number.reread_of_isInteger rfl]
  | negative n below => rw [Json.Number.reread_of_isInteger rfl]
  | real x finite =>
    obtain ⟨y, hy, heq⟩ := Json.Number.exists_reread_real finite
    rw [heq]
    rfl

/-- **An object is read as a placeholder** exactly if it was written as one, or looked like one. -/
theorem placeholderIndex?_rereadMembers (members : Dict Json) :
    placeholderIndex? (Json.rereadMembers members) = placeholderIndex? members := by
  rw [placeholderIndex?, placeholderIndex?, get?_rereadMembers, get?_rereadMembers]
  cases members.get? markKey with
  | none => rfl
  | some mark =>
    cases members.get? numberKey with
    | none => cases mark <;> rfl
    | some number =>
      cases mark with
      | bool b =>
        cases number with
        | number n =>
          cases b with
          | true => exact congrArg (Option.map UInt64.toNat) (toNatural?_reread n)
          | false => rfl
        | _ => cases b <;> rfl
      | _ => rfl

mutual

/-- **The placeholders are those that were written.** -/
theorem placeholders_reread : (json : Json) → placeholders json.reread = placeholders json
  | .null => rfl
  | .bool _ => rfl
  | .number _ => rfl
  | .string _ => rfl
  | .array items => placeholdersOfItems_reread items
  | .object members => by
      rw [Json.reread, placeholders, placeholders, placeholderIndex?_rereadMembers]
      cases placeholderIndex? members with
      | some index => rfl
      | none => exact placeholdersOfMembers_reread members

theorem placeholdersOfItems_reread : (items : List Json) →
    placeholdersOfItems (Json.rereadItems items) = placeholdersOfItems items
  | [] => rfl
  | item :: rest => by
      rw [Json.rereadItems, placeholdersOfItems, placeholdersOfItems, placeholders_reread item,
        placeholdersOfItems_reread rest]

theorem placeholdersOfMembers_reread : {lo : Option String} → (members : Dict.From Json lo) →
    placeholdersOfMembers (Json.rereadMembers members) = placeholdersOfMembers members
  | _, .nil => rfl
  | _, .cons _ _ value rest => by
      rw [Json.rereadMembers, placeholdersOfMembers, placeholdersOfMembers, placeholders_reread value,
        placeholdersOfMembers_reread rest]

end

/-! ## Placeholders that are written -/

/-- Whether a value is not read as a placeholder. -/
def isDistinct (v : Value) : Bool := !isLookalike v

theorem placeholders_placeholder {index : Nat} (h : index < UInt64.size) :
    placeholders (placeholder index) = [index] := by
  rw [placeholder, placeholders, placeholderIndex?_placeholder h]

theorem placeholders_jsonOfFloat (x : Float) : placeholders (Value.jsonOfFloat x) = [] := by
  rw [Value.jsonOfFloat]
  split <;> rfl

mutual

/-- **Without lookalikes the placeholders are those of the buffers**, in their order. -/
theorem placeholders_extract : (v : Value) → v.all isDistinct = true → (A : List Bytes) →
    A.length + v.binaryCount ≤ UInt64.size →
      placeholders (extract v A).1 = List.range' A.length v.binaryCount
  | .null, _, _, _ => rfl
  | .bool _, _, _, _ => rfl
  | .int _, _, _, _ => rfl
  | .double x, _, _, _ => placeholders_jsonOfFloat x
  | .string _, _, _, _ => rfl
  | .binary _, _, A, hlt => placeholders_placeholder hlt
  | .array items, hv, A, hlt => by
      simp only [Value.all, Bool.and_eq_true] at hv
      exact placeholdersOfItems_extractItems items hv.2 A hlt
  | .object members, hv, A, hlt => by
      simp only [Value.all, Bool.and_eq_true] at hv
      have hnot : isLookalike (.object members) = false := by simpa [isDistinct] using hv.1
      rw [extract_object, placeholders, placeholderIndex?_extractMembers hnot]
      exact placeholdersOfMembers_extractMembers members hv.2 A hlt

theorem placeholdersOfItems_extractItems : (items : List Value) →
    Value.allItems isDistinct items = true → (A : List Bytes) →
      A.length + Value.binaryCountOfItems items ≤ UInt64.size →
        placeholdersOfItems (extractItems items A).1 =
          List.range' A.length (Value.binaryCountOfItems items)
  | [], _, _, _ => rfl
  | item :: rest, hv, A, hlt => by
      simp only [Value.allItems, Bool.and_eq_true] at hv
      simp only [Value.binaryCountOfItems] at hlt ⊢
      have hlength : (extract item A).2.length = A.length + item.binaryCount := by
        rw [extract_snd, List.length_append, item.length_buffers]
      rw [extractItems_cons, placeholdersOfItems, placeholders_extract item hv.1 A (by omega),
        placeholdersOfItems_extractItems rest hv.2 _ (by omega), hlength, List.range'_append_1]

theorem placeholdersOfMembers_extractMembers : {lo : Option String} → (members : Dict.From Value lo) →
    Value.allMembers isDistinct members = true → (A : List Bytes) →
      A.length + Value.binaryCountOfMembers members ≤ UInt64.size →
        placeholdersOfMembers (extractMembers members A).1 =
          List.range' A.length (Value.binaryCountOfMembers members)
  | _, .nil, _, _, _ => rfl
  | _, .cons key above value rest, hv, A, hlt => by
      simp only [Value.allMembers, Bool.and_eq_true] at hv
      simp only [Value.binaryCountOfMembers] at hlt ⊢
      have hlength : (extract value A).2.length = A.length + value.binaryCount := by
        rw [extract_snd, List.length_append, value.length_buffers]
      rw [extractMembers_cons, placeholdersOfMembers, placeholders_extract value hv.1 A (by omega),
        placeholdersOfMembers_extractMembers rest hv.2 _ (by omega), hlength, List.range'_append_1]

end

/-! ## The payloads -/

variable {revision : Revision} {p : Packet}

/-- **A payload that arrives.**  Its buffers can be counted and its JSON is not nested too deeply, and as
many placeholders are seen in it as it has buffers, each with the number of one. -/
structure Deliverable (p : Packet) : Prop where
  countable : p.attachmentCount < UInt64.size
  depth : (payloadJson p).depth ≤ 127
  named : ∀ index ∈ placeholders (payloadJson p), index < p.attachmentCount
  matched : (placeholders (payloadJson p)).length = p.attachmentCount

instance (p : Packet) : Decidable (Deliverable p) :=
  decidable_of_iff (p.attachmentCount < UInt64.size ∧ (payloadJson p).depth ≤ 127 ∧
      (∀ index ∈ placeholders (payloadJson p), index < p.attachmentCount) ∧
        (placeholders (payloadJson p)).length = p.attachmentCount)
    ⟨fun h => ⟨h.1, h.2.1, h.2.2.1, h.2.2.2⟩, fun h => ⟨h.countable, h.depth, h.named, h.matched⟩⟩

/-- **What a payload is when it arrives**: each number is what its text is read as, and each placeholder,
also one that only looked like it, is the buffer with its number. -/
def received (p : Packet) : List Value :=
  fillItems (attachments p) (Json.rereadItems (extractItems p.payload []).1)

/-- **A payload without lookalikes arrives**, if there is room for it. -/
theorem deliverable_of_isDistinct (hdistinct : Value.allItems isDistinct p.payload = true)
    (hdepth : (payloadJson p).depth ≤ 127) (hcountable : p.attachmentCount < UInt64.size) : Deliverable p := by
  have hrange : placeholders (payloadJson p) = List.range' 0 p.attachmentCount :=
    placeholdersOfItems_extractItems p.payload hdistinct [] ((Nat.zero_add _).le.trans hcountable.le)
  refine ⟨hcountable, hdepth, fun index hindex => ?_, ?_⟩
  · rw [hrange, List.mem_range'_1, Nat.zero_add] at hindex
    exact hindex.2
  · rw [hrange, List.length_range']

/-- Without values nothing is read. -/
theorem received_of_empty (hpayload : p.payload = []) : received p = [] := by
  rw [received, hpayload]
  rfl

/-- Without values there is nothing to fail. -/
theorem deliverable_of_empty (hpayload : p.payload = []) : Deliverable p := by
  obtain ⟨frame, kind, ns, id, payload⟩ := p
  subst hpayload
  exact deliverable_of_isDistinct rfl (Nat.le_of_ble_eq_true rfl) (Nat.le_of_ble_eq_true rfl)

/-! ## Events and acks -/

/-- Where the payload of an event or an ack is read, this is under way. -/
def awaiting (p : Packet) : Partial :=
  { underway p (some (payloadJson p).reread) with buffers := attachments p }

section Event

variable (hkind : p.kind.isEvent ∨ p.kind.isAck)

include hkind

/-- The numbers that are counted, and how many there have to be. -/
theorem indices_awaiting :
    (awaiting p).indices = placeholders (payloadJson p) ∧ (awaiting p).expected = p.attachmentCount ∧
      (awaiting p).buffers.length = (awaiting p).expected := by
  have hexpected : (awaiting p).expected = p.attachmentCount := by
    simp only [awaiting, underway, messageBody_of_list hkind, length_attachments]
  refine ⟨placeholders_reread _, hexpected, ?_⟩
  rw [hexpected]
  exact length_attachments p

/-- The kind that is written is the one that fits the payload. -/
theorem writtenHeader_of_event (hsettled : p.settleKind = p) :
    writtenHeader p = { kind := p.kind, count := p.attachmentCount, ns := p.ns, id := p.id } := by
  have hbuffers : attachments p ≠ [] ↔ p.attachmentCount > 0 := by
    rw [← length_attachments, gt_iff_lt, List.length_pos_iff]
  have hwritten : p.kind.withBinary (p.attachmentCount > 0) = p.kind := congrArg Packet.kind hsettled
  simp only [writtenHeader, messageBody_of_list hkind, length_attachments, hbuffers, hwritten]

/-- **What is put together** from the payload as it is read. -/
theorem finish_awaiting (hframe : p.frame = .message) (hsettled : p.settleKind = p) (h : Deliverable p) :
    (awaiting p).finish = .ok { p with payload := received p } := by
  obtain ⟨hindices, hexpected, hbuffers⟩ := indices_awaiting hkind
  have hstray : stray? (awaiting p).buffers (awaiting p).indices = none := by
    rw [Partial.stray?_eq_none_iff, hindices, hbuffers, hexpected]
    exact h.named
  have hheader : (awaiting p).header = { p with payload := [] } := by
    simp only [awaiting, underway, writtenHeader_of_event hkind hsettled, hframe]
  have hpayload : (awaiting p).filledPayload = .ok (received p) := by
    show Partial.payload (awaiting p).header (.array (received p)) = _
    rw [hheader, Partial.payload, if_pos ⟨hframe, hkind⟩]
  rw [Partial.finish_eq, hstray]
  dsimp only
  rw [hindices, hexpected, if_neg (not_not.2 h.matched), hpayload, hheader]
  rfl

/-- Where the numbers do not fit the buffers nothing is put together. -/
theorem finish_awaiting_of_not (hcountable : p.attachmentCount < UInt64.size)
    (hdepth : (payloadJson p).depth ≤ 127) (h : ¬Deliverable p) : (awaiting p).finish.toOption = none := by
  obtain ⟨hindices, hexpected, hbuffers⟩ := indices_awaiting hkind
  obtain ⟨e, -, herror⟩ := refused_of_finish hbuffers fun ⟨hmatched, hnamed⟩ => by
    rw [hindices, hexpected] at hmatched hnamed
    exact h ⟨hcountable, hdepth, hnamed, hmatched⟩
  rw [herror]
  rfl

end Event

end RealtimeClient.Codec
