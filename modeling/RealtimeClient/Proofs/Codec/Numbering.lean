import Mathlib
import RealtimeClient.Proofs.Codec.Arrival
import RealtimeClient.Proofs.Positions

/-!
# The numbers of the buffers

A payload is walked through three times: for the number of its buffers, for its JSON, and for the frames
behind the text.  All three meet the buffers in the order of their positions, whatever else is in the
payload, so a placeholder stands where its buffer stood and bears the number of its frame.

* `at?_extract` — **a placeholder stands where its buffer stood**, with the number of buffers before it.
* `object_of_at?_extract` — no other object of the JSON is a new one.
* `write_placeholder` — the text of a placeholder.
* `Numbered`, `encode_numbered` — **the frames of an event or ack**.
-/

namespace RealtimeClient.Codec

/-! ## Placeholders at the positions of buffers -/

mutual

/-- **A placeholder stands where its buffer stood**: the numbers go on from that of the buffers before. -/
theorem at?_extract : (v : Value) → (A : List Bytes) →
    v.positions.map (fun b => (extract v A).1.at? b.1) =
      (List.range' A.length v.binaryCount).map fun i => some (placeholder i)
  | .null, _ => rfl
  | .bool _, _ => rfl
  | .int _, _ => rfl
  | .double _, _ => rfl
  | .string _, _ => rfl
  | .binary _, _ => rfl
  | .array items, A => at?_extractItems [] items A
  | .object members, A => at?_extractMembers _ members A fun _ _ h => h

/-- The same of the last items of an array. -/
theorem at?_extractItems : (before : List Json) → (items : List Value) → (A : List Bytes) →
    (Value.positionsOfItems before.length items).map
        (fun b => (Json.array (before ++ (extractItems items A).1)).at? b.1) =
      (List.range' A.length (Value.binaryCountOfItems items)).map fun i => some (placeholder i)
  | _, [], _ => rfl
  | before, item :: rest, A => by
      have hrest := at?_extractItems (before ++ [(extract item A).1]) rest (A ++ item.buffers)
      rw [List.append_assoc, List.length_append, List.length_append, List.length_singleton,
        Value.length_buffers] at hrest
      have hitem (b : Position × Bytes) (later : List Json) :
          (Json.array (before ++ (extract item A).1 :: later)).at? (Value.under (.item before.length) b).1 =
            (extract item A).1.at? b.1 := by
        simp [Value.under, Json.at?, Json.child?]
      rw [Value.positionsOfItems, Value.binaryCountOfItems, ← List.range'_append_1, List.map_append,
        List.map_append, List.map_map, ← at?_extract item A, ← hrest, extractItems_cons, extract_snd]
      exact congrArg (· ++ _) (List.map_congr_left fun b _ => hitem b _)

/-- The same of the last members of an object. -/
theorem at?_extractMembers (whole : Dict Json) : {lo : Option String} → (members : Dict.From Value lo) →
    (A : List Bytes) →
    (∀ key json, (extractMembers members A).1.get? key = some json → whole.get? key = some json) →
      (Value.positionsOfMembers members).map (fun b => (Json.object whole).at? b.1) =
        (List.range' A.length (Value.binaryCountOfMembers members)).map fun i => some (placeholder i)
  | _, .nil, _, _ => rfl
  | _, .cons key above value rest, A, hwhole => by
      rw [extractMembers_cons] at hwhole
      have hkey : whole.get? key = some (extract value A).1 := hwhole key _ (if_pos rfl)
      have hlater : ∀ other json, (extractMembers rest (extract value A).2).1.get? other = some json →
          whole.get? other = some json := by
        intro other json hother
        have hne : other ≠ key := by
          rintro rfl
          have hnone := Dict.From.get?_of_not_above (extractMembers rest (extract value A).2).1
            (String.lt_irrefl other)
          rw [hnone] at hother
          cases hother
        exact hwhole other json (by rw [Dict.From.get?, if_neg hne, hother])
      have hrest := at?_extractMembers whole rest (extract value A).2 hlater
      have hvalue (b : Position × Bytes) :
          (Json.object whole).at? (Value.under (.member key) b).1 = (extract value A).1.at? b.1 := by
        simp [Value.under, Json.at?, Json.child?, hkey]
      rw [extract_snd, List.length_append, Value.length_buffers] at hrest
      rw [Value.positionsOfMembers, Value.binaryCountOfMembers, ← List.range'_append_1, List.map_append,
        List.map_append, List.map_map, ← at?_extract value A, ← hrest]
      exact congrArg (· ++ _) (List.map_congr_left fun b _ => hvalue b)

end

/-! ## No other new objects -/

/-- The items of an array are those of the value, without their buffers. -/
theorem getElem?_extractItems {json : Json} {i : Nat} {items : List Value} {A : List Bytes}
    (h : (extractItems items A).1[i]? = some json) :
    ∃ item B, items[i]? = some item ∧ json = (extract item B).1 := by
  induction items generalizing i A with
  | nil => cases h
  | cons item rest ih =>
    rw [extractItems_cons] at h
    cases i with
    | zero => exact ⟨item, A, rfl, (Option.some.inj h).symm⟩
    | succ i => exact ih h

/-- One step into the JSON is one step into the value, unless the value is a buffer. -/
theorem child?_extract {v : Value} {A : List Bytes} {step : Branch} {json : Json}
    (h : (extract v A).1.child? step = some json) :
    (∃ data, v = .binary data) ∨ ∃ part B, v.child? step = some part ∧ json = (extract part B).1 := by
  cases v with
  | binary data => exact .inl ⟨data, rfl⟩
  | array items =>
    cases step with
    | item i => exact .inr (getElem?_extractItems h)
    | member key => cases h
  | object members =>
    cases step with
    | item i => cases h
    | member key =>
      obtain ⟨hnone, -⟩ | ⟨part, B, hpart, hjson⟩ := get?_extractMembers key members A
      · cases hnone.symm.trans h
      · exact .inr ⟨part, B, hpart, Option.some.inj (h.symm.trans hjson)⟩
  | double x =>
    have hleaf : (Value.jsonOfFloat x).child? step = none := by
      rw [Value.jsonOfFloat]
      split <;> rfl
    cases hleaf.symm.trans h
  | null | bool | int | string => cases h

/-- In a placeholder there are its mark and its number. -/
theorem child?_placeholder {n : Nat} {step : Branch} {json : Json} (h : (placeholder n).child? step = some json) :
    json = .bool true ∨ json = .number (.natural n.toUInt64) := by
  cases step with
  | item i => cases h
  | member key =>
    simp only [placeholder, Json.child?, Dict.From.get?] at h
    split_ifs at h
    · exact .inl (Option.some.inj h).symm
    · exact .inr (Option.some.inj h).symm

/-- There are no objects in it. -/
theorem at?_placeholder_cons (n : Nat) (step : Branch) (rest : Position) (members : Dict Json) :
    (placeholder n).at? (step :: rest) ≠ some (.object members) := by
  intro h
  obtain ⟨json, hjson, hrest⟩ := Option.bind_eq_some_iff.1 h
  obtain rfl | rfl := child?_placeholder hjson <;> cases rest <;> cases hrest

/-- **An object of the JSON is a placeholder, or it was an object of the value.** -/
theorem object_of_at?_extract {position : Position} {v : Value} {A : List Bytes} {members : Dict Json}
    (h : (extract v A).1.at? position = some (.object members)) :
    (∃ data, v.at? position = some (.binary data)) ∨ ∃ own, v.at? position = some (.object own) := by
  induction position generalizing v A with
  | nil =>
    cases v with
    | binary data => exact .inl ⟨data, rfl⟩
    | object own => exact .inr ⟨own, rfl⟩
    | double x =>
      simp only [extract, Value.toJsonWith, Value.jsonOfFloat] at h
      split at h <;> cases h
    | null | bool | int | string | array => cases h
  | cons step rest ih =>
    obtain ⟨json, hjson, hrest⟩ := Option.bind_eq_some_iff.1 h
    obtain ⟨data, rfl⟩ | ⟨part, B, hpart, rfl⟩ := child?_extract hjson
    · exact absurd h (at?_placeholder_cons A.length step rest members)
    · rw [Value.at?, hpart]
      exact ih hrest

/-- **The text of a placeholder** has its number, if that has 64 bits. -/
theorem write_placeholder {i : Nat} (h : i < UInt64.size) :
    (placeholder i).write =
      "\x7b\"_placeholder\":true,\"num\":".toList ++ Decimal.write i ++ ['\x7d'] := by
  have hmark : Json.writeString markKey = "\"_placeholder\"".toList := by decide
  have hnumber : Json.writeString numberKey = "\"num\"".toList := by decide
  have hi : i.toUInt64.toNat = i := Nat.mod_eq_of_lt h
  simp [placeholder, Json.write, Json.writeMembers, Json.Number.write, hmark, hnumber, hi]

/-! ## The frames of an event or ack -/

/-- **The digit of an event or ack**: that of the kind with buffers exactly if there are some. -/
def listDigit (p : Packet) : Char :=
  if p.kind.isEvent then (if 0 < p.attachmentCount then '5' else '2')
  else if 0 < p.attachmentCount then '6' else '3'

/-- **The frames of an event or ack**, where these are its buffers with their positions and this is its
JSON. -/
structure Numbered (revision : Revision) (p : Packet) (buffers : List (Position × Bytes)) (json : Json) : Prop where
  /-- The buffers are those of the payload, each at its position, -/
  inside : ∀ position data,
    (position, data) ∈ buffers ↔ (Value.array p.payload).at? position = some (.binary data)
  /-- in the order of their positions, -/
  ascending : Value.Ascending buffers
  /-- and as many as are counted. -/
  count : buffers.length = p.attachmentCount
  /-- Behind the text there is a frame for each buffer, and the text has their number if there are some. -/
  frames : encode revision p =
    .text (String.ofList ('4' :: listDigit p :: ((if 0 < buffers.length then
        Decimal.write buffers.length ++ ['-'] else []) ++
      (Header.namespaceText p.ns ++ (Header.idText p.id ++ json.write))))) ::
      buffers.map fun b => .binary (if revision = .v3 then 4 :: b.2 else b.2)
  /-- Where a buffer stood there is a placeholder with its number, -/
  placed : ∀ i position data, buffers[i]? = some (position, data) → json.at? position = some (placeholder i)
  /-- which is written so, -/
  written : ∀ i < buffers.length, i < UInt64.size →
    (placeholder i).write = "\x7b\"_placeholder\":true,\"num\":".toList ++ Decimal.write i ++ ['\x7d']
  /-- and all other objects of the JSON are objects of the payload. -/
  own : ∀ position members, json.at? position = some (.object members) →
    (∃ data, (position, data) ∈ buffers) ∨ ∃ own, (Value.array p.payload).at? position = some (.object own)

/-- The digit is that of the kind that is written. -/
theorem digit_writtenHeader {p : Packet} (h : p.kind.isEvent ∨ p.kind.isAck) :
    (writtenHeader p).kind.digit = listDigit p := by
  have hsome : attachments p ≠ [] ↔ 0 < p.attachmentCount := by
    rw [← length_attachments, List.length_pos_iff]
  simp only [writtenHeader, messageBody_of_list h, hsome, listDigit]
  by_cases hcount : 0 < p.attachmentCount <;> cases hkind : p.kind <;>
    simp_all [PacketKind.withBinary, PacketKind.isEvent, PacketKind.isAck] <;> rfl

/-- **The frames of an event or ack are numbered**, whatever its payload is. -/
theorem encode_numbered (revision : Revision) (p : Packet) (hframe : p.frame = .message)
    (hkind : p.kind.isEvent ∨ p.kind.isAck) : ∃ buffers json, Numbered revision p buffers json := by
  have hlen : (Value.array p.payload).positions.length = p.attachmentCount :=
    Value.length_positions (.array p.payload)
  have hbuffers : (Value.array p.payload).positions.map Prod.snd = attachments p :=
    Value.map_snd_positions (.array p.payload)
  refine ⟨(Value.array p.payload).positions, (extract (.array p.payload) []).1,
    { inside := fun position data => Value.mem_positions_iff
      ascending := Value.pairwise_positions _
      count := hlen
      frames := ?_
      placed := fun i position data hi => ?_
      written := fun i _ hi => write_placeholder hi
      own := fun position members h => ?_ }⟩
  · have hbody : writtenBody p = (payloadJson p).write := by
      rw [writtenBody, messageBody_of_list hkind]
      rfl
    have hcount : (writtenHeader p).count = (Value.array p.payload).positions.length := by
      rw [hlen, ← length_attachments, writtenHeader, messageBody_of_list hkind]
    have hbinary (data : Bytes) :
        binaryFrame revision data = .binary (if revision = .v3 then 4 :: data else data) := by
      cases revision <;> rfl
    rw [encode_message hframe, messageText_eq, digit_writtenHeader hkind, hbody, hcount,
      messageBody_of_list hkind, ← hbuffers, List.map_map]
    simp only [Function.comp_def, hbinary]
    rfl
  · have hplaced := congrArg (fun list => list[i]?) (at?_extract (.array p.payload) [])
    have hlt : i < (Value.array p.payload).binaryCount := by
      rw [← Value.length_positions]
      exact (List.getElem?_eq_some_iff.1 hi).1
    simpa [hi, hlt] using hplaced
  · obtain ⟨data, hdata⟩ | hown := object_of_at?_extract h
    · exact .inl ⟨data, Value.mem_positions_iff.2 hdata⟩
    · exact .inr hown

/-- An answer with three buffers, of the kind that announces none, and with an object that looks like a
placeholder. -/
def scattered : Packet :=
  { frame := .message, kind := .ack, ns := "/files", id := some 7
    payload := [.object (Dict.ofList [("b", .binary [2]), ("a", .array [.null, .binary [1]])]),
      .object (Dict.ofList [(markKey, .bool true), (numberKey, .int 0)]), .binary [3]] }

/-- Its buffers are numbered by their positions, whatever order its members were given in. -/
theorem encode_numbered_scattered :
    (scattered.frame = .message ∧ (scattered.kind.isEvent ∨ scattered.kind.isAck)) ∧
      (∃ buffers json, Numbered .v3 scattered buffers json) ∧
      (encode .v3 scattered).tail = [.binary [4, 1], .binary [4, 2], .binary [4, 3]] := by
  have hframe : scattered.frame = .message := rfl
  have hkind : scattered.kind.isEvent ∨ scattered.kind.isAck := .inr rfl
  exact ⟨⟨hframe, hkind⟩, encode_numbered .v3 scattered hframe hkind, by decide +kernel⟩

end RealtimeClient.Codec
