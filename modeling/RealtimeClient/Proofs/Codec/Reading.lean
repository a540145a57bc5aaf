import Mathlib
import RealtimeClient.Codec
import RealtimeClient.Proofs.Decimal
import RealtimeClient.Proofs.Json.Depth

/-!
# What a text can be read as

A text may be written in many ways that no encoder writes: with blanks in its JSON, with zeros in
front of its numbers, with a namespace that ends where the text does.  Whatever it looks like, what
is read from it keeps to the form of a packet: the namespace has a `/` in front and no comma, the
count has 64 bits, and the payload is not nested beyond the reader's limit.

* `ok_of_bind`, `error_of_bind` — a reader in two parts succeeds if both do.
* `Header.inForm_of_read` — the header.
* `readMessage_eq_ok`, `readText_eq_ok` — where a packet under way comes from.
* `Partial.InForm`, `inForm_of_readText` — **the whole text**.
-/

namespace RealtimeClient.Codec

/-- A computation in two parts has a result if both of them do. -/
theorem ok_of_bind {ε α β : Type} {x : Except ε α} {f : α → Except ε β} {b : β}
    (h : x >>= f = .ok b) : ∃ a, x = .ok a ∧ f a = .ok b := by
  cases x with
  | error e => cases h
  | ok a => exact ⟨a, rfl, h⟩

/-- A computation in two parts fails if one of them does. -/
theorem error_of_bind {ε α β : Type} {x : Except ε α} {f : α → Except ε β} {e : ε}
    (h : x >>= f = .error e) : x = .error e ∨ ∃ a, x = .ok a ∧ f a = .error e := by
  cases x with
  | error e' =>
    cases h
    exact .inl rfl
  | ok a => exact .inr ⟨a, rfl, h⟩

/-! ## Headers -/

namespace Header

/-- The part before the mark does not hold the mark. -/
theorem not_mem_cut (c : Char) : (text : List Char) → c ∉ (cut c text).1
  | [] => by simp [cut]
  | d :: rest => by
      rw [cut]
      split
      · exact List.not_mem_nil
      · next hd =>
        rw [List.mem_cons, not_or]
        exact ⟨Ne.symm hd, not_mem_cut c rest⟩

/-- Another character in front stays in front. -/
theorem head?_cut {c d : Char} (hd : d ≠ c) {text : List Char} (h : text.head? = some d) :
    (cut c text).1.head? = some d := by
  cases text with
  | nil => cases h
  | cons e rest =>
    obtain rfl : e = d := Option.some.inj h
    rw [cut, if_neg hd]
    rfl

/-- **The namespace that is read** has a `/` in front and no comma. -/
theorem readNamespace_inForm (text : List Char) :
    (readNamespace text).1.toList.head? = some '/' ∧ ',' ∉ (readNamespace text).1.toList := by
  rw [readNamespace]
  split
  · next hslash =>
    simp only [String.toList_ofList]
    exact ⟨head?_cut (by decide) hslash, not_mem_cut ',' text⟩
  · dsimp only
    exact ⟨by decide, by decide⟩

theorem lt_of_readCount {kind : PacketKind} {text rest : List Char} {count : Nat}
    (h : readCount kind text = .ok (count, rest)) : count < numberBound := by
  unfold readCount at h
  split at h
  · split at h
    · split at h
      · next hread =>
        cases h
        exact Decimal.lt_of_readSigned? hread
      · cases h
    · cases h
  · cases h
    decide

/-- **A header that is read**: its namespace is in form, and its count has 64 bits. -/
theorem inForm_of_read {text rest : List Char} {h : Header} (hread : read text = .ok (h, rest)) :
    h.count < numberBound ∧ h.ns.toList.head? = some '/' ∧ ',' ∉ h.ns.toList := by
  obtain ⟨⟨kind, text₁⟩, -, hread⟩ := ok_of_bind hread
  obtain ⟨⟨count, text₂⟩, hcount, hread⟩ := ok_of_bind hread
  obtain ⟨⟨id, text₃⟩, -, hread⟩ := ok_of_bind hread
  cases hread
  exact ⟨lt_of_readCount hcount, readNamespace_inForm text₂⟩

end Header

/-! ## Whole texts -/

/-- **A payload that is read** is left out, or it is JSON. -/
theorem json_of_readBody {text : List Char} {body : Option Json} (h : readBody text = .ok body)
    (hne : text ≠ []) : ∃ json, Json.read text = .ok json := by
  rw [readBody, if_neg hne] at h
  split at h
  · next json hread => exact ⟨json, hread⟩
  · cases h

theorem depth_le_of_readBody {text : List Char} {json : Json}
    (h : readBody text = .ok (some json)) : json.depth ≤ Json.Reader.depthLimit := by
  unfold readBody at h
  split at h
  · cases h
  · split at h
    · next hread =>
      cases h
      exact Json.depth_le_of_read hread
    · cases h

variable {text : List Char} {p : Partial}

/-- A message is read as its header and its payload. -/
theorem readMessage_eq_ok (h : readMessage text = .ok p) :
    ∃ header rest body, Header.read text = .ok (header, rest) ∧ readBody rest = .ok body ∧
      p = { header := { frame := .message, kind := header.kind, ns := header.ns, id := header.id,
                        payload := [] }
            body, expected := header.count, buffers := [] } := by
  obtain ⟨⟨header, rest⟩, hheader, h⟩ := ok_of_bind h
  obtain ⟨body, hbody, h⟩ := ok_of_bind h
  cases h
  exact ⟨header, rest, body, hheader, hbody, rfl⟩

/-- **A text is that of a message, or it has to do with no buffers at all.** -/
theorem readText_eq_ok (h : readText text = .ok p) :
    (∃ rest, readMessage rest = .ok p) ∨
      (p.header.frame ≠ .message ∧ p.buffers = [] ∧
        Value.buffersOfItems p.header.payload = []) := by
  unfold readText at h
  split at h
  · cases h
  · split at h
    · cases h
    · exact .inl ⟨_, h⟩
    · obtain ⟨body, -, h⟩ := ok_of_bind h
      cases h
      exact .inr ⟨nofun, rfl, rfl⟩
    · next hmessage _ _ =>
      cases h
      refine .inr ⟨fun heq => hmessage heq, rfl, ?_⟩
      dsimp only [Packet.engine]
      split <;> rfl

/-- A packet begins without buffers. -/
theorem readText_buffers (h : readText text = .ok p) : p.buffers = [] := by
  rcases readText_eq_ok h with ⟨rest, hmessage⟩ | ⟨-, hbuffers, -⟩
  · obtain ⟨header, rest, body, -, -, rfl⟩ := readMessage_eq_ok hmessage
    rfl
  · exact hbuffers

/-- What a header holds beside the payload's JSON has no buffers in it. -/
theorem readText_payload (h : readText text = .ok p) :
    Value.buffersOfItems p.header.payload = [] := by
  rcases readText_eq_ok h with ⟨rest, hmessage⟩ | ⟨-, -, hpayload⟩
  · obtain ⟨header, rest, body, -, -, rfl⟩ := readMessage_eq_ok hmessage
    rfl
  · exact hpayload

/-- **A packet under way in the form of one that was encoded**, whatever its text looked like. -/
structure Partial.InForm (p : Partial) : Prop where
  slash : p.header.ns.toList.head? = some '/'
  comma : ',' ∉ p.header.ns.toList
  payload : p.header.payload = []
  bound : p.expected < numberBound
  depth : ∀ json, p.body = some json → json.depth ≤ Json.Reader.depthLimit

/-- **The text of a message is read as a packet in form.** -/
theorem inForm_of_readText (h : readText text = .ok p) (hframe : p.header.frame = .message) :
    p.InForm := by
  obtain ⟨rest, hmessage⟩ := (readText_eq_ok h).resolve_right fun hother => hother.1 hframe
  obtain ⟨header, rest, body, hheader, hbody, rfl⟩ := readMessage_eq_ok hmessage
  obtain ⟨hbound, hslash, hcomma⟩ := Header.inForm_of_read hheader
  refine ⟨hslash, hcomma, rfl, hbound, fun json hjson => ?_⟩
  obtain rfl : body = some json := hjson
  exact depth_le_of_readBody hbody

end RealtimeClient.Codec
