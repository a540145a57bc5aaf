import Mathlib
import RealtimeClient.Proofs.Codec.Filling
import RealtimeClient.Proofs.Codec.Lifecycle
import RealtimeClient.Proofs.Codec.RoundTrip

/-!
# Packets sent on

What comes out of a decoder can be encoded again.  Its text may have been one that no encoder writes;
the packet that was made of it is none that an encoder could not take.  A namespace cannot run into the
rest of a header, an object that was no placeholder is not taken for one, and with the buffers taken
out again the payload is not nested deeper than it was read.  Only doubles are left out, since their
texts may not be read as the same numbers.

* `plain_fill` — filled trees have no lookalikes of placeholders.
* `Partial.transmissible_of_finish` — **what is put together can be sent on**.
* `feedAll_encode_decoded` — the same of a codec, in whatever life.
-/

namespace RealtimeClient.Codec

/-! ## Filled trees -/

section Trees

variable (buffers : List Bytes)

theorem plain_ofNumber (n : Json.Number) (h : (Value.ofNumber n).all isNotDouble = true) :
    (Value.ofNumber n).all isPlain = true := by
  rw [Value.ofNumber] at h ⊢
  split at h
  · rfl
  · cases h

mutual

/-- **Filled trees have no lookalikes of placeholders**, so they are plain if they have no doubles. -/
theorem plain_fill : (json : Json) → (fill buffers json).all isNotDouble = true →
    (fill buffers json).all isPlain = true
  | .null, _ => rfl
  | .bool _, _ => rfl
  | .number n, h => plain_ofNumber n h
  | .string _, _ => rfl
  | .array items, h => by
      simp only [fill, Value.all, Bool.and_eq_true] at h ⊢
      exact ⟨rfl, plain_fillItems items h.2⟩
  | .object members, h => by
      rw [fill] at h ⊢
      cases hindex : placeholderIndex? members with
      | some index => rfl
      | none =>
        simp only [hindex, Value.all, Bool.and_eq_true] at h ⊢
        have hnot := isLookalike_fillMembers buffers hindex
        exact ⟨by simp [isPlain, h.1, hnot], plain_fillMembers members h.2⟩

theorem plain_fillItems : (items : List Json) →
    Value.allItems isNotDouble (fillItems buffers items) = true →
      Value.allItems isPlain (fillItems buffers items) = true
  | [], _ => rfl
  | item :: rest, h => by
      simp only [fillItems, Value.allItems, Bool.and_eq_true] at h ⊢
      exact ⟨plain_fill item h.1, plain_fillItems rest h.2⟩

theorem plain_fillMembers : {lo : Option String} → (members : Dict.From Json lo) →
    Value.allMembers isNotDouble (fillMembers buffers members) = true →
      Value.allMembers isPlain (fillMembers buffers members) = true
  | _, .nil, _ => rfl
  | _, .cons _ _ value rest, h => by
      simp only [fillMembers, Value.allMembers, Bool.and_eq_true] at h ⊢
      exact ⟨plain_fill value h.1, plain_fillMembers rest h.2⟩

end

end Trees

/-! ## Packets under way -/

namespace Partial

variable {p : Partial} {q : Packet}

/-- **The payload of an event or ack** is that of a filled array, which is not nested too deeply. -/
theorem filledPayload_eq_ok (hform : p.InForm) (hframe : p.header.frame = .message)
    (hkind : p.header.kind.isEvent ∨ p.header.kind.isAck) {items : List Value}
    (h : p.filledPayload = .ok items) :
    ∃ jsons, items = fillItems p.buffers jsons ∧
      (Json.array jsons).depth ≤ Json.Reader.depthLimit := by
  unfold filledPayload at h
  cases hbody : p.body with
  | none =>
    -- A text without JSON stands for an empty array.
    simp only [hbody, hform.payload, Except.ok.injEq] at h
    exact ⟨[], h.symm, by decide⟩
  | some json =>
    simp only [hbody, payload, hframe, hkind, and_self, if_true] at h
    split at h
    · next items' hfill =>
      obtain ⟨jsons, rfl, rfl⟩ := eq_array_of_fill p.buffers hfill
      cases h
      exact ⟨jsons, rfl, hform.depth _ hbody⟩
    · cases h

/-- **What is put together can be sent on**, unless it has doubles. -/
theorem transmissible_of_finish (hform : p.InForm) (hfinish : p.finish = .ok q)
    (hframe : q.frame = .message) (hkind : q.kind.isEvent ∨ q.kind.isAck)
    (hdoubles : Value.allItems isNotDouble q.payload = true) : Transmissible q := by
  obtain ⟨-, hcount, items, hitems, rfl⟩ := finish_eq_ok hfinish
  have hbuffers := buffersOfItems_filledPayload (congrArg Value.buffersOfItems hform.payload) hitems
  obtain ⟨jsons, rfl, hdepth⟩ := filledPayload_eq_ok hform hframe hkind hitems
  refine ⟨hframe, hkind, hform.slash, hform.comma, plain_fillItems p.buffers jsons hdoubles, ?_, ?_⟩
  · calc
      _ ≤ (Json.array jsons).depth :=
        Nat.succ_le_succ (depth_extractItems_fillItems p.buffers jsons [])
      _ ≤ 127 := hdepth
  · calc
      _ = p.indices.length := by rw [← length_attachments, attachments, hbuffers, List.length_map]
      _ = p.expected := hcount
      _ < UInt64.size := hform.bound

end Partial

/-! ## Codecs -/

/-- **An event or ack that comes out of a codec can be sent on.**  Encoded again and fed into any
other codec of its revision, it comes out once more, with the kind that fits its payload. -/
theorem feedAll_encode_decoded {revision : Revision} {ops : List Operation} {frame : Frame}
    {q : Packet} (h : (((new revision).run ops).1.feed frame).2 = .ok (some q))
    (hframe : q.frame = .message) (hkind : q.kind.isEvent ∨ q.kind.isAck)
    (hdoubles : Value.allItems isNotDouble q.payload = true)
    (c : Codec) (hc : c.revision = revision) :
    c.feedAll (encode revision q) = (c.reset, answers revision q) := by
  obtain ⟨p, ⟨_, s, data, began, _, hs, rfl⟩, _, hfinish⟩ := completed_arrives h
  have hheader : began.header.frame = .message := by
    obtain ⟨-, -, items, -, rfl⟩ := Partial.finish_eq_ok hfinish
    exact hframe
  have hform := (inForm_of_readText hs hheader).load revision data
  have hq := Partial.transmissible_of_finish hform hfinish hframe hkind hdoubles
  rw [← hc]
  exact feedAll_encode hq c

/-- A text that no encoder writes: zeros stand in front of its numbers, its JSON has blanks, and its
placeholders have more keys than they need and the wrong order. -/
def untidy : String :=
  "4502-/files,007 [ \"put\", \x7b\"at\": [-0.5], \"num\": 1, \"_placeholder\": true\x7d,\n" ++
    "\x7b\"_placeholder\": true, \"num\": 1, \"num\": 0\x7d, \x7b\"num\": 3\x7d ]"

/-- The packet that is read from it. -/
def tidied : Packet :=
  { frame := .message, kind := .binaryEvent, ns := "/files", id := some 7
    payload := [.string "put", .binary [2], .binary [1],
      .object (Dict.ofList [("num", .int 3)])] }

/-- It is sent on in the usual form, and comes out as it was. -/
theorem feedAll_encode_decoded_example :
    (((new .v3).run [.feed (.text untidy), .feed (.binary [1])]).1.feed (.binary [4, 2])).2 =
        .ok (some tidied) ∧
      interrupted.feedAll (encode .v3 tidied) =
        (new .v3, [.ok none, .ok none, .ok (some tidied)]) ∧
      encode .v3 tidied ≠ [.text untidy, .binary [1], .binary [4, 2]] := by
  have hdecoded : (((new .v3).run [.feed (.text untidy), .feed (.binary [1])]).1.feed
      (.binary [4, 2])).2 = .ok (some tidied) := by decide +kernel
  have h := feedAll_encode_decoded hdecoded rfl (.inl rfl) (by decide) interrupted rfl
  exact ⟨hdecoded, h, by decide +kernel⟩

end RealtimeClient.Codec
