import Mathlib
import RealtimeClient.Proofs.Codec.Filling
import RealtimeClient.Proofs.Codec.Lifecycle
import RealtimeClient.Proofs.Codec.RoundTrip

/-!
# Where the buffers of a packet go

The sender chooses the numbers in the placeholders.  A packet is put together if every number is that
of a buffer and there are as many placeholders as buffers, and then each placeholder gets the buffer
that it names.  That does not make the numbers different from one another: where two placeholders name
one buffer, another buffer is named by none and does not get into the packet.

* `Placed` — what the buffers of a packet have to do with those that came.
* `Refused` — the answer to numbers that do not fit the buffers.
* `placed_of_finish`, `refused_of_finish` — **what is put together is placed, and the rest is refused**.
* `attachments_placed` — the same of a codec, in whatever life.
* `repeated_number_accepted` — a buffer that is lost.
-/

namespace RealtimeClient.Codec

variable {p : Partial} {q : Packet}

/-! ## Numbers and buffers -/

/-- Numbers that are different from one another, as many as there are buffers, name each buffer. -/
theorem perm_range_of_nodup {indices : List Nat} (hnodup : indices.Nodup)
    (hlt : ∀ index ∈ indices, index < indices.length) :
    indices.Perm (List.range indices.length) := by
  have hsub : indices.Subperm (List.range indices.length) :=
    List.subperm_of_subset hnodup fun index hindex => List.mem_range.2 (hlt index hindex)
  exact hsub.perm_of_length_le (List.length_range).le

/-- Where a number is repeated, another one is missing. -/
theorem exists_not_mem_of_not_nodup {indices : List Nat} (h : ¬indices.Nodup) :
    ∃ index < indices.length, index ∉ indices := by
  by_contra hall
  push Not at hall
  have hsub : (List.range indices.length).Subperm indices :=
    List.subperm_of_subset List.nodup_range fun index hindex => hall index (List.mem_range.1 hindex)
  have hperm := hsub.perm_of_length_le (List.length_range).ge
  exact h (hperm.nodup_iff.1 List.nodup_range)

/-- **What the buffers of a packet have to do with those that came.** -/
structure Placed (indices : List Nat) (received : List Bytes) (q : Packet) : Prop where
  /-- There are as many placeholders as buffers. -/
  count : indices.length = received.length
  /-- The payload has the buffers that the placeholders name, in their order. -/
  named : (attachments q).map some = indices.map (received[·]?)
  /-- The numbers are those of the buffers, each of them once, if none is repeated. -/
  permuted : indices.Perm (List.range received.length) ↔ indices.Nodup
  /-- Then the payload has each buffer once. -/
  once : indices.Nodup → (attachments q).Perm received
  /-- Otherwise some buffer is named by none. -/
  lost : ¬indices.Nodup → ∃ index < received.length, index ∉ indices

/-- **The answer to numbers that do not fit the buffers**: the first number that is none of a
buffer, or the number of the placeholders. -/
def Refused (indices : List Nat) (count : Nat) (e : Error) : Prop :=
  (∃ index ∈ indices, count ≤ index ∧ e = .placeholderOutOfRange index count) ∨
    (indices.length ≠ count ∧ e = .attachmentMismatch count indices.length)

/-! ## Packets under way -/

/-- **The buffers of a packet that was put together are placed.** -/
theorem placed_of_finish (hheader : Value.buffersOfItems p.header.payload = [])
    (hlen : p.buffers.length = p.expected) (hfinish : p.finish = .ok q) :
    Placed p.indices p.buffers q := by
  obtain ⟨hrange, hcount, items, hitems, rfl⟩ := Partial.finish_eq_ok hfinish
  have hcount : p.indices.length = p.buffers.length := hcount.trans hlen.symm
  have hbuffers : attachments { p.header with payload := items } =
      p.indices.map fun index => p.buffers.getD index [] :=
    Partial.buffersOfItems_filledPayload hheader hitems
  have hperm (hnodup : p.indices.Nodup) : p.indices.Perm (List.range p.buffers.length) := by
    rw [← hcount] at hrange ⊢
    exact perm_range_of_nodup hnodup hrange
  refine ⟨hcount, ?_, ⟨fun h => h.nodup_iff.2 List.nodup_range, hperm⟩, fun hnodup => ?_, fun h => ?_⟩
  · rw [hbuffers, List.map_map]
    refine List.map_congr_left fun index hindex => ?_
    rw [Function.comp_apply, List.getElem?_eq_getElem (hrange index hindex),
      List.getD_eq_getElem _ _ (hrange index hindex)]
  · have hall : (List.range p.buffers.length).map (fun index => p.buffers.getD index []) =
        p.buffers := by
      refine List.ext_getElem (by simp) fun index hindex hlt => ?_
      rw [List.getElem_map, List.getElem_range, List.getD_eq_getElem _ _ hlt]
    rw [hbuffers]
    exact ((hperm hnodup).map _).trans (.of_eq hall)
  · rw [← hcount]
    exact exists_not_mem_of_not_nodup h

/-- **Numbers that do not fit the buffers are refused.** -/
theorem refused_of_finish (hlen : p.buffers.length = p.expected)
    (h : ¬(p.indices.length = p.expected ∧ ∀ index ∈ p.indices, index < p.expected)) :
    ∃ e, Refused p.indices p.expected e ∧ p.finish = .error e := by
  rw [Partial.finish_eq, hlen]
  cases hstray : stray? p.buffers p.indices with
  | some index =>
    have hle : p.buffers.length ≤ index := by simpa using List.find?_some hstray
    refine ⟨_, .inl ⟨index, List.mem_of_find?_eq_some hstray, ?_, rfl⟩, rfl⟩
    rwa [← hlen]
  | none =>
    have hrange := Partial.stray?_eq_none_iff.1 hstray
    rw [hlen] at hrange
    have hcount : p.indices.length ≠ p.expected := fun hcount => h ⟨hcount, hrange⟩
    exact ⟨_, .inr ⟨hcount, rfl⟩, if_pos hcount⟩

/-! ## Codecs -/

/-- What a text begins has the buffers that come after it, and no others. -/
theorem load_buffers {s : String} {began : Partial} (hs : readText s.toList = .ok began)
    (revision : Revision) (data : List Bytes) :
    (began.load revision data).buffers = data.map (frameBuffer revision) := by
  rw [Partial.load, readText_buffers hs, List.nil_append]

/-- **A packet comes out with the buffers that its placeholders name, and where the numbers do not fit
the buffers none comes out**, whatever the codec was fed and told before. -/
theorem attachments_placed (revision : Revision) (ops : List Operation) :
    (∀ frame q, (((new revision).run ops).1.feed frame).2 = .ok (some q) →
      ∃ before s began, ∃ data : List Bytes,
        ops ++ [.feed frame] =
          before ++ .feed (.text s) :: data.map (fun d => .feed (.binary d)) ∧
        readText s.toList = .ok began ∧ data.length = began.expected ∧
        Placed began.indices (data.map (frameBuffer revision)) q) ∧
    (∀ s began (data : List Bytes), readText s.toList = .ok began → data.length = began.expected →
      ¬(began.indices.length = began.expected ∧
        ∀ index ∈ began.indices, index < began.expected) →
      ∃ e, Refused began.indices began.expected e ∧
        (((new revision).run ops).1.feedAll (.text s :: data.map .binary)).2 =
          List.replicate began.expected (.ok none) ++ [.error e]) := by
  constructor
  · intro frame q hq
    obtain ⟨p, ⟨before, s, data, began, hops, hs, rfl⟩, hlen, hfinish⟩ := completed_arrives hq
    have hbuffers := load_buffers hs revision data
    have hheader : Value.buffersOfItems (began.load revision data).header.payload = [] := by
      rw [load_header, readText_payload hs]
    have hplaced := placed_of_finish hheader hlen hfinish
    rw [hbuffers] at hplaced
    rw [hbuffers, List.length_map] at hlen
    exact ⟨before, s, began, data, hops, hs, hlen, hplaced⟩
  · intro s began data hs hlen hmiss
    generalize ((new revision).run ops).1 = c
    have hbuffers := load_buffers hs c.revision data
    obtain ⟨e, hrefused, hfinish⟩ := refused_of_finish (p := began.load c.revision data)
      (by rw [hbuffers, List.length_map, hlen, load_expected]) hmiss
    refine ⟨e, hrefused, ?_⟩
    rw [feedAll_text_complete c hs hlen, hfinish]
    rfl

/-- A text that names the second of two buffers first. -/
def crossed : String :=
  "452-[\"put\",\x7b\"_placeholder\":true,\"num\":1\x7d,\x7b\"num\":0,\"_placeholder\":true\x7d]"

/-- Its packet, with one byte in each of the buffers. -/
def arranged : Packet :=
  { frame := .message, kind := .binaryEvent, ns := "/", id := none
    payload := [.string "put", .binary [2], .binary [1]] }

/-- A text with a number that is not that of its only buffer. -/
def astray : String := "451-[\"put\",\x7b\"_placeholder\":true,\"num\":1\x7d]"

/-- Behind a text that is given up, the first text gets its buffers crossed, and the other text is
refused. -/
theorem attachments_placed_example :
    let ops : List Operation :=
      [.feed (.text crossed), .feed (.text crossed), .feed (.binary [4, 1])]
    (((new .v3).run ops).1.feed (.binary [2])).2 = .ok (some arranged) ∧
      (∃ indices received, Placed indices received arranged) ∧
      ∃ e, Refused [1] 1 e ∧
        (((new .v3).run ops).1.feedAll [.text astray, .binary [2]]).2 = [.ok none, .error e] := by
  intro ops
  have hcrossed : (((new .v3).run ops).1.feed (.binary [2])).2 = .ok (some arranged) := by
    decide +kernel
  have hastray : readText astray.toList =
      .ok { header := { arranged with payload := [] }
            body := some (.array [.string "put", placeholder 1]), expected := 1, buffers := [] } := by
    decide +kernel
  obtain ⟨hplaced, hrefused⟩ := attachments_placed .v3 ops
  obtain ⟨_, _, began, data, _, _, _, hplaced⟩ := hplaced _ _ hcrossed
  exact ⟨hcrossed, ⟨_, _, hplaced⟩, hrefused astray _ [[2]] hastray rfl (by decide)⟩

/-- A text that names the first of two buffers twice. -/
def doubled : String :=
  "452-[\"put\",\x7b\"_placeholder\":true,\"num\":0\x7d,\x7b\"_placeholder\":true,\"num\":0\x7d]"

/-- **A number that is repeated is not refused**: one buffer is in the packet twice, and the other one
is lost. -/
theorem repeated_number_accepted :
    ((new .v4).feedAll [.text doubled, .binary [1], .binary [2]]).2 =
        [.ok none, .ok none,
          .ok (some { frame := .message, kind := .binaryEvent, ns := "/", id := none,
                      payload := [.string "put", .binary [1], .binary [1]] })] ∧
      ¬([[1], [1]] : List Bytes).Perm [[1], [2]] := by
  constructor
  · decide +kernel
  · decide

end RealtimeClient.Codec
