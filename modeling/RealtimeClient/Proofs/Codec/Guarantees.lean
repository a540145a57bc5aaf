import Mathlib
import RealtimeClient.Proofs.Codec.Attachments
import RealtimeClient.Proofs.Codec.Layout

/-!
# What a decoded packet can be relied on for

Whoever gets a packet from a codec need not look at the text it came from.  There are four kinds of text:
messages, handshakes, and texts with a payload of their own or without one, which end a session or keep it
alive.  A text of any kind can be laid out in ways that no encoder uses, and still the packet has as many
buffers as the text announced, all of them from the frames behind the text, and its other parts fit its
kinds.

* `Declares`, `Declares.unique` — the number of buffers that a text announces, and there is only one.
* `session_of_readText` — what is read as a frame of the session; `declares_of_readText` — **what was
  announced is awaited**, for texts of all kinds.
* `Reliable`, `reliable_of_finish` — **what is put together is reliable**.
* `fed_reliable` — the same of a codec, in whatever life.
-/

namespace RealtimeClient

/-- The kinds of frame have different digits, -/
theorem FrameKind.digit_injective {frame frame' : FrameKind} (h : frame.digit = frame'.digit) :
    frame = frame' := by
  revert h
  cases frame <;> cases frame' <;> decide

/-- and so have the kinds of message. -/
theorem PacketKind.digit_injective {kind kind' : PacketKind} (h : kind.digit = kind'.digit) :
    kind = kind' := by
  revert h
  cases kind <;> cases kind' <;> decide

namespace Codec

open Decimal (IsRun)

/-! ## The number that is announced -/

/-- **The number of buffers that a text announces.**  Only a message of a kind with buffers has such a
number, between the kind and the first dash. -/
inductive Declares : List Char → Nat → Prop
  | session (frame : FrameKind) (rest : List Char) (other : frame ≠ .message) :
      Declares (frame.digit :: rest) 0
  | plain (kind : PacketKind) (rest : List Char) (without : kind.isBinary = false) :
      Declares (FrameKind.message.digit :: kind.digit :: rest) 0
  | binary (kind : PacketKind) (sign run rest : List Char) (buffers : kind.isBinary = true)
      (signed : sign = [] ∨ sign = ['+']) (number : IsRun run) :
      Declares (FrameKind.message.digit :: kind.digit :: (sign ++ run ++ '-' :: rest)) (Decimal.value run)

/-- A sign and a number can be told apart, and from what comes after the dash. -/
theorem signed_append_inj {sign sign' run run' rest rest' : List Char} (hsign : sign = [] ∨ sign = ['+'])
    (hsign' : sign' = [] ∨ sign' = ['+']) (hrun : IsRun run) (hrun' : IsRun run')
    (h : sign ++ run ++ '-' :: rest = sign' ++ run' ++ '-' :: rest') : run = run' := by
  have hplus {run : List Char} (hrun : IsRun run) : '+' ∉ run := hrun.not_mem (by decide)
  have hcut := Header.cut_append rest (sign ++ run) (Header.dash_not_mem hsign hrun)
  rw [h, Header.cut_append rest' (sign' ++ run') (Header.dash_not_mem hsign' hrun'), Prod.mk.injEq] at hcut
  rcases hsign with rfl | rfl <;> rcases hsign' with rfl | rfl
  · exact hcut.1.symm
  · have hmem : '+' ∈ run := by simp [show run = '+' :: run' from hcut.1.symm]
    exact absurd hmem (hplus hrun)
  · have hmem : '+' ∈ run' := by simp [show run' = '+' :: run from hcut.1]
    exact absurd hmem (hplus hrun')
  · exact (List.cons.inj hcut.1).2.symm

/-- **No text announces two numbers.** -/
theorem Declares.unique {text : List Char} {n n' : Nat} (h : Declares text n) (h' : Declares text n') :
    n = n' := by
  cases h with
  | session frame rest other =>
    generalize htext : frame.digit :: rest = text at h'
    cases h' with
    | session => rfl
    | plain | binary =>
      exact absurd (FrameKind.digit_injective (List.cons.inj htext).1) other
  | plain kind rest without =>
    generalize htext : FrameKind.message.digit :: kind.digit :: rest = text at h'
    cases h' with
    | session | plain => rfl
    | binary kind' sign run rest' buffers =>
      have hkind := PacketKind.digit_injective (List.cons.inj (List.cons.inj htext).2).1
      rw [hkind, buffers] at without
      cases without
  | binary kind sign run rest buffers signed number =>
    generalize htext : FrameKind.message.digit :: kind.digit :: (sign ++ run ++ '-' :: rest) = text at h'
    cases h' with
    | session frame _ other =>
      exact absurd (FrameKind.digit_injective (List.cons.inj htext).1.symm) other
    | plain kind' _ without =>
      have hkind := PacketKind.digit_injective (List.cons.inj (List.cons.inj htext).2).1
      rw [← hkind, buffers] at without
      cases without
    | binary _ sign' run' _ _ signed' number' =>
      rw [signed_append_inj signed signed' number number' (List.cons.inj (List.cons.inj htext).2).2]

/-! ## Texts of all kinds -/

variable {text : List Char} {p : Partial} {q : Packet} {revision : Revision}

/-- **What is read as a frame of the session** has no buffers.  A handshake may have JSON, the others may
have a text. -/
theorem session_of_readText (h : readText text = .ok p) (hframe : p.header.frame ≠ .message) :
    ∃ rest, text = p.header.frame.digit :: rest ∧ p.expected = 0 ∧
      (p.header = Packet.engine .handshake [] ∨
        p.body = none ∧ p.header =
          Packet.engine p.header.frame (if rest = [] then [] else [.string (String.ofList rest)])) := by
  cases text with
  | nil => cases h
  | cons c rest =>
    simp only [readText] at h
    split at h
    · cases h
    · obtain ⟨header, rest, body, -, -, rfl⟩ := readMessage_eq_ok h
      exact absurd rfl hframe
    · next hkind =>
      obtain ⟨body, -, h⟩ := ok_of_bind h
      cases h
      exact ⟨rest, by rw [eq_digit_of_frameKind hkind]; rfl, rfl, .inl rfl⟩
    · next frame _ _ hkind =>
      cases h
      exact ⟨rest, by rw [eq_digit_of_frameKind hkind]; rfl, rfl, .inr ⟨rfl, rfl⟩⟩

/-- A message of a kind without buffers announces none. -/
theorem expected_of_plain (h : readText text = .ok p) (hframe : p.header.frame = .message)
    (hkind : p.header.kind.isBinary = false) : p.expected = 0 := by
  obtain ⟨l, sign, hl, rfl, -, -⟩ := layout_of_readText h hframe
  have hcount := hl.count
  have hplain : l.kind.isBinary = false := hkind
  rw [hplain, if_neg Bool.false_ne_true] at hcount
  simp [Layout.packet, hcount, Decimal.value]

/-- **The number that a text announces is the number of buffers that are awaited.** -/
theorem declares_of_readText (h : readText text = .ok p) : Declares text p.expected := by
  by_cases hframe : p.header.frame = .message
  · obtain ⟨l, sign, hl, rfl, rfl, hsign⟩ := layout_of_readText h hframe
    have hmessage : '4' = FrameKind.message.digit := rfl
    rw [Layout.textWith, hmessage]
    by_cases hkind : l.kind.isBinary = true
    · have hcount : IsRun l.count := by simpa [hkind] using hl.count
      have hnumber := Declares.binary l.kind sign l.count (l.ns.text ++ (l.id ++ l.body)) hkind
        (hsign.imp_right And.left) hcount
      simpa [hkind, Layout.packet] using hnumber
    · rw [Bool.not_eq_true] at hkind
      rw [expected_of_plain h hframe hkind]
      exact .plain l.kind _ hkind
  · obtain ⟨rest, rfl, hzero, -⟩ := session_of_readText h hframe
    rw [hzero]
    exact .session p.header.frame rest hframe

/-! ## Packets -/

/-- **What a packet can be relied on for** that came in with a text and some buffers. -/
structure Reliable (text : List Char) (received : List Bytes) (q : Packet) : Prop where
  /-- The payload has as many buffers as the text announces. -/
  announced : ∀ n, Declares text n ↔ n = q.attachmentCount
  /-- So many have come, -/
  complete : received.length = q.attachmentCount
  /-- and those of the payload are among them. -/
  source : ∀ data ∈ attachments q, data ∈ received
  /-- The namespace of a message has a `/` in front and no comma. -/
  ns : q.frame = .message → q.ns.toList.head? = some '/' ∧ ',' ∉ q.ns.toList
  /-- A message that is no event or ack has one value at most, without buffers. -/
  single : q.frame = .message → q.kind = .connect ∨ q.kind = .disconnect ∨ q.kind = .connectError →
    q.payload.length ≤ 1 ∧ attachments q = []
  /-- A frame of the session has the other parts of an event for the default namespace, and one value at
  most. -/
  session : q.frame ≠ .message →
    q.kind = .event ∧ q.ns = "/" ∧ q.id = none ∧ q.payload.length ≤ 1
  /-- Where that value is not the JSON of a handshake, it is a text. -/
  textual : q.frame = .close ∨ q.frame = .ping ∨ q.frame = .pong →
    ∀ v ∈ q.payload, ∃ s, s ≠ "" ∧ v = .string s

/-- What a header holds beside the payload's JSON is one value at most. -/
theorem length_payload_of_readText (h : readText text = .ok p) : p.header.payload.length ≤ 1 := by
  by_cases hframe : p.header.frame = .message
  · rw [(inForm_of_readText h hframe).payload]
    exact Nat.zero_le _
  · obtain ⟨rest, -, -, hheader | ⟨-, hheader⟩⟩ := session_of_readText h hframe <;> rw [hheader]
    · exact Nat.zero_le _
    · dsimp only [Packet.engine]
      split <;> simp

section Finished

variable {data : List Bytes} (hs : readText text = .ok p)
variable (hfinish : (p.load revision data).finish = .ok q)

include hs hfinish

/-- The buffers of the payload are so many as were awaited, and they have come. -/
theorem attachments_of_finish (hlen : data.length = p.expected) :
    q.attachmentCount = p.expected ∧ ∀ buffer ∈ attachments q, buffer ∈ data.map (frameBuffer revision) := by
  have hheader : Value.buffersOfItems (p.load revision data).header.payload = [] := by
    rw [load_header, readText_payload hs]
  have hbuffers : (p.load revision data).buffers = data.map (frameBuffer revision) := by
    rw [Partial.load, readText_buffers hs, List.nil_append]
  have hawaited : (p.load revision data).buffers.length = p.expected := by
    rw [hbuffers, List.length_map, hlen]
  have hplaced := placed_of_finish hheader hawaited hfinish
  constructor
  · have hnamed := congrArg List.length hplaced.named
    rw [List.length_map, List.length_map, hplaced.count, hawaited] at hnamed
    rw [← length_attachments, hnamed]
  · intro buffer hbuffer
    have hmem := List.mem_map_of_mem (f := some) hbuffer
    rw [hplaced.named, hbuffers] at hmem
    obtain ⟨index, -, hindex⟩ := List.mem_map.1 hmem
    exact List.mem_of_getElem? hindex

/-- Where the values of a payload are not those of an array, there is one at most. -/
theorem length_payload_of_finish (hkind : ¬(q.frame = .message ∧ (q.kind.isEvent ∨ q.kind.isAck))) :
    q.payload.length ≤ 1 := by
  obtain ⟨-, -, items, hitems, rfl⟩ := Partial.finish_eq_ok hfinish
  unfold Partial.filledPayload at hitems
  split at hitems
  · cases hitems
    rw [load_header]
    exact length_payload_of_readText hs
  · simp only [Partial.payload, if_neg hkind, Except.ok.injEq] at hitems
    rw [← hitems, List.length_singleton]

/-- A frame of the session has the other parts of an event for the default namespace, -/
theorem header_of_finish (hframe : q.frame ≠ .message) : q.kind = .event ∧ q.ns = "/" ∧ q.id = none := by
  obtain ⟨-, -, items, -, rfl⟩ := Partial.finish_eq_ok hfinish
  obtain ⟨rest, -, -, hheader | ⟨-, hheader⟩⟩ := session_of_readText hs hframe
  all_goals
    rw [load_header, hheader]
    exact ⟨rfl, rfl, rfl⟩

/-- and unless it is a handshake, its value is the rest of the text, if there is any. -/
theorem text_of_finish (hframe : q.frame = .close ∨ q.frame = .ping ∨ q.frame = .pong) {v : Value}
    (hv : v ∈ q.payload) : ∃ s, s ≠ "" ∧ v = .string s := by
  obtain ⟨-, -, items, hitems, rfl⟩ := Partial.finish_eq_ok hfinish
  have hother : p.header.frame ≠ .message := by
    rintro h
    simp [h] at hframe
  obtain ⟨rest, -, -, hheader | ⟨hbody, hheader⟩⟩ := session_of_readText hs hother
  · simp [hheader, Packet.engine] at hframe
  · have hpayload : items = p.header.payload := by
      simpa [Partial.filledPayload, Partial.load, hbody] using hitems.symm
    rw [hpayload, hheader] at hv
    by_cases hrest : rest = []
    · simp [Packet.engine, hrest] at hv
    · refine ⟨String.ofList rest, ?_, by simpa [Packet.engine, hrest] using hv⟩
      simpa using hrest

/-- **A packet that was put together is reliable**, if all the buffers have come that its text announced. -/
theorem reliable_of_finish (hlen : data.length = p.expected) :
    Reliable text (data.map (frameBuffer revision)) q := by
  obtain ⟨hcount, hsource⟩ := attachments_of_finish hs hfinish hlen
  have hannounced : Declares text q.attachmentCount := hcount ▸ declares_of_readText hs
  have hheader : ∃ items, q = { p.header with payload := items } := by
    obtain ⟨-, -, items, -, heq⟩ := Partial.finish_eq_ok hfinish
    exact ⟨items, heq⟩
  obtain ⟨items, hq⟩ := hheader
  have hmessage (hframe : q.frame = .message) : p.header.frame = .message := by rw [← hframe, hq]
  refine
    { announced := fun n => ⟨fun h => h.unique hannounced, fun h => h ▸ hannounced⟩
      complete := by rw [hcount, List.length_map, hlen]
      source := hsource
      ns := fun hframe => ?_
      single := fun hframe hkind => ⟨length_payload_of_finish hs hfinish ?_, ?_⟩
      session := fun hframe => ?_
      textual := fun hframe v hv => text_of_finish hs hfinish hframe hv }
  · have hform := inForm_of_readText hs (hmessage hframe)
    rw [hq]
    exact ⟨hform.slash, hform.comma⟩
  · rintro ⟨-, hlist⟩
    rcases hkind with hkind | hkind | hkind <;> simp [hkind, PacketKind.isEvent, PacketKind.isAck] at hlist
  · have hplain : p.header.kind.isBinary = false := by
      rw [hq] at hkind
      rcases hkind with hkind | hkind | hkind <;> rw [hkind] <;> rfl
    rw [← List.length_eq_zero_iff, length_attachments, hcount]
    exact expected_of_plain hs (hmessage hframe) hplain
  · obtain ⟨hkind, hns, hid⟩ := header_of_finish hs hfinish hframe
    exact ⟨hkind, hns, hid, length_payload_of_finish hs hfinish fun h => hframe h.1⟩

end Finished

/-! ## Codecs -/

/-- **Every packet that comes out of a codec is reliable**, whatever the codec was fed and told before: it
is the packet of the last text, and of the buffers that have come since. -/
theorem fed_reliable (revision : Revision) (ops : List Operation) (frame : Frame) (q : Packet)
    (h : (((new revision).run ops).1.feed frame).2 = .ok (some q)) :
    ∃ before s, ∃ data : List Bytes,
      ops ++ [.feed frame] = before ++ .feed (.text s) :: data.map (fun d => .feed (.binary d)) ∧
      Reliable s.toList (data.map (frameBuffer revision)) q := by
  obtain ⟨p, ⟨before, s, data, began, hops, hs, rfl⟩, hlen, hfinish⟩ := completed_arrives h
  rw [load_buffers hs, List.length_map, load_expected] at hlen
  exact ⟨before, s, data, hops, reliable_of_finish hs hfinish hlen⟩

/-- A text whose number has a sign and a zero in front, and which ends with a placeholder. -/
def signed : String := "45+01-/room,7 [\"put\", \x7b\"num\":0,\"_placeholder\":true\x7d ]"

/-- Behind a buffer that nothing waits for and a text that is given up, its packet is reliable. -/
theorem fed_reliable_signed :
    let ops : List Operation := [.feed (.binary [4]), .feed (.text crossed), .feed (.text signed)]
    let q : Packet :=
      { frame := .message, kind := .binaryEvent, ns := "/room", id := some 7
        payload := [.string "put", .binary [9]] }
    (((new .v3).run ops).1.feed (.binary [4, 9])).2 = .ok (some q) ∧
      ∃ before s, ∃ data : List Bytes,
        ops ++ [.feed (.binary [4, 9])] = before ++ .feed (.text s) :: data.map (fun d => .feed (.binary d)) ∧
        Reliable s.toList (data.map (frameBuffer .v3)) q := by
  intro ops q
  have hq : (((new .v3).run ops).1.feed (.binary [4, 9])).2 = .ok (some q) := by decide +kernel
  exact ⟨hq, fed_reliable .v3 ops (.binary [4, 9]) q hq⟩

end Codec

end RealtimeClient
