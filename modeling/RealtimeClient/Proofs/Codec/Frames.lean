import Mathlib
import RealtimeClient.Proofs.Codec.Reading

/-!
# Frame after frame

A packet comes in as a text and the buffers that the text announces.  The frames up to the last
buffer get no answer, and the last one decides.  What the answer is depends on the text and the
buffers alone.

* `feedAll` — frame after frame, with the answer to each.
* `Partial.load` — a packet under way with buffers from binary frames.
* `feedAll_binaries_waiting`, `feedAll_binaries_complete` — buffers, up to the last one and with it.
* `feedAll_text_waiting`, `feedAll_text_complete` — **a text and its buffers**, into any codec.
-/

namespace RealtimeClient.Codec

/-- **Frame after frame**, with the answer to each. -/
def feedAll (c : Codec) : List Frame → Codec × List (Except Error (Option Packet))
  | [] => (c, [])
  | frame :: rest =>
    (((c.feed frame).1.feedAll rest).1, (c.feed frame).2 :: ((c.feed frame).1.feedAll rest).2)

@[simp] theorem feedAll_nil (c : Codec) : c.feedAll [] = (c, []) := rfl

theorem feedAll_cons (c : Codec) (frame : Frame) (rest : List Frame) :
    c.feedAll (frame :: rest) =
      (((c.feed frame).1.feedAll rest).1,
        (c.feed frame).2 :: ((c.feed frame).1.feedAll rest).2) := rfl

/-- A stream in two parts is the second one, fed into what the first one left. -/
theorem feedAll_append (c : Codec) (frames more : List Frame) :
    c.feedAll (frames ++ more) =
      (((c.feedAll frames).1.feedAll more).1,
        (c.feedAll frames).2 ++ ((c.feedAll frames).1.feedAll more).2) := by
  induction frames generalizing c with
  | nil => simp
  | cons frame rest ih => simp [feedAll_cons, ih]

@[simp] theorem reset_revision (c : Codec) : c.reset.revision = c.revision := rfl

/-- A codec that waits for nothing is left alone by a reset. -/
@[simp] theorem reset_reset (c : Codec) : c.reset.reset = c.reset := rfl

/-! ## A packet under way -/

variable {c : Codec} {p : Partial} {revision : Revision} {s : String}

theorem settle_of_complete (c : Codec) (h : p.isComplete = true) :
    c.settle p = (c.reset, p.finish.map some) := if_pos h

theorem settle_of_incomplete (c : Codec) (h : p.isComplete = false) :
    c.settle p = (⟨c.revision, some p⟩, .ok none) := by
  rw [settle, h]
  rfl

theorem isComplete_iff : p.isComplete = true ↔ p.expected ≤ p.buffers.length := by
  simp [Partial.isComplete]

theorem isComplete_eq_false_iff : p.isComplete = false ↔ p.buffers.length < p.expected := by
  simp [Partial.isComplete]

/-- **A packet under way with buffers from binary frames**, after those it has. -/
def Partial.load (p : Partial) (revision : Revision) (data : List Bytes) : Partial :=
  { p with buffers := p.buffers ++ data.map (frameBuffer revision) }

@[simp] theorem load_nil (p : Partial) (revision : Revision) : p.load revision [] = p := by
  simp [Partial.load]

@[simp] theorem load_header (p : Partial) (revision : Revision) (data : List Bytes) :
    (p.load revision data).header = p.header := rfl

@[simp] theorem load_expected (p : Partial) (revision : Revision) (data : List Bytes) :
    (p.load revision data).expected = p.expected := rfl

theorem load_append (p : Partial) (revision : Revision) (data more : List Bytes) :
    p.load revision (data ++ more) = (p.load revision data).load revision more := by
  simp [Partial.load]

theorem length_load (p : Partial) (revision : Revision) (data : List Bytes) :
    (p.load revision data).buffers.length = p.buffers.length + data.length := by
  simp [Partial.load]

/-- Buffers leave a packet in form. -/
theorem Partial.InForm.load (h : p.InForm) (revision : Revision) (data : List Bytes) :
    (p.load revision data).InForm :=
  ⟨h.slash, h.comma, h.payload, h.bound, h.depth⟩

/-! ## Buffers -/

theorem feed_binary_of_pending (revision : Revision) (p : Partial) (data : Bytes) :
    feed ⟨revision, some p⟩ (.binary data) = settle ⟨revision, some p⟩ (p.load revision [data]) :=
  rfl

/-- **Buffers before the last one only wait.** -/
theorem feedAll_binaries_waiting (revision : Revision) (data : List Bytes)
    (h : p.buffers.length + data.length < p.expected) :
    feedAll ⟨revision, some p⟩ (data.map .binary) =
      (⟨revision, some (p.load revision data)⟩, List.replicate data.length (.ok none)) := by
  induction data generalizing p with
  | nil => simp
  | cons first data ih =>
    rw [List.length_cons] at h
    have hlen := length_load p revision [first]
    rw [List.length_singleton] at hlen
    have hwait : (p.load revision [first]).isComplete = false :=
      isComplete_eq_false_iff.2 (by rw [hlen, load_expected]; omega)
    have hrest := ih (p := p.load revision [first]) (by rw [hlen, load_expected]; omega)
    rw [← load_append, List.singleton_append] at hrest
    rw [List.map_cons, feedAll_cons, feed_binary_of_pending, settle_of_incomplete _ hwait, hrest,
      List.length_cons, List.replicate_succ]

/-- **The last buffer decides.** -/
theorem feedAll_binaries_complete (revision : Revision) (data : List Bytes) (hne : data ≠ [])
    (h : p.buffers.length + data.length = p.expected) :
    feedAll ⟨revision, some p⟩ (data.map .binary) =
      (⟨revision, none⟩, List.replicate (data.length - 1) (.ok none) ++
        [(p.load revision data).finish.map some]) := by
  obtain ⟨first, last, rfl⟩ := List.eq_nil_or_concat' data |>.resolve_left hne
  rw [List.length_append, List.length_singleton] at h
  have hwait := feedAll_binaries_waiting revision first (p := p) (by omega)
  have hlen := length_load p revision (first ++ [last])
  rw [List.length_append, List.length_singleton] at hlen
  have hdone : ((p.load revision first).load revision [last]).isComplete = true := by
    rw [← load_append]
    exact isComplete_iff.2 (by rw [hlen, load_expected]; omega)
  rw [List.map_append, feedAll_append, hwait, List.map_singleton, feedAll_cons,
    feed_binary_of_pending, settle_of_complete _ hdone, ← load_append, List.length_append,
    List.length_singleton, Nat.add_sub_cancel]
  rfl

/-! ## A text and its buffers -/

theorem feed_text_of_ok (hs : readText s.toList = .ok p) : c.feed (.text s) = c.reset.settle p := by
  simp only [feed, hs]

/-- **A text and fewer buffers than it announces**: none of them gets an answer. -/
theorem feedAll_text_waiting (c : Codec) (hs : readText s.toList = .ok p) {data : List Bytes}
    (hlen : data.length < p.expected) :
    c.feedAll (.text s :: data.map .binary) =
      (⟨c.revision, some (p.load c.revision data)⟩,
        List.replicate (data.length + 1) (.ok none)) := by
  have hempty : p.buffers.length = 0 := by rw [readText_buffers hs]; rfl
  have hwait : p.isComplete = false := isComplete_eq_false_iff.2 (by omega)
  have hrest := feedAll_binaries_waiting c.revision data (p := p) (by omega)
  rw [feedAll_cons, feed_text_of_ok hs, settle_of_incomplete _ hwait, reset_revision, hrest]
  rfl

/-- **A text and the buffers that it announces**: the last frame is answered, and those before it are
not. -/
theorem feedAll_text_complete (c : Codec) (hs : readText s.toList = .ok p) {data : List Bytes}
    (hlen : data.length = p.expected) :
    c.feedAll (.text s :: data.map .binary) =
      (c.reset, List.replicate p.expected (.ok none) ++
        [(p.load c.revision data).finish.map some]) := by
  have hempty : p.buffers.length = 0 := by rw [readText_buffers hs]; rfl
  rw [feedAll_cons, feed_text_of_ok hs]
  cases data with
  | nil =>
    have hdone : p.isComplete = true := isComplete_iff.2 (hlen ▸ Nat.zero_le _)
    rw [settle_of_complete _ hdone, ← hlen, load_nil]
    rfl
  | cons first later =>
    have hwait : p.isComplete = false := by
      rw [List.length_cons] at hlen
      exact isComplete_eq_false_iff.2 (by omega)
    have hrest := feedAll_binaries_complete c.revision (first :: later) (p := p)
      (List.cons_ne_nil _ _) (by omega)
    rw [settle_of_incomplete _ hwait, reset_revision, hrest, ← hlen]
    rfl

end RealtimeClient.Codec
