import Mathlib
import RealtimeClient.Proofs.Codec.Frames

/-!
# The life of a codec

A codec is fed one frame after the other, and now and then it is told to give up what it waits for.
All that it keeps from one frame to the next is a packet whose buffers have not all come, and a text
puts an end to that one too.

* `Operation`, `run` — what is done with a codec, and the answers to the frames.
* `next`, `feed_eq`, `feed_cases` — what one frame does.
* `hasPending_feed_iff` — a packet waits exactly after a frame without an answer.
* `feed_text` — a text makes a codec forget what it waited for.
* `Arrives` — how a packet comes in: its text, and the buffers right behind it.
* `awaits_run`, `completed_arrives` — **what waits and what is complete has arrived that way**.
* `Announces`, `Disciplined`, `disciplined_run` — the law, at any time in the life of a codec.
-/

namespace RealtimeClient.Codec

/-- **What is done with a codec.** -/
inductive Operation
  | feed (frame : Frame)
  | reset

/-- The answer to a frame: a packet, nothing, or the reason why the frame is refused. -/
abbrev Answer : Type := Except Error (Option Packet)

/-- **A codec after some operations**, and the answers to the frames among them. -/
def run (c : Codec) : List Operation → Codec × List Answer
  | [] => (c, [])
  | .feed frame :: ops => (((c.feed frame).1.run ops).1, (c.feed frame).2 :: ((c.feed frame).1.run ops).2)
  | .reset :: ops => c.reset.run ops

variable {c : Codec} {p : Partial} {q : Packet} {revision : Revision} {ops : List Operation}
variable {frame : Frame}

theorem run_append (c : Codec) (ops more : List Operation) :
    c.run (ops ++ more) =
      (((c.run ops).1.run more).1, (c.run ops).2 ++ ((c.run ops).1.run more).2) := by
  induction ops generalizing c with
  | nil => rfl
  | cons op ops ih => cases op <;> simp [run, ih]

theorem run_concat_feed (c : Codec) (ops : List Operation) (frame : Frame) :
    (c.run (ops ++ [.feed frame])).1 = ((c.run ops).1.feed frame).1 := by
  rw [run_append]
  rfl

theorem run_concat_reset (c : Codec) (ops : List Operation) :
    (c.run (ops ++ [.reset])).1 = (c.run ops).1.reset := by
  rw [run_append]
  rfl

/-! ## One frame -/

/-- **The packet under way that a frame leads to**: a text begins one, a buffer goes to the one that
waits. -/
def next (c : Codec) : Frame → Except Error Partial
  | .text s => readText s.toList
  | .binary data =>
    match c.pending with
    | none => .error .unexpectedAttachment
    | some p => .ok (p.load c.revision [data])

/-- **One frame** leads to a packet under way, which is settled, or it is refused and nothing waits
any more. -/
theorem feed_eq (c : Codec) (frame : Frame) :
    c.feed frame =
      match c.next frame with
      | .ok p => c.settle p
      | .error e => (c.reset, .error e) := by
  cases frame with
  | text s =>
    simp only [feed, next]
    cases readText s.toList <;> rfl
  | binary data =>
    obtain ⟨revision, pending⟩ := c
    cases pending <;> rfl

/-- **All that a frame can do**: it is refused and nothing waits, or it completes a packet and nothing
waits, or the packet that it leads to waits for more buffers. -/
theorem feed_cases (c : Codec) (frame : Frame) :
    (∃ e, c.feed frame = (c.reset, .error e)) ∨
      (∃ p, c.next frame = .ok p ∧ p.expected ≤ p.buffers.length ∧
        c.feed frame = (c.reset, p.finish.map some)) ∨
      ∃ p, c.next frame = .ok p ∧ p.buffers.length < p.expected ∧
        c.feed frame = (⟨c.revision, some p⟩, .ok none) := by
  rw [feed_eq]
  cases hnext : c.next frame with
  | error e => exact .inl ⟨e, rfl⟩
  | ok p =>
    cases hp : p.isComplete with
    | true => exact .inr (.inl ⟨p, rfl, isComplete_iff.1 hp, settle_of_complete c hp⟩)
    | false => exact .inr (.inr ⟨p, rfl, isComplete_eq_false_iff.1 hp, settle_of_incomplete c hp⟩)

@[simp] theorem feed_revision (c : Codec) (frame : Frame) : (c.feed frame).1.revision = c.revision := by
  obtain ⟨_, h⟩ | ⟨_, _, _, h⟩ | ⟨_, _, _, h⟩ := feed_cases c frame <;> rw [h]
  all_goals rfl

@[simp] theorem run_revision (c : Codec) (ops : List Operation) :
    (c.run ops).1.revision = c.revision := by
  induction ops generalizing c with
  | nil => rfl
  | cons op ops ih =>
    cases op with
    | feed frame => exact (ih _).trans (feed_revision c frame)
    | reset => exact ih _

/-! ## Waiting -/

/-- No packet is put together without an answer. -/
theorem finish_map_ne (p : Partial) : p.finish.map some ≠ (.ok none : Answer) := by
  cases p.finish <;> simp [Except.map]

/-- **A packet waits exactly after a frame without an answer**, so nothing waits after a packet or a
refusal. -/
theorem hasPending_feed_iff (c : Codec) (frame : Frame) :
    (c.feed frame).1.hasPending = true ↔ (c.feed frame).2 = .ok none := by
  obtain ⟨e, hfeed⟩ | ⟨p, -, -, hfeed⟩ | ⟨p, -, -, hfeed⟩ := feed_cases c frame <;> rw [hfeed]
  · exact ⟨nofun, nofun⟩
  · exact ⟨nofun, fun h => absurd h (finish_map_ne p)⟩
  · exact ⟨fun _ => rfl, fun _ => rfl⟩

/-- **A text makes a codec forget what it waited for.** -/
theorem feed_text (c : Codec) (s : String) : c.feed (.text s) = (new c.revision).feed (.text s) := rfl

/-! ## Arriving -/

/-- **How a packet comes in**: at last its text, and right behind it the buffers it has. -/
def Arrives (revision : Revision) (ops : List Operation) (p : Partial) : Prop :=
  ∃ before s data began,
    ops = before ++ .feed (.text s) :: data.map (fun d => .feed (.binary d)) ∧
    readText s.toList = .ok began ∧ p = began.load revision data

/-- A text begins a packet. -/
theorem arrives_text (ops : List Operation) {s : String} (hs : readText s.toList = .ok p) :
    Arrives revision (ops ++ [.feed (.text s)]) p :=
  ⟨ops, s, [], p, rfl, hs, (load_nil p revision).symm⟩

/-- A buffer goes to the packet that it follows. -/
theorem Arrives.binary (h : Arrives revision ops p) (data : Bytes) :
    Arrives revision (ops ++ [.feed (.binary data)]) (p.load revision [data]) := by
  obtain ⟨before, s, first, began, rfl, hs, rfl⟩ := h
  refine ⟨before, s, first ++ [data], began, ?_, hs, (load_append _ _ _ _).symm⟩
  rw [List.map_append, List.append_assoc]
  rfl

/-- What waits after some operations has arrived with them, and has buffers to come. -/
def Awaits (revision : Revision) (ops : List Operation) (c : Codec) : Prop :=
  ∀ p, c.pending = some p → Arrives revision ops p ∧ p.buffers.length < p.expected

/-- The packet that a frame leads to has arrived with the frame, and has no buffer too many. -/
theorem arrives_next (h : Awaits c.revision ops c) (hnext : c.next frame = .ok p) :
    Arrives c.revision (ops ++ [.feed frame]) p ∧ p.buffers.length ≤ p.expected := by
  cases frame with
  | text s =>
    have hs : readText s.toList = .ok p := hnext
    refine ⟨arrives_text ops hs, ?_⟩
    rw [readText_buffers hs]
    exact Nat.zero_le _
  | binary data =>
    cases hpending : c.pending with
    | none => simp [next, hpending] at hnext
    | some waiting =>
      obtain ⟨harrives, hlt⟩ := h waiting hpending
      obtain rfl : waiting.load c.revision [data] = p := by simpa [next, hpending] using hnext
      exact ⟨harrives.binary data, (length_load _ _ _).le.trans hlt⟩

/-- **What waits has arrived as a text with some of its buffers.** -/
theorem awaits_run (revision : Revision) (ops : List Operation) :
    Awaits revision ops ((new revision).run ops).1 := by
  induction ops using List.reverseRecOn with
  | nil => exact nofun
  | append_singleton ops op ih =>
    cases op with
    | reset =>
      rw [run_concat_reset]
      exact nofun
    | feed frame =>
      rw [run_concat_feed]
      generalize hc : ((new revision).run ops).1 = c at ih
      obtain rfl : c.revision = revision := hc ▸ run_revision _ ops
      intro p hp
      obtain ⟨e, hfeed⟩ | ⟨p', -, -, hfeed⟩ | ⟨p', hnext, hlt, hfeed⟩ := feed_cases c frame <;>
        rw [hfeed] at hp <;> cases hp
      exact ⟨(arrives_next ih hnext).1, hlt⟩

/-- **What is complete has arrived as a text with all of its buffers**, and was put together from
them. -/
theorem completed_arrives (h : (((new revision).run ops).1.feed frame).2 = .ok (some q)) :
    ∃ p, Arrives revision (ops ++ [.feed frame]) p ∧ p.buffers.length = p.expected ∧
      p.finish = .ok q := by
  have hawaits := awaits_run revision ops
  generalize hc : ((new revision).run ops).1 = c at h hawaits
  obtain rfl : c.revision = revision := hc ▸ run_revision _ ops
  obtain ⟨e, hfeed⟩ | ⟨p, hnext, hge, hfeed⟩ | ⟨p, -, -, hfeed⟩ := feed_cases c frame <;>
    rw [hfeed] at h
  · cases h
  · obtain ⟨harrives, hle⟩ := arrives_next hawaits hnext
    refine ⟨p, harrives, le_antisymm hle hge, ?_⟩
    cases hfinish : p.finish with
    | error e => simp [hfinish, Except.map] at h
    | ok q' => simpa [hfinish, Except.map] using h
  · cases h

/-! ## The law -/

/-- **A text that is accepted and announces a number of buffers.** -/
def Announces (s : String) (n : Nat) : Prop := ∃ p, readText s.toList = .ok p ∧ p.expected = n

/-- **What holds of a codec** at any time. -/
structure Disciplined (c : Codec) : Prop where
  /-- After a frame a packet waits exactly if the frame got no answer. -/
  waits_iff : ∀ frame, (c.feed frame).1.hasPending = true ↔ (c.feed frame).2 = .ok none
  /-- A packet waits only while it has fewer buffers than were announced. -/
  missing : ∀ p, c.pending = some p → p.buffers.length < p.expected
  /-- A text and all that comes after it are answered as by a new codec, which is left behind alike. -/
  forgets : ∀ s ops, c.run (.feed (.text s) :: ops) = (new c.revision).run (.feed (.text s) :: ops)
  /-- A text that announces buffers gets no answer, nor do the buffers before the last one. -/
  waits : ∀ s n (data : List Bytes), Announces s n → data.length < n →
    (c.feedAll (.text s :: data.map .binary)).2 = List.replicate (data.length + 1) (.ok none)
  /-- The last buffer is answered, whatever the buffers hold. -/
  decides : ∀ s n (data : List Bytes), Announces s n → data.length = n →
    ∃ answer : Answer, answer ≠ .ok none ∧
      (c.feedAll (.text s :: data.map .binary)).2 = List.replicate n (.ok none) ++ [answer]

/-- **A codec keeps to the law**, whatever it was fed and told before. -/
theorem disciplined_run (revision : Revision) (ops : List Operation) :
    Disciplined ((new revision).run ops).1 where
  waits_iff := hasPending_feed_iff _
  missing p hp := (awaits_run revision ops p hp).2
  forgets s ops := by rw [run, run, feed_text]
  waits := by
    rintro s n data ⟨p, hs, rfl⟩ hlen
    rw [feedAll_text_waiting _ hs hlen]
  decides := by
    rintro s n data ⟨p, hs, rfl⟩ hlen
    exact ⟨_, finish_map_ne _, by rw [feedAll_text_complete _ hs hlen]⟩

end RealtimeClient.Codec
