import Mathlib
import RealtimeClient.Transport.Memory

/-!
# What the in-memory transport promises

Client and peer work on one transport, in any order, and both can end a connection, also before it has
opened.  What has happened is written down as it shows from outside: which connections were given, which
events were emitted, which frames were written and taken, and what was refused.  That tells the state of
the transport, and the events of every connection tell one story: it opened, messages came, it closed;
each part may be missing, but not the opening if there are messages.

* `Operation`, `Happening`, `play` — what both sides can do, and what happens then; `heard`,
  `events_after` — an event is emitted if a receiver would hear it.
* `still_of_refused` — what is refused changes nothing.
* `Word` — the stories of connections; `Stage` — how far the latest one has come.
* `Tells` — a history tells the state of a transport; `tells_perform`, `tells_play` — and it goes on
  doing so.
* `Promises`, **`keeps_promises`** — what clients rely on, whatever was done.
-/

namespace RealtimeClient

/-- The sink with a receiver, if there is a sink. -/
def EventSink.attended : EventSink → EventSink
  | .missing => .missing
  | .listening | .gone => .listening

namespace MemoryTransport

/-! ## Operations -/

/-- **What can be done with a transport**, by either side. -/
inductive Operation
  | installSink
  | dropReceiver
  /-- The receiver of the sink takes an event. -/
  | receive
  | dial (url : String) (headers : Headers)
  | hangUp (reason : String)
  | write (frame : Frame)
  | act (a : PeerAction)
  /-- The peer takes the frames that were written. -/
  | take

/-- **What happens to a transport.** -/
inductive Happening
  /-- A connection was asked for and given. -/
  | given (id : ConnectionId)
  | emitted (id : ConnectionId) (event : TransportEvent)
  | wrote (frame : Frame)
  | took (frames : List Frame)
  | refused (e : TransportError)
  deriving DecidableEq

/-- The transport after an operation. -/
def after (t : MemoryTransport) : Operation → MemoryTransport
  | .installSink => t.installSink
  | .dropReceiver => t.dropReceiver
  | .receive => (t.receive?.map (·.2)).getD t
  | .dial url headers => (t.dial url headers).2
  | .hangUp reason => (t.hangUp reason).2
  | .write frame => (t.write frame).2
  | .act a => t.act a
  | .take => t.takeWritten.2

/-- What an operation answers. -/
def answer (t : MemoryTransport) : Operation → List Happening
  | .dial url headers =>
    match (t.dial url headers).1 with
    | .ok id => [.given id]
    | .error e => [.refused e]
  | .hangUp reason =>
    match (t.hangUp reason).1 with
    | .ok () => []
    | .error e => [.refused e]
  | .write frame =>
    match (t.write frame).1 with
    | .ok () => [.wrote frame]
    | .error e => [.refused e]
  | .take => [.took t.takeWritten.1]
  | _ => []

/-- The transport with a receiver that has heard everything so far, if there is a sink. -/
def attended (t : MemoryTransport) : MemoryTransport := { t with sink := t.sink.attended, events := [] }

/-- **The events that an operation emits**, as a receiver would hear them. -/
def heard (t : MemoryTransport) (op : Operation) : List (ConnectionId × TransportEvent) :=
  (t.attended.after op).events

/-- Events that are written down as emitted. -/
def emissions (events : List (ConnectionId × TransportEvent)) : List Happening :=
  events.map fun p => .emitted p.1 p.2

/-- **What happens in an operation.** -/
def perform (t : MemoryTransport) (op : Operation) : List Happening × MemoryTransport :=
  (t.answer op ++ emissions (t.heard op), t.after op)

/-- **What happens in operations**, one after the other. -/
def play (t : MemoryTransport) : List Operation → List Happening × MemoryTransport
  | [] => ([], t)
  | op :: rest =>
    let (history, t) := t.perform op
    let (more, t) := t.play rest
    (history ++ more, t)

/-- Whether an operation is about the sink and its receiver. -/
def Operation.isOfSink : Operation → Bool
  | .installSink | .dropReceiver | .receive => true
  | _ => false

/-- **Whether an operation of the peer fits the state**: only then it does anything. -/
def PeerAction.fits (s : TransportState) : PeerAction → Bool
  | .accept => s = .opening
  | .refuse | .drop | .close => s ≠ .closed
  | .send _ => s = .opened
  | .respondHttp .. => true

/-! ## Stories -/

/-- The connections that were given, in order. -/
def givenIn (history : List Happening) : List ConnectionId :=
  history.filterMap fun
    | .given id => some id
    | _ => none

/-- **The story of a connection**: its events in order, answers to the request left aside. -/
def story (history : List Happening) (id : ConnectionId) : List TransportEvent :=
  history.filterMap fun
    | .emitted _ (.httpResponse ..) => none
    | .emitted id' event => if id' = id then some event else none
    | _ => none

/-- The frames that were written, in order. -/
def wroteIn (history : List Happening) : List Frame :=
  history.filterMap fun
    | .wrote frame => some frame
    | _ => none

/-- The frames that were taken, in order. -/
def tookIn (history : List Happening) : List Frame :=
  history.flatMap fun
    | .took frames => frames
    | _ => []

/-- A connection that has opened, and the messages that came. -/
def Opening (events : List TransportEvent) : Prop :=
  ∃ frames : List Frame, events = .opened :: frames.map .message

/-- **The stories of connections**: an opening with messages, if there is one, and a close, if there is
one. -/
def Word (events : List TransportEvent) : Prop :=
  ∃ opening close, events = opening ++ close ∧ (opening = [] ∨ Opening opening) ∧
    (close = [] ∨ ∃ normal, close = [.closed normal])

/-- **How far a story has come** when the transport is in a state. -/
def Stage (events : List TransportEvent) : TransportState → Prop
  | .opening => events = []
  | .opened => Opening events
  | .closed => ∃ opening normal, events = opening ++ [.closed normal] ∧ (opening = [] ∨ Opening opening)

variable {t t' : MemoryTransport} {history : List Happening} {id : ConnectionId} {op : Operation}
  {events : List TransportEvent} {s : TransportState}

theorem Stage.word (h : Stage events s) : Word events := by
  cases s with
  | opening => exact ⟨[], [], h, .inl rfl, .inl rfl⟩
  | opened => exact ⟨events, [], by simp, .inr h, .inl rfl⟩
  | closed =>
    obtain ⟨opening, normal, heq, hopening⟩ := h
    exact ⟨opening, _, heq, hopening, .inr ⟨normal, rfl⟩⟩

theorem Opening.closed_not_mem (h : Opening events) (normal : Bool) : .closed normal ∉ events := by
  obtain ⟨frames, rfl⟩ := h
  simp

/-- **The state can be read off the story.** -/
theorem Stage.closed_iff (h : Stage events s) : s = .closed ↔ ∃ normal, .closed normal ∈ events := by
  cases s with
  | opening => simp [show events = [] from h]
  | opened => simp [Opening.closed_not_mem h]
  | closed =>
    obtain ⟨opening, normal, rfl, -⟩ := h
    simp

theorem Stage.opened_iff (h : Stage events s) :
    s = .opened ↔ .opened ∈ events ∧ ∀ normal, .closed normal ∉ events := by
  cases s with
  | opening => simp [show events = [] from h]
  | opened =>
    have hclosed := Opening.closed_not_mem h
    obtain ⟨frames, rfl⟩ := h
    simp [hclosed]
  | closed =>
    obtain ⟨opening, normal, rfl, -⟩ := h
    exact iff_of_false nofun fun hno => hno.2 normal (by simp)

/-- A connection that has not closed can close. -/
theorem Stage.close (h : Stage events s) (hs : s ≠ .closed) (normal : Bool) :
    Stage (events ++ [.closed normal]) .closed := by
  cases s with
  | opening => exact ⟨events, normal, rfl, .inl h⟩
  | opened => exact ⟨events, normal, rfl, .inr h⟩
  | closed => exact absurd rfl hs

theorem Stage.message (h : Stage events .opened) (frame : Frame) :
    Stage (events ++ [.message frame]) .opened := by
  obtain ⟨frames, rfl⟩ := h
  exact ⟨frames ++ [frame], by simp⟩

/-! ## What is emitted -/

/-- An event of the latest connection, as it is heard. -/
def told (t : MemoryTransport) (event : TransportEvent) : List (ConnectionId × TransportEvent) :=
  if t.sink = .missing then [] else (t.current.map (·, event)).toList

/-- The events of an operation, by the state that it finds. -/
def news (t : MemoryTransport) : Operation → List (ConnectionId × TransportEvent)
  | .hangUp _ => if t.state = .closed then [] else t.told (.closed true)
  | .act .accept => if t.state = .opening then t.told .opened else []
  | .act .refuse | .act .drop => if t.state = .closed then [] else t.told (.closed false)
  | .act .close => if t.state = .closed then [] else t.told (.closed true)
  | .act (.send frame) => if t.state = .opened then t.told (.message frame) else []
  | .act (.respondHttp status headers) => t.told (.httpResponse status headers)
  | _ => []

/-- To emit changes nothing but the events that wait. -/
theorem emit_same (t : MemoryTransport) (event : TransportEvent) :
    t.emit event = { t with events := (t.emit event).events } := by
  unfold emit
  split <;> rfl

/-- Unless its receiver is gone, the sink gets what is told. -/
theorem events_emit (h : t.sink ≠ .gone) (event : TransportEvent) :
    (t.emit event).events = t.events ++ t.told event := by
  unfold emit told
  cases hs : t.sink with
  | missing => simp
  | listening => cases t.current <;> simp
  | gone => exact absurd hs h

/-- **What waits after an operation**: the events from before, and its own. -/
theorem events_after_eq (h : t.sink ≠ .gone) (hop : op.isOfSink = false) :
    (t.after op).events = t.events ++ t.news op := by
  have hfinish (normal : Bool) : (t.finish normal).events =
      t.events ++ if t.state = .closed then [] else t.told (.closed normal) := by
    rw [finish]
    split
    · simp
    · exact events_emit (t := { t with state := .closed }) h _
  cases op with
  | dial url headers =>
    simp only [after, dial, news, List.append_nil]
    split
    · rfl
    · split <;> rfl
  | hangUp reason =>
    simp only [after, hangUp, news]
    split
    · simp
    · exact events_emit
        (t := { t with state := .closed, closeReasons := t.closeReasons ++ [reason] }) h _
  | write frame =>
    simp only [after, write, news, List.append_nil]
    split <;> rfl
  | act a =>
    cases a with
    | accept =>
      simp only [after, act, accept, news]
      split
      · exact events_emit (t := { t with state := .opened }) h _
      · simp
    | refuse => exact hfinish false
    | drop => exact hfinish false
    | close => exact hfinish true
    | send frame =>
      simp only [after, act, send, news]
      split
      · exact events_emit h _
      · simp
    | respondHttp status headers => exact events_emit h _
  | take => simp [after, takeWritten, news]
  | _ => cases hop

/-- **What is heard of an operation** is told by the state that it finds. -/
theorem heard_eq (t : MemoryTransport) (op : Operation) : t.heard op = t.news op := by
  have htold (event : TransportEvent) : t.attended.told event = t.told event := by
    cases hs : t.sink <;> simp [attended, told, EventSink.attended, hs]
  have hnews : t.attended.news op = t.news op := by
    cases op with
    | act a => cases a <;> simp only [news, htold] <;> rfl
    | hangUp reason => simp only [news, htold]; rfl
    | _ => rfl
  have hsink : t.attended.sink ≠ .gone := by
    cases hs : t.sink <;> simp [attended, EventSink.attended, hs]
  by_cases hop : op.isOfSink = true
  · cases op with
    | installSink => rfl
    | dropReceiver =>
      simp only [heard, after, dropReceiver]
      split <;> rfl
    | receive => rfl
    | _ => cases hop
  · rw [heard, events_after_eq hsink (by simpa using hop), hnews]
    rfl

/-- **A receiver hears what is emitted**, after what it has not taken yet. -/
theorem events_after (h : t.sink = .listening) (hop : op.isOfSink = false) :
    (t.after op).events = t.events ++ t.heard op := by
  rw [heard_eq, events_after_eq (by simp [h]) hop]

/-- **A write either appends its frame or is refused and changes nothing.** -/
theorem write_cases (t : MemoryTransport) (frame : Frame) :
    (∃ id, t.state = .opened ∧ t.current = some id ∧
      t.write frame = (.ok (), { t with written := t.written ++ [(id, frame)] })) ∨
    (t.state = .opened → t.current = none) ∧ t.write frame = (.error .connectionClosed, t) := by
  cases hs : t.state <;> cases hid : t.current <;> simp [write, hs, hid]

/-- **A refused operation changes nothing** and tells nothing. -/
theorem still_of_refused {e : TransportError} (h : .refused e ∈ t.answer op) :
    t.after op = t ∧ t.news op = [] := by
  cases op with
  | dial url headers =>
    by_cases hs : t.state = .closed
    · by_cases hsink : t.sink = .missing
      · simp [after, dial, news, hs, hsink]
      · simp [answer, dial, hs, hsink] at h
    · simp [after, dial, news, hs]
  | hangUp reason =>
    by_cases hs : t.state = .closed
    · simp [after, hangUp, news, hs]
    · simp [answer, hangUp, hs] at h
  | write frame =>
    obtain ⟨id, -, -, hwrite⟩ | ⟨-, hwrite⟩ := t.write_cases frame
    · simp [answer, hwrite] at h
    · simp [after, news, hwrite]
  | _ => simp [answer] at h

/-! ## Histories tell the state -/

theorem givenIn_append (history more : List Happening) :
    givenIn (history ++ more) = givenIn history ++ givenIn more :=
  List.filterMap_append

theorem story_append (history more : List Happening) (id : ConnectionId) :
    story (history ++ more) id = story history id ++ story more id :=
  List.filterMap_append

/-- Events that are not answers to the request go on with the story of their connection. -/
theorem story_emitted {event : TransportEvent} (h : ∀ status headers, event ≠ .httpResponse status headers)
    (key id : ConnectionId) : story [.emitted key event] id = if key = id then [event] else [] := by
  cases event with
  | httpResponse status headers => exact absurd rfl (h status headers)
  | _ => by_cases hkey : key = id <;> simp [story, hkey]

/-- **A history tells the state of a transport.** -/
structure Tells (history : List Happening) (t : MemoryTransport) : Prop where
  given_lt : ∀ id ∈ givenIn history, id.number < t.nextNumber
  given_nodup : (givenIn history).Nodup
  latest : t.current = (givenIn history).getLast?
  idle : t.current = none → t.state = .closed
  sink : t.sink = .missing → t.current = none
  stage : ∀ id, t.current = some id → Stage (story history id) t.state
  words : ∀ id, Word (story history id)
  unborn : ∀ id, id ∉ givenIn history → story history id = []
  frames : tookIn history ++ t.written.map (·.2) = wroteIn history

namespace Tells

theorem new : Tells [] (.new : MemoryTransport) where
  given_lt := by simp [givenIn]
  given_nodup := by simp [givenIn]
  latest := rfl
  idle _ := rfl
  sink _ := rfl
  stage id hid := by cases hid
  words id := ⟨[], [], rfl, .inl rfl, .inl rfl⟩
  unborn _ _ := rfl
  frames := rfl

variable (h : Tells history t)

include h

theorem mem_given (hid : t.current = some id) : id ∈ givenIn history :=
  List.mem_of_getLast? (h.latest ▸ hid)

theorem told_eq (event : TransportEvent) : t.told event = (t.current.map (·, event)).toList := by
  rw [told]
  split
  · next hs => rw [h.sink hs]; rfl
  · rfl

/-- The sink's receiver and the events that wait do not matter. -/
theorem sunk (sink : EventSink) (hsink : sink = .missing → t.sink = .missing)
    (waiting : List (ConnectionId × TransportEvent)) : Tells history { t with sink, events := waiting } :=
  { h with sink := fun hs => h.sink (hsink hs) }

/-- **Whatever is no part of a story** leaves them all as they are. -/
theorem beside {more : List Happening} (hgiven : givenIn more = []) (hstory : ∀ id, story more id = [])
    {written : List (ConnectionId × Frame)}
    (hframes : tookIn (history ++ more) ++ written.map (·.2) = wroteIn (history ++ more)) :
    Tells (history ++ more) { t with written } := by
  have hgivenIn : givenIn (history ++ more) = givenIn history := by simp [givenIn_append, hgiven]
  have hstories (id : ConnectionId) : story (history ++ more) id = story history id := by
    simp [story_append, hstory]
  constructor
  · exact hgivenIn ▸ h.given_lt
  · exact hgivenIn ▸ h.given_nodup
  · exact hgivenIn ▸ h.latest
  · exact h.idle
  · exact h.sink
  · exact fun id hid => hstories id ▸ h.stage id hid
  · exact fun id => hstories id ▸ h.words id
  · exact fun id hid => hstories id ▸ h.unborn id (hgivenIn ▸ hid)
  · exact hframes

theorem quiet : Tells (history ++ emissions []) t :=
  h.beside rfl (fun _ => rfl) (by simpa [emissions] using h.frames)

theorem refused (e : TransportError) : Tells (history ++ [.refused e]) t :=
  h.beside rfl (fun _ => rfl) (by simpa [tookIn, wroteIn] using h.frames)

/-- A frame is written on the open connection. -/
theorem wrote (id : ConnectionId) (frame : Frame) :
    Tells (history ++ [.wrote frame]) { t with written := t.written ++ [(id, frame)] } := by
  have hframes := congrArg (· ++ [frame]) h.frames
  exact h.beside rfl (fun _ => rfl) (by simpa [tookIn, wroteIn] using hframes)

/-- The peer takes all that was written. -/
theorem took : Tells (history ++ [.took (t.written.map (·.2))]) { t with written := [] } :=
  h.beside rfl (fun _ => rfl) (by simpa [tookIn, wroteIn] using h.frames)

theorem answered (status : Nat) (headers : Headers) :
    Tells (history ++ emissions (t.told (.httpResponse status headers))) t := by
  rw [h.told_eq]
  cases t.current with
  | none => exact h.quiet
  | some id => exact h.beside rfl (fun _ => rfl) (by simpa [emissions, tookIn, wroteIn] using h.frames)

/-- **The latest connection's story goes on.** -/
theorem tell {event : TransportEvent} (hevent : ∀ status headers, event ≠ .httpResponse status headers)
    {state : TransportState} (hstage : ∀ id, t.current = some id → Stage (story history id ++ [event]) state)
    (hidle : t.current = none → state = .closed) (reasons : List String)
    (waiting : List (ConnectionId × TransportEvent)) :
    Tells (history ++ emissions (t.told event))
      { t with state, closeReasons := reasons, events := waiting } := by
  obtain hcurrent | ⟨latest, hcurrent⟩ := t.current.eq_none_or_eq_some
  · have htold : t.told event = [] := by rw [h.told_eq, hcurrent]; rfl
    rw [htold]
    exact { h.quiet with
      idle := fun _ => hidle hcurrent
      stage := fun id hid => nomatch hcurrent.symm.trans hid }
  · have htold : t.told event = [(latest, event)] := by rw [h.told_eq, hcurrent]; rfl
    rw [htold]
    have hstory (id : ConnectionId) : story (history ++ [.emitted latest event]) id =
        story history id ++ if latest = id then [event] else [] := by
      rw [story_append, story_emitted hevent]
    have hgiven : givenIn (history ++ [.emitted latest event]) = givenIn history := by
      simp [givenIn]
    show Tells (history ++ [.emitted latest event]) _
    constructor
    · exact hgiven ▸ h.given_lt
    · exact hgiven ▸ h.given_nodup
    · exact hgiven ▸ h.latest
    · exact fun hnone => nomatch hcurrent.symm.trans hnone
    · exact h.sink
    · intro id hid
      cases hcurrent.symm.trans hid
      rw [hstory, if_pos rfl]
      exact hstage _ hcurrent
    · intro id
      rw [hstory]
      split
      · next heq => exact (hstage id (heq ▸ hcurrent)).word
      · simpa using h.words id
    · intro id hid
      have hne : latest ≠ id := fun heq => hid (hgiven ▸ heq ▸ h.mem_given hcurrent)
      rw [hstory, if_neg hne, h.unborn id (hgiven ▸ hid)]
      rfl
    · simpa [tookIn, wroteIn] using h.frames

/-- A connection that has not closed closes. -/
theorem close (hs : t.state ≠ .closed) (normal : Bool) (reasons : List String)
    (waiting : List (ConnectionId × TransportEvent)) :
    Tells (history ++ emissions (t.told (.closed normal)))
      { t with state := .closed, closeReasons := reasons, events := waiting } :=
  h.tell (by simp) (fun id hid => (h.stage id hid).close hs normal) (fun _ => rfl) reasons waiting

/-- **A connection is given**, and no event of it has come. -/
theorem give (hsink : t.sink ≠ .missing) (url : String) (headers : Headers) :
    Tells (history ++ [.given ⟨t.nextNumber⟩])
      { t with current := some ⟨t.nextNumber⟩, state := .opening, nextNumber := t.nextNumber + 1,
               dialed := t.dialed ++ [(url, headers)] } := by
  have hgiven : givenIn (history ++ [.given ⟨t.nextNumber⟩]) = givenIn history ++ [⟨t.nextNumber⟩] := by
    simp [givenIn]
  have hstory (id : ConnectionId) : story (history ++ [.given ⟨t.nextNumber⟩]) id = story history id := by
    simp [story]
  have hnew : (⟨t.nextNumber⟩ : ConnectionId) ∉ givenIn history := fun hmem =>
    absurd (h.given_lt _ hmem) (Nat.lt_irrefl _)
  constructor
  · intro id hid
    rw [hgiven, List.mem_append, List.mem_singleton] at hid
    obtain hid | rfl := hid
    · exact Nat.lt_succ_of_lt (h.given_lt id hid)
    · exact Nat.lt_succ_self _
  · rw [hgiven]
    exact h.given_nodup.append (List.nodup_singleton _) (by simpa using hnew)
  · rw [hgiven, List.getLast?_append]
    rfl
  · exact fun hnone => nomatch hnone
  · exact fun hs => absurd hs hsink
  · intro id hid
    cases hid
    rw [hstory]
    exact h.unborn _ hnew
  · exact fun id => hstory id ▸ h.words id
  · exact fun id hid => hstory id ▸ h.unborn id fun hmem => hid (hgiven ▸ List.mem_append_left _ hmem)
  · simpa [tookIn, wroteIn] using h.frames

/-- The peer ends the connection, if there is one. -/
theorem ends (normal : Bool) :
    Tells (history ++ emissions (if t.state = .closed then [] else t.told (.closed normal)))
      (t.finish normal) := by
  rw [finish]
  split
  · exact h.quiet
  · next hs =>
    rw [emit_same]
    exact h.close hs normal _ _

end Tells

/-- **What the peer does** keeps histories true. -/
theorem tells_act (h : Tells history t) (a : PeerAction) :
    Tells (history ++ (t.answer (.act a) ++ emissions (t.news (.act a)))) (t.act a) := by
  cases a with
  | accept =>
    by_cases hs : t.state = .opening
    · simp only [answer, act, accept, if_pos hs, news]
      rw [emit_same]
      have hopened (id : ConnectionId) (hid : t.current = some id) :
          Stage (story history id ++ [.opened]) .opened := by
        have hnothing : story history id = [] := by simpa [hs, Stage] using h.stage id hid
        exact ⟨[], by rw [hnothing]; rfl⟩
      exact h.tell (by simp) hopened (fun hnone => nomatch hs.symm.trans (h.idle hnone)) _ _
    · simpa [answer, act, accept, hs, news, emissions] using h
  | refuse => exact h.ends false
  | drop => exact h.ends false
  | close => exact h.ends true
  | send frame =>
    by_cases hs : t.state = .opened
    · simp only [answer, act, send, if_pos hs, news]
      rw [emit_same]
      have hcame (id : ConnectionId) (hid : t.current = some id) :
          Stage (story history id ++ [.message frame]) t.state := by
        have hstage := h.stage id hid
        rw [hs] at hstage ⊢
        exact hstage.message frame
      exact h.tell (by simp) hcame h.idle _ _
    · simpa [answer, act, send, hs, news, emissions] using h
  | respondHttp status headers =>
    simp only [answer, act, respondHttp, news]
    rw [emit_same]
    exact (h.answered status headers).sunk t.sink id _

/-- **Every operation keeps histories true.** -/
theorem tells_perform (h : Tells history t) (op : Operation) :
    Tells (history ++ (t.perform op).1) (t.perform op).2 := by
  rw [perform, heard_eq]
  cases op with
  | act a => exact tells_act h a
  | installSink => exact h.quiet.sunk .listening nofun []
  | dropReceiver =>
    show Tells (history ++ emissions []) t.dropReceiver
    unfold dropReceiver
    split
    · exact h.quiet.sunk .gone nofun []
    · exact h.quiet
  | receive =>
    show Tells (history ++ emissions []) ((t.receive?.map (·.2)).getD t)
    unfold receive?
    split
    · exact h.quiet
    · next rest _ => exact h.quiet.sunk t.sink id rest
  | dial url headers =>
    by_cases hs : t.state = .closed
    · by_cases hsink : t.sink = .missing
      · simpa [answer, after, dial, hs, hsink, news, emissions] using h.refused .noEventSink
      · simpa [answer, after, dial, hs, hsink, news, emissions] using h.give hsink url headers
    · simpa [answer, after, dial, hs, news, emissions] using h.refused .alreadyOpen
  | hangUp reason =>
    by_cases hs : t.state = .closed
    · simpa [answer, after, hangUp, hs, news, emissions] using h.refused .notConnected
    · simp only [answer, after, hangUp, if_neg hs, news]
      rw [emit_same]
      exact h.close hs true _ _
  | write frame =>
    obtain ⟨id, -, -, hwrite⟩ | ⟨-, hwrite⟩ := t.write_cases frame
    · simpa [answer, after, hwrite, news, emissions] using h.wrote id frame
    · simpa [answer, after, hwrite, news, emissions] using h.refused .connectionClosed
  | take => exact h.took

/-- **Whatever is done, what has happened tells the state.** -/
theorem tells_play (h : Tells history t) (ops : List Operation) :
    Tells (history ++ (t.play ops).1) (t.play ops).2 := by
  induction ops generalizing t history with
  | nil => simpa [play] using h
  | cons op rest ih =>
    simpa [play, List.append_assoc] using ih (tells_perform h op)

/-! ## Promises -/

/-- **What a transport promises**, after everything that has happened. -/
structure Promises (history : List Happening) (t : MemoryTransport) : Prop where
  /-- No connection is given twice. -/
  fresh : (givenIn history).Nodup
  word : ∀ id, Word (story history id)
  unborn : ∀ id, id ∉ givenIn history → story history id = []
  closed_iff : t.state = .closed ↔
    ∀ id ∈ (givenIn history).getLast?, ∃ normal, .closed normal ∈ story history id
  opened_iff : t.state = .opened ↔ ∃ id ∈ (givenIn history).getLast?,
    .opened ∈ story history id ∧ ∀ normal, .closed normal ∉ story history id
  write_iff : ∀ frame, (t.write frame).1 = .ok () ↔ t.state = .opened
  /-- Every frame that was written is taken, or waits to be taken. -/
  frames : tookIn history ++ t.written.map (·.2) = wroteIn history
  refused : ∀ op e, .refused e ∈ t.answer op → t.after op = t ∧ t.heard op = []
  misfit : ∀ a : PeerAction, a.fits t.state = false → t.act a = t ∧ t.heard (.act a) = []
  /-- What is written down as emitted is what a receiver gets. -/
  heard : ∀ op : Operation, t.sink = .listening → op.isOfSink = false →
    (t.after op).events = t.events ++ t.heard op

theorem Tells.promises (h : Tells history t) : Promises history t where
  fresh := h.given_nodup
  word := h.words
  unborn := h.unborn
  closed_iff := by
    rw [← h.latest]
    cases hid : t.current with
    | none => simp [h.idle hid]
    | some id => simpa using (h.stage id hid).closed_iff
  opened_iff := by
    rw [← h.latest]
    cases hid : t.current with
    | none => simp [h.idle hid]
    | some id => simpa using (h.stage id hid).opened_iff
  write_iff frame := by
    obtain ⟨id, hs, -, hwrite⟩ | ⟨hno, hwrite⟩ := t.write_cases frame
    · simp [hs, hwrite]
    · have hs : t.state ≠ .opened := fun hs => nomatch hs.symm.trans (h.idle (hno hs))
      simp [hs, hwrite]
  frames := h.frames
  refused op e he := by
    rw [heard_eq]
    exact still_of_refused he
  misfit a ha := by
    rw [heard_eq]
    cases a <;> simp_all [PeerAction.fits, act, accept, finish, send, news]
  heard op hsink hop := events_after hsink hop

/-- **The in-memory transport keeps what it promises**, whatever its two sides do. -/
theorem keeps_promises (ops : List Operation) : Promises (new.play ops).1 (new.play ops).2 :=
  (tells_play Tells.new ops).promises

/-- A write before the connection has opened is refused, and so is a hang-up after the peer's. -/
example :
    (new.play [.installSink, .dial "ws://h/" .nil, .write (.text "x"), .act .accept, .write (.text "y"),
      .act .drop, .hangUp "bye"]).1 =
    [.given ⟨1⟩, .refused .connectionClosed, .emitted ⟨1⟩ .opened, .wrote (.text "y"),
      .emitted ⟨1⟩ (.closed false), .refused .notConnected] := by
  decide

end MemoryTransport

end RealtimeClient
