import RealtimeClient.Proofs.Client.Aside

/-!
# The application's side

The commands that wait and the choice of reports that are listened to are the application's side of a
client.  The task only takes commands from it: what it carries out, sends and reports leaves that side
as it is.  A call can only leave more commands, and of the engine it can only ask for what an
application asks for.

* `Client.Front`, `Client.front` — the application's side.
* `front_send`, `front_requestSocket` and so on — one lemma for each operation that leaves it alone;
  **`front_handle`** — an input and all that follows is one of them.
* `Wishes`, `Adds` — commands are left to the task, and none is taken back; `adds_call`, `adds_route`.
-/

namespace RealtimeClient.Client

/-- **The application's side.** -/
structure Front where
  commands : List Command
  observers : Observers

variable {τ : Type}

/-- The application's side of a client. -/
def front (c : Client τ) : Front := { commands := c.commands, observers := c.observers }

variable {c c' c'' : Client τ}

theorem front_foldl {α : Type} {f : Client τ → α → Client τ} (hf : ∀ c a, (f c a).front = c.front)
    (l : List α) (c : Client τ) : (l.foldl f c).front = c.front := by
  induction l generalizing c with
  | nil => rfl
  | cons a rest ih => exact (ih _).trans (hf c a)

/-! ## Reports and sockets -/

@[simp] theorem front_report (n : Notice) : (c.report n).front = c.front := rfl

@[simp] theorem front_modifySocket (id : SocketId) (f : Socket → Socket) :
    (c.modifySocket id f).front = c.front := rfl

@[simp] theorem front_addSocket (ns : String) : (c.addSocket ns).front = c.front := rfl

@[simp] theorem front_updateAckGauge : c.updateAckGauge.front = c.front := rfl

@[simp] theorem front_notify (event : SessionEvent) : (c.notify event).front = c.front := by
  unfold notify
  dsimp only
  split <;> split <;> rfl

@[simp] theorem front_notifySocketOpen (ns : String) : (c.notifySocketOpen ns).front = c.front := by
  rw [notifySocketOpen]
  split <;> rfl

@[simp] theorem front_notifySocketClose (ns : String) :
    (c.notifySocketClose ns).front = c.front := by
  rw [notifySocketClose]
  split <;> rfl

@[simp] theorem front_disconnectSockets (final : Bool) :
    (c.disconnectSockets final).front = c.front :=
  front_foldl (fun _ id => front_modifySocket id (·.disconnect final)) _ c

section Transport

variable [Transport τ]

/-! ## Sending -/

@[simp] theorem front_writeFrames (frames : List Frame) : (c.writeFrames frames).front = c.front := by
  induction frames generalizing c with
  | nil => rfl
  | cons frame rest ih =>
    rw [writeFrames]
    dsimp only
    split
    · exact ih
    · rfl

@[simp] theorem front_send (p : Packet) : (c.send p).front = c.front := by
  rw [send]
  split
  · exact front_writeFrames _
  · rfl

@[simp] theorem front_sendAll (ps : List Packet) : (c.sendAll ps).front = c.front :=
  front_foldl (fun _ p => front_send p) ps c

@[simp] theorem front_dispatch (ns : String) (o : Socket.Outcome) :
    (c.dispatch ns o).front = c.front := by
  unfold dispatch
  dsimp only
  split
  · exact front_sendAll _
  · exact (front_notifySocketOpen ns).trans (front_sendAll _)
  · exact (front_notifySocketClose ns).trans (front_sendAll (c := c) o.outbound)

@[simp] theorem front_requestSocket (id : SocketId) : (c.requestSocket id).front = c.front := by
  rw [requestSocket]
  split
  · rfl
  · exact front_dispatch _ _

@[simp] theorem front_leaveSocket (id : SocketId) : (c.leaveSocket id).front = c.front := by
  rw [leaveSocket]
  split
  · rfl
  · exact (front_notifySocketClose _).trans (front_sendAll _)

@[simp] theorem front_emit (ns name : String) (args : List Value) (reply : Option Label) :
    (c.emit ns name args reply).front = c.front := by
  rw [emit]
  split
  · rfl
  · split
    · rfl
    · exact front_sendAll _

@[simp] theorem front_socketCreated (ns : String) : (c.socketCreated ns).front = c.front := by
  rw [socketCreated]
  split
  · rfl
  · split
    · rfl
    · exact front_requestSocket _

@[simp] theorem front_closeSocket (ns : String) : (c.closeSocket ns).front = c.front := by
  rw [closeSocket]
  split
  · rfl
  · exact front_leaveSocket _

/-! ## Effects -/

@[simp] theorem front_openSockets : c.openSockets.front = c.front := by
  unfold openSockets
  dsimp only
  split
  · exact front_foldl (fun _ id => front_requestSocket id) _ c
  · exact front_foldl (fun _ id => front_requestSocket id) _ _

@[simp] theorem front_closeSockets : c.closeSockets.front = c.front :=
  front_foldl (fun _ id => front_leaveSocket id) _ _

/-- **What the engine asks for is done on the task's side.** -/
@[simp] theorem front_carryOut (f : Engine.Effect) : (c.carryOut f).1.front = c.front := by
  cases f with
  | openTransport query headers =>
    simp only [carryOut, openTransport]
    split <;> rfl
  | closeTransport cause =>
    simp only [carryOut, closeTransport]
    split <;> rfl
  | send p => exact front_send p
  | arm k delay => rfl
  | cancel k => rfl
  | resetCodec => rfl
  | socketsOpen => exact front_openSockets
  | socketsDisconnect final => exact front_disconnectSockets (c := c) final
  | socketsClose => exact front_closeSockets (c := c)
  | notify event => exact front_notify event

@[simp] theorem front_carryOutAll (effects : List Engine.Effect) :
    (c.carryOutAll effects).1.front = c.front := by
  induction effects generalizing c with
  | nil => rfl
  | cons f rest ih => exact ih.trans (front_carryOut f)

/-- **An input to the engine, with all that follows.** -/
@[simp] theorem front_handle (i : Engine.Input) : (c.handle i).front = c.front := by
  have hfeed (rounds : Nat) (inputs : List Engine.Input) (c : Client τ) :
      (c.feed rounds inputs).1.front = c.front := by
    induction rounds generalizing c inputs with
    | zero => cases inputs <;> rfl
    | succ rounds ih =>
      cases inputs with
      | nil => rfl
      | cons i rest => exact (ih _ _).trans (front_carryOutAll _)
  exact hfeed _ _ c

end Transport

/-! ## Commands -/

/-- Of the engine the commands ask for nothing but what an application asks for. -/
def Wishes (commands : List Command) : Prop := ∀ i, .engine i ∈ commands → i.isRequest = true

theorem wishes_nil : Wishes [] := by simp [Wishes]

theorem wishes_append {commands more : List Command} :
    Wishes (commands ++ more) ↔ Wishes commands ∧ Wishes more := by
  simp only [Wishes, List.mem_append, or_imp, forall_and]

/-- **Commands are left to the task**, behind those that wait. -/
def Adds (c c' : Client τ) : Prop := ∃ added, c'.commands = c.commands ++ added ∧ Wishes added

namespace Adds

theorem of_front (h : c'.front = c.front) : Adds c c' :=
  ⟨[], (congrArg Front.commands h).trans (List.append_nil _).symm, wishes_nil⟩

theorem trans (h : Adds c c') (h' : Adds c' c'') : Adds c c'' := by
  obtain ⟨added, heq, hadded⟩ := h
  obtain ⟨more, heq', hmore⟩ := h'
  exact ⟨added ++ more, by rw [heq', heq, List.append_assoc], wishes_append.2 ⟨hadded, hmore⟩⟩

theorem wishes (h : Adds c c') (hc : Wishes c.commands) : Wishes c'.commands := by
  obtain ⟨added, heq, hadded⟩ := h
  rw [heq]
  exact wishes_append.2 ⟨hc, hadded⟩

theorem mem (h : Adds c c') {command : Command} (hm : command ∈ c.commands) :
    command ∈ c'.commands := by
  obtain ⟨added, heq, -⟩ := h
  rw [heq]
  exact List.mem_append_left added hm

end Adds

theorem adds_push {command : Command} (h : ∀ i, command = .engine i → i.isRequest = true) :
    Adds c (c.push command) := by
  have happend : Adds c { c with commands := c.commands ++ [command] } :=
    ⟨[command], rfl, fun i hi => h i (List.mem_singleton.1 hi).symm⟩
  rw [push]
  split
  · exact happend
  · exact happend
  · exact .of_front rfl
  · exact .of_front rfl

theorem adds_pushFor (id : SocketId) {command : String → Command}
    (h : ∀ ns i, command ns ≠ .engine i) : Adds c (c.pushFor id command) := by
  rw [pushFor]
  split
  · exact adds_push fun i hi => absurd hi (h _ i)
  · exact .of_front rfl

theorem adds_joinSocket (name : String) : Adds c (c.joinSocket name).2 := by
  unfold joinSocket
  dsimp only
  split
  · exact .of_front rfl
  · exact (Adds.of_front (front_addSocket _)).trans (adds_push (by simp))

/-- **A call can only leave more commands.** -/
theorem adds_call (a : Call) : Adds c (c.call a) := by
  have hsame (h : (c.call a).commands = c.commands) : Adds c (c.call a) :=
    ⟨[], h.trans (List.append_nil _).symm, wishes_nil⟩
  cases a with
  | join ns => exact adds_joinSocket ns
  | emit id name args reply =>
    have hadds : Adds c (c.pushFor id fun ns => .emit ns name args reply) := adds_pushFor id (by simp)
    exact hadds
  | leave id => exact adds_pushFor id (by simp)
  | off id name => exact hsame rfl
  | offAll id => exact hsame rfl
  | onError id label => exact hsame rfl
  | offError id => exact hsame rfl
  | setAuth id auth => exact hsame rfl
  | observe report => exact hsame rfl
  | ignoreSession => exact hsame rfl
  | ignoreSockets => exact hsame rfl
  | _ => exact adds_push (by simp [Engine.Input.isRequest])

theorem adds_callAll (calls : List Call) : Adds c (c.callAll calls) := by
  induction calls generalizing c with
  | nil => exact .of_front rfl
  | cons a rest ih => exact (adds_call a).trans ih

/-- **So does a message for a namespace**, by the calls of its listener; unless the listener fails. -/
theorem adds_route [Transport τ] (p : Packet) :
    Adds c (c.route p) ∨ (c.route p).phase = .failed ∧ (c.route p).commands = [] := by
  rw [route]
  split
  · exact .inl (.of_front rfl)
  · split
    · exact .inl (.of_front rfl)
    · next id _ =>
      split
      · exact .inl (.of_front rfl)
      · next s _ =>
        have hreports : ((s.receive p).2.notices.foldl report
            (c.modifySocket id fun _ => (s.receive p).1)).front = c.front :=
          front_foldl (fun _ n => front_report n) _ _
        have hcalls := (Adds.of_front hreports).trans (adds_callAll (s.receive p).2.calls)
        dsimp only
        split
        · exact .inr ⟨rfl, rfl⟩
        · exact .inl (hcalls.trans (.of_front (front_dispatch _ _)))

end RealtimeClient.Client
