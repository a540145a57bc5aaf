import Mathlib
import RealtimeClient.Proofs.Client.Traces

/-!
# The lives of sockets

Whatever a client does with a socket is one of the operations that sockets have.  So what is known of
every life of a socket is known of the sockets of every client: a socket that belongs to a client is
what some operations have made of a new socket of its namespace.

* `Socket.LivesOn` — some operations have made one socket of the other; `Lives` — this of every socket
  that stays with the client, while others come in as new ones.
* `lives_call`, `lives_route`, `lives_carryOut` and so on — one lemma for each thing that the client
  does.
* `Taken.lives`, `Move.lives`, **`Run.lives`** — turns, moves and runs; **`Run.life`** — the sockets of a
  client to which nothing had happened at first.
-/

namespace RealtimeClient

/-! ## One socket -/

namespace Socket

/-- **A socket lives on**: some operations have made one of the other. -/
def LivesOn (s s' : Socket) : Prop := ∃ ops, s' = s.after ops

theorem LivesOn.refl (s : Socket) : s.LivesOn s := ⟨[], rfl⟩

theorem LivesOn.trans {s s' s'' : Socket} (h : s.LivesOn s') (h' : s'.LivesOn s'') :
    s.LivesOn s'' := by
  obtain ⟨ops, rfl⟩ := h
  obtain ⟨more, rfl⟩ := h'
  exact ⟨ops ++ more, (List.foldl_append ..).symm⟩

theorem livesOn_step (s : Socket) (op : Operation) : s.LivesOn (s.step op).1 := ⟨[op], rfl⟩

theorem livesOn_respected : Respected LivesOn where
  refl := LivesOn.refl
  trans _ _ _ := LivesOn.trans
  edit s op _ := s.livesOn_step op

end Socket

namespace Client

open Socket (LivesOn)

variable {τ : Type} {c c' c'' : Client τ}

/-- **The sockets of a client live on**, and those that come in are new. -/
abbrev Lives (c c' : Client τ) : Prop := Evolves LivesOn c c'

namespace Lives

theorem of_apart (h : Apart c c') : Lives c c' := Evolves.of_apart LivesOn.refl h

theorem refl (c : Client τ) : Lives c c := of_apart (.refl c)

theorem trans (h : Lives c c') (h' : Lives c' c'') : Lives c c'' :=
  Evolves.trans (fun _ _ _ => LivesOn.trans) h h'

theorem apart (h : Lives c c') (ha : Apart c' c'') : Lives c c'' := Evolves.apart h ha

theorem foldl {α : Type} {f : Client τ → α → Client τ} (hf : ∀ c a, Lives c (f c a)) (l : List α)
    (c : Client τ) : Lives c (l.foldl f c) :=
  Evolves.foldl LivesOn.refl (fun _ _ _ => LivesOn.trans) hf l c

end Lives

/-! ## Calls -/

/-- An operation on the socket that was looked up. -/
theorem lives_step {id : SocketId} {s : Socket} (hs : c.socket? id = some s)
    (op : Socket.Operation) : Lives c (c.modifySocket id fun _ => (s.step op).1) :=
  evolves_step LivesOn.refl hs op fun _ => s.livesOn_step op

theorem lives_addSocket (ns : String) : Lives c (c.addSocket ns) := evolves_addSocket LivesOn.refl ns

theorem lives_erase (ns : String) : Lives c { c with registry := c.registry.erase ns } :=
  evolves_erase LivesOn.refl ns

theorem lives_clear : Lives c { c with registry := .nil } := evolves_clear LivesOn.refl

theorem lives_call (a : Call) : Lives c (c.call a) := evolves_call Socket.livesOn_respected a

theorem lives_callAll (calls : List Call) : Lives c (c.callAll calls) :=
  evolves_callAll Socket.livesOn_respected calls

theorem lives_on (id : SocketId) (name : String) (listener : Listener) :
    Lives c (c.on id name listener) :=
  evolves_on Socket.livesOn_respected id name listener

theorem lives_disconnectSockets (final : Bool) : Lives c (c.disconnectSockets final) :=
  Lives.foldl (fun _ id => evolves_modifySocket LivesOn.refl id (f := (·.disconnect final))
    fun s _ => ⟨rfl, fun _ => s.livesOn_step (.disconnect final)⟩) _ c

section Transport

variable [Transport τ]

/-! ## Single sockets -/

theorem lives_dispatch (ns : String) (o : Socket.Outcome) : Lives c (c.dispatch ns o) := by
  have hsent : Lives c (c.sendAll o.outbound) := .of_apart (apart_sendAll _)
  unfold dispatch
  dsimp only
  split
  · exact hsent
  · exact hsent.apart (apart_notifySocketOpen ns)
  · exact (hsent.trans (lives_erase ns)).apart (apart_notifySocketClose ns)

theorem lives_requestSocket (id : SocketId) : Lives c (c.requestSocket id) :=
  evolves_requestSocket LivesOn.refl fun s => s.livesOn_step (.requestOn c.engine.revision)

theorem lives_leaveSocket (id : SocketId) : Lives c (c.leaveSocket id) := by
  rw [leaveSocket]
  split
  · exact .refl c
  · next s hs =>
    exact (lives_step hs .leave).apart ((apart_sendAll _).trans (apart_notifySocketClose _))

theorem lives_emit (ns name : String) (args : List Value) (reply : Option Label) :
    Lives c (c.emit ns name args reply) :=
  evolves_emit LivesOn.refl ns fun s => s.livesOn_step (.emit name args reply)

theorem lives_socketCreated (ns : String) : Lives c (c.socketCreated ns) := by
  rw [socketCreated]
  split
  · exact .refl c
  · split
    · exact .refl c
    · exact lives_requestSocket _

theorem lives_closeSocket (ns : String) : Lives c (c.closeSocket ns) := by
  rw [closeSocket]
  split
  · exact .refl c
  · exact ((lives_erase ns).trans (lives_leaveSocket _)).apart apart_updateAckGauge

theorem lives_route (p : Packet) : Lives c (c.route p) := by
  rw [route]
  split
  · exact .refl c
  · split
    · exact .refl c
    · split
      · exact .refl c
      · next s hs =>
        have hreports := (lives_step hs (.receive p)).apart
          (Apart.foldl (fun _ n => apart_report n) (s.receive p).2.notices _)
        have hcalls := hreports.trans (lives_callAll (s.receive p).2.calls)
        dsimp only
        split
        · exact hcalls.apart ⟨rfl, rfl⟩
        · exact (hcalls.trans (lives_dispatch _ _)).apart apart_updateAckGauge

/-! ## Effects -/

theorem lives_openSockets : Lives c c.openSockets := by
  have hfold (c : Client τ) : Lives c (c.socketIds.foldl requestSocket c) :=
    Lives.foldl (fun _ id => lives_requestSocket id) _ c
  unfold openSockets
  dsimp only
  split
  · exact hfold c
  · exact (lives_addSocket _).trans (hfold _)

theorem lives_closeSockets : Lives c c.closeSockets :=
  lives_clear.trans (Lives.foldl (fun _ id => lives_leaveSocket id) _ _)

theorem lives_carryOut (f : Engine.Effect) : Lives c (c.carryOut f).1 := by
  cases f with
  | openTransport query headers => exact .of_apart (apart_openTransport query headers)
  | closeTransport cause => exact .of_apart (apart_closeTransport cause)
  | send p => exact .of_apart (apart_send p)
  | arm k delay => exact .of_apart ⟨rfl, rfl⟩
  | cancel k => exact .of_apart ⟨rfl, rfl⟩
  | resetCodec => exact .of_apart ⟨rfl, rfl⟩
  | socketsOpen => exact lives_openSockets
  | socketsDisconnect final => exact (lives_disconnectSockets final).apart apart_updateAckGauge
  | socketsClose => exact lives_closeSockets.apart apart_updateAckGauge
  | notify event => exact .of_apart (apart_notify event)

theorem lives_carryOutAll (effects : List Engine.Effect) : Lives c (c.carryOutAll effects).1 := by
  induction effects generalizing c with
  | nil => exact .refl c
  | cons f rest ih => exact (lives_carryOut f).trans ih

theorem lives_handle (i : Engine.Input) : Lives c (c.handle i) := by
  have hfeed (rounds : Nat) (inputs : List Engine.Input) (c : Client τ) :
      Lives c (c.feed rounds inputs).1 := by
    induction rounds generalizing c inputs with
    | zero => cases inputs <;> exact .refl c
    | succ rounds ih =>
      cases inputs with
      | nil => exact .refl c
      | cons i rest =>
        have hengine : Lives c { c with engine := (c.engine.handle i).1 } := .of_apart ⟨rfl, rfl⟩
        rw [feed_succ]
        exact (hengine.trans (lives_carryOutAll _)).trans (ih _ _)
  exact (hfeed _ _ c).apart apart_publishStatus

/-! ## Turns -/

theorem lives_finish : Lives c c.finish := by
  have htimers : Lives c { c with timers := c.timers.cancelAll } := .of_apart ⟨rfl, rfl⟩
  exact ((htimers.trans (lives_disconnectSockets true)).trans lives_clear).apart
    ⟨rfl, rfl⟩

theorem lives_ordered {command : Command} (h : command.input? = none) : Lives c (c.execute command) := by
  cases command with
  | emit ns name args reply => exact lives_emit ns name args reply
  | socketCreated ns => exact lives_socketCreated ns
  | closeSocket ns => exact lives_closeSocket ns
  | _ => cases h

/-- **The pieces of a turn.** -/
theorem turnWise_lives :
    TurnWise (fun (c : Client τ) (_ : List (Client τ × Work)) c' => Lives c c') fun _ => True where
  append h h' := h.trans h'
  counted c metrics _ _ := .of_apart ⟨rfl, rfl⟩
  heard c i _ := lives_handle i
  fed c id frame _ := .of_apart ⟨rfl, rfl⟩
  routed c p := lives_route p
  received _ := .of_apart ⟨rfl, rfl⟩
  opened c := lives_handle _
  lost c normal := by
    have hdetached : Lives c { c with current := none } := .of_apart ⟨rfl, rfl⟩
    exact hdetached.trans (lives_handle _)
  fired c timers := .of_apart ⟨rfl, rfl⟩
  taken _ _ := .of_apart ⟨rfl, rfl⟩
  told c i _ := lives_handle i
  ordered {c command rest} _ haside := by
    have hrest : Lives c { c with commands := rest } := .of_apart ⟨rfl, rfl⟩
    exact hrest.trans (lives_ordered haside)
  drained deadline _ := .of_apart ⟨rfl, rfl⟩
  finished _ := lives_finish

theorem Taken.lives {t : Turn} (ht : Taken c t c') : Lives c c' :=
  turnWise_lives.turn (fun _ _ => trivial) (fun _ _ _ _ _ => trivial) ht

/-! ## Runs -/

theorem Move.lives {marks : List Mark} (m : Move c marks c') : Lives c c' := by
  cases m with
  | call a => exact lives_call a
  | on id name listener => exact lives_on id name listener
  | turn t ht => exact (taken_of_turn? ht).lives
  | transport transport => exact .of_apart ⟨rfl, rfl⟩
  | elapse time =>
    have htimers : Lives c { c with timers := c.timers.elapseTo time } := .of_apart ⟨rfl, rfl⟩
    rcases elapseTo_cases c time with heq | ⟨-, -, -, heq⟩ <;> rw [heq]
    · exact htimers
    · exact htimers.trans lives_finish
  | silence => exact lives_finish

/-- **Along every run the sockets of a client live on**, by induction on the moves. -/
theorem Run.lives {trace : List Mark} (h : Run c trace c') : Lives c c' := by
  induction h with
  | nil => exact .refl c
  | move _ m ih => exact ih.trans m.lives

/-- **A socket that belongs to a client is what some operations have made of a new one.** -/
theorem Run.life {trace : List Mark} (h : Run c trace c') (hc : Unused c) {ns : String} {id : SocketId}
    (hns : c'.registered? ns = some id) : ∃ ops, c'.socket? id = some ((Socket.new ns).after ops) := by
  rcases h.lives.entries ns id hns with hold | ⟨-, s, hs, -, ops, rfl⟩
  · rw [registered?, hc.registry] at hold
    cases hold
  · exact ⟨ops, hs⟩

theorem Run.filed {trace : List Mark} (h : Run c trace c') (hc : Unused c) : Filed c' := by
  intro ns id hns
  obtain ⟨ops, hs⟩ := h.life hc hns
  exact ⟨_, hs, by simp [Socket.new]⟩

end Transport

end Client

end RealtimeClient
