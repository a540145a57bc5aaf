import Mathlib
import RealtimeClient.Proofs.Client.Traces

/-!
# Sockets that have left

The task comes to a socket through the registry only.  A socket whose entry is taken out is emptied at
the same moment, and from then on nothing is put into it: whatever an application still does with it
is left to the task under the name of the namespace, which belongs to another socket by then, or to
none.

* `Socket.Bare` — no callback waits, nothing is queued, and the namespace is not confirmed.
* `Loyal` — every socket that was ever made belongs to the client or is bare.
* `loyal_modifySocket`, `loyal_leave`, `loyal_request` — the changes that the others are made of.
* `loyal_carryOut`, `Taken.loyal`, **`Run.loyal`** — it stays so.
* `bare_disconnectSockets`, `bare_closeSockets` — the two effects that leave every socket bare.
-/

namespace RealtimeClient

/-- **A socket with nothing left in it.** -/
structure Socket.Bare (s : Socket) : Prop where
  waiting : s.waiting = []
  queue : s.queue = []
  connected : s.connected = false

theorem Socket.bare_reset (s : Socket) : (s.reset true).Bare := ⟨rfl, rfl, rfl⟩

theorem Socket.Bare.disconnect {s : Socket} (h : s.Bare) (final : Bool) : (s.disconnect final).Bare := by
  cases final with
  | true => exact s.bare_reset
  | false => exact ⟨h.waiting, h.queue, rfl⟩

namespace Client

variable {τ : Type} {c c' : Client τ} {id : SocketId}

/-- Every socket that was ever made is bare. -/
def AllBare (c : Client τ) : Prop := ∀ id s, c.socket? id = some s → s.Bare

/-- **Every socket that was ever made belongs to the client or is bare.** -/
def Loyal (c : Client τ) : Prop := ∀ id s, c.socket? id = some s → c.Member id ∨ s.Bare

theorem AllBare.loyal (h : AllBare c) : Loyal c := fun id s hs => .inr (h id s hs)

theorem Apart.loyal (ha : Apart c c') (h : Loyal c) : Loyal c' := by
  intro id s hs
  rw [ha.socket?] at hs
  refine (h id s hs).imp_left ?_
  rintro ⟨ns, hns⟩
  exact ⟨ns, (ha.registered? ns).trans hns⟩

theorem loyal_of_sockets (h : c.sockets = []) : Loyal c := by
  intro id s hs
  simp [socket?, h] at hs

theorem mem_socketIds_iff : id ∈ c.socketIds ↔ c.Member id := by
  constructor
  · exact Dict.From.exists_get?_of_mem_values _
  · rintro ⟨ns, hns⟩
    exact mem_socketIds hns

/-! ## Single changes -/

/-- **A socket is changed**: it belongs to the client, or it is bare afterwards. -/
theorem loyal_modifySocket (h : Loyal c) {f : Socket → Socket}
    (hf : ∀ s, c.socket? id = some s → c.Member id ∨ (f s).Bare) : Loyal (c.modifySocket id f) := by
  intro key s hs
  rw [socket?_modifySocket] at hs
  split at hs
  · next heq =>
    subst heq
    obtain ⟨t, ht, rfl⟩ := Option.map_eq_some_iff.1 hs
    exact hf t ht
  · exact h key s hs

/-- A change that bare sockets survive can be made to any socket. -/
theorem loyal_modifySocket_of_bare (h : Loyal c) {f : Socket → Socket}
    (hf : ∀ s, s.Bare → (f s).Bare) : Loyal (c.modifySocket id f) :=
  loyal_modifySocket h fun s hs => (h id s hs).imp_right (hf s)

/-- A socket is made for a namespace that has none. -/
theorem loyal_addSocket (h : Loyal c) {ns : String} (hns : c.registered? ns = none) :
    Loyal (c.addSocket ns) := by
  intro key s hs
  by_cases hkey : key = c.sockets.length
  · refine .inl ⟨ns, ?_⟩
    rw [registered?_addSocket, if_pos rfl, hkey]
  · have hold : c.socket? key = some s := by
      have hlt : key < c.sockets.length := by
        have hle := lt_of_socket? hs
        rw [addSocket, List.length_append, List.length_singleton] at hle
        exact Nat.lt_of_le_of_ne (Nat.le_of_lt_succ hle) hkey
      rw [socket?, addSocket, List.getElem?_append_left hlt] at hs
      exact hs
    refine (h key s hold).imp_left ?_
    rintro ⟨name, hname⟩
    have hne : name ≠ ns := by
      rintro rfl
      rw [hns] at hname
      cases hname
    exact ⟨name, by rwa [registered?_addSocket, if_neg hne]⟩

/-- **A socket leaves**: its entry is taken out, and it is emptied. -/
theorem loyal_leave (h : Loyal c) {ns : String} (hns : c.registered? ns = some id) {s' : Socket}
    (hs' : s'.Bare) :
    Loyal (({ c with registry := c.registry.erase ns } : Client τ).modifySocket id fun _ => s') := by
  intro key s hs
  rw [socket?_modifySocket] at hs
  split at hs
  · obtain ⟨t, -, rfl⟩ := Option.map_eq_some_iff.1 hs
    exact .inr hs'
  · next hne =>
    refine (h key s hs).imp_left ?_
    rintro ⟨name, hname⟩
    -- the entry that is taken out was another socket's
    have hother : name ≠ ns := by
      rintro rfl
      exact hne (Option.some.inj (hns.symm.trans hname))
    refine ⟨name, ?_⟩
    have herase := registered?_erase (c := c) ns name
    rw [if_neg hother] at herase
    exact herase.trans hname

/-! ## Calls -/

theorem loyal_joinSocket (h : Loyal c) (name : String) : Loyal (c.joinSocket name).2 := by
  unfold joinSocket
  dsimp only
  split
  · exact h
  · next hnone => exact (apart_push _).loyal (loyal_addSocket h hnone)

/-- **Calls**: none puts anything into a socket. -/
theorem loyal_call (h : Loyal c) (a : Call) : Loyal (c.call a) := by
  cases a with
  | join ns => exact loyal_joinSocket h ns
  | emit id name args reply => exact (apart_pushFor id fun ns => .emit ns name args reply).loyal h
  | leave id => exact (apart_pushFor id _).loyal h
  | off id name => exact loyal_modifySocket_of_bare h fun s hs => ⟨hs.waiting, hs.queue, hs.connected⟩
  | offAll id => exact loyal_modifySocket_of_bare h fun s hs => ⟨hs.waiting, hs.queue, hs.connected⟩
  | onError id label =>
    exact loyal_modifySocket_of_bare h fun s hs => ⟨hs.waiting, hs.queue, hs.connected⟩
  | offError id => exact loyal_modifySocket_of_bare h fun s hs => ⟨hs.waiting, hs.queue, hs.connected⟩
  | setAuth id auth =>
    exact loyal_modifySocket_of_bare h fun s hs => ⟨hs.waiting, hs.queue, hs.connected⟩
  | observe report => exact Apart.loyal ⟨rfl, rfl⟩ h
  | ignoreSession => exact Apart.loyal ⟨rfl, rfl⟩ h
  | ignoreSockets => exact Apart.loyal ⟨rfl, rfl⟩ h
  | _ => exact (apart_push _).loyal h

theorem loyal_callAll (h : Loyal c) (calls : List Call) : Loyal (c.callAll calls) := by
  induction calls generalizing c with
  | nil => exact h
  | cons a rest ih => exact ih (loyal_call h a)

theorem loyal_on (h : Loyal c) (id : SocketId) (name : String) (listener : Listener) :
    Loyal (c.on id name listener) :=
  loyal_modifySocket_of_bare h fun _ hs => ⟨hs.waiting, hs.queue, hs.connected⟩

/-! ## Emptying every socket -/

/-- An operation on single sockets that leaves each bare leaves those of a list bare. -/
theorem bare_foldl {f : Client τ → SocketId → Client τ}
    (hf : ∀ (c : Client τ) id key s, (f c id).socket? key = some s →
      s.Bare ∨ key ≠ id ∧ c.socket? key = some s) (ids : List SocketId) {s : Socket}
    (hs : (ids.foldl f c).socket? id = some s) : s.Bare ∨ id ∉ ids ∧ c.socket? id = some s := by
  induction ids generalizing c with
  | nil => exact .inr ⟨List.not_mem_nil, hs⟩
  | cons key rest ih =>
    rcases ih hs with hbare | ⟨hrest, hs⟩
    · exact .inl hbare
    · refine (hf c key id s hs).imp_right ?_
      rintro ⟨hne, hs⟩
      exact ⟨fun hm => (List.mem_cons.1 hm).elim hne hrest, hs⟩

/-- The sockets outside of the registry are bare as it is. -/
theorem Loyal.allBare_foldl (h : Loyal c) {f : Client τ → SocketId → Client τ}
    (hf : ∀ (c : Client τ) id key s, (f c id).socket? key = some s →
      s.Bare ∨ key ≠ id ∧ c.socket? key = some s) (c₁ : Client τ)
    (hc₁ : c₁.sockets = c.sockets) : AllBare (c.socketIds.foldl f c₁) := by
  intro id s hs
  rcases bare_foldl hf c.socketIds hs with hbare | ⟨hout, hs⟩
  · exact hbare
  · rw [socket?, hc₁] at hs
    exact (h id s hs).resolve_left fun hm => hout (mem_socketIds_iff.2 hm)

theorem bare_disconnectSockets (h : Loyal c) : AllBare (c.disconnectSockets true) := by
  refine h.allBare_foldl ?_ c rfl
  intro c id key s hs
  rw [socket?_modifySocket] at hs
  split at hs
  · obtain ⟨t, -, rfl⟩ := Option.map_eq_some_iff.1 hs
    exact .inl t.bare_reset
  · next hne => exact .inr ⟨Ne.symm hne, hs⟩

theorem loyal_disconnectSockets (h : Loyal c) (final : Bool) : Loyal (c.disconnectSockets final) := by
  have hfold (ids : List SocketId) (c : Client τ) (h : Loyal c) :
      Loyal (ids.foldl (fun c id => c.modifySocket id (·.disconnect final)) c) := by
    induction ids generalizing c with
    | nil => exact h
    | cons id rest ih => exact ih _ (loyal_modifySocket_of_bare h fun _ hs => hs.disconnect final)
  exact hfold _ _ h

variable [Transport τ]

theorem bare_closeSockets (h : Loyal c) : AllBare c.closeSockets := by
  refine h.allBare_foldl ?_ { c with registry := .nil } rfl
  intro c id key s hs
  rw [leaveSocket] at hs
  split at hs
  · next hnone =>
    refine .inr ⟨?_, hs⟩
    rintro rfl
    rw [hnone] at hs
    cases hs
  · next t ht =>
    have hapart := (apart_sendAll (c := c.modifySocket id fun _ => t.leave.1) t.leave.2).trans
      (apart_notifySocketClose t.ns)
    rw [hapart.socket?, socket?_modifySocket] at hs
    split at hs
    · obtain ⟨_, -, rfl⟩ := Option.map_eq_some_iff.1 hs
      exact .inl t.bare_reset
    · next hne => exact .inr ⟨Ne.symm hne, hs⟩

/-! ## Effects -/

theorem registry_requestSocket (id : SocketId) : (c.requestSocket id).registry = c.registry := by
  rw [requestSocket]
  split
  · rfl
  · next s hs => exact (apart_dispatch _ (Socket.requestOn_lifecycle s _)).registry

/-- A namespace is asked for only if its socket belongs to the client. -/
theorem loyal_requestSocket (h : Loyal c) (hm : c.Member id) : Loyal (c.requestSocket id) := by
  rw [requestSocket]
  split
  · exact h
  · next s hs =>
    refine (apart_dispatch _ (Socket.requestOn_lifecycle s _)).loyal ?_
    exact loyal_modifySocket h fun _ _ => .inl hm

theorem loyal_openSockets (h : Loyal c) : Loyal c.openSockets := by
  have hfold (ids : List SocketId) (c : Client τ) (h : Loyal c) (hids : ∀ id ∈ ids, c.Member id) :
      Loyal (ids.foldl requestSocket c) := by
    induction ids generalizing c with
    | nil => exact h
    | cons id rest ih =>
      refine ih _ (loyal_requestSocket h (hids id List.mem_cons_self)) ?_
      intro key hkey
      obtain ⟨ns, hns⟩ := hids key (List.mem_cons_of_mem id hkey)
      exact ⟨ns, by rwa [registered?, registry_requestSocket]⟩
  unfold openSockets
  dsimp only
  split
  · exact hfold _ _ h fun _ => mem_socketIds_iff.1
  · next hno =>
    have hnone : c.registered? defaultNamespace = none := by
      simpa [Dict.From.contains, registered?] using hno
    exact hfold _ _ (loyal_addSocket h hnone) fun _ => mem_socketIds_iff.1

theorem loyal_carryOut (h : Loyal c) (f : Engine.Effect) : Loyal (c.carryOut f).1 := by
  cases f with
  | openTransport query headers => exact (apart_openTransport query headers).loyal h
  | closeTransport cause => exact (apart_closeTransport cause).loyal h
  | send p => exact (apart_send p).loyal h
  | arm k delay => exact Apart.loyal ⟨rfl, rfl⟩ h
  | cancel k => exact Apart.loyal ⟨rfl, rfl⟩ h
  | resetCodec => exact Apart.loyal ⟨rfl, rfl⟩ h
  | socketsOpen => exact loyal_openSockets h
  | socketsDisconnect final => exact apart_updateAckGauge.loyal (loyal_disconnectSockets h final)
  | socketsClose => exact apart_updateAckGauge.loyal (bare_closeSockets h).loyal
  | notify event => exact (apart_notify event).loyal h

theorem loyal_carryOutAll (h : Loyal c) (effects : List Engine.Effect) :
    Loyal (c.carryOutAll effects).1 := by
  induction effects generalizing c with
  | nil => exact h
  | cons f rest ih => exact ih (loyal_carryOut h f)

theorem loyal_feed (h : Loyal c) (rounds : Nat) (inputs : List Engine.Input) :
    Loyal (c.feed rounds inputs).1 := by
  induction rounds generalizing c inputs with
  | zero => cases inputs <;> exact h
  | succ rounds ih =>
    cases inputs with
    | nil =>
      rw [feed_nil]
      exact h
    | cons i rest =>
      have hengine : Loyal { c with engine := (c.engine.handle i).1 } := Apart.loyal ⟨rfl, rfl⟩ h
      rw [feed_succ]
      exact ih (loyal_carryOutAll hengine _) _

theorem loyal_handle (h : Loyal c) (i : Engine.Input) : Loyal (c.handle i) :=
  Apart.loyal apart_publishStatus (loyal_feed h feedbackLimit [i])

/-! ## Turns -/

theorem loyal_emit (h : Loyal c) (ns name : String) (args : List Value) (reply : Option Label) :
    Loyal (c.emit ns name args reply) := by
  rw [emit]
  split
  · exact h
  · next id hns =>
    split
    · exact h
    · refine ((apart_sendAll _).trans apart_updateAckGauge).loyal ?_
      exact loyal_modifySocket h fun _ _ => .inl ⟨ns, hns⟩

theorem loyal_socketCreated (h : Loyal c) (ns : String) : Loyal (c.socketCreated ns) := by
  rw [socketCreated]
  split
  · exact h
  · split
    · exact h
    · next id hns => exact loyal_requestSocket h ⟨ns, hns⟩

theorem loyal_closeSocket (h : Loyal c) (ns : String) : Loyal (c.closeSocket ns) := by
  rw [closeSocket]
  split
  · exact h
  · next id hns =>
    refine apart_updateAckGauge.loyal ?_
    rw [leaveSocket]
    split
    · next hnone =>
      -- an entry without a socket leaves none behind
      intro key s hs
      refine (h key s hs).imp_left ?_
      rintro ⟨name, hname⟩
      refine ⟨name, ?_⟩
      rw [registered?_erase]
      split
      · next heq =>
        subst heq
        obtain rfl : id = key := Option.some.inj (hns.symm.trans hname)
        exact absurd (hnone.symm.trans hs) (by simp)
      · exact hname
    · next s hs =>
      refine ((apart_sendAll _).trans (apart_notifySocketClose _)).loyal ?_
      exact loyal_leave h hns s.bare_reset

/-- **A message for a namespace**: where it closes it, the socket leaves the client. -/
theorem loyal_route (h : Loyal c) (p : Packet) : Loyal (c.route p) := by
  rw [route]
  split
  · exact h
  · split
    · exact h
    · next id hns =>
      split
      · exact h
      · next s hs =>
        by_cases hd : p.kind = .disconnect
        · simp only [Socket.receive, hd]
          exact ((apart_notifySocketClose _).trans apart_updateAckGauge).loyal
            (loyal_leave h hns s.bare_reset)
        · have hmodify : Loyal (c.modifySocket id fun _ => (s.receive p).1) :=
            loyal_modifySocket h fun _ _ => .inl ⟨p.ns, hns⟩
          have hnotices : Loyal ((s.receive p).2.notices.foldl report
              (c.modifySocket id fun _ => (s.receive p).1)) :=
            (Apart.foldl (fun _ n => apart_report n) _ _).loyal hmodify
          have hcalls := loyal_callAll hnotices (s.receive p).2.calls
          dsimp only
          split
          · exact Apart.loyal ⟨rfl, rfl⟩ hcalls
          · exact ((apart_dispatch _ (Socket.receive_lifecycle s hd)).trans
              apart_updateAckGauge).loyal hcalls

/-- **Once everything was let go of, every socket is bare.** -/
theorem bare_finish (h : Loyal c) : AllBare c.finish :=
  bare_disconnectSockets (c := { c with timers := c.timers.cancelAll }) (Apart.loyal ⟨rfl, rfl⟩ h)

theorem loyal_ordered (h : Loyal c) {command : Command} (haside : command.input? = none) :
    Loyal (c.execute command) := by
  cases command with
  | emit ns name args reply => exact loyal_emit h ns name args reply
  | socketCreated ns => exact loyal_socketCreated h ns
  | closeSocket ns => exact loyal_closeSocket h ns
  | _ => cases haside

/-- **The pieces of a turn.** -/
theorem turnWise_loyal :
    TurnWise (fun (c : Client τ) (_ : List (Client τ × Work)) c' => Loyal c → Loyal c')
      fun _ => True where
  append h h' hc := h' (h hc)
  counted c metrics _ _ := Apart.loyal ⟨rfl, rfl⟩
  heard c i _ h := loyal_handle h i
  fed c id frame _ := Apart.loyal ⟨rfl, rfl⟩
  routed c p h := loyal_route h p
  received _ := Apart.loyal ⟨rfl, rfl⟩
  opened c h := loyal_handle h _
  lost c normal h := by
    have hdetached : Loyal { c with current := none } := Apart.loyal ⟨rfl, rfl⟩ h
    exact loyal_handle hdetached _
  fired c timers := Apart.loyal ⟨rfl, rfl⟩
  taken _ _ := Apart.loyal ⟨rfl, rfl⟩
  told c i _ h := loyal_handle h i
  ordered {c command rest} _ haside h := by
    have hrest : Loyal { c with commands := rest } := Apart.loyal ⟨rfl, rfl⟩ h
    exact loyal_ordered hrest haside
  drained deadline _ := Apart.loyal ⟨rfl, rfl⟩
  finished _ h := (bare_finish h).loyal

theorem Taken.loyal {t : Turn} (ht : Taken c t c') (h : Loyal c) : Loyal c' :=
  turnWise_loyal.turn (fun _ _ => trivial) (fun _ _ _ _ _ => trivial) ht h

/-! ## Runs -/

theorem Move.loyal {marks : List Mark} (m : Move c marks c') (h : Loyal c) : Loyal c' := by
  cases m with
  | call a => exact loyal_call h a
  | on id name listener => exact loyal_on h id name listener
  | turn t ht => exact (taken_of_turn? ht).loyal h
  | transport transport => exact Apart.loyal ⟨rfl, rfl⟩ h
  | elapse time =>
    have htimers : Loyal { c with timers := c.timers.elapseTo time } := Apart.loyal ⟨rfl, rfl⟩ h
    rcases elapseTo_cases c time with heq | ⟨-, -, -, heq⟩ <;> rw [heq]
    · exact htimers
    · exact (bare_finish htimers).loyal
  | silence => exact (bare_finish h).loyal

omit [Transport τ] in
/-- A client to which nothing has happened yet has no sockets. -/
theorem Unused.loyal (h : Unused c) : Loyal c := loyal_of_sockets h.sockets

/-- **A socket that has left the client stays empty**, by induction on the moves of the run. -/
theorem Run.loyal {trace : List Mark} (h : Run c trace c') (hc : Loyal c) : Loyal c' := by
  induction h with
  | nil => exact hc
  | move _ m ih => exact m.loyal ih

end Client

end RealtimeClient
