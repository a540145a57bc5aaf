import Mathlib
import RealtimeClient.Proofs.Client.Assembly
import RealtimeClient.Proofs.Client.Ledger
import RealtimeClient.Proofs.Client.Spoken

/-!
# Every namespace is asked for, and only once

A namespace can be asked for on two occasions: when the session opens, and when the task takes the command
that came with a new socket.  Between two turns of an open session there is no namespace that both have
missed, however the calls of the application, the turns of the task and the transport are interleaved; and
there is none that is asked for on both occasions, unless it was refused in between.

* `Account.socketCreated`, `Ledger.created` — the command that came with a new socket.
* `keepsLedger_follows`, `History.ledger` — **everything that is done keeps the ledger**, and so does a run.
* `namespaces_requested` — **every namespace is asked for, and only once on a connection.**
* `persistent_requested` — a namespace that is refused before its command is taken, and asked for again.
-/

namespace RealtimeClient.Client

variable {τ : Type} [Transport τ] {c c' c₀ : Client τ} {history deeds : List Deed} {revision : Revision}
  {id : SocketId} {ns : String}

/-! ## Commands -/

/-- A socket is told that the session is open: the other namespaces stay as they are. -/
theorem VisitedAt.requestSocket (h : VisitedAt history c ns) (id : SocketId) :
    VisitedAt (history ++ c.requestDeeds id) (c.requestSocket id) ns := by
  have hopened : .opened ∉ c.requestDeeds id := by
    rw [requestDeeds]
    split <;> simp [handed]
  have hcommands : (c.requestSocket id).commands = c.commands :=
    congrArg Front.commands (front_requestSocket id)
  intro other hother
  have hbefore : c.registered? ns = some other := by rwa [registered?, registry_requestSocket] at hother
  refine (h other hbefore).append hopened (fun s =>
    requested_of_retains (retains_requestSocket id) ⟨ns, hother⟩) ?_
  rw [hcommands]
  exact fun hm => hm

/-- **The command for a new socket.**  Its namespace is asked for if the session is open, and is the only
one that may have been left out till then. -/
theorem Account.socketCreated (h : Account revision history c)
    (hothers : c.engine.state = .opened → c.Alive → ∀ key ≠ ns, VisitedAt history c key) :
    Ledger revision (history ++ c.commandDeeds (.socketCreated ns)) (c.socketCreated ns) := by
  by_cases hopen : c.engine.state = .opened
  · cases hns : c.registered? ns with
    | none =>
      simp only [commandDeeds, Client.socketCreated, hopen, hns, ne_eq, not_true, if_false,
        List.append_nil]
      refine ⟨h, fun _ halive key => ?_⟩
      by_cases hkey : key = ns
      · intro id hid
        cases hns.symm.trans (hkey ▸ hid)
      · exact hothers hopen halive key hkey
    | some id =>
      simp only [commandDeeds, Client.socketCreated, hopen, hns, ne_eq, not_true, if_false]
      refine ⟨h.request hopen hns, fun _ halive key => ?_⟩
      by_cases hkey : key = ns
      · intro other hother
        rw [registered?, registry_requestSocket, hkey] at hother
        obtain rfl := Option.some.inj (hns.symm.trans hother)
        exact .inl (h.requested hns)
      · exact (hothers hopen (halive.of_phase (congrArg Core.phase (core_requestSocket id)).symm) key
          hkey).requestSocket id
  · simp only [commandDeeds, Client.socketCreated, hopen, ne_eq, not_false_iff, if_true,
      List.append_nil]
    exact ⟨h, fun hs => absurd hs hopen⟩

theorem Ledger.created (h : Ledger revision history c) {rest : List Command}
    (hcom : c.commands = .socketCreated ns :: rest) :
    Ledger revision (history ++ ({ c with commands := rest } : Client τ).commandDeeds (.socketCreated ns))
      (({ c with commands := rest } : Client τ).socketCreated ns) := by
  have haccount : Account revision history { c with commands := rest } :=
    h.account.aside ⟨rfl, rfl⟩ rfl rfl
  exact haccount.socketCreated fun hs halive key hkey =>
    h.take hcom hs halive fun heq => hkey (Command.socketCreated.inj heq).symm

/-! ## The end of the task -/

omit [Transport τ] in
/-- A task that winds up still takes events. -/
theorem Ledger.drain (h : Ledger revision history c) (deadline : Nat) (hphase : c.phase = .running) :
    Ledger revision history { c with phase := .draining deadline } where
  account := h.account.aside ⟨rfl, rfl⟩ rfl rfl
  visited hs _ := h.visited hs (.inl hphase)

/-- At the end of the task no socket belongs to the client any more. -/
theorem Account.finish (h : Account revision history c) : Account revision history c.finish where
  constant := (congrArg Engine.revision engine_finish).trans h.constant
  grown _ _ hns := by cases hns
  sourced := h.sourced_lives lives_finish
  idle hs := h.idle ((congrArg Engine.state engine_finish).symm.trans hs)
  asked _ _ _ hm := by
    obtain ⟨ns, hns⟩ := hm
    cases hns
  fair := h.fair

theorem Ledger.finish (h : Ledger revision history c) : Ledger revision history c.finish := by
  refine .dead h.account.finish ?_
  rintro (hphase | ⟨deadline, hphase⟩) <;> cases hphase

/-! ## Runs -/

/-- **The ledger is kept**, with what is done entered in it. -/
def KeepsLedger (revision : Revision) (c : Client τ) (deeds : List Deed) (c' : Client τ) : Prop :=
  ∀ history, Ledger revision history c → Ledger revision (history ++ deeds) c'

omit [Transport τ] in
theorem keepsLedger_nil (h : ∀ history, Ledger revision history c → Ledger revision history c') :
    KeepsLedger revision c [] c' := fun history hledger => by
  rw [List.append_nil]
  exact h history hledger

/-- **Everything that is done keeps the ledger.** -/
theorem keepsLedger_follows : Follows (τ := τ) (KeepsLedger revision) where
  still hapart hengine hfront hphase _ := keepsLedger_nil fun _ h =>
    h.aside hapart (congrArg Engine.state hengine) (congrArg Engine.revision hengine) hphase
      (congrArg Front.commands hfront)
  append hfirst hrest history h := by
    rw [← List.append_assoc]
    exact hrest _ (hfirst history h)
  call _ a _ h := h.keeps (keeps_call a)
  on _ id name listener _ h := h.keeps (keeps_on id name listener)
  round _ i _ h := h.round i
  route _ p _ h := h.route p
  emit _ ns name args reply _ h := h.keeps (keeps_emit ns name args reply)
  closeSocket _ ns _ h := h.keeps (keeps_closeSocket h.account.filed ns)
  created hcom _ h := h.created hcom
  take hcom hno := keepsLedger_nil fun _ h => h.take_other hcom hno
  drain deadline hphase := keepsLedger_nil fun _ h => h.drain deadline hphase
  finish _ := keepsLedger_nil fun _ h => h.finish

omit [Transport τ] in
/-- **A run begins with an empty ledger.** -/
theorem Ledger.of_unused (h : Unused c) : Ledger c.engine.revision [] c := by
  obtain ⟨revision, policy, hengine⟩ := h.engine
  have hstate : c.engine.state = .closed := by
    rw [hengine]
    rfl
  have hnone (ns : String) (id : SocketId) : c.registered? ns ≠ some id := by
    intro hns
    rw [registered?, h.registry] at hns
    cases hns
  refine ⟨⟨rfl, fun ns id hns => absurd hns (hnone ns id), ?_, fun hs => ?_, fun hs => ?_, fair_nil⟩,
    fun hs => ?_⟩
  · exact fun _ _ hm => absurd hm List.not_mem_nil
  · cases hstate.symm.trans hs
  · cases hstate.symm.trans hs
  · cases hstate.symm.trans hs

theorem History.ledger (h₀ : Unused c₀) (h : History c₀ history c) :
    Ledger c₀.engine.revision history c :=
  keepsLedger_follows.history h [] (.of_unused h₀)

/-! ## The requests of a run -/

/-- **Between two requests of one socket** a connection is dialed, or the socket is refused. -/
theorem Fair.between (h : Fair revision history) {earlier between later : List Deed} {p q : Packet}
    (heq : history = earlier ++ .handed (some id) p :: between ++ .handed (some id) q :: later)
    (hp : p.isRequest = true) (hq : q.isRequest = true) : .dialed ∈ between ∨ .refused id ∈ between := by
  obtain ⟨key, hsource, hasked, -⟩ := h (earlier ++ .handed (some id) p :: between) _ q later heq hq
  cases hsource
  by_contra hno
  rw [not_or] at hno
  refine hasked ⟨earlier, _, between, rfl, ⟨p, rfl, hp⟩, ?_⟩
  rintro y hy (rfl | rfl)
  · exact hno.1 hy
  · exact hno.2 hy

omit [Transport τ] in
/-- Who asks is a socket of the namespace, and the third revision does not ask for the default one. -/
theorem Account.source (h : Account revision history c) {source : Option SocketId} {p : Packet}
    (hm : .handed source p ∈ history) (hp : p.isRequest = true) :
    ∃ id s, source = some id ∧ c.socket? id = some s ∧ s.ns = p.ns ∧
      (revision = .v3 → p.ns ≠ defaultNamespace) := by
  obtain ⟨id, s, rfl, hs, hns⟩ := h.sourced source p hm hp
  obtain ⟨earlier, later, heq⟩ := List.append_of_mem hm
  obtain ⟨-, -, -, hdefault⟩ := h.fair earlier (some id) p later heq hp
  refine ⟨id, s, rfl, hs, hns, fun hrevision hdef => ?_⟩
  rw [hrevision] at hdefault
  cases hdefault hdef

/-- **Every namespace is asked for, and only once.**  In every run, whatever the transport does:

* While the session is open, between two turns of a task that has not come to its end, every socket that
  belongs to the client counts as having asked for its namespace, or was refused since the connection
  opened, or was made since then and its command has not been taken yet.  (Commands are taken in order, so
  the last one in the queue for a namespace is that of the socket which the namespace has now.)
* Between two requests on behalf of one socket a connection was dialed, or the socket was refused.
* Every request is on behalf of a socket of its namespace, and under the third revision none is for the
  default namespace.
* Whatever the client has sent is among the packets that the history has. -/
theorem namespaces_requested (h₀ : Unused c₀) (h : History c₀ history c) :
    (c.engine.state = .opened → c.Alive → ∀ ns id, c.registered? ns = some id →
      (∃ s, c.socket? id = some s ∧ s.requested = true) ∨ Refused history id ∨
        Joined history id ∧ .socketCreated ns ∈ c.commands) ∧
    (∀ earlier id p between q later,
      history = earlier ++ .handed (some id) p :: between ++ .handed (some id) q :: later →
      p.isRequest = true → q.isRequest = true → .dialed ∈ between ∨ .refused id ∈ between) ∧
    (∀ source p, .handed source p ∈ history → p.isRequest = true →
      ∃ id s, source = some id ∧ c.socket? id = some s ∧ s.ns = p.ns ∧
        (c₀.engine.revision = .v3 → p.ns ≠ defaultNamespace)) ∧
    c.spoken.Sublist (c₀.spoken ++ history.filterMap Deed.packet?) := by
  have hledger : Ledger c₀.engine.revision history c := h.ledger h₀
  refine ⟨hledger.visited, ?_, fun source p => hledger.account.source, h.spoken⟩
  intro earlier id p between q later heq hp hq
  exact hledger.account.fair.between heq hp hq

/-! ## A refusal that comes before the command -/

theorem History.turned {c₀ c : Client MemoryTransport} (h : History c₀ history c) (t : Turn)
    (ht : (c.turn? t).isSome = true) : History c₀ (history ++ c.turnDeeds t) (c.turned t) :=
  h.stride (.turn t (turn?_eq_turned ht))

theorem History.acted {c₀ c : Client MemoryTransport} (h : History c₀ history c)
    (a : MemoryTransport.PeerAction) : History c₀ history (c.acted a) := by
  have hacted : History c₀ (history ++ []) (c.acted a) := h.stride (.transport c _)
  rwa [List.append_nil] at hacted

/-- The application asks for a connection and for a namespace.  The session opens before the task has
taken the second command, and both namespaces are asked for. -/
def impatient : Client MemoryTransport :=
  ((((fresh.call (.connect .nil .nil)).turned .command).call (.join "/a")).acted .accept).turned .event

/-- The peer refuses the namespace, and then the task takes the command. -/
def persistent : Client MemoryTransport :=
  ((impatient.acted (.send (.text "44/a,\"no\""))).turned .event).turned .command

def persistentHistory : List Deed :=
  [.dialed, .joined 0, .opened, .handed (some 1) (.connect "/" none),
    .handed (some 0) (.connect "/a" none), .refused 0, .handed (some 0) (.connect "/a" none)]

theorem persistent_history : History fresh persistentHistory persistent := by
  have hconnect : History fresh _ (fresh.call (.connect .nil .nil)) := .stride .nil (.call _ _)
  have hdialed := hconnect.turned .command (by decide +kernel)
  have hjoined := hdialed.stride (.call _ (.join "/a"))
  have hopened : History fresh _ impatient := (hjoined.acted .accept).turned .event (by decide +kernel)
  have hrefused := (hopened.acted (.send (.text "44/a,\"no\""))).turned .event (by decide +kernel)
  have hasked : History fresh _ persistent := hrefused.turned .command (by decide +kernel)
  convert hasked using 1
  decide +kernel

/-- **A namespace that is asked for twice on a connection**: it was refused in between. -/
theorem persistent_requested :
    Unused fresh ∧ History fresh persistentHistory persistent ∧ persistent.engine.state = .opened ∧
      persistent.Alive ∧ persistent.registered? "/a" = some 0 ∧
      ((∃ s, persistent.socket? 0 = some s ∧ s.requested = true) ∨ Refused persistentHistory 0 ∨
        Joined persistentHistory 0 ∧ .socketCreated "/a" ∈ persistent.commands) ∧
      (.dialed ∈ [Deed.refused 0] ∨ .refused 0 ∈ [Deed.refused 0]) := by
  obtain ⟨hvisited, honce, -⟩ := namespaces_requested fresh_unused persistent_history
  have hopened : persistent.engine.state = .opened := by decide +kernel
  have halive : persistent.Alive := .inl (by decide +kernel)
  have hregistered : persistent.registered? "/a" = some 0 := by decide +kernel
  refine ⟨fresh_unused, persistent_history, hopened, halive, hregistered,
    hvisited hopened halive "/a" 0 hregistered, ?_⟩
  exact honce [.dialed, .joined 0, .opened, .handed (some 1) (.connect "/" none)] 0
    (.connect "/a" none) _ (.connect "/a" none) [] rfl rfl rfl

end RealtimeClient.Client
