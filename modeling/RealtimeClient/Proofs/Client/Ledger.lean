import Mathlib
import RealtimeClient.Proofs.Client.Keeping
import RealtimeClient.Proofs.Client.Leaving

/-!
# The ledger of requests

What a history says about the requests of namespaces is set against what the sockets know: a socket that
has asked on this connection counts as having asked, so that it does not ask again; and for a namespace
that has not been asked for there is a command in the queue.

* `Fair` — nobody asks who has asked already.
* `Account` — the sockets agree with the history; `Attended`, `Visited` — a socket is seen to, and so all
  are; `Ledger` — both.
* `Account.ask`, `Account.request` — a socket asks, and only if it has not; `Account.sweep` — all sockets are
  told so when the session opens.
* `Ledger.keeps` — what keeps the requests keeps the ledger.
* `Ledger.round` — an input to the engine.
* `Ledger.refuse`, `Ledger.route` — a message for a namespace, which may refuse it.
-/

namespace RealtimeClient.Client

open Socket (Retains Orderly)

variable {τ : Type} {c c' : Client τ} {history deeds : List Deed} {revision : Revision}
  {id : SocketId} {ns : String}

/-! ## What has happened since -/

theorem not_handed {source : Option SocketId} {p : Packet} (hasks : ∀ x ∈ deeds, x.asks = false)
    (hp : p.isRequest = true) : .handed source p ∉ deeds := fun hm => by
  cases hp.symm.trans (hasks _ hm)

/-- By entries by which nothing is asked for, a socket asks for nothing. -/
theorem Asked.of_append (h : Asked (history ++ deeds) id) (hasks : ∀ x ∈ deeds, x.asks = false) :
    Asked history id ∧ .dialed ∉ deeds ∧ .refused id ∉ deeds := by
  rcases since_append.1 h with hnew | ⟨hold, hstops⟩
  · obtain ⟨x, hx, p, rfl, hp⟩ := hnew.exists_mem
    exact absurd hx (not_handed hasks hp)
  · exact ⟨hold, fun hm => hstops _ hm (.inl rfl), fun hm => hstops _ hm (.inr rfl)⟩

theorem Refused.append (h : Refused history id) (hopened : .opened ∉ deeds) :
    Refused (history ++ deeds) id :=
  since_append.2 (.inr ⟨h, fun _ hx heq => hopened (heq ▸ hx)⟩)

theorem Joined.append (h : Joined history id) (hopened : .opened ∉ deeds) :
    Joined (history ++ deeds) id :=
  since_append.2 (.inr ⟨h, fun _ hx heq => hopened (heq ▸ hx)⟩)

theorem joined_append_of_mem (h : .joined id ∈ deeds) (hopened : .opened ∉ deeds) :
    Joined (history ++ deeds) id :=
  since_append.2 (.inl (since_of_mem h rfl fun _ hx heq => hopened (heq ▸ hx)))

theorem not_opened_of_plain (h : ∀ x ∈ deeds, x.isPlain = true) : .opened ∉ deeds :=
  fun hm => Bool.false_ne_true (h _ hm)

/-! ## The books -/

/-- **A fair history**: a packet that asks for a namespace is handed over on behalf of a socket that had
not asked on this connection, or was refused since; and it does not ask for the default namespace unless
the revision wants that. -/
def Fair (revision : Revision) (history : List Deed) : Prop :=
  ∀ earlier source p later, history = earlier ++ .handed source p :: later → p.isRequest = true →
    ∃ id, source = some id ∧ ¬Asked earlier id ∧
      (p.ns = defaultNamespace → revision.connectsDefaultNamespace = true)

theorem fair_nil : Fair revision [] := by
  intro earlier source p later h
  simp at h

theorem Fair.append (h : Fair revision history) (hasks : ∀ x ∈ deeds, x.asks = false) :
    Fair revision (history ++ deeds) := by
  intro earlier source p later heq hp
  rcases split_append heq with ⟨between, hhistory, -⟩ | ⟨between, -, hdeeds⟩
  · exact h earlier source p between hhistory hp
  · have hm : .handed source p ∈ deeds := by simp [hdeeds]
    exact absurd hm (not_handed hasks hp)

/-- A socket that has not asked asks. -/
theorem Fair.ask (h : Fair revision history) {p : Packet} (hasked : ¬Asked history id)
    (hns : p.ns = defaultNamespace → revision.connectsDefaultNamespace = true) :
    Fair revision (history ++ [.handed (some id) p]) := by
  intro earlier source q later heq hq
  rcases split_append heq with ⟨between, hhistory, -⟩ | ⟨between, rfl, hdeeds⟩
  · exact h earlier source q between hhistory hq
  · cases between with
    | nil =>
      obtain ⟨⟨⟩, -⟩ := List.cons.inj hdeeds
      rw [List.append_nil]
      exact ⟨id, rfl, hasked, hns⟩
    | cons x rest => simp at hdeeds

/-- **The books are right.**  While the transport is being opened nobody has asked on the connection to
come; while the session is open, whoever has asked counts as such. -/
structure Account (revision : Revision) (history : List Deed) (c : Client τ) : Prop where
  constant : c.engine.revision = revision
  /-- The sockets that belong to the client have grown from new ones. -/
  grown : ∀ ns id, c.registered? ns = some id →
    ∃ ops, c.socket? id = some ((Socket.new ns).after ops)
  /-- Who asks for a namespace is a socket of it. -/
  sourced : ∀ source p, .handed source p ∈ history → p.isRequest = true →
    ∃ id s, source = some id ∧ c.socket? id = some s ∧ s.ns = p.ns
  idle : c.engine.state = .opening → ∀ id, ¬Asked history id
  asked : c.engine.state = .opened → ∀ id, Asked history id → c.Member id →
    ∀ s, c.socket? id = some s → s.requested = true
  fair : Fair revision history

/-- **A socket is seen to**: it counts as having asked for its namespace, or was refused, or was made for
the application and has its command in the queue. -/
def Attended (history : List Deed) (c : Client τ) (ns : String) (id : SocketId) : Prop :=
  (∃ s, c.socket? id = some s ∧ s.requested = true) ∨ Refused history id ∨
    Joined history id ∧ .socketCreated ns ∈ c.commands

/-- **The socket of a namespace is seen to**, if it has one. -/
def VisitedAt (history : List Deed) (c : Client τ) (ns : String) : Prop :=
  ∀ id, c.registered? ns = some id → Attended history c ns id

/-- The same of every namespace. -/
def Visited (history : List Deed) (c : Client τ) : Prop := ∀ ns, VisitedAt history c ns

/-- A socket that counts as having asked still does while it belongs to the client. -/
theorem requested_of_retains (h : Evolves Retains c c') (hm : c'.Member id) {s : Socket}
    (hs : c.socket? id = some s) (hrequested : s.requested = true) :
    ∃ s', c'.socket? id = some s' ∧ s'.requested = true := by
  obtain ⟨s', hs', -, hretains⟩ := h.sockets id s hs
  exact ⟨s', hs', hretains hm hrequested⟩

/-- **A socket that is seen to** still is if it still counts as having asked and no command is lost. -/
theorem Attended.append (h : Attended history c ns id) (hopened : .opened ∉ deeds)
    (hrequested : ∀ s, c.socket? id = some s → s.requested = true →
      ∃ s', c'.socket? id = some s' ∧ s'.requested = true)
    (hcommands : .socketCreated ns ∈ c.commands → .socketCreated ns ∈ c'.commands) :
    Attended (history ++ deeds) c' ns id := by
  rcases h with ⟨s, hs, hasked⟩ | hrefused | ⟨hjoined, hcommand⟩
  · exact .inl (hrequested s hs hasked)
  · exact .inr (.inl (hrefused.append hopened))
  · exact .inr (.inr ⟨hjoined.append hopened, hcommands hcommand⟩)

namespace Account

theorem filed (h : Account revision history c) : Filed c := fun ns id hns => by
  obtain ⟨ops, hs⟩ := h.grown ns id hns
  exact ⟨_, hs, by simp [Socket.new]⟩

theorem orderly (h : Account revision history c) (hns : c.registered? ns = some id) {s : Socket}
    (hs : c.socket? id = some s) : s.Orderly := by
  obtain ⟨ops, hs'⟩ := h.grown ns id hns
  obtain rfl := Option.some.inj (hs.symm.trans hs')
  exact (Orderly.new ns).after ops

/-- Who has asked is a socket of the client's. -/
theorem exists_of_asked (h : Account revision history c) (hasked : Asked history id) :
    ∃ s, c.socket? id = some s := by
  obtain ⟨x, hx, p, rfl, hp⟩ := Since.exists_mem hasked
  obtain ⟨key, s, heq, hs, -⟩ := h.sourced _ p hx hp
  cases heq
  exact ⟨s, hs⟩

theorem asked_retains (h : Account revision history c) (hr : Evolves Retains c c')
    (hs : c.engine.state = .opened) (hasked : Asked history id) (hm : c'.Member id) {s' : Socket}
    (hs' : c'.socket? id = some s') : s'.requested = true := by
  obtain ⟨s, hsock⟩ := h.exists_of_asked hasked
  have hbefore := h.asked hs id hasked (hr.member hsock hm) s hsock
  obtain ⟨t, ht, hrequested⟩ := requested_of_retains hr hm hsock hbefore
  exact Option.some.inj (ht.symm.trans hs') ▸ hrequested

theorem grown_lives (h : Account revision history c) (hl : Lives c c') (ns : String) (id : SocketId)
    (hns : c'.registered? ns = some id) : ∃ ops, c'.socket? id = some ((Socket.new ns).after ops) := by
  rcases hl.entries ns id hns with hold | ⟨-, s, hs, -, ops, rfl⟩
  · obtain ⟨ops, hs⟩ := h.grown ns id hold
    obtain ⟨s, hs', -, hlives⟩ := hl.sockets id _ hs
    obtain ⟨more, rfl⟩ := hlives ⟨ns, hns⟩
    exact ⟨ops ++ more, hs'.trans (congrArg some (List.foldl_append ..).symm)⟩
  · exact ⟨ops, hs⟩

/-- Sockets are never forgotten. -/
theorem sourced_lives (h : Account revision history c) (hl : Lives c c') (source : Option SocketId)
    (p : Packet) (hm : .handed source p ∈ history) (hp : p.isRequest = true) :
    ∃ id s, source = some id ∧ c'.socket? id = some s ∧ s.ns = p.ns := by
  obtain ⟨id, s, hsource, hs, hns⟩ := h.sourced source p hm hp
  obtain ⟨s', hs', hns', -⟩ := hl.sockets id s hs
  exact ⟨id, s', hsource, hs', hns'.trans hns⟩

theorem sourced_append (h : Account revision history c) (hl : Lives c c')
    (hasks : ∀ x ∈ deeds, x.asks = false) (source : Option SocketId) (p : Packet)
    (hm : .handed source p ∈ history ++ deeds) (hp : p.isRequest = true) :
    ∃ id s, source = some id ∧ c'.socket? id = some s ∧ s.ns = p.ns :=
  h.sourced_lives hl source p ((List.mem_append.1 hm).resolve_right (not_handed hasks hp)) hp

/-- **Nothing is asked for, and sockets that count as having asked still do.** -/
theorem retains (h : Account revision history c) (hl : Lives c c') (hr : Evolves Retains c c')
    (hengine : c'.engine = c.engine) (hasks : ∀ x ∈ deeds, x.asks = false) :
    Account revision (history ++ deeds) c' := by
  refine ⟨hengine ▸ h.constant, h.grown_lives hl, h.sourced_append hl hasks, ?_, ?_,
    h.fair.append hasks⟩
  · intro hs id hasked
    exact h.idle (hengine ▸ hs) id (hasked.of_append hasks).1
  · intro hs id hasked hm s' hs'
    exact h.asked_retains hr (hengine ▸ hs) (hasked.of_append hasks).1 hm hs'

theorem keeps (h : Account revision history c) (hk : Keeps c deeds c') :
    Account revision (history ++ deeds) c' :=
  h.retains hk.lives hk.retains hk.engine fun x hx => Deed.asks_of_isPlain (hk.plain x hx)

/-- **Outside an open session** it is enough that nothing is asked for, and that a connection that is
being opened was just dialed. -/
theorem closed (h : Account revision history c) (hl : Lives c c')
    (hrevision : c'.engine.revision = c.engine.revision) (hasks : ∀ x ∈ deeds, x.asks = false)
    (hs : c'.engine.state ≠ .opened)
    (hopening : c'.engine.state = .opening → c.engine.state = .opening ∨ .dialed ∈ deeds) :
    Account revision (history ++ deeds) c' := by
  refine ⟨hrevision.trans h.constant, h.grown_lives hl, h.sourced_append hl hasks, ?_,
    fun ho => absurd ho hs, h.fair.append hasks⟩
  intro ho id hasked
  obtain ⟨hold, hdialed, -⟩ := hasked.of_append hasks
  rcases hopening ho with hbefore | hmem
  · exact h.idle hbefore id hold
  · exact hdialed hmem

/-- What is not looked at may change. -/
theorem aside (h : Account revision history c) (hapart : Apart c c')
    (state : c'.engine.state = c.engine.state) (constant : c'.engine.revision = c.engine.revision) :
    Account revision history c' where
  constant := constant.trans h.constant
  grown := h.grown_lives (.of_apart hapart)
  sourced := h.sourced_lives (.of_apart hapart)
  idle hs := h.idle (state ▸ hs)
  asked hs id hasked hm s hs' := by
    obtain ⟨ns, hns⟩ := hm
    exact h.asked (state ▸ hs) id hasked ⟨ns, (hapart.registered? ns).symm.trans hns⟩ s
      ((hapart.socket? id).symm.trans hs')
  fair := h.fair

end Account

/-- **What keeps the requests keeps every namespace asked for.** -/
theorem Visited.keeps (h : Visited history c) (hk : Keeps c deeds c') (halive : c.Alive) :
    Visited (history ++ deeds) c' := by
  have hopened := not_opened_of_plain hk.plain
  intro ns id hns
  rcases hk.entries halive ns id hns with hold | ⟨hjoined, hcommand⟩
  · exact (h ns id hold).append hopened (fun s => requested_of_retains hk.retains ⟨ns, hns⟩)
      (hk.commands _)
  · exact .inr (.inr ⟨joined_append_of_mem hjoined hopened, hcommand⟩)

/-! ## The ledger -/

/-- **The books are right, and every namespace is asked for** while the session is open. -/
structure Ledger (revision : Revision) (history : List Deed) (c : Client τ) : Prop where
  account : Account revision history c
  visited : c.engine.state = .opened → c.Alive → Visited history c

namespace Ledger

theorem keeps (h : Ledger revision history c) (hk : Keeps c deeds c') :
    Ledger revision (history ++ deeds) c' where
  account := h.account.keeps hk
  visited hs halive := by
    have hbefore : c.Alive := halive.of_phase hk.phase.symm
    exact (h.visited (hk.engine ▸ hs) hbefore).keeps hk hbefore

/-- What is not looked at may change. -/
theorem aside (h : Ledger revision history c) (hapart : Apart c c')
    (state : c'.engine.state = c.engine.state) (constant : c'.engine.revision = c.engine.revision)
    (phase : c'.phase = c.phase) (commands : c'.commands = c.commands) : Ledger revision history c' where
  account := h.account.aside hapart state constant
  visited hs halive ns id hns := by
    rw [Attended, hapart.socket?, commands]
    exact h.visited (state ▸ hs) (halive.of_phase phase.symm) ns id
      ((hapart.registered? ns).symm.trans hns)

/-- Only the core of the task and the application's side are looked at besides. -/
theorem of_core (h : Ledger revision history c) (hapart : Apart c c') (core : c'.core = c.core)
    (front : c'.front = c.front) : Ledger revision history c' :=
  h.aside hapart (congrArg (fun core => core.engine.state) core)
    (congrArg (fun core => core.engine.revision) core) (congrArg Core.phase core)
    (congrArg Front.commands front)

/-- After the end of the task nobody looks at the commands any more. -/
theorem dead (h : Account revision history c) (hdead : ¬c.Alive) : Ledger revision history c where
  account := h
  visited _ halive := absurd halive hdead

/-- **A command is taken.**  Only the namespace of a new socket can depend on it. -/
theorem take (h : Ledger revision history c) {command : Command} {rest : List Command}
    (hcom : c.commands = command :: rest) (hs : c.engine.state = .opened) (halive : c.Alive)
    (hne : command ≠ .socketCreated ns) : VisitedAt history { c with commands := rest } ns := by
  intro id hns
  refine (h.visited hs halive ns id hns).imp_right (Or.imp_right fun hjoined => ⟨hjoined.1, ?_⟩)
  have hmem := hjoined.2
  rw [hcom] at hmem
  exact (List.mem_cons.1 hmem).resolve_left fun heq => hne heq.symm

theorem take_other (h : Ledger revision history c) {command : Command} {rest : List Command}
    (hcom : c.commands = command :: rest) (hno : ∀ ns, command ≠ .socketCreated ns) :
    Ledger revision history { c with commands := rest } where
  account := h.account.aside ⟨rfl, rfl⟩ rfl rfl
  visited hs halive ns := h.take hcom hs halive (hno ns)

end Ledger

section Transport

variable [Transport τ]

/-! ## Asking -/

/-- Whoever is told that the session is open has asked then. -/
theorem Account.requested (h : Account revision history c) (hns : c.registered? ns = some id) :
    ∃ s, (c.requestSocket id).socket? id = some s ∧ s.requested = true := by
  obtain ⟨ops, hs⟩ := h.grown ns id hns
  refine ⟨_, ?_, Socket.requestOn_requested (h.orderly hns hs) c.engine.revision⟩
  simp only [requestSocket, hs]
  rw [(apart_dispatch _ (Socket.requestOn_lifecycle _ _)).socket?, socket?_modifySocket, if_pos rfl, hs]
  rfl

theorem retains_requestSocket (id : SocketId) : Evolves Retains c (c.requestSocket id) :=
  evolves_requestSocket Retains.refl fun s => s.retains_requestOn _

/-- **A socket that had not asked asks.** -/
theorem Account.ask (h : Account revision history c) (hopen : c.engine.state = .opened)
    (hns : c.registered? ns = some id) {s : Socket} (hs : c.socket? id = some s)
    (hrequested : s.requested = false) {p : Packet} (hp : s.ns = p.ns)
    (hdefault : p.ns = defaultNamespace → revision.connectsDefaultNamespace = true) :
    Account revision (history ++ [.handed (some id) p]) (c.requestSocket id) := by
  have hengine : (c.requestSocket id).engine = c.engine :=
    congrArg Core.engine (core_requestSocket id)
  have hlives : Lives c (c.requestSocket id) := lives_requestSocket id
  have hasked : ¬Asked history id := fun hasked => by
    rw [h.asked hopen id hasked ⟨ns, hns⟩ s hs] at hrequested
    cases hrequested
  refine ⟨hengine ▸ h.constant, h.grown_lives hlives, ?_, ?_, ?_, h.fair.ask hasked hdefault⟩
  · intro source q hm hq
    rcases List.mem_append.1 hm with hm | hm
    · exact h.sourced_lives hlives source q hm hq
    · obtain ⟨⟨⟩⟩ := List.mem_singleton.1 hm
      obtain ⟨s', hs', hns', -⟩ := hlives.sockets id s hs
      exact ⟨id, s', rfl, hs', hns'.trans hp⟩
  · intro hopening
    rw [hengine, hopen] at hopening
    cases hopening
  · intro _ key hkey hm s' hs'
    rcases since_append.1 hkey with hnew | ⟨hold, -⟩
    · obtain ⟨x, hx, q, rfl, -⟩ := hnew.exists_mem
      obtain ⟨⟨⟩⟩ := List.mem_singleton.1 hx
      obtain ⟨t, ht, htrue⟩ := h.requested hns
      exact Option.some.inj (ht.symm.trans hs') ▸ htrue
    · exact h.asked_retains (retains_requestSocket id) hopen hold hm hs'

/-- **A socket is told that the session is open.**  Who has asked counts as such and does not ask again. -/
theorem Account.request (h : Account revision history c) (hopen : c.engine.state = .opened)
    (hns : c.registered? ns = some id) :
    Account revision (history ++ c.requestDeeds id) (c.requestSocket id) := by
  obtain ⟨ops, hs⟩ := h.grown ns id hns
  have hdeeds : c.requestDeeds id =
      handed id (((Socket.new ns).after ops).requestOn c.engine.revision).2.outbound := by
    simp only [requestDeeds, hs]
  rw [hdeeds]
  rcases Socket.requestOn_cases (h.orderly hns hs) c.engine.revision with
    hnothing | ⟨hrequested, hdefault, hconnect⟩
  · exact h.retains (lives_requestSocket id) (retains_requestSocket id)
      (congrArg Core.engine (core_requestSocket id)) fun x hx =>
        Deed.asks_of_isPlain (plain_handed hnothing x hx)
  · rw [hconnect]
    exact h.ask hopen hns hs hrequested rfl fun hdef => h.constant ▸ hdefault hdef

/-- **Sockets are told one after the other**, and count as having asked then. -/
theorem Account.requestAll (h : Account revision history c) (hopen : c.engine.state = .opened)
    {ids : List SocketId} (hids : ∀ id ∈ ids, c.Member id) :
    Account revision (history ++ eachDeeds requestSocket requestDeeds c ids)
        (ids.foldl requestSocket c) ∧
      ∀ id, c.Member id → (id ∈ ids ∨ ∃ s, c.socket? id = some s ∧ s.requested = true) →
        ∃ s, (ids.foldl requestSocket c).socket? id = some s ∧ s.requested = true := by
  induction ids generalizing c history with
  | nil =>
    refine ⟨?_, fun id _ hid => hid.resolve_left List.not_mem_nil⟩
    rwa [eachDeeds, List.append_nil]
  | cons key rest ih =>
    obtain ⟨ns, hns⟩ := hids key List.mem_cons_self
    have hmember {id : SocketId} (hm : c.Member id) : (c.requestSocket key).Member id := by
      obtain ⟨ns, hns⟩ := hm
      exact ⟨ns, by rwa [registered?, registry_requestSocket]⟩
    obtain ⟨hrest, hrequested⟩ := ih (h.request hopen hns)
      ((congrArg (fun core => core.engine.state) (core_requestSocket key)).trans hopen)
      fun id hid => hmember (hids id (List.mem_cons_of_mem key hid))
    refine ⟨?_, fun id hm hid => hrequested id (hmember hm) ?_⟩
    · rwa [List.append_assoc] at hrest
    · by_cases hkey : id = key
      · subst hkey
        exact .inr (h.requested hns)
      · refine hid.imp (fun hmem => (List.mem_cons.1 hmem).resolve_left hkey) ?_
        rintro ⟨s, hs, htrue⟩
        exact requested_of_retains (retains_requestSocket key) (hmember hm) hs htrue

theorem registry_requestAll (ids : List SocketId) (c : Client τ) :
    (ids.foldl requestSocket c).registry = c.registry := by
  induction ids generalizing c with
  | nil => rfl
  | cons key rest ih => exact (ih _).trans (registry_requestSocket key)

/-- The same for all sockets that belong to the client. -/
theorem Account.requestMembers (h : Account revision history c) (hopen : c.engine.state = .opened) :
    Account revision (history ++ eachDeeds requestSocket requestDeeds c c.socketIds)
        (c.socketIds.foldl requestSocket c) ∧
      ∀ ns id, (c.socketIds.foldl requestSocket c).registered? ns = some id →
        ∃ s, (c.socketIds.foldl requestSocket c).socket? id = some s ∧ s.requested = true := by
  obtain ⟨haccount, hrequested⟩ := h.requestAll hopen fun id => mem_socketIds_iff.1
  refine ⟨haccount, fun ns id hns => ?_⟩
  rw [registered?, registry_requestAll] at hns
  exact hrequested id ⟨ns, hns⟩ (.inl (mem_socketIds hns))

/-- **The session opens.**  Nobody has asked on the new connection yet; afterwards everybody has. -/
theorem Account.sweep (h : Account revision history c) (hopening : c.engine.state = .opening)
    (engine : Engine) (hopen : engine.state = .opened) (hrevision : engine.revision = c.engine.revision) :
    Account revision (history ++ ({ c with engine } : Client τ).sweepDeeds)
        ({ c with engine } : Client τ).openSockets ∧
      ∀ ns id, ({ c with engine } : Client τ).openSockets.registered? ns = some id →
        ∃ s, ({ c with engine } : Client τ).openSockets.socket? id = some s ∧ s.requested = true := by
  have hopened : Account revision (history ++ [.opened]) ({ c with engine } : Client τ) := by
    have hapart : Apart c { c with engine } := ⟨rfl, rfl⟩
    have hasks : ∀ x ∈ [Deed.opened], x.asks = false := by simp [Deed.asks]
    refine ⟨hrevision.trans h.constant, h.grown_lives (.of_apart hapart),
      h.sourced_append (.of_apart hapart) hasks, fun hs => ?_, fun _ id hasked => ?_, h.fair.append hasks⟩
    · cases hs.symm.trans hopen
    · exact absurd (hasked.of_append hasks).1 (h.idle hopening id)
  unfold openSockets sweepDeeds
  dsimp only
  rw [← List.singleton_append, ← List.append_assoc]
  split
  · exact hopened.requestMembers hopen
  · have hadded : Account revision (history ++ [.opened] ++ [])
        (({ c with engine } : Client τ).addSocket defaultNamespace) :=
      hopened.retains (lives_addSocket defaultNamespace)
        (evolves_addSocket Retains.refl defaultNamespace) rfl (List.forall_mem_nil _)
    rw [List.append_nil] at hadded
    exact hadded.requestMembers hopen

/-- Effects that neither open the sockets nor send a message ask for nothing. -/
theorem asks_stages {effects : List Engine.Effect} (hplain : ∀ f ∈ effects, f.isPlain = true) :
    ∀ x ∈ (c.stages effects).flatMap effectDeeds, x.asks = false := by
  induction effects generalizing c with
  | nil => exact List.forall_mem_nil _
  | cons f rest ih =>
    exact List.forall_mem_append.2 ⟨asks_effectDeeds (hplain f List.mem_cons_self) c,
      ih fun g hg => hplain g (List.mem_cons_of_mem f hg)⟩

/-- Effects that open the transport dial. -/
theorem dialed_mem_stages {effects : List Engine.Effect} (h : Engine.Opens effects) :
    .dialed ∈ (c.stages effects).flatMap effectDeeds := by
  obtain ⟨query, headers, hmem⟩ := h
  obtain ⟨⟨d, f⟩, hstage, rfl⟩ := mem_stages (c := c) hmem
  exact List.mem_flatMap.2 ⟨_, hstage, List.mem_singleton_self _⟩

/-- **A round.**  The session opens in it, stays open, or is not open afterwards. -/
theorem Ledger.round (h : Ledger revision history c) (i : Engine.Input) :
    Ledger revision (history ++ (c.roundStages i).flatMap effectDeeds) (c.round i).1 := by
  by_cases hopens : c.engine.state = .opening ∧ i = .transportOpened
  · obtain ⟨hopening, rfl⟩ := hopens
    have hhandle : c.engine.handle .transportOpened =
        ({ c.engine with state := .opened, attempts := 0 }, [.socketsOpen, .notify .opened]) := by
      simp only [Engine.handle, Engine.transportOpened, hopening]
    obtain ⟨haccount, hvisited⟩ := h.account.sweep hopening
      { c.engine with state := .opened, attempts := 0 } rfl rfl
    have hledger : Ledger revision _ _ := ⟨haccount, fun _ _ ns id hns => .inl (hvisited ns id hns)⟩
    have hnotified := hledger.of_core (apart_notify .opened) (core_notify _) (front_notify _)
    simpa [Client.round, roundStages, stages, hhandle, carryOutAll, carryOut, effectDeeds] using hnotified
  · have hplain := Engine.plain_handle (e := c.engine) (i := i) fun hs hi => hopens ⟨hs, hi⟩
    by_cases hs' : (c.engine.handle i).1.state = .opened
    · have hs : c.engine.state = .opened := by
        by_contra hno
        exact hopens ((Engine.enters_opened_iff hno i).1 hs')
      have hengine : Ledger revision history { c with engine := (c.engine.handle i).1 } :=
        h.aside ⟨rfl, rfl⟩ (hs'.trans hs.symm) (c.engine.handle_revision i) rfl rfl
      exact hengine.keeps (keeps_carryOutAll (Engine.calm_of_opened hs hs') hplain)
    · have hapart : Apart c { c with engine := (c.engine.handle i).1 } := ⟨rfl, rfl⟩
      have hlives : Lives c (c.round i).1 := Lives.trans (.of_apart hapart) (lives_carryOutAll _)
      refine ⟨h.account.closed hlives ?_ (asks_stages hplain) ?_ ?_, fun ho => ?_⟩
      · rw [engine_round, Engine.handle_revision]
      · rwa [engine_round]
      · rw [engine_round]
        intro hopening
        rcases c.engine.begins_or i with hbegins | ⟨-, hbefore⟩
        · exact .inr (dialed_mem_stages hbegins.opens.1)
        · exact .inl (hbefore hopening)
      · rw [engine_round] at ho
        exact absurd ho hs'

/-! ## Packets -/

section Refusal

variable {s : Socket} {p : Packet} (hr : c.receiver? p = some (id, s)) (hk : p.kind = .connectError)

include hr hk

/-- A refusal is told to its socket, and that is all. -/
theorem route_refusal : c.route p = (c.told id s p).updateAckGauge := by
  have hreceive : s.receive p = s.receiveRefusal p := by simp only [Socket.receive, hk]
  rw [route_of_some hr, received, hreceive]
  rfl

theorem core_route_refusal : (c.route p).core = c.core := by
  rw [route_refusal hr hk]
  exact core_told id s p

theorem commands_route_refusal : (c.route p).commands = c.commands := by
  rw [route_refusal hr hk]
  exact congrArg Front.commands (front_told id s p)

theorem registered?_route_refusal (ns : String) : (c.route p).registered? ns = c.registered? ns := by
  rw [route_refusal hr hk]
  exact (apart_told id s p).registered? ns

theorem socket?_route_refusal {key : SocketId} (hkey : key ≠ id) :
    (c.route p).socket? key = c.socket? key := by
  rw [route_refusal hr hk, apart_updateAckGauge.socket?, (apart_told id s p).socket?,
    socket?_modifySocket, if_neg (Ne.symm hkey)]

/-- **The socket does not count as having asked any more.** -/
theorem Account.refuse (h : Account revision history c) :
    Account revision (history ++ [.refused id]) (c.route p) := by
  have hopen : c.engine.state = .opened := (receiver?_eq_some.1 hr).1
  have hengine : (c.route p).engine = c.engine := congrArg Core.engine (core_route_refusal hr hk)
  have hasks : ∀ x ∈ [Deed.refused id], x.asks = false := by simp [Deed.asks]
  refine ⟨(congrArg Engine.revision hengine).trans h.constant, h.grown_lives (lives_route p),
    h.sourced_append (lives_route p) hasks, ?_, ?_, h.fair.append hasks⟩
  · intro hs
    rw [hengine, hopen] at hs
    cases hs
  · intro _ key hasked hm s' hs'
    obtain ⟨hold, -, hrefused⟩ := hasked.of_append hasks
    have hkey : key ≠ id := fun heq => hrefused (heq ▸ List.mem_singleton_self _)
    obtain ⟨ns, hns⟩ := hm
    rw [registered?_route_refusal hr hk] at hns
    rw [socket?_route_refusal hr hk hkey] at hs'
    exact h.asked hopen key hold ⟨ns, hns⟩ s' hs'

/-- **A namespace is refused.** -/
theorem Ledger.refuse (h : Ledger revision history c) :
    Ledger revision (history ++ [.refused id]) (c.route p) := by
  have hopen : c.engine.state = .opened := (receiver?_eq_some.1 hr).1
  have hopened : Deed.opened ∉ [Deed.refused id] := by simp
  refine ⟨h.account.refuse hr hk, fun _ halive ns key hns => ?_⟩
  rw [registered?_route_refusal hr hk] at hns
  have hbefore : c.Alive := halive.of_phase (congrArg Core.phase (core_route_refusal hr hk)).symm
  by_cases hkey : key = id
  · subst hkey
    exact .inr (.inl (since_append.2 (.inl (since_of_mem (List.mem_singleton_self _) rfl
      fun _ hx heq => hopened (heq ▸ hx)))))
  · refine (h.visited hopen hbefore ns key hns).append hopened ?_ ?_
    · rw [socket?_route_refusal hr hk hkey]
      exact fun s hs hrequested => ⟨s, hs, hrequested⟩
    · rw [commands_route_refusal hr hk]
      exact fun hm => hm

end Refusal

/-- **A message for a namespace.** -/
theorem Ledger.route (h : Ledger revision history c) (p : Packet) :
    Ledger revision (history ++ c.routeDeeds p) (c.route p) := by
  by_cases hk : p.kind = .connectError
  · cases hr : c.receiver? p with
    | none =>
      rw [route_of_none hr, routeDeeds, hr]
      rwa [List.append_nil]
    | some receiver =>
      obtain ⟨id, s⟩ := receiver
      have hdeeds : c.routeDeeds p = [.refused id] := by
        rw [routeDeeds, hr]
        simp [hk, Socket.receive, Socket.receiveRefusal, callsDeeds, handed]
      rw [hdeeds]
      exact h.refuse hr hk
  · obtain ⟨c₁, hkeeps, heq | heq⟩ := keeps_route h.account.filed hk fun id s hr =>
      h.account.orderly (receiver?_eq_some.1 hr).2.1 (receiver?_eq_some.1 hr).2.2
    · rw [heq]
      exact h.keeps hkeeps
    · rw [heq]
      refine .dead ((h.keeps hkeeps).account.aside ⟨rfl, rfl⟩ rfl rfl) ?_
      rintro (hphase | ⟨deadline, hphase⟩) <;> cases hphase

end Transport

end RealtimeClient.Client
