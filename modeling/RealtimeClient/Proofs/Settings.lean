import Mathlib
import RealtimeClient.Client
import RealtimeClient.Console.Settings

/-!
# Two readers of one file

A client and a console read the same file.  The console reads the settings of its client strictly: where
a list stands in place of a record, it must not be longer than the record, while the client itself drops
what is too much.  In everything else the two agree.

* `Toml.ReadsStrictly` — what a strict reader of records does that another one does not.
* `Settings.ofTable?_strict`, `Settings.ofTable?_of_hasOverlong` — **the strict reader of settings is the
  other one, or reads nothing**, and this exactly where a list is too long.
* `Console.Settings.ofFile_eq_ok_iff` — **what a console accepts**, said by what its client accepts.
* `Settings.loaders_agree` — the settings of a console are those of its client; a file without settings of
  the console's own is accepted by both or has a list that is too long; and what is accepted gives the
  reconnection policy that it asks for.
* `Settings.overlong_refused` — a file that only the client accepts.
-/

namespace RealtimeClient

/-! ## Lists in place of records -/

namespace Toml

variable {α : Type} {fields : List String}

/-- **A list that is longer than the record it stands for.** -/
def IsOverlong (fields : List String) (v : Toml) : Prop :=
  ∃ items, v = .array items ∧ fields.length < items.length

instance (fields : List String) : (v : Toml) → Decidable (v.IsOverlong fields)
  | .array items => decidable_of_iff (fields.length < items.length) (by simp [IsOverlong])
  | .string _ | .integer _ | .float _ | .boolean _ | .moment _ | .table _ => .isFalse (by simp [IsOverlong])

theorem asRecord?_of_isOverlong {v : Toml} (h : v.IsOverlong fields) : v.asRecord? true fields = none := by
  obtain ⟨items, rfl, hlength⟩ := h
  rw [asRecord?, if_pos ⟨rfl, hlength⟩]

theorem asRecord?_of_not_isOverlong {v : Toml} (h : ¬v.IsOverlong fields) :
    v.asRecord? true fields = v.asRecord? false fields := by
  cases v with
  | array items =>
    have hlength : ¬fields.length < items.length := fun hlt => h ⟨items, rfl, hlt⟩
    rw [asRecord?, asRecord?, if_neg fun hboth => hlength hboth.2, if_neg fun hboth => nomatch hboth.1]
  | _ => rfl

/-- **A reader of records is strict about lists**, and about nothing else. -/
structure ReadsStrictly (fields : List String) (read : Bool → Toml → Option α) : Prop where
  refuses : ∀ v : Toml, v.IsOverlong fields → read true v = none
  agrees : ∀ v : Toml, ¬v.IsOverlong fields → read true v = read false v

theorem readsStrictly_bind (ofRecord : Table → Option α) :
    ReadsStrictly fields fun strict v => (v.asRecord? strict fields).bind ofRecord where
  refuses v h := by rw [asRecord?_of_isOverlong h, Option.bind_none]
  agrees v h := by rw [asRecord?_of_not_isOverlong h]

/-- **An entry of a table is a list that is too long** for the record that is asked for. -/
def IsOverlongAt (t : Table) (key : String) (fields : List String) : Prop :=
  ∃ v, t.get? key = some v ∧ v.IsOverlong fields

instance (t : Table) (key : String) (fields : List String) : Decidable (IsOverlongAt t key fields) :=
  decidable_of_iff (∃ v ∈ t.get? key, v.IsOverlong fields) (by simp [IsOverlongAt])

variable {read : Bool → Toml → Option α} {t : Table} {key : String}

theorem entry?_of_none {content? : Toml → Option α} (default : α) (h : t.get? key = none) :
    entry? t key content? default = some default := by
  unfold entry?
  rw [h]

theorem entry?_of_some {content? : Toml → Option α} {v : Toml} (default : α) (h : t.get? key = some v) :
    entry? t key content? default = content? v := by
  unfold entry?
  rw [h]

theorem ReadsStrictly.entry?_of_isOverlongAt (h : ReadsStrictly fields read)
    (hlong : IsOverlongAt t key fields) (default : α) : entry? t key (read true) default = none := by
  obtain ⟨v, hv, hlong⟩ := hlong
  rw [entry?_of_some default hv, h.refuses v hlong]

theorem ReadsStrictly.entry?_of_not_isOverlongAt (h : ReadsStrictly fields read)
    (hshort : ¬IsOverlongAt t key fields) (default : α) :
    entry? t key (read true) default = entry? t key (read false) default := by
  cases hv : t.get? key with
  | none => rw [entry?_of_none default hv, entry?_of_none default hv]
  | some v =>
    rw [entry?_of_some default hv, entry?_of_some default hv]
    exact h.agrees v fun hlong => hshort ⟨v, hv, hlong⟩

end Toml

theorem ReconnectSettings.readsStrictly : Toml.ReadsStrictly fields ofToml? := Toml.readsStrictly_bind _

theorem EngineSettings.readsStrictly : Toml.ReadsStrictly fields ofToml? := Toml.readsStrictly_bind _

/-! ## Tables and files -/

namespace Settings

variable {environmentUrl : Option String} {content : Option Bytes} {t : Toml.Table}

/-- **One of the records of a table is given as a list that is too long.** -/
def HasOverlong (t : Toml.Table) : Prop :=
  Toml.IsOverlongAt t "reconnect" ReconnectSettings.fields ∨
    Toml.IsOverlongAt t "engine" EngineSettings.fields

instance (t : Toml.Table) : Decidable (HasOverlong t) := inferInstanceAs (Decidable (_ ∨ _))

/-- **The strict reader is the other one** where no list is too long. -/
theorem ofTable?_strict (h : ¬HasOverlong t) :
    ofTable? true environmentUrl t = ofTable? false environmentUrl t := by
  obtain ⟨hreconnect, hengine⟩ := not_or.1 h
  unfold ofTable?
  dsimp only
  rw [ReconnectSettings.readsStrictly.entry?_of_not_isOverlongAt hreconnect,
    EngineSettings.readsStrictly.entry?_of_not_isOverlongAt hengine]

/-- **The strict reader reads nothing** where a list is too long. -/
theorem ofTable?_of_hasOverlong (h : HasOverlong t) : ofTable? true environmentUrl t = none := by
  unfold ofTable?
  rcases h with h | h
  · simp only [ReconnectSettings.readsStrictly.entry?_of_isOverlongAt h, Option.bind_eq_bind,
      Option.bind_none, Option.bind_fun_none]
  · simp only [EngineSettings.readsStrictly.entry?_of_isOverlongAt h, Option.bind_eq_bind,
      Option.bind_none, Option.bind_fun_none]

theorem ofTable?_strict_eq_some_iff {s : Settings} :
    ofTable? true environmentUrl t = some s ↔
      ¬HasOverlong t ∧ ofTable? false environmentUrl t = some s := by
  by_cases h : HasOverlong t
  · simp [ofTable?_of_hasOverlong h, h]
  · simp [ofTable?_strict h, h]

theorem check_eq_ok_iff {s s' : Settings} :
    s.check = .ok s' ↔ s = s' ∧ s.reconnect.delayMs ≤ s.reconnect.delayMaxMs := by
  unfold check
  split
  · next hlt => exact iff_of_false nofun fun h => absurd h.2 (by omega)
  · next hle =>
    rw [Except.ok.injEq, and_iff_left (by omega)]

theorem mapError_eq_ok_iff {ε ε' β : Type} {f : ε → ε'} {x : Except ε β} {b : β} :
    x.mapError f = .ok b ↔ x = .ok b := by
  cases x <;> simp [Except.mapError]

/-- **What a client accepts**: a table with its settings, whose delays are in order. -/
theorem ofFile_eq_ok_iff {s : Settings} :
    ofFile environmentUrl content = .ok s ↔
      ∃ t, tableOf content = .ok t ∧ ofTable? false environmentUrl t = some s ∧
        s.reconnect.delayMs ≤ s.reconnect.delayMaxMs := by
  unfold ofFile
  cases tableOf content with
  | error fault => simp
  | ok t =>
    simp only [Except.ok.injEq, exists_eq_left']
    cases ofTable? false environmentUrl t with
    | none => simp
    | some read =>
      simp only [mapError_eq_ok_iff, check_eq_ok_iff, Option.some.injEq]
      exact and_congr_right fun heq => by rw [heq]

/-- **The policy of a client** is the one that its settings ask for. -/
theorem policy_of_ordered {s : Settings} (h : s.reconnect.delayMs ≤ s.reconnect.delayMaxMs) :
    s.policy =
      { attempts := s.reconnect.attempts
        delay := .ofMillis s.reconnect.delayMs
        delayMax := .ofMillis s.reconnect.delayMaxMs } := by
  have hcap : ¬Duration.ofMillis s.reconnect.delayMaxMs < Duration.ofMillis s.reconnect.delayMs :=
    Nat.not_lt.2 (Nat.mul_le_mul_right _ h)
  rw [policy, ReconnectPolicy.new, ReconnectPolicy.setDelay, ReconnectPolicy.setDelayMax, if_neg hcap]

end Settings

namespace Console.Settings

open RealtimeClient.Settings (HasOverlong tableOf mapError_eq_ok_iff)

variable {environmentUrl : Option String} {content : Option Bytes}

theorem ofTable?_eq_some_iff {t : Toml.Table} {c : Settings} :
    ofTable? environmentUrl t = some c ↔
      Toml.entry? t "subscribe" events? .nil = some c.subscribe ∧
        Toml.entry? t "metrics" MetricsSettings.ofToml? {} = some c.metrics ∧
        RealtimeClient.Settings.ofTable? true environmentUrl t = some c.client := by
  unfold ofTable?
  simp only [Option.bind_eq_bind, Option.bind_eq_some_iff, Option.pure_def, Option.some.injEq]
  constructor
  · rintro ⟨subscribe, hsubscribe, metrics, hmetrics, client, hclient, rfl⟩
    exact ⟨hsubscribe, hmetrics, hclient⟩
  · rintro ⟨hsubscribe, hmetrics, hclient⟩
    exact ⟨_, hsubscribe, _, hmetrics, _, hclient, rfl⟩

theorem check_eq_ok_iff {c c' : Settings} :
    c.check = .ok c' ↔ c = c' ∧ c.client.reconnect.delayMs ≤ c.client.reconnect.delayMaxMs := by
  unfold check RealtimeClient.Settings.check
  split
  · exact iff_of_false nofun fun h => absurd h.2 (by omega)
  · exact (Except.ok.injEq _ _).to_iff.trans (and_iff_left (by omega)).symm

/-- A console accepts a table with its settings, whose delays are in order. -/
theorem ofFile_eq_ok_iff_ofTable? {c : Settings} :
    ofFile environmentUrl content = .ok c ↔
      ∃ t, tableOf content = .ok t ∧ ofTable? environmentUrl t = some c ∧
        c.client.reconnect.delayMs ≤ c.client.reconnect.delayMaxMs := by
  unfold ofFile
  cases tableOf content with
  | error fault => simp
  | ok t =>
    simp only [Except.ok.injEq, exists_eq_left']
    cases ofTable? environmentUrl t with
    | none => simp
    | some read =>
      simp only [mapError_eq_ok_iff, check_eq_ok_iff, Option.some.injEq]
      exact and_congr_right fun heq => by rw [heq]

/-- **What a console accepts**: what its client accepts, if no list is too long and its own settings can
be read. -/
theorem ofFile_eq_ok_iff {c : Settings} :
    ofFile environmentUrl content = .ok c ↔
      RealtimeClient.Settings.ofFile environmentUrl content = .ok c.client ∧
        ∃ t, tableOf content = .ok t ∧ ¬HasOverlong t ∧
          Toml.entry? t "subscribe" events? .nil = some c.subscribe ∧
          Toml.entry? t "metrics" MetricsSettings.ofToml? {} = some c.metrics := by
  rw [ofFile_eq_ok_iff_ofTable?, RealtimeClient.Settings.ofFile_eq_ok_iff]
  simp only [ofTable?_eq_some_iff, RealtimeClient.Settings.ofTable?_strict_eq_some_iff]
  constructor
  · rintro ⟨t, ht, ⟨hsubscribe, hmetrics, hlong, hclient⟩, hordered⟩
    exact ⟨⟨t, ht, hclient, hordered⟩, t, ht, hlong, hsubscribe, hmetrics⟩
  · rintro ⟨⟨t, ht, hclient, hordered⟩, t', ht', hlong, hsubscribe, hmetrics⟩
    obtain rfl := Except.ok.inj (ht.symm.trans ht')
    exact ⟨t, ht, ⟨hsubscribe, hmetrics, hlong, hclient⟩, hordered⟩

theorem ofFile_of_hasOverlong {t : Toml.Table} (ht : tableOf content = .ok t) (h : HasOverlong t) :
    ofFile environmentUrl content = .error .malformed := by
  have hnone : ofTable? environmentUrl t = none := by
    simp [ofTable?, RealtimeClient.Settings.ofTable?_of_hasOverlong h]
  simp only [ofFile, ht, hnone]

end Console.Settings

/-- **A client starts with the policy that its settings ask for**, unless its target cannot be used. -/
theorem Client.start_of_ordered {s : Settings} (h : s.reconnect.delayMs ≤ s.reconnect.delayMaxMs)
    {τ : Type} (transport : τ) (epoch : Nat) :
    (∀ fault, start s transport epoch ≠ .error (.settings fault)) ∧
      ∀ client, start s transport epoch = .ok client → client.engine.policy =
        { attempts := s.reconnect.attempts
          delay := .ofMillis s.reconnect.delayMs
          delayMax := .ofMillis s.reconnect.delayMaxMs } := by
  have hcheck := Settings.check_eq_ok_iff.2 ⟨rfl, h⟩
  unfold start
  rw [hcheck]
  dsimp only
  cases Endpoint.parse s.url s.engine.path with
  | error fault => simp
  | ok endpoint =>
    simp only [reduceCtorEq, Except.ok.injEq, ne_eq, not_false_eq_true, implies_true, true_and]
    rintro client rfl
    exact Settings.policy_of_ordered h

/-- **The console and the client agree** on a file unless a list is too long. -/
theorem Settings.loaders_agree (environmentUrl : Option String) (content : Option Bytes) :
    (∀ c, Console.Settings.ofFile environmentUrl content = .ok c →
      ofFile environmentUrl content = .ok c.client) ∧
    (∀ s t, ofFile environmentUrl content = .ok s → tableOf content = .ok t →
      t.get? "subscribe" = none → t.get? "metrics" = none →
        (HasOverlong t → Console.Settings.ofFile environmentUrl content = .error .malformed) ∧
        (¬HasOverlong t → Console.Settings.ofFile environmentUrl content = .ok { client := s })) ∧
    ∀ s, ofFile environmentUrl content = .ok s →
      s.reconnect.delayMs ≤ s.reconnect.delayMaxMs ∧
      ∀ {τ : Type} (transport : τ) (epoch : Nat),
        (∀ fault, Client.start s transport epoch ≠ .error (.settings fault)) ∧
        ∀ client, Client.start s transport epoch = .ok client → client.engine.policy =
          { attempts := s.reconnect.attempts
            delay := .ofMillis s.reconnect.delayMs
            delayMax := .ofMillis s.reconnect.delayMaxMs } := by
  refine ⟨fun c h => (Console.Settings.ofFile_eq_ok_iff.1 h).1, ?_, ?_⟩
  · intro s t hs ht hsubscribe hmetrics
    refine ⟨Console.Settings.ofFile_of_hasOverlong ht, fun hlong => ?_⟩
    exact Console.Settings.ofFile_eq_ok_iff.2
      ⟨hs, t, ht, hlong, Toml.entry?_of_none _ hsubscribe, Toml.entry?_of_none _ hmetrics⟩
  · intro s hs
    obtain ⟨-, -, -, hordered⟩ := ofFile_eq_ok_iff.1 hs
    exact ⟨hordered, fun transport epoch => Client.start_of_ordered hordered transport epoch⟩

namespace Settings

/-- A file with a list for the reconnection. -/
def listFile (items : String) : Option Bytes := some (Text.utf8 ("reconnect = [" ++ items ++ "]\n").toList)

/-- What the first three items of a list say. -/
def listed : Settings :=
  { url := standardUrl, reconnect := { attempts := some 1, delayMs := 2, delayMaxMs := 3 } }

/-- Whether the table of a file has keys of the console's own, and a list that is too long. -/
def outline (content : Option Bytes) : Option (Bool × Bool × Bool) :=
  (tableOf content).toOption.map fun t =>
    (t.contains "subscribe", t.contains "metrics", decide (HasOverlong t))

theorem exists_table_of_outline {content : Option Bytes} {long : Bool}
    (h : outline content = some (false, false, long)) :
    ∃ t, tableOf content = .ok t ∧ t.get? "subscribe" = none ∧ t.get? "metrics" = none ∧
      decide (HasOverlong t) = long := by
  unfold outline at h
  cases htable : tableOf content with
  | error fault => rw [htable] at h; cases h
  | ok t =>
    rw [htable] at h
    simpa [Except.toOption, Dict.From.contains] using h

/-- Three items are read by both, and four of them by the client only. -/
theorem loaders_agree_list :
    ofFile none (listFile "1, 2, 3") = .ok listed ∧
      Console.Settings.ofFile none (listFile "1, 2, 3") = .ok { client := listed } ∧
      listed.reconnect.delayMs ≤ listed.reconnect.delayMaxMs ∧
      (∀ client, Client.start listed () 0 = .ok client →
        client.engine.policy = { attempts := some 1, delay := .ofMillis 2, delayMax := .ofMillis 3 }) ∧
      Console.Settings.ofFile none (listFile "1, 2, 3, 4") = .error .malformed := by
  have hconsole : Console.Settings.ofFile none (listFile "1, 2, 3") = .ok { client := listed } := by
    decide +kernel
  have hlong : ofFile none (listFile "1, 2, 3, 4") = .ok listed := by decide +kernel
  obtain ⟨hclient, -, hpolicy⟩ := loaders_agree none (listFile "1, 2, 3")
  have hshort := hclient _ hconsole
  obtain ⟨t, ht, hsubscribe, hmetrics, hfits⟩ :=
    exists_table_of_outline (show outline (listFile "1, 2, 3") = some (false, false, false) by
      decide +kernel)
  obtain ⟨t', ht', hsubscribe', hmetrics', hlong'⟩ :=
    exists_table_of_outline (show outline (listFile "1, 2, 3, 4") = some (false, false, true) by
      decide +kernel)
  obtain ⟨hordered, hstart⟩ := hpolicy _ hshort
  refine ⟨hshort, ?_, hordered, (hstart () 0).2, ?_⟩
  · exact ((loaders_agree none _).2.1 listed t hshort ht hsubscribe hmetrics).2 (of_decide_eq_false hfits)
  · exact ((loaders_agree none _).2.1 listed t' hlong ht' hsubscribe' hmetrics').1
      (of_decide_eq_true hlong')

/-- **A list that is too long** is accepted by the client, and refused by the console. -/
theorem overlong_refused :
    ofFile none (listFile "1, 2, 3, 4") = .ok listed ∧
      outline (listFile "1, 2, 3, 4") = some (false, false, true) ∧
      Console.Settings.ofFile none (listFile "1, 2, 3, 4") = .error .malformed := by
  decide +kernel

end Settings

end RealtimeClient
