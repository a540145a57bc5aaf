import Mathlib
import RealtimeClient.Proofs.Codec.Reading
import RealtimeClient.Url

/-!
# Hosts of addresses

A host is read from the part of an address that ends at the first slash, question mark or hash, but not
as it is: percent-encoded bytes are decoded, labels of other scripts are mapped, normalized and written
in ASCII, and numbers are read and written again.  None of this brings in a character that would end
the host early, so that the host can be put in front of a path or a query as it is.

* `Stays` — a text without characters that end the host.
* `stays_encode` — **the ASCII form of a label**, for which only letters, digits and hyphens are added.
* `stays_toAscii` — **a host name of any script**.
* `stays_host` — **the host of every address that can be read**.
-/

namespace RealtimeClient.Url

open Codec (ok_of_bind)

/-- **A text without characters that end the host of an address.** -/
def Stays (text : List Char) : Prop := ∀ c ∈ text, endsAuthority true c = false

theorem stays_nil : Stays [] := fun _ hc => nomatch hc

theorem stays_cons {c : Char} {text : List Char} (hc : endsAuthority true c = false)
    (h : Stays text) : Stays (c :: text) :=
  List.forall_mem_cons.2 ⟨hc, h⟩

theorem stays_append {a b : List Char} (ha : Stays a) (hb : Stays b) : Stays (a ++ b) :=
  List.forall_mem_append.2 ⟨ha, hb⟩

theorem stays_of_all {text : List Char} (h : text.all (!endsAuthority true ·) = true) : Stays text := by
  simpa [Stays] using h

theorem Stays.subset {a b : List Char} (hb : Stays b) (h : a ⊆ b) : Stays a := fun c hc => hb c (h hc)

theorem stays_intercalate {mark : List Char} (hmark : Stays mark) :
    ∀ {parts : List (List Char)}, (∀ part ∈ parts, Stays part) → Stays (List.intercalate mark parts)
  | [], _ => by simpa using stays_nil
  | [part], h => by simpa using h part List.mem_cons_self
  | part :: next :: rest, h => by
    rw [List.intercalate_cons_cons]
    exact stays_append (stays_append (h part List.mem_cons_self) hmark)
      (stays_intercalate hmark fun p hp => h p (List.mem_cons_of_mem _ hp))

/-! ## Numbers -/

theorem stays_digitChar {n : Nat} (h : n < 16) : endsAuthority true n.digitChar = false := by
  have hall : ∀ n < 16, endsAuthority true n.digitChar = false := by decide
  exact hall n h

theorem stays_toDigits {base : Nat} (hlow : 1 < base) (hhigh : base ≤ 16) (n : Nat) :
    Stays (Nat.toDigits base n) := by
  induction n using Nat.strong_induction_on with
  | _ n ih =>
    by_cases hn : n < base
    · rw [Nat.toDigits_of_lt_base hn]
      exact stays_cons (stays_digitChar (by omega)) stays_nil
    · rw [Nat.toDigits_of_base_le hlow (by omega)]
      have hmod := Nat.mod_lt n (show 0 < base by omega)
      exact stays_append (ih _ (Nat.div_lt_self (by omega) hlow))
        (stays_cons (stays_digitChar (by omega)) stays_nil)

theorem stays_writeIpv4 (n : Nat) : Stays (writeIpv4 n) := by
  have hbyte (i : Nat) : Stays (Nat.toDigits 10 (n / Nat.pow 256 i % 256)) :=
    stays_toDigits (by decide) (by decide) _
  have hdot : endsAuthority true '.' = false := rfl
  exact stays_append (stays_append (stays_append (hbyte 3) (stays_cons hdot (hbyte 2)))
    (stays_cons hdot (hbyte 1))) (stays_cons hdot (hbyte 0))

theorem stays_joinPieces (pieces : List Nat) : Stays (joinPieces pieces) := by
  refine stays_intercalate (stays_cons rfl stays_nil) fun part hpart => ?_
  obtain ⟨n, -, rfl⟩ := List.mem_map.1 hpart
  exact stays_toDigits (by decide) (by decide) n

theorem stays_writeIpv6 (pieces : List Nat) : Stays (writeIpv6 pieces) := by
  unfold writeIpv6
  split
  · exact stays_append (stays_of_all rfl) (stays_writeIpv4 _)
  · dsimp only
    split
    · exact stays_append (stays_joinPieces _)
        (stays_cons rfl (stays_cons rfl (stays_joinPieces _)))
    · exact stays_joinPieces _

/-! ## Names -/

/-- Characters that end the host are forbidden in hosts of either kind. -/
theorem isForbidden_of_endsAuthority {c : Char} (h : endsAuthority true c = true) :
    isForbiddenInDomain c = true ∧ isForbiddenInHost c = true := by
  simp only [endsAuthority, Bool.true_and, Bool.or_eq_true, decide_eq_true_eq] at h
  rcases h with ((rfl | rfl) | rfl) | rfl <;> decide

theorem stays_of_not_any {isForbidden : Char → Bool}
    (hends : ∀ c, endsAuthority true c = true → isForbidden c = true) {text : List Char}
    (h : ¬text.any isForbidden = true) : Stays text := by
  intro c hc
  by_contra hne
  exact h (List.any_eq_true.2 ⟨c, hc, hends c (by simpa using hne)⟩)

theorem stays_punycodeDigit {d : Nat} (h : d < Idna.Punycode.base) :
    endsAuthority true (Idna.Punycode.digitChar d) = false := by
  have hall : ∀ d < Idna.Punycode.base, endsAuthority true (Idna.Punycode.digitChar d) = false := by
    decide
  exact hall d h

theorem threshold_lt_base (bias place : Nat) :
    Idna.Punycode.threshold bias place < Idna.Punycode.base := by
  unfold Idna.Punycode.threshold
  split
  · decide
  · split
    · decide
    · have hlt : Idna.Punycode.highThreshold < Idna.Punycode.base := by decide
      omega

theorem stays_writeNumber (bias : Nat) :
    ∀ rounds place n, Stays (Idna.Punycode.writeNumber bias rounds place n)
  | 0, _, _ => stays_nil
  | rounds + 1, place, n => by
    have ht := threshold_lt_base bias place
    rw [Idna.Punycode.writeNumber]
    split
    · exact stays_cons (stays_punycodeDigit (by omega)) stays_nil
    · -- every digit but the last one is at or above the threshold, and still below the base
      have hmod := Nat.mod_lt (n - Idna.Punycode.threshold bias place)
        (show 0 < Idna.Punycode.base - Idna.Punycode.threshold bias place by omega)
      exact stays_cons (stays_punycodeDigit (by omega)) (stays_writeNumber bias rounds _ _)

theorem stays_pass {basic code : Nat} {s : Idna.Punycode.Encoding} (h : Stays s.rev) (c : Char) :
    Stays (s.pass basic code c).rev := by
  unfold Idna.Punycode.Encoding.pass
  split
  · exact h
  · split
    · exact stays_append ((stays_writeNumber _ _ _ _).subset (List.reverse_subset.2 fun _ => id)) h
    · exact h

theorem stays_place {text : List Char} {basic : Nat} {state : Idna.Punycode.Encoding × Nat}
    (h : Stays state.1.rev) (code : Nat) :
    Stays (Idna.Punycode.Encoding.place text basic state code).1.rev :=
  List.foldlRecOn text (motive := fun s : Idna.Punycode.Encoding => Stays s.rev) _ h
    fun _ hs c _ => stays_pass hs c

/-- **The ASCII form of a label** has its own characters, letters, digits and hyphens. -/
theorem stays_encode {text : List Char} (h : Stays text) : Stays (Idna.Punycode.encode text) := by
  let basic := text.filter (·.toNat < Idna.Punycode.firstCode)
  let start : Idna.Punycode.Encoding := { placed := basic.length }
  have hdigits := List.foldlRecOn (Idna.Punycode.codesOf text)
    (motive := fun state : Idna.Punycode.Encoding × Nat => Stays state.1.rev)
    (Idna.Punycode.Encoding.place text basic.length) (b := (start, Idna.Punycode.firstCode)) stays_nil
    fun _ hs code _ => stays_place hs code
  have hhyphen : Stays (if basic = [] then [] else ['-']) := by
    split
    · exact stays_nil
    · exact stays_cons rfl stays_nil
  exact stays_append (stays_append (h.subset (List.filter_subset_self _)) hhyphen)
    (hdigits.subset (List.reverse_subset.2 fun _ => id))

theorem subset_of_mem_splitWhere {isCut : Char → Bool} :
    ∀ {text part : List Char}, part ∈ Text.splitWhere isCut text → part ⊆ text
  | [], part, h => by
    obtain rfl : part = [] := by simpa [Text.splitWhere] using h
    exact List.nil_subset _
  | c :: rest, part, h => by
    have ih := @subset_of_mem_splitWhere isCut rest
    rw [Text.splitWhere, List.foldr_cons] at h
    rw [Text.splitWhere] at ih
    split at h
    · obtain rfl := List.mem_singleton.1 h
      exact List.cons_subset_cons c (List.nil_subset _)
    · next first others hparts =>
      rw [hparts] at ih
      have hothers : part ∈ others → part ⊆ c :: rest := fun hmem =>
        List.subset_cons_of_subset c (ih (List.mem_cons_of_mem _ hmem))
      have hfirst : first ⊆ rest := ih List.mem_cons_self
      split at h
      · rcases List.mem_cons.1 h with rfl | hmem
        · exact List.nil_subset _
        · rcases List.mem_cons.1 hmem with rfl | hmem
          · exact List.subset_cons_of_subset c hfirst
          · exact hothers hmem
      · rcases List.mem_cons.1 h with rfl | hmem
        · exact List.cons_subset_cons c hfirst
        · exact hothers hmem

theorem exists_mem_of_mapM_eq_some {α β : Type} {f : α → Option β} :
    ∀ {xs : List α} {ys : List β}, xs.mapM f = some ys → ∀ y ∈ ys, ∃ x ∈ xs, f x = some y
  | [], ys, h, y, hy => by
    rw [List.mapM_nil] at h
    cases h
    exact nomatch hy
  | x :: xs, ys, h, y, hy => by
    rw [List.mapM_cons] at h
    obtain ⟨z, hz, h⟩ := Option.bind_eq_some_iff.1 h
    obtain ⟨zs, hzs, h⟩ := Option.bind_eq_some_iff.1 h
    cases h
    rcases List.mem_cons.1 hy with rfl | hmem
    · exact ⟨x, List.mem_cons_self, hz⟩
    · obtain ⟨x', hx', hfx⟩ := exists_mem_of_mapM_eq_some hzs y hmem
      exact ⟨x', List.mem_cons_of_mem _ hx', hfx⟩

theorem stays_asciiPrefix : Stays Idna.asciiPrefix := stays_of_all rfl

theorem stays_ofEncoded {encoded : List Char} {l : Idna.Label} (h : Stays encoded)
    (hl : Idna.Label.ofEncoded? isForbiddenInDomain encoded = some l) : Stays l.ascii := by
  unfold Idna.Label.ofEncoded? at hl
  split at hl
  · cases hl
  · obtain ⟨unicode, -, hl⟩ := Option.bind_eq_some_iff.1 hl
    split at hl
    · cases hl
    · cases hl
      exact stays_append stays_asciiPrefix h

theorem stays_ofMapped {label : List Char} {l : Idna.Label} (h : Stays label)
    (hl : Idna.Label.ofMapped? isForbiddenInDomain label = some l) : Stays l.ascii := by
  unfold Idna.Label.ofMapped? at hl
  split at hl
  · exact stays_ofEncoded (h.subset (List.drop_subset _ _)) hl
  · split at hl
    · cases hl
      exact h
    · split at hl
      · cases hl
      · cases hl
        exact stays_append stays_asciiPrefix (stays_encode h)

/-- **A host name of any script.** -/
theorem stays_toAscii {name ascii : List Char} (h : domainToAscii? name = some ascii) :
    Stays ascii := by
  unfold domainToAscii? Idna.toAscii? at h
  obtain ⟨mapped, -, h⟩ := Option.bind_eq_some_iff.1 h
  dsimp only at h
  split at h
  · cases h
  next hallowed =>
  obtain ⟨labels, hlabels, h⟩ := Option.bind_eq_some_iff.1 h
  split at h
  · cases h
  cases h
  have hname : Stays (Idna.normalize mapped) :=
    stays_of_not_any (fun _ hc => (isForbidden_of_endsAuthority hc).1) hallowed
  refine stays_intercalate (stays_cons rfl stays_nil) fun part hpart => ?_
  obtain ⟨l, hl, rfl⟩ := List.mem_map.1 hpart
  obtain ⟨label, hlabel, hof⟩ := exists_mem_of_mapM_eq_some hlabels l hl
  exact stays_ofMapped (hname.subset (subset_of_mem_splitWhere hlabel)) hof

/-! ## Hosts -/

theorem stays_bracketedHost {text : List Char} {host : Host} (h : bracketedHost text = .ok host) :
    Stays host.text.toList := by
  unfold bracketedHost at h
  split at h
  · cases h
  · split at h
    · cases h
      rw [Host.text, String.toList_ofList]
      exact stays_cons rfl (stays_append (stays_writeIpv6 _) (stays_cons rfl stays_nil))
    · cases h

theorem stays_readHost {text : List Char} {host : Host} (h : readHost text = .ok host) :
    Stays host.text.toList := by
  unfold readHost at h
  split at h
  · exact stays_bracketedHost h
  split at h
  · cases h
  split at h
  · cases h
  · cases h
  next domain _ hdomain =>
  split at h
  · split at h
    · cases h
      rw [Host.text, String.toList_ofList]
      exact stays_writeIpv4 _
    · cases h
  · cases h
    rw [Host.text, String.toList_ofList]
    exact stays_toAscii hdomain

theorem stays_readOpaqueHost {text : List Char} {host : Host} (h : readOpaqueHost text = .ok host) :
    Stays host.text.toList := by
  unfold readOpaqueHost at h
  split at h
  · exact stays_bracketedHost h
  split at h
  · cases h
  next hallowed =>
  cases h
  rw [Host.text, String.toList_ofList]
  exact stays_of_not_any (fun _ hc => (isForbidden_of_endsAuthority hc).2) hallowed

theorem stays_readAuthority {special : Bool} {text rest : List Char} {host : Host}
    {port : Option Nat} (h : readAuthority special text = .ok (some host, port, rest)) :
    Stays host.text.toList := by
  unfold readAuthority at h
  dsimp only at h
  split at h
  · cases h
  split at h
  · cases h
  -- the two readers of hosts differ in nothing but what they read
  split at h
  all_goals
    obtain ⟨read, hread, h⟩ := ok_of_bind h
    split at h
    · cases h
    obtain ⟨number, -, h⟩ := ok_of_bind h
    split at h
    · cases h
    simp only [pure, Except.pure, Except.ok.injEq, Prod.mk.injEq] at h
    obtain ⟨hsome, -, -⟩ := h
    split at hsome
    · cases hsome
    cases hsome
  · exact stays_readHost hread
  · exact stays_readOpaqueHost hread

theorem stays_readFileHost {text : List Char} {host : Host}
    (h : readFileHost text = .ok (some host)) : Stays host.text.toList := by
  unfold readFileHost at h
  dsimp only at h
  split at h
  · cases h
  · cases hread : readHost (text.takeWhile fun c => !endsAuthority true c) with
    | error fault => rw [hread] at h; cases h
    | ok read =>
      rw [hread] at h
      cases h
      exact stays_readHost hread

/-- **The host of every address that can be read.** -/
theorem stays_host {target : String} {url : Url} {host : Host} (h : parse target = .ok url)
    (hhost : url.host = some host) : Stays host.text.toList := by
  unfold parse at h
  split at h
  · cases h
  dsimp only at h
  split at h
  · obtain ⟨⟨found, port, rest⟩, hread, h⟩ := ok_of_bind h
    cases h
    obtain rfl : found = some host := hhost
    exact stays_readAuthority hread
  split at h
  · split at h
    · split at h
      · obtain ⟨found, hread, h⟩ := ok_of_bind h
        cases h
        obtain rfl : found = some host := hhost
        exact stays_readFileHost hread
      · cases h
        cases hhost
    · cases h
      cases hhost
  · split at h
    · obtain ⟨⟨found, port, rest⟩, hread, h⟩ := ok_of_bind h
      cases h
      obtain rfl : found = some host := hhost
      exact stays_readAuthority hread
    · cases h
      cases hhost

end RealtimeClient.Url
