import Mathlib
import RealtimeClient.Proofs.Client.Coupling
import RealtimeClient.Proofs.Dict
import RealtimeClient.Request

/-!
# The headers of a request

A request takes its headers in the order of their spellings, and small and capital letters make no
difference to it.  So of several spellings of one header the last one counts.  The headers with which an
application asks for a connection are put over those of every connection spelling by spelling: they replace
what is spelled like them, and where a configured header has a spelling that comes behind theirs, that one
counts.

* `Request.header?` — the value of a header, in whatever spelling.
* `Sendable`, `Distinct` — the headers that may be sent, and none of them twice.
* `exists_build` — **the last spelling counts**.
* `Outlasts` — a configured header that counts in place of one that was asked for.
* `connect_headers_iff` — **the headers of a connect**; `other_spelling_prevails` — one that is lost.
-/

namespace RealtimeClient.Request

/-- **The value of a header**, in whatever spelling it is asked for. -/
def header? (r : Request) (name : String) : Option String :=
  (headerName? name).bind fun key => r.headers.get? key

/-- Whether two lines are about one header. -/
def SameHeader (a b : String × String) : Prop := headerName? a.1 = headerName? b.1

/-- **A line that may be sent.** -/
def Sendable (line : String × String) : Prop :=
  (headerName? line.1).isSome = true ∧ isHeaderValue line.2 = true

/-- **No header is named twice**, in whatever spelling. -/
def Distinct (headers : Headers) : Prop :=
  ∀ a ∈ headers.toList, ∀ b ∈ headers.toList, SameHeader a b → a = b

instance (a b : String × String) : Decidable (SameHeader a b) :=
  inferInstanceAs (Decidable (headerName? a.1 = headerName? b.1))

instance (line : String × String) : Decidable (Sendable line) :=
  inferInstanceAs (Decidable (_ = true ∧ _ = true))

instance (headers : Headers) : Decidable (Distinct headers) :=
  inferInstanceAs (Decidable (∀ a ∈ headers.toList, ∀ b ∈ headers.toList, SameHeader a b → a = b))

/-! ## Setting headers -/

/-- Headers that are set in order, over those given. -/
def setAll (lines : List (String × String)) (headers : Headers) : Except TransportError Headers :=
  lines.foldlM (fun hs line => setHeader hs line.1 line.2) headers

/-- **A line that may be sent is set.** -/
theorem setHeader_of_sendable {line : String × String} (h : Sendable line) (headers : Headers) :
    ∃ key, headerName? line.1 = some key ∧
      setHeader headers line.1 line.2 = .ok (Dict.insert headers key line.2) := by
  obtain ⟨key, hkey⟩ := Option.isSome_iff_exists.1 h.1
  refine ⟨key, hkey, ?_⟩
  simp only [setHeader, hkey, h.2, if_true]

/-- Lines that may be sent are set, and the other headers stay as they are. -/
theorem exists_setAll (lines : List (String × String)) (h : ∀ line ∈ lines, Sendable line)
    (headers : Headers) :
    ∃ set, setAll lines headers = .ok set ∧
      ∀ key, (∀ line ∈ lines, headerName? line.1 ≠ some key) → set.get? key = headers.get? key := by
  induction lines generalizing headers with
  | nil => exact ⟨headers, rfl, fun _ _ => rfl⟩
  | cons line rest ih =>
    obtain ⟨name, hname, hline⟩ := setHeader_of_sendable (h line List.mem_cons_self) headers
    obtain ⟨set, hrest, hkeeps⟩ := ih (fun l hl => h l (.tail _ hl)) (Dict.insert headers name line.2)
    refine ⟨set, ?_, fun key hkey => ?_⟩
    · simp only [setAll, List.foldlM_cons, hline]
      exact hrest
    · have hne : key ≠ name := by
        rintro rfl
        exact hkey line List.mem_cons_self hname
      rw [hkeeps key fun l hl => hkey l (.tail _ hl)]
      exact Dict.From.get?_insert_of_ne line.2 hne _ headers

/-- **The last line about a header counts.** -/
theorem exists_build {url : String} {target : Target} (htarget : Target.parse? url.toList = some target)
    {headers : Headers} (h : ∀ line ∈ headers.toList, Sendable line) :
    ∃ r, build url headers = .ok r ∧
      ∀ line ∈ headers.toList, (∀ other ∈ headers.toList, SameHeader other line → other.1 ≤ line.1) →
        r.header? line.1 = some line.2 := by
  obtain ⟨set, hset, -⟩ := exists_setAll _ h (standardHeaders target)
  refine ⟨{ target, headers := set }, ?_, fun line hline hlast => ?_⟩
  · simp only [build, htarget]
    exact congrArg (Except.map _) hset
  · obtain ⟨before, after, hsplit⟩ := List.append_of_mem hline
    have hsorted := Dict.From.pairwise_toList headers
    rw [hsplit] at h hlast hset hsorted
    -- Nothing behind the line is about its header.
    have hafter : ∀ other ∈ after, ¬SameHeader other line := by
      intro other hother hsame
      have hbehind : line.1 < other.1 :=
        List.rel_of_pairwise_cons (List.pairwise_append.1 hsorted).2.1 hother
      exact String.not_lt.2 (hlast other (by simp [hother]) hsame) hbehind
    obtain ⟨first, hfirst, -⟩ := exists_setAll before (fun l hl => h l (by simp [hl]))
      (standardHeaders target)
    obtain ⟨key, hkey, hmiddle⟩ := setHeader_of_sendable (h line (by simp)) first
    obtain ⟨set', hrest, hkeeps⟩ := exists_setAll after (fun l hl => h l (by simp [hl]))
      (Dict.insert first key line.2)
    have hall : setAll (before ++ line :: after) (standardHeaders target) = .ok set' := by
      rw [setAll, List.foldlM_append]
      simp only [setAll] at hfirst hrest
      simp only [hfirst, List.foldlM_cons, hmiddle, hrest, bind, Except.bind]
    obtain rfl : set' = set := Except.ok.inj (hall.symm.trans hset)
    have hvalue : set'.get? key = some line.2 := by
      rw [hkeeps key fun other hother hname => hafter other hother (hname.trans hkey.symm)]
      exact Dict.From.get?_insert_self key line.2 _ first
    simp only [header?, hkey, Option.bind_some]
    exact hvalue

/-! ## The headers of a connect -/

/-- **A configured line that counts in place of one that was asked for**: it is about the same header, its
spelling comes behind the other one, and that of no other configured line comes behind it. -/
structure Outlasts (defaults : Headers) (rival line : String × String) : Prop where
  configured : rival ∈ defaults.toList
  same : SameHeader rival line
  behind : line.1 < rival.1
  last : ∀ other ∈ defaults.toList, SameHeader other line → other.1 ≤ rival.1

/-- A line of two sets of headers in one. -/
theorem mem_merge_iff {defaults headers : Headers} {line : String × String} :
    line ∈ (Dict.merge defaults headers).toList ↔
      line ∈ headers.toList ∨ line ∈ defaults.toList ∧ headers.get? line.1 = none := by
  obtain ⟨name, value⟩ := line
  rw [Dict.From.mem_toList_iff, Dict.From.mem_toList_iff, Dict.From.mem_toList_iff, Dict.get?_merge]
  cases headers.get? name <;> simp

section Merged

variable {defaults headers : Headers} (hdistinct : Distinct headers) {line : String × String}
  (hline : line ∈ headers.toList)

include hdistinct hline

/-- What is configured about a header that was asked for stays where it is spelled otherwise. -/
theorem mem_merge_of_outlasts {rival : String × String} (h : Outlasts defaults rival line) :
    rival ∈ (Dict.merge defaults headers).toList := by
  refine mem_merge_iff.2 (.inr ⟨h.configured, ?_⟩)
  by_contra hsome
  obtain ⟨value, hvalue⟩ := Option.ne_none_iff_exists'.1 hsome
  have hasked : (rival.1, value) ∈ headers.toList := (Dict.From.mem_toList_iff headers).2 hvalue
  have heq : (rival.1, value) = line := hdistinct _ hasked _ hline h.same
  have hbehind := h.behind
  rw [← heq] at hbehind
  exact String.lt_irrefl _ hbehind

/-- Such a line is the last one about its header. -/
theorem last_of_outlasts {rival : String × String} (h : Outlasts defaults rival line) :
    ∀ other ∈ (Dict.merge defaults headers).toList, SameHeader other rival → other.1 ≤ rival.1 := by
  intro other hother hsame
  rcases mem_merge_iff.1 hother with hasked | ⟨hconfigured, -⟩
  · obtain rfl : other = line := hdistinct _ hasked _ hline (hsame.trans h.same)
    exact String.not_lt.1 (String.lt_asymm h.behind)
  · exact h.last other hconfigured (hsame.trans h.same)

/-- Without such a line the one that was asked for is the last one. -/
theorem last_of_not_outlasts (h : ∀ rival, ¬Outlasts defaults rival line) :
    ∀ other ∈ (Dict.merge defaults headers).toList, SameHeader other line → other.1 ≤ line.1 := by
  intro other hother hsame
  rcases mem_merge_iff.1 hother with hasked | ⟨hconfigured, -⟩
  · obtain rfl : other = line := hdistinct _ hasked _ hline hsame
    exact String.not_lt.1 (String.lt_irrefl _)
  · by_contra hle
    have hbehind : line.1 < other.1 := String.not_le.1 hle
    obtain ⟨rival, hrival, hsame', hlast⟩ := Dict.From.exists_last (p := fun l => SameHeader l line)
      defaults ⟨other, hconfigured, hsame⟩
    have hle' := hlast other hconfigured hsame
    exact h rival ⟨hrival, hsame', Std.lt_of_lt_of_le hbehind hle', hlast⟩

end Merged

/-- **A header that was asked for is sent as it was asked for, unless a configured line outlasts it**, and
then that line is sent. -/
theorem connect_headers_iff {τ : Type} (c : Client τ) (query : Query) (headers : Headers) {url : String}
    {target : Target} (htarget : Target.parse? url.toList = some target)
    (hdefaults : ∀ line ∈ c.defaults.2.toList, Sendable line)
    (hheaders : ∀ line ∈ headers.toList, Sendable line) (hdistinct : Distinct headers) :
    ∃ merged r,
      c.call (.connect query headers) =
        c.push (.engine (.connect (Dict.merge c.defaults.1 query) merged)) ∧
      build url merged = .ok r ∧
      ∀ line ∈ headers.toList,
        (r.header? line.1 = some line.2 ↔
          ∀ rival, Outlasts c.defaults.2 rival line → rival.2 = line.2) ∧
        ∀ rival, Outlasts c.defaults.2 rival line → r.header? line.1 = some rival.2 := by
  have hsendable : ∀ line ∈ (Dict.merge c.defaults.2 headers).toList, Sendable line := by
    intro line hline
    rcases mem_merge_iff.1 hline with hasked | ⟨hconfigured, -⟩
    · exact hheaders line hasked
    · exact hdefaults line hconfigured
  obtain ⟨r, hbuild, hcounts⟩ := exists_build htarget hsendable
  refine ⟨Dict.merge c.defaults.2 headers, r, rfl, hbuild, fun line hline => ?_⟩
  have hrival : ∀ rival, Outlasts c.defaults.2 rival line → r.header? line.1 = some rival.2 := by
    intro rival h
    have hvalue := hcounts rival (mem_merge_of_outlasts hdistinct hline h)
      (last_of_outlasts hdistinct hline h)
    have hname : headerName? rival.1 = headerName? line.1 := h.same
    simp only [header?, hname] at hvalue
    exact hvalue
  refine ⟨⟨fun hsent rival h => ?_, fun h => ?_⟩, hrival⟩
  · rw [hrival rival h] at hsent
    exact Option.some.inj hsent
  · by_cases hnone : ∃ rival, Outlasts c.defaults.2 rival line
    · obtain ⟨rival, houtlasts⟩ := hnone
      rw [hrival rival houtlasts, h rival houtlasts]
    · push Not at hnone
      exact hcounts line (mem_merge_iff.2 (.inl hline)) (last_of_not_outlasts hdistinct hline hnone)

/-- Two headers of every connection. -/
def usual : Headers := Dict.ofList [("Accept", "text"), ("x-token", "usual")]

/-- Other values for them, in other spellings. -/
def special : Headers := Dict.ofList [("accept", "bytes"), ("X-Token", "special")]

/-- A client that sends the usual headers. -/
def configured : Client MemoryTransport := { Client.fresh with defaults := (.nil, usual) }

/-- One of the two values that were asked for is sent. -/
theorem connect_headers_special :
    (∀ line ∈ usual.toList, Sendable line) ∧ (∀ line ∈ special.toList, Sendable line) ∧ Distinct special ∧
      ∃ merged r,
        configured.call (.connect .nil special) = configured.push (.engine (.connect .nil merged)) ∧
        build "ws://localhost/" merged = .ok r ∧
        r.header? "accept" = some "bytes" ∧ r.header? "X-Token" = some "usual" := by
  have htarget : Target.parse? "ws://localhost/".toList =
      some { scheme := some "ws".toList, authority := "localhost".toList, path := "/".toList } := by
    decide +kernel
  have husual : ∀ line ∈ usual.toList, Sendable line := by decide +kernel
  have hspecial : ∀ line ∈ special.toList, Sendable line := by decide +kernel
  have hdistinct : Distinct special := by decide +kernel
  obtain ⟨merged, r, hcall, hbuild, hsent⟩ :=
    connect_headers_iff configured .nil special htarget husual hspecial hdistinct
  refine ⟨husual, hspecial, hdistinct, merged, r, hcall, hbuild, ?_, ?_⟩
  · -- Neither of the usual headers is about the same one and has a spelling behind it.
    have hnone : ∀ rival ∈ usual.toList,
        SameHeader rival ("accept", "bytes") → ¬("accept" : String) < rival.1 := by decide +kernel
    refine (hsent ("accept", "bytes") (by decide +kernel)).1.2 fun rival h => ?_
    exact absurd h.behind (hnone rival h.configured h.same)
  · have hlast : ∀ other ∈ usual.toList,
        SameHeader other ("X-Token", "special") → other.1 ≤ "x-token" := by decide +kernel
    exact (hsent ("X-Token", "special") (by decide +kernel)).2 ("x-token", "usual")
      ⟨by decide +kernel, by decide +kernel, by decide +kernel, hlast⟩

/-- **A header that was asked for is lost to another spelling.** -/
theorem other_spelling_prevails :
    let usual : Headers := Dict.ofList [("x-token", "default")]
    let special : Headers := Dict.ofList [("X-Token", "mine")]
    (∀ line ∈ usual.toList, Sendable line) ∧ (∀ line ∈ special.toList, Sendable line) ∧
      Distinct special ∧
      (build "ws://localhost/" (Dict.merge usual special)).map (·.header? "X-Token") =
        .ok (some "default") := by
  decide +kernel

end RealtimeClient.Request
