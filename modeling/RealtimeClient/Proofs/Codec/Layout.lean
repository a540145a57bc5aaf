import Mathlib
import RealtimeClient.Proofs.Codec.Header
import RealtimeClient.Proofs.Codec.Reading

/-!
# The layout of a message

The text of a message is its kind and up to four more parts, none of which has a mark in front of it.
Each part is cut off where the text can no longer belong to it, and the cuts are at the right places: the
reader finds the parts of every text that is laid out as messages are, and there is only one way to find
them.  Texts that are laid out otherwise are refused, but for one slip: the number of buffers may have a
plus sign in front.

* `Layout`, `Layout.text` — the parts of a text.
* `Layout.Documented` — the form of the parts; `Layout.Grammatical` — and none runs into the next one.
* `Layout.packet` — what the parts stand for.
* `readText_textWith` — **laid out texts are read**; `layout_of_readText` — **what is read is laid out**.
* `Layout.text_injective` — no text is laid out in two ways.
* `readText_layout`, `layout_of_accepted` — the two laws.
-/

namespace RealtimeClient.Codec

open Decimal (IsRun)

/-! ## The parts of a text -/

/-- **The namespace in a text.**  It is left out, or it ends with a comma, or with the text.  The path is
what comes after the `/`. -/
inductive NamespacePart
  | absent
  | closed (path : List Char)
  | last (path : List Char)
  deriving DecidableEq, Repr

namespace NamespacePart

def text : NamespacePart → List Char
  | .absent => []
  | .closed path => '/' :: (path ++ [','])
  | .last path => '/' :: path

/-- The namespace that is meant. -/
def name : NamespacePart → String
  | .absent => defaultNamespace
  | .closed path | .last path => String.ofList ('/' :: path)

/-- There is no comma in a namespace. -/
def InForm : NamespacePart → Prop
  | .absent => True
  | .closed path | .last path => ',' ∉ path

instance (part : NamespacePart) : Decidable part.InForm :=
  match part with
  | .absent => .isTrue trivial
  | .closed path | .last path => inferInstanceAs (Decidable (',' ∉ path))

/-- What can come after the namespace: no `/` if it is left out, nothing if it ends with the text. -/
def Admits (rest : List Char) : NamespacePart → Prop
  | .absent => rest.head? ≠ some '/'
  | .closed _ => True
  | .last _ => rest = []

end NamespacePart

/-- The ack id that digits stand for.  Without digits there is none. -/
def idOf (digits : List Char) : Option UInt64 :=
  if digits = [] then none else some (Decimal.value digits).toUInt64

/-- **The parts of a message's text**: its kind, the digits of the number of buffers, the namespace, the
digits of the ack id, and the payload. -/
@[ext]
structure Layout where
  kind : PacketKind
  count : List Char
  ns : NamespacePart
  id : List Char
  body : List Char
  deriving DecidableEq, Repr

namespace Layout

/-- The text of the parts, with a sign in front of the number of buffers.  Only the kinds with buffers
have that number. -/
def textWith (sign : List Char) (l : Layout) : List Char :=
  l.kind.digit :: ((if l.kind.isBinary then sign ++ l.count ++ ['-'] else []) ++
    (l.ns.text ++ (l.id ++ l.body)))

/-- **The text of the parts.** -/
def text (l : Layout) : List Char := l.textWith []

/-- **The form of the parts.** -/
structure Documented (l : Layout) : Prop where
  /-- The number of buffers has digits where the kind has buffers, and is left out elsewhere. -/
  count : if l.kind.isBinary then IsRun l.count else l.count = []
  ns : l.ns.InForm
  /-- The ack id has digits, or is left out. -/
  id : ∀ c ∈ l.id, c.isDigit = true
  /-- The payload is left out, or it is JSON. -/
  body : l.body = [] ∨ ∃ json, Json.read l.body = .ok json

/-- **Parts in form, none of which runs into the next one.**  The numbers have 64 bits. -/
structure Grammatical (l : Layout) : Prop extends Documented l where
  countBound : Decimal.value l.count < numberBound
  idBound : Decimal.value l.id < numberBound
  /-- The payload does not go on with the digits of the ack id. -/
  stops : ∀ c, l.body.head? = some c → c.isDigit = false
  admits : l.ns.Admits (l.id ++ l.body)

/-- The ack id that is meant. -/
def ackId (l : Layout) : Option UInt64 := idOf l.id

/-- The JSON of the payload. -/
def json (l : Layout) : Option Json := if l.body = [] then none else (Json.read l.body).toOption

/-- **What the parts stand for.** -/
def packet (l : Layout) : Partial :=
  { header := { frame := .message, kind := l.kind, ns := l.ns.name, id := l.ackId, payload := [] }
    body := l.json, expected := Decimal.value l.count, buffers := [] }

end Layout

/-! ## Reading part by part -/

namespace Header

/-- A text is cut at the first mark, or it has no mark. -/
theorem cut_cases (c : Char) (text : List Char) :
    (∃ before after, cut c text = (before, some after) ∧ text = before ++ c :: after ∧ c ∉ before) ∨
      (cut c text = (text, none) ∧ c ∉ text) := by
  by_cases h : c ∈ text
  · obtain ⟨before, after, rfl, hbefore⟩ := List.eq_append_cons_of_mem h
    exact .inl ⟨before, after, cut_append after before hbefore, rfl, hbefore⟩
  · refine .inr ⟨?_, h⟩
    induction text with
    | nil => rfl
    | cons d rest ih =>
      rw [List.mem_cons, not_or] at h
      simp [cut, Ne.symm h.1, ih h.2]

/-- A digit is the one of its number. -/
theorem digit?_eq_some {c : Char} {n : Nat} (h : digit? c = some n) : c = Nat.digitChar n := by
  unfold digit? at h
  split_ifs at h with hc
  have hrange : 48 ≤ c.toNat ∧ c.toNat ≤ 57 := Char.isDigit_iff_toNat.1 hc
  obtain rfl : c.toNat - 48 = n := Option.some.inj h
  have hdigit := Nat.toNat_digitChar_of_lt_ten (n := c.toNat - 48) (by omega)
  exact Char.toNat_inj.1 (by omega)

theorem readKind_eq_ok {text rest : List Char} {kind : PacketKind} (h : readKind text = .ok (kind, rest)) :
    text = kind.digit :: rest := by
  cases text with
  | nil => cases h
  | cons c tail =>
    simp only [readKind] at h
    split at h
    · next kind' hkind =>
      cases h
      obtain ⟨n, hn, hnumber⟩ := Option.bind_eq_some_iff.1 hkind
      obtain rfl : n = kind.number := by
        unfold PacketKind.ofNumber? at hnumber
        split at hnumber <;> cases hnumber <;> rfl
      rw [digit?_eq_some hn]
      rfl
    · cases h

/-- There is no dash in a number, with a sign in front or without. -/
theorem dash_not_mem {sign run : List Char} (hsign : sign = [] ∨ sign = ['+']) (hrun : IsRun run) :
    '-' ∉ sign ++ run := by
  rw [List.mem_append, not_or]
  exact ⟨by rcases hsign with rfl | rfl <;> simp, hrun.not_mem (by decide)⟩

/-- **The number of buffers** has a dash at its end, and may have a sign. -/
theorem readCount_eq_ok_iff {kind : PacketKind} (hkind : kind.isBinary = true) {text rest : List Char}
    {n : Nat} :
    readCount kind text = .ok (n, rest) ↔
      ∃ sign run, (sign = [] ∨ sign = ['+']) ∧ IsRun run ∧ Decimal.value run < numberBound ∧
        n = Decimal.value run ∧ text = sign ++ run ++ '-' :: rest := by
  constructor
  · intro h
    rw [readCount, if_pos hkind] at h
    obtain ⟨digits, after, hcut, rfl, -⟩ | ⟨hcut, -⟩ := cut_cases '-' text
    · simp only [hcut] at h
      split at h
      · next hsigned =>
        cases h
        obtain ⟨sign, run, hsign, rfl, hread⟩ := Decimal.readSigned?_eq_some_iff.1 hsigned
        obtain ⟨hrun, hbound, rfl⟩ := Decimal.read?_eq_some_iff.1 hread
        exact ⟨sign, run, hsign, hrun, hbound, rfl, rfl⟩
      · cases h
    · simp only [hcut] at h
      cases h
  · rintro ⟨sign, run, hsign, hrun, hbound, rfl, rfl⟩
    have hread : Decimal.readSigned? numberBound (sign ++ run) = some (Decimal.value run) :=
      Decimal.readSigned?_eq_some_iff.2
        ⟨sign, run, hsign, rfl, Decimal.read?_eq_some_iff.2 ⟨hrun, hbound, rfl⟩⟩
    simp only [readCount, hkind, if_true, cut_append rest _ (dash_not_mem hsign hrun), hread]

/-- Where it is read, the number of buffers is in form, up to the sign.  The other kinds have none. -/
theorem exists_of_readCount {kind : PacketKind} {text rest : List Char} {n : Nat}
    (h : readCount kind text = .ok (n, rest)) :
    ∃ sign count, (if kind.isBinary then IsRun count else count = []) ∧
      Decimal.value count < numberBound ∧ (sign = [] ∨ sign = ['+'] ∧ kind.isBinary = true) ∧
      text = (if kind.isBinary then sign ++ count ++ ['-'] else []) ++ rest := by
  by_cases hkind : kind.isBinary = true
  · obtain ⟨sign, run, hsign, hrun, hbound, -, rfl⟩ := (readCount_eq_ok_iff hkind).1 h
    exact ⟨sign, run, by rw [if_pos hkind]; exact hrun, hbound,
      hsign.imp_right fun hplus => ⟨hplus, hkind⟩, by simp [hkind]⟩
  · rw [readCount, if_neg hkind] at h
    cases h
    exact ⟨[], [], by simp [hkind], by decide, .inl rfl, by simp [hkind]⟩

/-- Whatever is wrong with it, the number of buffers is refused as such. -/
theorem readCount_cases (kind : PacketKind) (text : List Char) :
    (∃ n rest, readCount kind text = .ok (n, rest)) ∨ readCount kind text = .error .badAttachmentCount := by
  unfold readCount
  split
  · split
    · split
      · exact .inl ⟨_, _, rfl⟩
      · exact .inr rfl
    · exact .inr rfl
  · exact .inl ⟨_, _, rfl⟩

/-- **The namespace** is left out, or it has an end. -/
theorem readNamespace_eq_iff {text rest : List Char} {ns : String} :
    readNamespace text = (ns, rest) ↔
      ∃ part : NamespacePart, part.InForm ∧ part.Admits rest ∧ text = part.text ++ rest ∧
        ns = part.name := by
  constructor
  · intro h
    unfold readNamespace at h
    split at h
    · next hslash =>
      obtain ⟨before, after, hcut, rfl, hbefore⟩ | ⟨hcut, hcomma⟩ := cut_cases ',' text
      · simp only [hcut, Option.getD_some, Prod.mk.injEq] at h
        obtain ⟨rfl, rfl⟩ := h
        cases before with
        | nil => cases hslash
        | cons c path =>
          obtain rfl : c = '/' := Option.some.inj hslash
          rw [List.mem_cons, not_or] at hbefore
          exact ⟨.closed path, hbefore.2, trivial, by simp [NamespacePart.text], rfl⟩
      · simp only [hcut, Option.getD_none, Prod.mk.injEq] at h
        obtain ⟨rfl, rfl⟩ := h
        cases text with
        | nil => cases hslash
        | cons c path =>
          obtain rfl : c = '/' := Option.some.inj hslash
          rw [List.mem_cons, not_or] at hcomma
          exact ⟨.last path, hcomma.2, rfl, by simp [NamespacePart.text], rfl⟩
    · next hslash =>
      cases h
      exact ⟨.absent, trivial, hslash, rfl, rfl⟩
  · rintro ⟨part, hform, hadmits, rfl, rfl⟩
    cases part with
    | absent =>
      have hslash : rest.head? ≠ some '/' := hadmits
      simp [readNamespace, NamespacePart.text, NamespacePart.name, hslash]
    | closed path =>
      have hcut : cut ',' ('/' :: path ++ ',' :: rest) = ('/' :: path, some rest) :=
        cut_append rest _ (by simpa [NamespacePart.InForm] using hform)
      simp only [List.cons_append] at hcut
      simp [readNamespace, NamespacePart.text, NamespacePart.name, hcut]
    | last path =>
      obtain rfl : rest = [] := hadmits
      have hcut : cut ',' ('/' :: path) = ('/' :: path, none) := by
        obtain ⟨before, after, -, heq, -⟩ | ⟨hcut, -⟩ := cut_cases ',' ('/' :: path)
        · have hmem : ',' ∈ '/' :: path := by simp [heq]
          exact absurd hmem (by simpa [NamespacePart.InForm] using hform)
        · exact hcut
      simp [readNamespace, NamespacePart.text, NamespacePart.name, hcut]

/-- **The ack id** has as many digits as there are. -/
theorem readId_eq_ok_iff {text rest : List Char} {id : Option UInt64} :
    readId text = .ok (id, rest) ↔
      ∃ digits, (∀ c ∈ digits, c.isDigit = true) ∧ Decimal.value digits < numberBound ∧
        (∀ c, rest.head? = some c → c.isDigit = false) ∧ text = digits ++ rest ∧ id = idOf digits := by
  constructor
  · intro h
    have hdigits : ∀ c ∈ text.takeWhile Char.isDigit, c.isDigit = true :=
      fun c hc => List.mem_takeWhile_imp hc
    have hstops : ∀ c, (text.dropWhile Char.isDigit).head? = some c → c.isDigit = false := by
      intro c hc
      have hhead := List.head?_dropWhile_not Char.isDigit text
      simpa [hc] using hhead
    have htext : text = text.takeWhile Char.isDigit ++ text.dropWhile Char.isDigit :=
      List.takeWhile_append_dropWhile.symm
    unfold readId at h
    dsimp only at h
    split_ifs at h with hempty
    · cases h
      exact ⟨_, hdigits, by simp [hempty, Decimal.value, numberBound], hstops, htext, by simp [idOf, hempty]⟩
    · split at h
      · next n hread =>
        cases h
        obtain ⟨-, hbound, rfl⟩ := Decimal.read?_eq_some_iff.1 hread
        exact ⟨_, hdigits, hbound, hstops, htext, by simp [idOf, hempty]⟩
      · cases h
  · rintro ⟨digits, hdigits, hbound, hstops, rfl, rfl⟩
    have hsplit := takeWhile_digits digits hdigits hstops
    by_cases hempty : digits = []
    · subst hempty
      simp only [List.nil_append] at hsplit
      simp [readId, hsplit.1, hsplit.2, idOf]
    · have hread : Decimal.read? numberBound digits = some (Decimal.value digits) :=
        Decimal.read?_eq_some_iff.2 ⟨⟨hempty, hdigits⟩, hbound, rfl⟩
      simp [readId, hsplit.1, hsplit.2, hempty, hread, idOf]

/-- **A header** is read part by part. -/
theorem read_eq_ok {text rest : List Char} {h : Header} (hread : read text = .ok (h, rest)) :
    ∃ text₁ text₂ text₃, text = h.kind.digit :: text₁ ∧ readCount h.kind text₁ = .ok (h.count, text₂) ∧
      readNamespace text₂ = (h.ns, text₃) ∧ readId text₃ = .ok (h.id, rest) := by
  obtain ⟨⟨kind, text₁⟩, hkind, hread⟩ := ok_of_bind hread
  obtain ⟨⟨count, text₂⟩, hcount, hread⟩ := ok_of_bind hread
  obtain ⟨⟨id, text₃⟩, hid, hread⟩ := ok_of_bind hread
  cases hread
  exact ⟨text₁, text₂, _, readKind_eq_ok hkind, hcount, rfl, hid⟩

/-- The same where the kind is known. -/
theorem read_digit_eq_ok {kind : PacketKind} {text rest : List Char} {h : Header}
    (hread : read (kind.digit :: text) = .ok (h, rest)) :
    ∃ text₁ text₂, readCount kind text = .ok (h.count, text₁) ∧ readNamespace text₁ = (h.ns, text₂) ∧
      readId text₂ = .ok (h.id, rest) := by
  obtain ⟨text', text₁, text₂, htext, hparts⟩ := read_eq_ok hread
  have hkinds := congrArg readKind htext
  simp only [readKind_digit, Except.ok.injEq, Prod.mk.injEq] at hkinds
  obtain ⟨rfl, rfl⟩ := hkinds
  exact ⟨text₁, text₂, hparts⟩

end Header

/-! ## Whole texts -/

namespace Layout

variable {l : Layout} {sign : List Char}

/-- The payload is read as its JSON. -/
theorem Documented.readBody (h : l.Documented) : readBody l.body = .ok l.json := by
  unfold Codec.readBody json
  obtain hbody | ⟨json, hjson⟩ := h.body
  · simp [hbody]
  · split_ifs
    · rfl
    · simp [hjson, Except.toOption]

theorem Grammatical.readCount (h : l.Grammatical) (hsign : sign = [] ∨ sign = ['+']) (rest : List Char) :
    Header.readCount l.kind ((if l.kind.isBinary then sign ++ l.count ++ ['-'] else []) ++ rest) =
      .ok (Decimal.value l.count, rest) := by
  have hcount := h.count
  by_cases hkind : l.kind.isBinary = true
  · rw [if_pos hkind] at hcount
    exact (Header.readCount_eq_ok_iff hkind).2
      ⟨sign, l.count, hsign, hcount, h.countBound, rfl, by simp [hkind]⟩
  · rw [if_neg hkind] at hcount
    simp [Header.readCount, hkind, hcount, Decimal.value]

/-- **The header** is read from its parts, and the payload is left. -/
theorem Grammatical.read (h : l.Grammatical) (hsign : sign = [] ∨ sign = ['+']) :
    Header.read (l.textWith sign) =
      .ok ({ kind := l.kind, count := Decimal.value l.count, ns := l.ns.name, id := l.ackId }, l.body) := by
  have hns : Header.readNamespace (l.ns.text ++ (l.id ++ l.body)) = (l.ns.name, l.id ++ l.body) :=
    Header.readNamespace_eq_iff.2 ⟨l.ns, h.ns, h.admits, rfl, rfl⟩
  have hid : Header.readId (l.id ++ l.body) = .ok (l.ackId, l.body) :=
    Header.readId_eq_ok_iff.2 ⟨l.id, h.id, h.idBound, h.stops, rfl, rfl⟩
  simp only [Header.read, textWith, Header.readKind_digit, bind, Except.bind, h.readCount hsign, hns, hid]
  rfl

end Layout

/-- **A laid out text is read**, with a sign in front of the number of buffers or without. -/
theorem readText_textWith {l : Layout} (h : l.Grammatical) {sign : List Char}
    (hsign : sign = [] ∨ sign = ['+']) : readText ('4' :: l.textWith sign) = .ok l.packet := by
  have hkind : (digit? '4').bind FrameKind.ofNumber? = some .message := rfl
  simp only [readText, hkind, readMessage, bind, Except.bind, h.read hsign, h.readBody]
  rfl

/-- A kind of frame is read from its own digit only. -/
theorem eq_digit_of_frameKind {c : Char} {frame : FrameKind}
    (h : (digit? c).bind FrameKind.ofNumber? = some frame) : c = frame.digit := by
  obtain ⟨n, hn, hnumber⟩ := Option.bind_eq_some_iff.1 h
  obtain rfl : n = frame.number := by
    unfold FrameKind.ofNumber? at hnumber
    split at hnumber <;> cases hnumber <;> rfl
  exact Header.digit?_eq_some hn

/-- What is read as a message begins with the digit of messages. -/
theorem exists_of_readText {text : List Char} {p : Partial} (h : readText text = .ok p)
    (hframe : p.header.frame = .message) : ∃ rest, text = '4' :: rest ∧ readMessage rest = .ok p := by
  cases text with
  | nil => cases h
  | cons c rest =>
    simp only [readText] at h
    split at h
    · cases h
    · next hkind => exact ⟨rest, by rw [eq_digit_of_frameKind hkind]; rfl, h⟩
    · obtain ⟨body, -, h⟩ := ok_of_bind h
      cases h
      cases hframe
    · next hmessage _ _ =>
      cases h
      exact absurd hframe fun heq => hmessage heq

/-- **What is read as a message is laid out as one**, but the number of buffers may have a plus sign. -/
theorem layout_of_readText {text : List Char} {p : Partial} (h : readText text = .ok p)
    (hframe : p.header.frame = .message) :
    ∃ (l : Layout) (sign : List Char), l.Grammatical ∧ p = l.packet ∧ text = '4' :: l.textWith sign ∧
      (sign = [] ∨ sign = ['+'] ∧ l.kind.isBinary = true) := by
  obtain ⟨rest, rfl, hmessage⟩ := exists_of_readText h hframe
  obtain ⟨header, body, json, hheader, hbody, rfl⟩ := readMessage_eq_ok hmessage
  obtain ⟨text₁, text₂, text₃, rfl, hcount, hns, hid⟩ := Header.read_eq_ok hheader
  obtain ⟨part, hform, hadmits, rfl, hname⟩ := Header.readNamespace_eq_iff.1 hns
  obtain ⟨digits, hdigits, hbound, hstops, rfl, hid⟩ := Header.readId_eq_ok_iff.1 hid
  have hjson : body = [] ∨ ∃ j, Json.read body = .ok j := or_iff_not_imp_left.2 (json_of_readBody hbody)
  obtain ⟨sign, count, hdigits', hlt, hsign, rfl⟩ := Header.exists_of_readCount hcount
  let l : Layout := { kind := header.kind, count, ns := part, id := digits, body }
  have hl : l.Grammatical :=
    { count := hdigits', ns := hform, id := hdigits, body := hjson, countBound := hlt
      idBound := hbound, stops := hstops, admits := hadmits }
  -- The parts are read as what they stand for, and there is only one reading.
  have hread : readText ('4' :: l.textWith sign) = .ok l.packet :=
    readText_textWith hl (hsign.imp_right And.left)
  exact ⟨l, sign, hl, Except.ok.inj (h.symm.trans hread), rfl, hsign⟩

/-! ## One layout only -/

/-- The number of buffers and what comes after it can be told apart. -/
theorem Header.count_append_inj {binary : Bool} {count count' rest rest' : List Char}
    (h : if binary then IsRun count else count = [])
    (h' : if binary then IsRun count' else count' = [])
    (heq : (if binary then [] ++ count ++ ['-'] else []) ++ rest =
      (if binary then [] ++ count' ++ ['-'] else []) ++ rest') : count = count' ∧ rest = rest' := by
  cases binary with
  | true =>
    have htexts : count ++ '-' :: rest = count' ++ '-' :: rest' := by simpa using heq
    have hcut := cut_append rest count (IsRun.not_mem (c := '-') h (by decide))
    have hcut' := cut_append rest' count' (IsRun.not_mem (c := '-') h' (by decide))
    rw [htexts, hcut'] at hcut
    simpa [eq_comm] using hcut
  | false =>
    obtain rfl : count = [] := h
    obtain rfl : count' = [] := h'
    exact ⟨rfl, heq⟩

/-- The namespace and what comes after it can be told apart. -/
theorem NamespacePart.text_append_inj {part part' : NamespacePart} {rest rest' : List Char}
    (h : part.InForm) (h' : part'.InForm) (hr : part.Admits rest) (hr' : part'.Admits rest')
    (heq : part.text ++ rest = part'.text ++ rest') : part = part' ∧ rest = rest' := by
  cases part with
  | absent =>
    cases part' with
    | absent => exact ⟨rfl, heq⟩
    | closed path' | last path' =>
      obtain rfl : rest = _ := heq
      exact absurd rfl hr
  | closed path =>
    cases part' with
    | absent =>
      obtain rfl : _ = rest' := heq
      exact absurd rfl hr'
    | closed path' =>
      have htexts : path ++ ',' :: rest = path' ++ ',' :: rest' := by simpa [text] using heq
      have hcut := Header.cut_append rest path h
      have hcut' := Header.cut_append rest' path' h'
      rw [htexts, hcut'] at hcut
      simpa [eq_comm] using hcut
    | last path' =>
      obtain rfl : rest' = [] := hr'
      obtain rfl : path ++ ',' :: rest = path' := by simpa [text] using heq
      exact absurd (by simp) h'
  | last path =>
    obtain rfl : rest = [] := hr
    cases part' with
    | absent =>
      obtain rfl : _ = rest' := heq
      exact absurd rfl hr'
    | closed path' =>
      obtain rfl : path = path' ++ ',' :: rest' := by simpa [text] using heq
      exact absurd (by simp) h
    | last path' =>
      obtain rfl : rest' = [] := hr'
      exact ⟨by simpa [text] using heq, rfl⟩

/-- **No text is laid out in two ways.** -/
theorem Layout.text_injective {l l' : Layout} (h : l.Grammatical) (h' : l'.Grammatical)
    (heq : l.text = l'.text) : l = l' := by
  have hcount := h.count
  have hkinds := congrArg Header.readKind heq
  simp only [text, textWith, Header.readKind_digit, Except.ok.injEq, Prod.mk.injEq] at hkinds
  obtain ⟨hkind, hparts⟩ := hkinds
  rw [hkind] at hcount hparts
  obtain ⟨hcounts, hparts⟩ := Header.count_append_inj hcount h'.count hparts
  obtain ⟨hns, hparts⟩ := NamespacePart.text_append_inj h.ns h'.ns h.admits h'.admits hparts
  have hsplit := Header.takeWhile_digits l.id h.id h.stops
  rw [hparts, (Header.takeWhile_digits l'.id h'.id h'.stops).1,
    (Header.takeWhile_digits l'.id h'.id h'.stops).2] at hsplit
  exact Layout.ext hkind hcounts hns hsplit.1.symm hsplit.2.symm

/-! ## The laws -/

/-- **Every laid out text is read**, and what is read are the parts of its only layout. -/
theorem readText_layout {l : Layout} (h : l.Grammatical) :
    readText ('4' :: l.text) =
        .ok { header := { frame := .message, kind := l.kind, ns := l.ns.name, id := l.ackId,
                          payload := [] }
              body := l.json, expected := Decimal.value l.count, buffers := [] } ∧
      ∀ l' : Layout, l'.Grammatical → l'.text = l.text → l' = l :=
  ⟨readText_textWith h (.inl rfl), fun _ h' heq => Layout.text_injective h' h heq⟩

/-- A text in which the marks of all parts occur again behind them. -/
def crowded : Layout :=
  { kind := .binaryAck, count := "002".toList, ns := .closed "a-1/é[7".toList, id := "0042".toList
    body := " [\"4,2-/\", -7]".toList }

/-- It is read as it is meant. -/
theorem readText_crowded :
    crowded.Grammatical ∧
      readText ('4' :: crowded.text) =
        .ok { header := { frame := .message, kind := .binaryAck, ns := "/a-1/é[7", id := some 42,
                          payload := [] }
              body := some (.array [.string "4,2-/", .number (.negative (-7) (by decide))])
              expected := 2, buffers := [] } ∧
      ∀ l' : Layout, l'.Grammatical → l'.text = crowded.text → l' = crowded := by
  have hjson : Json.read crowded.body =
      .ok (.array [.string "4,2-/", .number (.negative (-7) (by decide))]) := by decide +kernel
  have h : crowded.Grammatical :=
    { count := ⟨by simp [crowded], by simp [crowded]⟩, ns := by simp [crowded, NamespacePart.InForm]
      id := by simp [crowded], body := .inr ⟨_, hjson⟩
      countBound := by
        simp [crowded, Decimal.value, Nat.ofDigitChars_cons, numberBound, UInt64.size]
      idBound := by
        simp [crowded, Decimal.value, Nat.ofDigitChars_cons, numberBound, UInt64.size]
      stops := by simp [crowded], admits := trivial }
  obtain ⟨hread, hunique⟩ := readText_layout h
  exact ⟨h, hread.trans (by decide +kernel), hunique⟩

/-- **A plus sign stands where the number of buffers should begin.** -/
def PlusSigned (text : List Char) : Prop :=
  ∃ (kind : PacketKind) (rest : List Char), kind.isBinary = true ∧ text = '4' :: kind.digit :: '+' :: rest

/-- No sign stands in front of a number that is in form. -/
theorem Layout.Documented.not_plusSigned {l : Layout} (h : l.Documented) :
    ¬PlusSigned ('4' :: l.text) := by
  rintro ⟨kind, rest, hkind, heq⟩
  have hcount := h.count
  have hkinds := congrArg Header.readKind (List.cons.inj heq).2
  simp only [text, textWith, Header.readKind_digit, Except.ok.injEq, Prod.mk.injEq] at hkinds
  obtain ⟨hl, hparts⟩ := hkinds
  rw [hl, if_pos hkind] at hcount hparts
  cases hdigits : l.count with
  | nil => exact hcount.1 hdigits
  | cons c digits =>
    rw [hdigits] at hcount hparts
    obtain rfl : c = '+' := (List.cons.inj hparts).1
    exact hcount.not_mem (by decide) List.mem_cons_self

/-- Nothing but the number of buffers is refused as such. -/
theorem readText_badAttachmentCount_iff (kind : PacketKind) (rest : List Char) :
    readText ('4' :: kind.digit :: rest) = .error .badAttachmentCount ↔
      Header.readCount kind rest = .error .badAttachmentCount := by
  have hid (text : List Char) : Header.readId text ≠ .error .badAttachmentCount := by
    unfold Header.readId
    dsimp only
    split_ifs
    · simp
    · split <;> simp
  have hbody (text : List Char) : readBody text ≠ .error .badAttachmentCount := by
    unfold readBody
    split_ifs
    · simp
    · split <;> simp
  have htext : readText ('4' :: kind.digit :: rest) = readMessage (kind.digit :: rest) := rfl
  rw [htext]
  constructor
  · intro h
    obtain hread | ⟨⟨header, text⟩, -, h⟩ := error_of_bind h
    · obtain hkind | ⟨⟨kind', text'⟩, hkind, hread⟩ := error_of_bind hread
      · rw [Header.readKind_digit] at hkind
        cases hkind
      · rw [Header.readKind_digit] at hkind
        cases hkind
        obtain hcount | ⟨⟨count, text₂⟩, -, hread⟩ := error_of_bind hread
        · exact hcount
        · obtain hids | ⟨⟨id, text₃⟩, -, hread⟩ := error_of_bind hread
          · exact absurd hids (hid _)
          · cases hread
    · obtain hjson | ⟨body, -, h⟩ := error_of_bind h
      · exact absurd hjson (hbody _)
      · cases h
  · intro hcount
    simp only [readMessage, Header.read, Header.readKind_digit, bind, Except.bind, hcount]

/-- **A text is read as a message only if it is laid out as one**, unless a plus sign stands in front of the
number of buffers.  And a text of a kind with buffers is refused for their number exactly if there is no
number before a dash, with a plus sign or without. -/
theorem layout_of_accepted (text : List Char) :
    (∀ p, readText text = .ok p → p.header.frame = .message →
      (∃ (l : Layout) (sign : List Char), l.Grammatical ∧ p = l.packet ∧ text = '4' :: l.textWith sign ∧
        (sign = [] ∨ sign = ['+'] ∧ l.kind.isBinary = true)) ∧
      ((∃ l : Layout, l.Documented ∧ text = '4' :: l.text) ↔ ¬PlusSigned text)) ∧
    (∀ kind rest, PacketKind.isBinary kind = true → text = '4' :: kind.digit :: rest →
      (readText text = .error .badAttachmentCount ↔
        ¬∃ sign run tail, (sign = [] ∨ sign = ['+']) ∧ IsRun run ∧ Decimal.value run < numberBound ∧
          rest = sign ++ run ++ '-' :: tail)) := by
  constructor
  · intro p h hframe
    have hlayout := layout_of_readText h hframe
    refine ⟨hlayout, ?_⟩
    obtain ⟨l, sign, hl, -, rfl, hsign⟩ := hlayout
    constructor
    · rintro ⟨l', hl', heq⟩
      rw [heq]
      exact hl'.not_plusSigned
    · intro hplus
      obtain rfl | ⟨rfl, hkind⟩ := hsign
      · exact ⟨l, hl.toDocumented, rfl⟩
      · exact absurd ⟨l.kind, _, hkind, by simp [Layout.textWith, hkind]; rfl⟩ hplus
  · rintro kind rest hkind rfl
    rw [readText_badAttachmentCount_iff]
    constructor
    · rintro h ⟨sign, run, tail, hsign, hrun, hbound, rfl⟩
      have hread : Header.readCount kind (sign ++ run ++ '-' :: tail) = .ok (Decimal.value run, tail) :=
        (Header.readCount_eq_ok_iff hkind).2 ⟨sign, run, hsign, hrun, hbound, rfl, rfl⟩
      rw [h] at hread
      cases hread
    · intro h
      obtain ⟨n, tail, hread⟩ | hread := Header.readCount_cases kind rest
      · obtain ⟨sign, run, hsign, hrun, hbound, -, heq⟩ := (Header.readCount_eq_ok_iff hkind).1 hread
        exact absurd ⟨sign, run, tail, hsign, hrun, hbound, heq⟩ h
      · exact hread

/-- A text with an ack id and a namespace, and one that is refused for a number in words. -/
theorem layout_of_join :
    (∃ p, readText "43/room,7[]".toList = .ok p ∧ p.header.frame = .message ∧
      ∃ l : Layout, l.Documented ∧ "43/room,7[]".toList = '4' :: l.text) ∧
    PacketKind.isBinary .binaryEvent = true ∧
      readText "45two-[]".toList = .error .badAttachmentCount := by
  constructor
  · have hread : readText "43/room,7[]".toList =
        .ok { header := { frame := .message, kind := .ack, ns := "/room", id := some 7, payload := [] }
              body := some (.array []), expected := 0, buffers := [] } := by decide +kernel
    obtain ⟨-, hlaid⟩ := (layout_of_accepted _).1 _ hread rfl
    refine ⟨_, hread, rfl, hlaid.2 ?_⟩
    rintro ⟨kind, rest, -, heq⟩
    simp at heq
  · refine ⟨rfl, ((layout_of_accepted _).2 .binaryEvent "two-[]".toList rfl rfl).2 ?_⟩
    rintro ⟨sign, run, tail, rfl | rfl, hrun, -, heq⟩
    · cases run with
      | nil => exact hrun.1 rfl
      | cons c run =>
        obtain rfl : 't' = c := (List.cons.inj heq).1
        simpa using hrun.2 't' List.mem_cons_self
    · simp at heq

/-- **A number of buffers with a plus sign is read**, though the text is not laid out as messages are. -/
theorem plus_signed_accepted :
    readText "45+0-[\"e\"]".toList =
        .ok { header := { frame := .message, kind := .binaryEvent, ns := "/", id := none, payload := [] }
              body := some (.array [.string "e"]), expected := 0, buffers := [] } ∧
      ¬∃ l : Layout, l.Documented ∧ "45+0-[\"e\"]".toList = '4' :: l.text := by
  refine ⟨by decide +kernel, ?_⟩
  rintro ⟨l, hl, heq⟩
  exact hl.not_plusSigned ⟨.binaryEvent, "0-[\"e\"]".toList, rfl, by rw [← heq]; rfl⟩

end RealtimeClient.Codec
