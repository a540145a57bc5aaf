import Mathlib
import RealtimeClient.Codec.Header
import RealtimeClient.Proofs.Decimal

/-!
# A written header, read again

The optional parts of a header have no marks of their own in front: the reader tells them apart by
what they end with, or by what they begin with.  A header is read back from its text whenever the
text behind it cannot be taken for a part of it.

* `Header.WellFormed` — the count fits the kind, and the namespace keeps to its form.
* `Header.Separate` — a text that no header runs into.
* `Header.read_write` — **reading undoes writing**, and leaves the rest of the text alone.
-/

namespace RealtimeClient.Codec.Header

/-! ## Cutting -/

/-- A text is cut at the first mark. -/
theorem cut_append {c : Char} (rest : List Char) :
    (text : List Char) → c ∉ text → cut c (text ++ c :: rest) = (text, some rest)
  | [], _ => by simp [cut]
  | d :: text, h => by
      rw [List.mem_cons, not_or] at h
      simp [cut, Ne.symm h.1, cut_append rest text h.2]

theorem takeWhile_digits (digits : List Char) (hd : ∀ c ∈ digits, c.isDigit = true)
    {rest : List Char} (hr : ∀ c, rest.head? = some c → c.isDigit = false) :
    (digits ++ rest).takeWhile Char.isDigit = digits ∧
      (digits ++ rest).dropWhile Char.isDigit = rest := by
  have hrest : rest.takeWhile Char.isDigit = [] ∧ rest.dropWhile Char.isDigit = rest := by
    cases rest with
    | nil => exact ⟨rfl, rfl⟩
    | cons c _ => simp [hr c rfl]
  rw [List.takeWhile_append_of_pos hd, List.dropWhile_append_of_pos hd, hrest.1, hrest.2]
  simp

/-! ## The parts -/

/-- **The parts of a header fit together**: a count only where the kind has one, and a namespace
with a `/` in front and no comma. -/
structure WellFormed (h : Header) : Prop where
  binary : h.kind.isBinary = decide (0 < h.count)
  bound : h.count < numberBound
  slash : h.ns.toList.head? = some '/'
  comma : ',' ∉ h.ns.toList

/-- **A text that no header runs into**: it begins with neither a digit nor a `/`. -/
def Separate (rest : List Char) : Prop :=
  ∀ c, rest.head? = some c → c.isDigit = false ∧ c ≠ '/'

/-- The text of the count. -/
def countText (count : Nat) : List Char := if count > 0 then Decimal.write count ++ ['-'] else []

/-- The text of the namespace. -/
def namespaceText (ns : String) : List Char :=
  if ns = defaultNamespace then [] else ns.toList ++ [',']

/-- The text of the ack id. -/
def idText : Option UInt64 → List Char
  | some id => Decimal.write id.toNat
  | none => []

theorem write_eq (h : Header) :
    h.write = h.kind.digit :: (countText h.count ++ namespaceText h.ns ++ idText h.id) := by
  cases hid : h.id <;> simp [write, countText, namespaceText, idText, hid]

theorem readKind_digit (kind : PacketKind) (rest : List Char) :
    readKind (kind.digit :: rest) = .ok (kind, rest) := by
  cases kind <;> rfl

/-- The count is read up to its dash. -/
theorem readCount_countText {kind : PacketKind} {count : Nat}
    (hb : kind.isBinary = decide (0 < count)) (hlt : count < numberBound) (rest : List Char) :
    readCount kind (countText count ++ rest) = .ok (count, rest) := by
  rw [readCount, countText]
  by_cases hc : 0 < count
  · have hdash : '-' ∉ Decimal.write count := fun hm => by
      have := Decimal.isDigit_of_mem_write hm
      simp at this
    simp only [hb, hc, decide_true, if_true, List.append_assoc, List.singleton_append,
      cut_append rest _ hdash, Decimal.readSigned?_write hlt]
  · obtain rfl : count = 0 := by omega
    simp [hb]

/-- **Any number of buffers**: one beyond 64 bits is refused. -/
theorem readCount_countText_eq {kind : PacketKind} {count : Nat} (hb : kind.isBinary = decide (0 < count))
    (rest : List Char) :
    readCount kind (countText count ++ rest) =
      if count < numberBound then .ok (count, rest) else .error .badAttachmentCount := by
  split_ifs with hlt
  · exact readCount_countText hb hlt rest
  · have hc : 0 < count := lt_of_lt_of_le (by decide : 0 < numberBound) (not_lt.1 hlt)
    have hkind : kind.isBinary = true := by rw [hb, decide_eq_true hc]
    have hdash : '-' ∉ Decimal.write count := (Decimal.isRun_write count).not_mem (by decide)
    simp only [readCount, hkind, countText, if_pos hc, if_true, List.append_assoc, List.singleton_append,
      cut_append rest _ hdash, Decimal.readSigned?_write_of_le (not_lt.1 hlt)]

/-- The namespace is read up to its comma, and taken for the default one where there is none. -/
theorem readNamespace_namespaceText {ns : String} (hslash : ns.toList.head? = some '/')
    (hcomma : ',' ∉ ns.toList) {rest : List Char} (hr : rest.head? ≠ some '/') :
    readNamespace (namespaceText ns ++ rest) = (ns, rest) := by
  rw [readNamespace, namespaceText]
  by_cases hd : ns = defaultNamespace
  · simp [hd, hr]
  · have hhead : (ns.toList ++ ',' :: rest).head? = some '/' := by simp [hslash]
    simp [hd, hhead, cut_append rest _ hcomma]

/-- The ack id is read as far as its digits go. -/
theorem readId_idText (id : Option UInt64) {rest : List Char}
    (hr : ∀ c, rest.head? = some c → c.isDigit = false) :
    readId (idText id ++ rest) = .ok (id, rest) := by
  cases id with
  | none =>
    have h := takeWhile_digits [] (by simp) hr
    simp only [List.nil_append] at h
    simp [readId, idText, h.1, h.2]
  | some id =>
    have h := takeWhile_digits (Decimal.write id.toNat) (fun _ => Decimal.isDigit_of_mem_write) hr
    have hne : Decimal.write id.toNat ≠ [] := Nat.toDigits_ne_nil
    simp [readId, idText, h.1, h.2, hne, Decimal.read?_write id.toNat_lt, numberBound, UInt64.size]

/-- What comes after the namespace does not begin with a `/`. -/
theorem head?_idText_append (id : Option UInt64) {rest : List Char} (hr : Separate rest) :
    (idText id ++ rest).head? ≠ some '/' := by
  cases id with
  | none => exact fun h => (hr '/' h).2 rfl
  | some id =>
    obtain ⟨c, digits, heq, hc, -⟩ := Decimal.write_cons id.toNat
    rw [idText, heq]
    rintro h
    obtain rfl : c = '/' := by simpa using h
    simp at hc

/-- **A header is read back from its text**, and the text behind it is left. -/
theorem read_write {h : Header} (hw : WellFormed h) {rest : List Char} (hr : Separate rest) :
    read (h.write ++ rest) = .ok (h, rest) := by
  have hid := readId_idText h.id fun c hc => (hr c hc).1
  have hns := readNamespace_namespaceText hw.slash hw.comma (head?_idText_append h.id hr)
  have hcount := readCount_countText hw.binary hw.bound (namespaceText h.ns ++ (idText h.id ++ rest))
  rw [write_eq]
  simp only [List.cons_append, List.append_assoc, read, readKind_digit, bind, Except.bind, hcount,
    hns, hid]
  rfl

end RealtimeClient.Codec.Header
