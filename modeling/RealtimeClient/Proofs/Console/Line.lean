import Mathlib
import RealtimeClient.Console.Line
import RealtimeClient.Proofs.Text.Blank
import RealtimeClient.Proofs.Value.Json

/-!
# Lines typed at a console, read back

A line is typed as its namespace, its event and its arguments, with blanks between them and around the
whole.  Every line whose words have no blanks and whose arguments have a text of their own is read back
from that.  The arguments may stand as a list, or alone without brackets if there is one and it is no
list, or not at all if there are none.

* `Typable` — the lines that can be typed; `word` — the event with its mark.
* `parse_words` — the words of a line, whatever its arguments are.
* `tight_write` — the text of JSON has no blanks at its ends.
* `arguments_list`, `arguments_single` — the arguments in both forms.
* `parse_typed` — **what was typed is read back**.
-/

namespace RealtimeClient.Console.Line

open RealtimeClient.Text

/-- The event as it is typed: a `?` behind it asks for a reply. -/
def word (l : Line) : List Char := l.event.toList ++ if l.wantsAck then ['?'] else []

/-- **The lines that can be typed**: the namespace and the event have no blanks, the event cannot be taken
for one that asks for a reply, and the arguments have a text that says the same. -/
structure Typable (l : Line) : Prop where
  slash : l.ns.toList.head? = some '/'
  namespaceInked : Inked l.ns.toList
  named : l.event ≠ ""
  eventInked : Inked l.event.toList
  mark : l.wantsAck = true ∨ l.event.toList.getLast? ≠ some '?' ∨ l.event = "?"
  unbuffered : Value.binaryCountOfItems l.args = 0
  exact : Value.allItems Codec.isNotDouble l.args = true
  shallow : Value.depthOfItems l.args ≤ 126

/-! ## Words -/

/-- The first word of a text that is one word, and of one in which a blank follows it. -/
theorem firstWord_of_inked {text : List Char} (h : Inked text) : firstWord text = (text, []) := by
  rw [firstWord, splitBlank?_eq_none h]
  rfl

theorem firstWord_append {text : List Char} (h : Inked text) {c : Char} (hc : isBlank c = true)
    (rest : List Char) : firstWord (text ++ c :: rest) = (text, rest) := by
  rw [firstWord, splitBlank?_append h hc]
  rfl

/-- **The event and its mark are told apart.** -/
theorem eventName_word {l : Line} (h : Typable l) : eventName l.word = (l.event.toList, l.wantsAck) := by
  have hne : l.event.toList ≠ [] := by simpa using h.named
  rw [word, eventName]
  cases hack : l.wantsAck with
  | true =>
    have hlong : (l.event.toList ++ ['?']).length > 1 ∧ (l.event.toList ++ ['?']).getLast? = some '?' := by
      refine ⟨?_, List.getLast?_concat⟩
      rw [List.length_append]
      exact Nat.succ_lt_succ (List.length_pos_iff.2 hne)
    rw [if_pos rfl, if_pos hlong, List.dropLast_concat]
  | false =>
    have hplain : ¬(l.event.toList.length > 1 ∧ l.event.toList.getLast? = some '?') := by
      rintro ⟨hlong, hlast⟩
      rcases h.mark with hmark | hmark | hmark
      · rw [hack] at hmark
        cases hmark
      · exact hmark hlast
      · rw [hmark] at hlong
        exact absurd hlong (by decide)
    rw [if_neg Bool.false_ne_true, List.append_nil, if_neg hplain]

namespace Typable

variable {l : Line} (h : Typable l)

include h

theorem inked_word : Inked l.word := by
  refine h.eventInked.append ?_
  split
  · decide
  · exact nofun

theorem word_ne_nil : l.word ≠ [] := by
  have hne : l.event.toList ≠ [] := by simpa using h.named
  simp [word, hne]

theorem namespace_ne_nil : l.ns.toList ≠ [] := fun hnil => by
  have hslash := h.slash
  rw [hnil] at hslash
  cases hslash

/-- **The words of a line**, whatever stands behind them. -/
theorem parseTrimmed_words {gap tail : List Char} (hgap : Blanks gap) (hgapne : gap ≠ [])
    (htail : ∀ c ∈ tail.head?, isBlank c = true) (hargs : arguments (trim (tail.drop 1)) = .ok l.args) :
    parseTrimmed (l.ns.toList ++ gap ++ l.word ++ tail) = .ok l := by
  obtain ⟨c, gap, rfl⟩ := List.exists_cons_of_ne_nil hgapne
  have hns : firstWord (l.ns.toList ++ (c :: gap) ++ l.word ++ tail) =
      (l.ns.toList, gap ++ (l.word ++ tail)) := by
    have h := firstWord_append h.namespaceInked (hgap c List.mem_cons_self) (gap ++ (l.word ++ tail))
    simpa using h
  have hstart : trimStart (gap ++ (l.word ++ tail)) = l.word ++ tail := by
    refine trimStart_append (fun d hd => hgap d (List.mem_cons_of_mem c hd)) fun d hd => ?_
    rw [List.head?_append_of_ne_nil _ h.word_ne_nil] at hd
    exact h.inked_word.tight.head d hd
  have hword : firstWord (l.word ++ tail) = (l.word, tail.drop 1) := by
    cases tail with
    | nil => simpa using firstWord_of_inked h.inked_word
    | cons d rest => exact firstWord_append h.inked_word (htail d rfl) rest
  simp only [parseTrimmed, hns, h.slash, hstart, hword, if_neg h.word_ne_nil, hargs, eventName_word h]
  simp

/-- **The words of a line**, with blanks around it. -/
theorem parse_words {before gap tail after : List Char} (hbefore : Blanks before) (hgap : Blanks gap)
    (hgapne : gap ≠ []) (htail : ∀ c ∈ tail.head?, isBlank c = true)
    (hlast : ∀ c ∈ tail.getLast?, isBlank c = false) (hafter : Blanks after)
    (hargs : arguments (trim (tail.drop 1)) = .ok l.args) :
    parse (before ++ (l.ns.toList ++ gap ++ l.word ++ tail) ++ after) = .ok (some l) := by
  have hne : l.ns.toList ++ gap ++ l.word ++ tail ≠ [] := by simp [h.namespace_ne_nil]
  have hhead : (l.ns.toList ++ gap ++ l.word ++ tail).head? = some '/' := by
    rw [List.append_assoc, List.append_assoc, List.head?_append_of_ne_nil _ h.namespace_ne_nil, h.slash]
  have htight : Tight (l.ns.toList ++ gap ++ l.word ++ tail) := by
    refine ⟨fun c hc => ?_, fun c hc => ?_⟩
    · obtain rfl : '/' = c := Option.some.inj (hhead.symm.trans hc)
      decide
    · cases tail with
      | nil =>
        rw [List.append_nil, List.getLast?_append_of_ne_nil _ h.word_ne_nil] at hc
        exact h.inked_word.tight.last c hc
      | cons d rest =>
        rw [List.getLast?_append_of_ne_nil _ (List.cons_ne_nil d rest)] at hc
        exact hlast c hc
  have hmark : ¬(l.ns.toList ++ gap ++ l.word ++ tail = [] ∨
      (l.ns.toList ++ gap ++ l.word ++ tail).head? = some '#') := by
    rw [hhead]
    exact not_or.2 ⟨hne, by decide⟩
  simp only [parse, trim_append hbefore htight hafter, if_neg hmark,
    h.parseTrimmed_words hgap hgapne htail hargs]
  rfl

end Typable

/-! ## Arguments -/

/-- A text between two characters that are no blanks has none at its ends. -/
theorem tight_between {a b : Char} (ha : isBlank a = false) (hb : isBlank b = false) (between : List Char) :
    Tight (a :: (between ++ [b])) where
  head c hc := by
    obtain rfl : a = c := Option.some.inj hc
    exact ha
  last c hc := by
    rw [← List.cons_append, List.getLast?_concat] at hc
    obtain rfl : b = c := Option.some.inj hc
    exact hb

/-- Digits are no blanks. -/
theorem inked_decimal (n : Nat) : Inked (Decimal.write n) := by
  intro c hc
  obtain ⟨hlow, hhigh⟩ : 48 ≤ c.toNat ∧ c.toNat ≤ 57 := by
    simpa [Char.isDigit, UInt32.le_iff_toNat_le] using Decimal.isDigit_of_mem_write hc
  simp only [isBlank, Bool.or_eq_false_iff, Bool.and_eq_false_iff, decide_eq_false_iff_not]
  omega

/-- **The text of JSON has no blanks at its ends.** -/
theorem tight_write : (j : Json) → j.isFloatFree = true → Tight j.write
  | .null, _ => Inked.tight (by decide)
  | .bool true, _ => Inked.tight (by decide)
  | .bool false, _ => Inked.tight (by decide)
  | .number (.natural n), _ => (inked_decimal n.toNat).tight
  | .number (.negative n below), _ => by
      refine Inked.tight ?_
      rw [Json.write, Json.Number.write, Decimal.writeInt]
      split
      · exact Inked.append (a := ['-']) (by decide) (inked_decimal _)
      · exact inked_decimal _
  | .string s, _ => tight_between (by decide) (by decide) (s.toList.flatMap Json.escape)
  | .array [], _ => Inked.tight (by decide)
  | .array (item :: rest), _ =>
      tight_between (by decide) (by decide) (item.write ++ Json.writeItems rest)
  | .object .nil, _ => Inked.tight (by decide)
  | .object (.cons key _ value rest), _ => by
      have h := tight_between (a := '\x7b') (b := '\x7d') (by decide) (by decide)
        (Json.writeString key ++ ':' :: (value.write ++ Json.writeMembers rest))
      simpa [Json.write] using h

theorem write_ne_nil (j : Json) (h : j.isFloatFree = true) : j.write ≠ [] := by
  cases j with
  | bool b => cases b <;> exact List.cons_ne_nil _ _
  | number n =>
    cases n with
    | natural n => exact Nat.toDigits_ne_nil
    | negative n below =>
      rw [Json.write, Json.Number.write, Decimal.writeInt]
      split
      · exact List.cons_ne_nil _ _
      · exact Nat.toDigits_ne_nil
    | real x finite => cases h
  | array items => cases items <;> exact List.cons_ne_nil _ _
  | object members => cases members <;> exact List.cons_ne_nil _ _
  | _ => exact List.cons_ne_nil _ _

/-- What arguments are read from JSON, in brackets or without. -/
theorem arguments_write_array {items : List Json} (hfree : Json.areFloatFree items = true)
    (hdepth : Json.depthOfItems items ≤ 126) :
    arguments (Json.array items).write = .ok (Value.itemsOfJson items) := by
  have hread : Json.read (Json.array items).write = .ok (.array items) :=
    Json.read_write hfree (Nat.succ_le_succ hdepth)
  rw [arguments, if_neg (write_ne_nil (.array items) hfree), hread]
  rfl

theorem arguments_write {j : Json} (hfree : j.isFloatFree = true) (hdepth : j.depth ≤ 126)
    (hj : ∀ items, j ≠ .array items) : arguments j.write = .ok [Value.ofJson j] := by
  have hread : Json.read j.write = .ok j := Json.read_write hfree (hdepth.trans (by decide))
  rw [arguments, if_neg (write_ne_nil _ hfree), hread]
  cases j with
  | array items => exact absurd rfl (hj items)
  | _ => rfl

namespace Typable

variable {l : Line} (h : Typable l)

include h

/-- The arguments come back from their trees. -/
theorem itemsOfJson_args : Value.itemsOfJson (Value.treesOfItems l.args) = l.args := by
  rw [Value.itemsOfJson_treesOfItems l.args h.unbuffered]
  exact Value.nullNonFiniteItems_eq_self l.args
    (Value.allItems_mono Value.isShowable_of_isNotDouble l.args h.exact)

/-- **The arguments as a list.** -/
theorem arguments_list :
    ∃ json, (Value.array l.args).toJson = .ok json ∧ json.isFloatFree = true ∧
      arguments json.write = .ok l.args := by
  have hfree : Json.areFloatFree (Value.treesOfItems l.args) = true :=
    Value.isFloatFree_tree (v := .array l.args) h.unbuffered h.exact
  have hdepth : Json.depthOfItems (Value.treesOfItems l.args) ≤ 126 := by
    rw [Value.depthOfItems_treesOfItems]
    exact h.shallow
  have hargs := arguments_write_array hfree hdepth
  rw [h.itemsOfJson_args] at hargs
  exact ⟨.array (Value.treesOfItems l.args), Value.toJson_of_unbuffered h.unbuffered, hfree, hargs⟩

/-- **A single argument without brackets.** -/
theorem arguments_single {arg : Value} (harg : l.args = [arg]) (hkind : arg.kind ≠ .array) :
    ∃ json, arg.toJson = .ok json ∧ json.isFloatFree = true ∧ arguments json.write = .ok l.args := by
  have hnone : arg.binaryCount = 0 := by
    simpa [harg, Value.binaryCountOfItems] using h.unbuffered
  have hexact : arg.all Codec.isNotDouble = true := by
    simpa [harg, Value.allItems] using h.exact
  have hshallow : arg.depth ≤ 126 := by
    simpa [harg, Value.depthOfItems] using h.shallow
  have hfree := Value.isFloatFree_tree hnone hexact
  have hargs := arguments_write hfree (hshallow.trans' arg.depth_tree.le) (Value.tree_ne_array hkind)
  have hback := h.itemsOfJson_args
  rw [harg] at hback ⊢
  exact ⟨arg.tree, Value.toJson_of_unbuffered hnone, hfree, hargs.trans (congrArg Except.ok hback)⟩

/-- A line whose payload stands behind blanks. -/
theorem parse_payload {w₀ w₁ w₂ w₃ : List Char} (h₀ : Blanks w₀) (h₁ : Blanks w₁) (h₂ : Blanks w₂)
    (h₃ : Blanks w₃) (hne₁ : w₁ ≠ []) (hne₂ : w₂ ≠ []) {json : Json} (hfree : json.isFloatFree = true)
    (hargs : arguments json.write = .ok l.args) :
    parse (w₀ ++ l.ns.toList ++ w₁ ++ l.word ++ w₂ ++ json.write ++ w₃) = .ok (some l) := by
  obtain ⟨c, rest, rfl⟩ := List.exists_cons_of_ne_nil hne₂
  have htight := tight_write json hfree
  have hrest : Blanks rest := fun d hd => h₂ d (List.mem_cons_of_mem c hd)
  have htrim : trim (rest ++ json.write ++ []) = json.write := trim_append hrest htight nofun
  rw [List.append_nil] at htrim
  have hhead : ∀ d ∈ (c :: rest ++ json.write).head?, isBlank d = true := by
    intro d hd
    obtain rfl : c = d := Option.some.inj hd
    exact h₂ c List.mem_cons_self
  have hlast : ∀ d ∈ (c :: rest ++ json.write).getLast?, isBlank d = false := by
    intro d hd
    rw [List.getLast?_append_of_ne_nil _ (write_ne_nil json hfree)] at hd
    exact htight.last d hd
  have hread := h.parse_words h₀ h₁ hne₁ hhead hlast h₃
    (by rwa [List.cons_append, List.drop_one, List.tail_cons, htrim])
  simpa only [List.append_assoc] using hread

end Typable

/-! ## Whole lines -/

/-- **What was typed is read back**: with the arguments as a list, without any if there are none, and
without brackets if there is one and it is no list. -/
theorem parse_typed {l : Line} (h : Typable l) {w₀ w₁ w₂ w₃ : List Char} (h₀ : Blanks w₀)
    (h₁ : Blanks w₁) (h₂ : Blanks w₂) (h₃ : Blanks w₃) (hne₁ : w₁ ≠ []) (hne₂ : w₂ ≠ []) :
    (∃ json, (Value.array l.args).toJson = .ok json ∧
      parse (w₀ ++ l.ns.toList ++ w₁ ++ l.word ++ w₂ ++ json.write ++ w₃) = .ok (some l)) ∧
    (l.args = [] → parse (w₀ ++ l.ns.toList ++ w₁ ++ l.word ++ w₃) = .ok (some l)) ∧
    ∀ arg, l.args = [arg] → arg.kind ≠ .array →
      ∃ json, arg.toJson = .ok json ∧
        parse (w₀ ++ l.ns.toList ++ w₁ ++ l.word ++ w₂ ++ json.write ++ w₃) = .ok (some l) := by
  refine ⟨?_, fun hnil => ?_, fun arg harg hkind => ?_⟩
  · obtain ⟨json, hjson, hfree, hargs⟩ := h.arguments_list
    exact ⟨json, hjson, h.parse_payload h₀ h₁ h₂ h₃ hne₁ hne₂ hfree hargs⟩
  · have hargs : arguments (trim (List.drop 1 [])) = .ok l.args := by
      rw [hnil]
      rfl
    have hparse := h.parse_words h₀ h₁ hne₁ (fun c hc => by cases hc) (fun c hc => by cases hc) h₃ hargs
    simpa only [List.append_assoc, List.append_nil] using hparse
  · obtain ⟨json, hjson, hfree, hargs⟩ := h.arguments_single harg hkind
    exact ⟨json, hjson, h.parse_payload h₀ h₁ h₂ h₃ hne₁ hne₂ hfree hargs⟩

/-- A line with a mark of its own in the event, and with one argument. -/
def greeting : Line := { ns := "/chat#1", event := "say?", args := [.string "a b?"], wantsAck := true }

/-- A line whose event is a mark, without arguments. -/
def wave : Line := { ns := "/", event := "?", args := [], wantsAck := false }

theorem typable_greeting : Typable greeting where
  slash := by decide +kernel
  namespaceInked := by decide +kernel
  named := by decide +kernel
  eventInked := by decide +kernel
  mark := .inl rfl
  unbuffered := rfl
  exact := rfl
  shallow := by decide

theorem typable_wave : Typable wave where
  slash := by decide +kernel
  namespaceInked := by decide +kernel
  named := by decide +kernel
  eventInked := by decide +kernel
  mark := .inr (.inr rfl)
  unbuffered := rfl
  exact := rfl
  shallow := by decide

/-- Between blanks of several kinds the argument is read with its brackets and without them, and a line
without arguments ends with its event. -/
theorem parse_typed_greeting :
    Typable greeting ∧ Typable wave ∧ Blanks ['\u3000'] ∧ Blanks ['\t', ' '] ∧ Blanks ['\u2028'] ∧
      Blanks ['\n'] ∧
      parse "\u3000/chat#1\t say??\u2028[\"a b?\"]\n".toList = .ok (some greeting) ∧
      parse "\u3000/chat#1\t say??\u2028\"a b?\"\n".toList = .ok (some greeting) ∧
      parse "\u3000/\t ?\n".toList = .ok (some wave) := by
  have h₀ : Blanks ['\u3000'] := by decide +kernel
  have h₁ : Blanks ['\t', ' '] := by decide +kernel
  have h₂ : Blanks ['\u2028'] := by decide +kernel
  have h₃ : Blanks ['\n'] := by decide +kernel
  have hgreeting := parse_typed typable_greeting h₀ h₁ h₂ h₃ (by decide) (by decide)
  have hwave := parse_typed typable_wave h₀ h₁ h₂ h₃ (by decide) (by decide)
  obtain ⟨list, hlist, hparse⟩ := hgreeting.1
  obtain rfl : Json.array [.string "a b?"] = list := Except.ok.inj hlist
  obtain ⟨single, hsingle, hparse'⟩ := hgreeting.2.2 (.string "a b?") rfl (by decide)
  obtain rfl : Json.string "a b?" = single := Except.ok.inj hsingle
  refine ⟨typable_greeting, typable_wave, h₀, h₁, h₂, h₃, ?_, ?_, ?_⟩
  · rw [← hparse]
    exact congrArg parse (by decide +kernel)
  · rw [← hparse']
    exact congrArg parse (by decide +kernel)
  · rw [← hwave.2.1 rfl]
    exact congrArg parse (by decide +kernel)

end RealtimeClient.Console.Line
