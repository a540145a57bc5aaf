import RealtimeClient.Idna.Table.Classes
import RealtimeClient.Idna.Table.Composition
import RealtimeClient.Text.Table

/-!
# Composed characters

A letter with an accent can be written as one character or as two.  A text is normal if its combining
characters are in order and everything that can be composed is.  Characters that only stand for
another single one are not looked at: the mapping of host names has replaced them.

* `Idna.decompose` — a text with its characters taken apart and combining characters in order.
* `Idna.compose` — such a text put together.
* `Idna.normalize` — the normal form of a text.
-/

namespace RealtimeClient.Idna

/-- The class by which a combining character is ordered; zero for other characters. -/
def combiningClasses : Text.Table Nat :=
  .ofRows
    (fun
      | ':' :: digits => some (Text.hexNumber digits)
      | _ => none)
    combiningRows

def combiningClass (c : Char) : Nat := ((combiningClasses.floor? c.toNat).map (·.2)).getD 0

/-- The two characters for which each composed one stands. -/
def decompositions : Text.Table (Char × Char) :=
  .ofRows
    (fun
      | 'c' :: rest =>
        match Text.codes rest with
        | [a, b] => some (a, b)
        | _ => none
      | _ => none)
    compositionRows

/-- A pair of characters as a number. -/
def pairNumber (a b : Char) : Nat := a.toNat * 0x110000 + b.toNat

/-- The composed character for each pair. -/
def compositions : Text.Table Char :=
  ((decompositions.toList.map fun (c, a, b) => (pairNumber a b, Char.ofNat c)).mergeSort
    fun x y => x.1 ≤ y.1).toArray

/-! ## Korean syllables -/

/-- The first syllable, leading consonant, vowel and trailing consonant, and how many of each there
are. -/
def syllableBase : Nat := 0xAC00
/-- The first leading consonant. -/
def leadingBase : Nat := 0x1100
/-- The first vowel. -/
def vowelBase : Nat := 0x1161
/-- The character before the first trailing consonant. -/
def trailingBase : Nat := 0x11A7
def leadingCount : Nat := 19
def vowelCount : Nat := 21
/-- The number of trailing consonants, none included. -/
def trailingCount : Nat := 28

/-- The parts of a Korean syllable. -/
def syllableParts? (c : Char) : Option (List Char) :=
  let n := c.toNat - syllableBase
  if c.toNat < syllableBase ∨ leadingCount * vowelCount * trailingCount ≤ n then none
  else
    let leading := Char.ofNat (leadingBase + n / (vowelCount * trailingCount))
    let vowel := Char.ofNat (vowelBase + n % (vowelCount * trailingCount) / trailingCount)
    let trailing := n % trailingCount
    some (leading :: vowel :: if trailing = 0 then [] else [Char.ofNat (trailingBase + trailing)])

/-- A Korean syllable from two parts of it. -/
def composeSyllable? (a b : Char) : Option Char :=
  let leading := a.toNat - leadingBase
  let vowel := b.toNat - vowelBase
  let syllable := a.toNat - syllableBase
  let trailing := b.toNat - trailingBase
  if leadingBase ≤ a.toNat ∧ leading < leadingCount ∧ vowelBase ≤ b.toNat ∧ vowel < vowelCount then
    some (Char.ofNat (syllableBase + (leading * vowelCount + vowel) * trailingCount))
  else if syllableBase ≤ a.toNat ∧ syllable < leadingCount * vowelCount * trailingCount ∧
      syllable % trailingCount = 0 ∧ trailingBase < b.toNat ∧ trailing < trailingCount then
    some (Char.ofNat (a.toNat + trailing))
  else none

/-! ## Taking apart -/

/-- How often a character that stands for two others can be taken apart, and its parts again. -/
def decompositionDepth : Nat := 8

def decomposeChar : (depth : Nat) → Char → List Char
  | 0, c => [c]
  | depth + 1, c =>
    match syllableParts? c with
    | some parts => parts
    | none =>
      match decompositions.get? c.toNat with
      | some (a, b) => decomposeChar depth a ++ [b]
      | none => [c]

/-- A character at the end of a text in reverse, before the combining characters of higher class. -/
def insertCombining (c : Char) : List Char → List Char
  | [] => [c]
  | d :: rest =>
    if combiningClass c ≠ 0 ∧ combiningClass c < combiningClass d then
      d :: insertCombining c rest
    else c :: d :: rest

/-- **A text taken apart.** -/
def decompose (text : List Char) : List Char :=
  ((text.flatMap (decomposeChar decompositionDepth)).foldl (fun rev c => insertCombining c rev)
    []).reverse

/-! ## Putting together -/

/-- The character that stands for two. -/
def composePair? (a b : Char) : Option Char :=
  (composeSyllable? a b).orElse fun _ => compositions.get? (pairNumber a b)

/-- **A text that is being put together**: what is finished, in reverse; the character that others
may join; and the combining characters behind it that have not joined it, in reverse. -/
structure Composing where
  done : List Char := []
  base : Option Char := none
  behind : List Char := []

/-- What is finished if nothing joins any more, in reverse. -/
def Composing.finish (s : Composing) : List Char := s.behind ++ s.base.toList ++ s.done

/-- Whether a character is cut off from the base by one of no lower class. -/
def Composing.blocks (s : Composing) (c : Char) : Bool :=
  match s.behind with
  | [] => false
  | d :: _ => combiningClass c ≤ combiningClass d

def Composing.add (s : Composing) (c : Char) : Composing :=
  let joined := s.base.bind fun b => if s.blocks c then none else composePair? b c
  match joined with
  | some b => { s with base := some b }
  | none =>
    if combiningClass c = 0 then { done := s.finish, base := some c, behind := [] }
    else { s with behind := c :: s.behind }

/-- **A text put together.** -/
def compose (text : List Char) : List Char := (text.foldl Composing.add {}).finish.reverse

/-- **The normal form of a text.** -/
def normalize (text : List Char) : List Char :=
  if text.all (·.toNat < 0x80) then text else compose (decompose text)

end RealtimeClient.Idna
