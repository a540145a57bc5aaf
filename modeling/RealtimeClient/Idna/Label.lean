import RealtimeClient.Idna.Normalization

/-!
# Labels of host names

The parts of a host name between its dots are labels.  A label does not start with a mark; joiners
occur only where they make a difference; and in a name with letters that are written from right to
left, every label has one direction.

* `Idna.isWellFormed` — the rules for a label of its own.
* `Idna.hasRightToLeft`, `Idna.isOneDirection` — the rule for labels of names with both directions.
-/

namespace RealtimeClient.Idna

/-! ## Marks and joiners -/

def marks : Text.Table Bool := .ofRows Text.Table.flag? markRows

def isMark (c : Char) : Bool := ((marks.floor? c.toNat).map (·.2)).getD false

/-- How a character joins its neighbours. -/
inductive Joining
  | left
  | right
  | both
  | transparent
  | none
  deriving DecidableEq, Repr

def joinings : Text.Table Joining :=
  .ofRows
    (fun
      | ['l'] => some .left
      | ['r'] => some .right
      | ['d'] => some .both
      | ['t'] => some .transparent
      | ['u'] => some .none
      | _ => Option.none)
    joiningRows

def joining (c : Char) : Joining := ((joinings.floor? c.toNat).map (·.2)).getD .none

/-- The first joining in a text that is not transparent. -/
def firstJoining (text : List Char) : Joining :=
  ((text.map joining).find? (· ≠ .transparent)).getD .none

/-- The combining class of the characters that take a vowel away. -/
def viramaClass : Nat := 9

/-- Whether a joiner may stand between two texts, the first of them in reverse. -/
def isJoinerAllowed (c : Char) (before after : List Char) : Bool :=
  before.head?.any (fun d => combiningClass d = viramaClass) ||
    (c = '\u200C' &&
      (firstJoining before = .left || firstJoining before = .both) &&
      (firstJoining after = .right || firstJoining after = .both))

/-- Whether a character is a joiner. -/
def isJoiner (c : Char) : Bool := c = '\u200C' || c = '\u200D'

/-- Whether every joiner of a text may stand where it does; `before` is what comes before the text,
in reverse. -/
def joinersAllowed (before : List Char) : List Char → Bool
  | [] => true
  | c :: rest =>
    (!isJoiner c || isJoinerAllowed c before rest) && joinersAllowed (c :: before) rest

/-- **The rules for a label of its own.** -/
def isWellFormed (label : List Char) : Bool := !label.head?.any isMark && joinersAllowed [] label

/-! ## Directions -/

/-- The direction of a character. -/
inductive Direction
  | leftToRight
  | rightToLeft
  | arabicLetter
  | arabicNumber
  | europeanNumber
  /-- A mark without width. -/
  | mark
  /-- A separator, a sign or another neutral character. -/
  | neutral
  | other
  deriving DecidableEq, Repr

def directions : Text.Table Direction :=
  .ofRows
    (fun
      | ['l'] => some .leftToRight
      | ['r'] => some .rightToLeft
      | ['q'] => some .arabicLetter
      | ['n'] => some .arabicNumber
      | ['g'] => some .europeanNumber
      | ['m'] => some .mark
      | ['o'] => some .neutral
      | ['z'] => some .other
      | _ => none)
    directionRows

def direction (c : Char) : Direction := ((directions.floor? c.toNat).map (·.2)).getD .leftToRight

/-- Whether a text has characters that are written from right to left. -/
def hasRightToLeft (text : List Char) : Bool :=
  text.any fun c => [.rightToLeft, .arabicLetter, .arabicNumber].contains (direction c)

/-- Whether the last direction that is not a mark's is among some. -/
def endsIn (allowed : List Direction) (ds : List Direction) : Bool :=
  (ds.reverse.find? (· ≠ .mark)).any allowed.contains

/-- Whether directions are those of a label that is written from left to right. -/
def isLeftToRightLabel (ds : List Direction) : Bool :=
  ds.all [.leftToRight, .europeanNumber, .mark, .neutral].contains &&
    endsIn [.leftToRight, .europeanNumber] ds

/-- Whether directions are those of a label that is written from right to left. -/
def isRightToLeftLabel (ds : List Direction) : Bool :=
  ds.all
      [.rightToLeft, .arabicLetter, .arabicNumber, .europeanNumber, .mark, .neutral].contains &&
    endsIn [.rightToLeft, .arabicLetter, .arabicNumber, .europeanNumber] ds &&
    !(ds.contains .arabicNumber && ds.contains .europeanNumber)

/-- **Whether a label has one direction.** -/
def isOneDirection (label : List Char) : Bool :=
  let ds := label.map direction
  match ds.head? with
  | none => true
  | some .leftToRight => isLeftToRightLabel ds
  | some .rightToLeft | some .arabicLetter => isRightToLeftLabel ds
  | some _ => false

end RealtimeClient.Idna
