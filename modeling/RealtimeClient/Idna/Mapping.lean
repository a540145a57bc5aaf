import RealtimeClient.Idna.Table.Mapping
import RealtimeClient.Text.Table

/-!
# The mapping of host names

Before anything else, each character of a host name is replaced by those that stand for it in names:
letters by small letters, wide forms by ordinary ones, and so on.  Some characters are left out, and
some must not occur.

* `Idna.Rule` — what becomes of a range of characters.
* `Idna.mapChar?` — what becomes of a character.
-/

namespace RealtimeClient.Idna

/-- **What becomes of a range of characters.** -/
inductive Rule
  | keep
  | leaveOut
  | refuse
  | replace (chars : List Char)
  | moveUp (distance : Nat)
  | moveDown (distance : Nat)
  /-- Of each two characters the first becomes the second. -/
  | pairs
  deriving DecidableEq, Repr

def Rule.ofRow? : List Char → Option Rule
  | ['v'] => some .keep
  | ['i'] => some .leaveOut
  | ['x'] => some .refuse
  | ['p'] => some .pairs
  | 'm' :: rest => some (.replace (Text.codes rest))
  | 's' :: rest => some (.moveUp (Text.hexNumber rest))
  | 't' :: rest => some (.moveDown (Text.hexNumber rest))
  | _ => none

def rules : Text.Table Rule := .ofRows Rule.ofRow? mappingRows

/-- What a rule makes of a character; `first` is the first character of the range. -/
def Rule.apply? (first : Nat) (c : Char) : Rule → Option (List Char)
  | .keep => some [c]
  | .leaveOut => some []
  | .refuse => none
  | .replace cs => some cs
  | .moveUp distance => some [Char.ofNat (c.toNat + distance)]
  | .moveDown distance => some [Char.ofNat (c.toNat - distance)]
  | .pairs => some [if (c.toNat - first) % 2 = 0 then Char.ofNat (c.toNat + 1) else c]

/-- **What becomes of a character**; nothing if it must not occur. -/
def mapChar? (c : Char) : Option (List Char) := do
  let (first, rule) ← rules.floor? c.toNat
  rule.apply? first c

def mapText? (text : List Char) : Option (List Char) := (text.mapM mapChar?).map List.flatten

end RealtimeClient.Idna
