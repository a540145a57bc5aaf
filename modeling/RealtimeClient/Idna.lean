import RealtimeClient.Idna.Label
import RealtimeClient.Idna.Mapping
import RealtimeClient.Idna.Punycode

/-!
# Host names of all scripts

A host name may have characters of any script.  It is sent in ASCII: the name is mapped and put into
normal form, and each label that still has other characters is replaced by its ASCII form, with
`xn--` in front.  Labels that are given in that form are checked by the same rules.

* `Idna.Label` — a label in both forms.
* `Idna.toAscii?` — the ASCII form of a host name.
-/

namespace RealtimeClient.Idna

/-- What stands in front of an ASCII form. -/
def asciiPrefix : List Char := ['x', 'n', '-', '-']

/-- The largest number of characters of a label that is not in ASCII. -/
def longestLabel : Nat := 1000

/-- The largest number of characters of an ASCII form, without what stands in front. -/
def longestEncoded : Nat := 2000

def isAscii (text : List Char) : Bool := text.all (·.toNat < 0x80)

/-- **A label in both forms.** -/
structure Label where
  ascii : List Char
  unicode : List Char
  deriving DecidableEq, Repr

/-- A label that is given in its ASCII form, without what stands in front.  The form is in ASCII, and
its characters are such that mapping and normal form leave them alone. -/
def Label.ofEncoded? (isForbidden : Char → Bool) (encoded : List Char) : Option Label := do
  if ¬isAscii encoded ∨ longestEncoded < encoded.length then none
  let unicode ← Punycode.decode? encoded
  if isAscii unicode ∨ longestLabel < unicode.length ∨ unicode.any isForbidden ∨
      mapText? unicode ≠ some unicode ∨ normalize unicode ≠ unicode ∨ ¬isWellFormed unicode then
    none
  else some { ascii := asciiPrefix ++ encoded, unicode }

/-- A label of a mapped name. -/
def Label.ofMapped? (isForbidden : Char → Bool) (label : List Char) : Option Label :=
  if asciiPrefix.isPrefixOf label then Label.ofEncoded? isForbidden (label.drop asciiPrefix.length)
  else if isAscii label then some { ascii := label, unicode := label }
  else if longestLabel < label.length ∨ ¬isWellFormed label then none
  else some { ascii := asciiPrefix ++ Punycode.encode label, unicode := label }

/-- **The ASCII form of a host name**; nothing if the name breaks a rule or has a forbidden
character. -/
def toAscii? (isForbidden : Char → Bool) (name : List Char) : Option (List Char) := do
  let name := normalize (← mapText? name)
  if name.any isForbidden then none
  let labels ← (Text.splitWhere (· = '.') name).mapM (Label.ofMapped? isForbidden)
  if labels.any (fun l => hasRightToLeft l.unicode) ∧ ¬labels.all (fun l => isOneDirection l.unicode)
  then none
  else some (List.intercalate ['.'] (labels.map (·.ascii)))

end RealtimeClient.Idna
