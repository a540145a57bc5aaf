/-!
# Blank characters

The characters with the Unicode property `White_Space`, and cutting texts at them.

* `Text.isBlank` — the property.
* `Text.trimStart`, `Text.trim` — a text without blanks at its start, or at both ends.
* `Text.splitBlank?` — the parts of a text before and after its first blank.
-/

namespace RealtimeClient.Text

/-- **The property `White_Space`.** -/
def isBlank (c : Char) : Bool :=
  let n := c.toNat
  (0x09 ≤ n && n ≤ 0x0D) || n = 0x20 || n = 0x85 || n = 0xA0 || n = 0x1680 ||
    (0x2000 ≤ n && n ≤ 0x200A) || n = 0x2028 || n = 0x2029 || n = 0x202F || n = 0x205F ||
    n = 0x3000

/-- A text without the blanks at its start. -/
def trimStart (text : List Char) : List Char := text.dropWhile isBlank

/-- A text without the blanks at its ends. -/
def trim (text : List Char) : List Char := (trimStart (trimStart text).reverse).reverse

/-- **The parts before and after the first blank**, which belongs to neither; nothing if there is no
blank. -/
def splitBlank? : List Char → Option (List Char × List Char)
  | [] => none
  | c :: rest =>
    if isBlank c then some ([], rest)
    else (splitBlank? rest).map fun (before, after) => (c :: before, after)

end RealtimeClient.Text
