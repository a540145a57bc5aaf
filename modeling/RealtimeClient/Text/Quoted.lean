import RealtimeClient.Text.Shown

/-!
# Quoted texts

Texts as they are shown to developers: between marks, and with escapes for what could not be told
apart otherwise.

* `Text.escapeChar` — a character between marks.
* `Text.quoted` — a text between marks.
-/

namespace RealtimeClient.Text

/-- A character by its code in hexadecimal digits. -/
def escapeCode (c : Char) : List Char :=
  ['\\', 'u', '\x7b'] ++ Nat.toDigits 16 c.toNat ++ ['\x7d']

/-- **A character between marks.**  The mark and the backslash have a backslash in front, four control
characters a letter or digit behind one, and other characters that are not shown their code. -/
def escapeChar (mark c : Char) : List Char :=
  if c = mark ∨ c = '\\' then ['\\', c]
  else
    match c with
    | '\x00' => ['\\', '0']
    | '\t' => ['\\', 't']
    | '\n' => ['\\', 'n']
    | '\r' => ['\\', 'r']
    | c => if isShown c then [c] else escapeCode c

/-- **A text between marks.** -/
def quoted (mark : Char) (text : List Char) : List Char :=
  mark :: text.flatMap (escapeChar mark) ++ [mark]

end RealtimeClient.Text
