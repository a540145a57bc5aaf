import RealtimeClient.Text.Digit

/-!
# Quoted texts in configuration files

Four forms: basic texts between quotation marks know escapes, literal texts between apostrophes know
none, and each has a form with three marks that may go over several lines.  Line breaks are single
characters here.

* `Toml.readQuoted?` — a text on one line, and what follows it.
* `Toml.readText?` — a text of any form, and what follows it.
-/

namespace RealtimeClient.Toml

/-- Whether a character may stand in a text on one line; the mark around it and the escape sign
apart. -/
def isTextChar (c : Char) : Bool := c = '\t' || (0x20 ≤ c.toNat && c.toNat ≠ 0x7F)

/-- The character with a code in hexadecimal digits. -/
def codeChar? (digits : List Char) : Option Char := do
  let n ← Text.number? 16 digits
  if n.isValidChar then some (Char.ofNat n) else none

/-- The character of an escape behind its sign, and what follows it. -/
def readEscape? : List Char → Option (Char × List Char)
  | 'b' :: rest => some ('\x08', rest)
  | 'f' :: rest => some ('\x0c', rest)
  | 'n' :: rest => some ('\n', rest)
  | 'r' :: rest => some ('\r', rest)
  | 't' :: rest => some ('\t', rest)
  | '"' :: rest => some ('"', rest)
  | '\\' :: rest => some ('\\', rest)
  | 'u' :: a :: b :: c :: d :: rest => (codeChar? [a, b, c, d]).map (·, rest)
  | 'U' :: a :: b :: c :: d :: e :: f :: g :: h :: rest =>
    (codeChar? [a, b, c, d, e, f, g, h]).map (·, rest)
  | _ => none

/-- The rest of a basic text on one line.  Each round takes one character. -/
def readBasic? : (rounds : Nat) → List Char → Option (List Char × List Char)
  | 0, _ | _, [] => none
  | rounds + 1, c :: rest =>
    if c = '"' then some ([], rest)
    else if c = '\\' then do
      let (d, rest) ← readEscape? rest
      let (text, rest) ← readBasic? rounds rest
      return (d :: text, rest)
    else if isTextChar c then
      (readBasic? rounds rest).map fun (text, rest) => (c :: text, rest)
    else none

/-- The rest of a literal text on one line. -/
def readLiteral? : List Char → Option (List Char × List Char)
  | [] => none
  | c :: rest =>
    if c = '\'' then some ([], rest)
    else if isTextChar c then (readLiteral? rest).map fun (text, rest) => (c :: text, rest)
    else none

/-- **A text on one line**, and what follows it. -/
def readQuoted? : List Char → Option (List Char × List Char)
  | '"' :: rest => readBasic? (rest.length + 1) rest
  | '\'' :: rest => readLiteral? rest
  | _ => none

/-! ## Several lines -/

/-- The end of a text with three marks, if it is here: up to two marks more belong to the text. -/
def threeMarks? (mark : Char) (text : List Char) : Option (List Char × List Char) :=
  if [mark, mark, mark].isPrefixOf text then
    let more := ((text.drop 3).take 2).takeWhile (· = mark)
    some (more, text.drop (3 + more.length))
  else none

/-- Whether a character is a blank or a line break. -/
def isSpace (c : Char) : Bool := c = ' ' || c = '\t' || c = '\n'

/-- What follows an escape sign at the end of a line: blanks and line breaks are skipped. -/
def continuation? (text : List Char) : Option (List Char) :=
  if (text.dropWhile fun c => c = ' ' || c = '\t').head? = some '\n' then
    some (text.dropWhile isSpace)
  else none

/-- The rest of a basic text on several lines.  Each round takes one character or one escape. -/
def readBasicLines? : (rounds : Nat) → List Char → Option (List Char × List Char)
  | 0, _ | _, [] => none
  | rounds + 1, c :: rest =>
    match threeMarks? '"' (c :: rest) with
    | some ending => some ending
    | none =>
      if c = '\\' then
        match continuation? rest with
        | some rest => readBasicLines? rounds rest
        | none => do
          let (d, rest) ← readEscape? rest
          let (text, rest) ← readBasicLines? rounds rest
          return (d :: text, rest)
      else if isTextChar c ∨ c = '\n' then
        (readBasicLines? rounds rest).map fun (text, rest) => (c :: text, rest)
      else none

/-- The rest of a literal text on several lines. -/
def readLiteralLines? : List Char → Option (List Char × List Char)
  | [] => none
  | c :: rest =>
    match threeMarks? '\'' (c :: rest) with
    | some ending => some ending
    | none =>
      if isTextChar c ∨ c = '\n' then
        (readLiteralLines? rest).map fun (text, rest) => (c :: text, rest)
      else none

/-- A text without the line break at its start. -/
def dropLineBreak : List Char → List Char
  | '\n' :: rest => rest
  | text => text

/-- **A text of any form**, and what follows it. -/
def readText? (text : List Char) : Option (List Char × List Char) :=
  match text with
  | '"' :: '"' :: '"' :: rest => readBasicLines? (rest.length + 1) (dropLineBreak rest)
  | '\'' :: '\'' :: '\'' :: rest => readLiteralLines? (dropLineBreak rest)
  | text => readQuoted? text

end RealtimeClient.Toml
