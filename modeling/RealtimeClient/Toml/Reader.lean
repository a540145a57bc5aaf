import RealtimeClient.Toml.Draft
import RealtimeClient.Toml.Number
import RealtimeClient.Toml.Quoted

/-!
# Reading configuration files

A file is a sequence of lines.  A line is empty, opens a table, or defines a value under a key; a
value may go on over several lines.

```text
title = "client"            # a value under a key
[reconnect]                 # a table
delay.first = 5             # a key with dots
[[server]]                  # the next table of a list
```

* `Toml.readValue?` — the value at the start of a text.
* `Toml.readPath?` — a key, which may have dots.
* `Toml.read?` — the table of a whole file.

A value that is nested `Toml.depthLimit` deep, or a key with as many parts, is refused.
-/

namespace RealtimeClient.Toml

/-- Lists and tables in line may be nested less deep than this, and a key has fewer parts. -/
def depthLimit : Nat := 80

/-! ## Blanks and remarks -/

/-- Whether a character is a blank inside of a line. -/
def isBlank (c : Char) : Bool := c = ' ' || c = '\t'

/-- A text without the blanks at its start. -/
def skipBlanks (text : List Char) : List Char := text.dropWhile isBlank

/-- The text behind a remark, which goes to the end of the line. -/
def skipRemark : List Char → List Char
  | '#' :: rest => rest.dropWhile isTextChar
  | text => text

/-- The text behind blanks, a remark and the end of the line; nothing else may be there. -/
def lineEnd? (text : List Char) : Option (List Char) :=
  match skipRemark (skipBlanks text) with
  | [] => some []
  | '\n' :: rest => some rest
  | _ => none

/-- A text without the blanks, remarks and line breaks at its start.  Each round takes one line. -/
def skipLines : (rounds : Nat) → List Char → List Char
  | 0, text => text
  | rounds + 1, text =>
    match skipRemark (skipBlanks text) with
    | '\n' :: rest => skipLines rounds rest
    | _ => skipBlanks text

/-- A text without the blanks, remarks and line breaks at its start. -/
def skipSpace (text : List Char) : List Char := skipLines text.length text

/-! ## Keys -/

/-- Whether a character may stand in a key without quotation marks. -/
def isKeyChar (c : Char) : Bool := c.isAlphanum || c = '-' || c = '_'

/-- One part of a key, and what follows it. -/
def readKey? (text : List Char) : Option (String × List Char) :=
  if text.head? = some '"' ∨ text.head? = some '\'' then
    (readQuoted? text).map fun (key, rest) => (String.ofList key, rest)
  else
    let key := text.takeWhile isKeyChar
    if key = [] then none else some (String.ofList key, text.dropWhile isKeyChar)

/-- The parts of a key, and what follows them.  Each round takes one part. -/
def readParts? : (rounds : Nat) → List Char → Option (List String × List Char)
  | 0, _ => none
  | rounds + 1, text => do
    let (key, rest) ← readKey? (skipBlanks text)
    match skipBlanks rest with
    | '.' :: rest =>
      let (keys, rest) ← readParts? rounds rest
      return (key :: keys, rest)
    | rest => return ([key], rest)

/-- **A key**: the parts before the last one, the last one, and what follows the key. -/
def readPath? (text : List Char) : Option (List String × String × List Char) := do
  let (keys, rest) ← readParts? (depthLimit - 1) text
  let last ← keys.getLast?
  return (keys.dropLast, last, rest)

/-! ## Values -/

/-- A reader of values: the value at the start of a text, and what follows it. -/
abbrev ValueReader : Type := List Char → Option (Toml × List Char)

/-- A value under a key: the path before the last part, the last part, the value, and what follows
it. -/
def readPair? (value? : ValueReader) (text : List Char) :
    Option (List String × String × Toml × List Char) := do
  let (path, key, rest) ← readPath? text
  let (v, rest) ← value? (skipBlanks (← behind? '=' rest))
  return (path, key, v, rest)

/-- The items of a list behind its bracket, and what follows the list.  Each round takes an item. -/
def readItems? (value? : ValueReader) : (rounds : Nat) → List Char →
    Option (List Toml × List Char)
  | 0, _ => none
  | rounds + 1, text =>
    match skipSpace text with
    | ']' :: rest => some ([], rest)
    | text => do
      let (item, rest) ← value? text
      match skipSpace rest with
      | ']' :: rest => return ([item], rest)
      | ',' :: rest =>
        let (items, rest) ← readItems? value? rounds rest
        return (item :: items, rest)
      | _ => none

/-- The members of a table in line, put into a draft, and what follows the table.  Each round takes
a member. -/
def readMembers? (value? : ValueReader) : (rounds : Nat) → Draft → List Char →
    Option (Draft × List Char)
  | 0, _, _ => none
  | rounds + 1, d, text => do
    let (path, key, v, rest) ← readPair? value? text
    let d ← d.define? path key v
    match skipBlanks rest with
    | '}' :: rest => return (d, rest)
    | ',' :: rest => readMembers? value? rounds d rest
    | _ => none

/-- A table in line behind its brace, and what follows it. -/
def readInline? (value? : ValueReader) (text : List Char) : Option (Toml × List Char) :=
  match skipBlanks text with
  | '}' :: rest => some (.table .nil, rest)
  | _ => (readMembers? value? text.length .nil text).map fun (d, rest) => (.table d.toTable, rest)

/-- A moment or a number, and what follows it. -/
def readScalar? (text : List Char) : Option (Toml × List Char) :=
  match Moment.read? text with
  | some (m, rest) => some (.moment m, rest)
  | none =>
    match readFloat? text with
    | some (x, rest) => some (.float x, rest)
    | none => (readInteger? text).map fun (i, rest) => (.integer i, rest)

/-- **The value at the start of a text**, and what follows it; lists and tables in it may be nested
up to `depth` deep. -/
def readValue? (depth : Nat) (text : List Char) : Option (Toml × List Char) :=
  match text with
  | '"' :: _ | '\'' :: _ =>
    (readText? text).map fun (s, rest) => (.string (String.ofList s), rest)
  | '[' :: rest =>
    match depth with
    | 0 => none
    | depth + 1 =>
      (readItems? (readValue? depth) text.length rest).map fun (items, rest) =>
        (.array items, rest)
  | '\x7b' :: rest =>
    match depth with
    | 0 => none
    | depth + 1 => readInline? (readValue? depth) rest
  | 't' :: 'r' :: 'u' :: 'e' :: rest => some (.boolean true, rest)
  | 'f' :: 'a' :: 'l' :: 's' :: 'e' :: rest => some (.boolean false, rest)
  | text => readScalar? text

/-! ## Files -/

/-- The lines of a file, put into a draft; `header` is the path of the table that the latest header
has opened.  Each round takes one line or value. -/
def readLines? : (rounds : Nat) → (header : List String) → Draft → List Char → Option Draft
  | 0, _, _, _ => none
  | rounds + 1, header, d, text =>
    match skipBlanks text with
    | [] => some d
    | '\n' :: rest => readLines? rounds header d rest
    | '#' :: rest => do readLines? rounds header d (← lineEnd? ('#' :: rest))
    | '[' :: '[' :: rest => do
      let (path, key, rest) ← readPath? rest
      let rest ← lineEnd? (← behind? ']' (← behind? ']' rest))
      readLines? rounds (path ++ [key]) (← d.openItem? path key) rest
    | '[' :: rest => do
      let (path, key, rest) ← readPath? rest
      let rest ← lineEnd? (← behind? ']' rest)
      readLines? rounds (path ++ [key]) (← d.openTable? path key) rest
    | text => do
      let (path, key, v, rest) ← readPair? (readValue? (depthLimit - 1)) text
      readLines? rounds header (← d.defineIn? header path key v) (← lineEnd? rest)

/-- A text with each line break as a single character. -/
def unifyLineBreaks : List Char → List Char
  | '\r' :: '\n' :: rest => '\n' :: unifyLineBreaks rest
  | c :: rest => c :: unifyLineBreaks rest
  | [] => []

/-- A text without the mark of its byte order. -/
def dropByteOrderMark : List Char → List Char
  | '\uFEFF' :: rest => rest
  | text => text

/-- **The table of a file**, unless it breaks the rules. -/
def read? (text : List Char) : Option Table :=
  let text := unifyLineBreaks (dropByteOrderMark text)
  (readLines? (text.length + 1) [] .nil text).map Draft.toTable

end RealtimeClient.Toml
