import RealtimeClient.PercentEncoding

/-!
# Targets of requests

The address to which a request for a connection is sent: an optional scheme, the authority that
names the server, and a path with a query.  Nothing is normalized here: a text is a target or is
none.

* `Request.Target` — the parts.
* `Request.Target.parse?` — the parts of a text.
* `Request.Target.host` — the server without whoever is named before an `@`.
-/

namespace RealtimeClient.Request

/-- **The parts of a target.** -/
structure Target where
  scheme : Option (List Char)
  authority : List Char
  /-- Path and query; empty, or from a `/`, `?` or `#` on. -/
  path : List Char
  deriving DecidableEq, Repr

namespace Target

/-- The largest number of bytes of a target. -/
def longest : Nat := 65534

/-- The largest number of characters of a scheme. -/
def longestScheme : Nat := 64

/-- The characters of a scheme. -/
def isSchemeChar (c : Char) : Bool :=
  c.isAlphanum || c = '+' || c = '-' || c = '.' || c = '~'

/-- The scheme before `://`, and the text behind it. -/
def splitScheme (text : List Char) : Option (List Char) × List Char :=
  match text.dropWhile isSchemeChar with
  | ':' :: '/' :: '/' :: rest =>
    if text.length > 3 then (some (text.takeWhile isSchemeChar), rest) else (none, text)
  | _ => (none, text)

/-! ## Authority -/

/-- Whether a character ends the authority. -/
def endsAuthority (c : Char) : Bool := c = '/' || c = '?' || c = '#'

/-- The characters of an authority that have no part in its structure. -/
def isAuthorityChar (c : Char) : Bool :=
  c.isAlphanum ||
    ['!', '$', '&', '\'', '(', ')', '*', '+', ',', '-', '.', ';', '=', '_', '~'].contains c

/-- **What has been seen of an authority**: colons and percent signs since the last `@` or `]`, the
brackets, and whether the last character was an `@`. -/
structure Scan where
  colons : Nat := 0
  hasPercent : Bool := false
  opened : Bool := false
  closed : Bool := false
  endsWithAt : Bool := false
  deriving DecidableEq, Repr

/-- The most colons that an authority may have without an `@` or `]` between them. -/
def mostColons : Nat := 8

/-- One character more. -/
def scanChar (s : Scan) (c : Char) : Option Scan :=
  let s := { s with endsWithAt := false }
  match c with
  | ':' => if s.colons < mostColons then some { s with colons := s.colons + 1 } else none
  | '[' => if s.hasPercent ∨ s.opened then none else some { s with opened := true }
  | ']' =>
    if s.opened ∧ ¬s.closed then some { s with closed := true, colons := 0, hasPercent := false }
    else none
  | '@' => some { s with colons := 0, hasPercent := false, endsWithAt := true }
  | '%' => some { s with hasPercent := true }
  | c => if isAuthorityChar c then some s else none

/-- **Whether a text is an authority**: its brackets match, at most one colon stands before a port,
a server follows the last `@`, and percent signs occur only before it or in brackets. -/
def isAuthority (text : List Char) : Bool :=
  match text.foldlM scanChar {} with
  | none => false
  | some s => s.opened = s.closed && s.colons ≤ 1 && !s.endsWithAt && !s.hasPercent

/-! ## Path and query -/

/-- Whether a character is a blank or a control character of ASCII. -/
def isControl (c : Char) : Bool := c.toNat ≤ 0x20 || c.toNat = 0x7F

/-- The characters of a path. -/
def isPathChar (c : Char) : Bool :=
  !isControl c && ['#', '<', '>', '?', '\x60'].all (· ≠ c)

/-- The characters of a query. -/
def isQueryChar (c : Char) : Bool :=
  !isControl c && ['"', '#', '<', '>'].all (· ≠ c)

/-- Whether a text is a path with a query.  What follows a `#` does not count. -/
def isPath (text : List Char) : Bool :=
  let text := text.takeWhile (· ≠ '#')
  (text.takeWhile (· ≠ '?')).all isPathChar &&
    ((text.dropWhile (· ≠ '?')).drop 1).all isQueryChar

/-! ## The whole -/

/-- **The parts of a text.**  Without a scheme the text is an authority alone. -/
def parse? (text : List Char) : Option Target :=
  if (Text.utf8 text).length > longest ∨ text = ['*'] then none
  else
    let (scheme, rest) := splitScheme text
    let authority := rest.takeWhile fun c => !endsAuthority c
    let path := rest.dropWhile fun c => !endsAuthority c
    if authority = [] ∨ !isAuthority authority ∨ !isPath path then none
    else
      match scheme with
      | none => if path = [] then some { scheme, authority, path } else none
      | some name =>
        if name.length ≤ longestScheme then some { scheme, authority, path } else none

/-- **The server**, without whoever is named before the first `@`. -/
def host (t : Target) : List Char :=
  match t.authority.dropWhile (· ≠ '@') with
  | [] => t.authority
  | _ :: host => host

end Target

end RealtimeClient.Request
