import RealtimeClient.PercentEncoding

/-!
# Paths

The path of an address in normal form: a slash, and segments between slashes.  Segments that mean
"here" are left out, and one that means "up" takes the segment before it with it.  A segment that
looks like the letter of a drive is never taken away.

* `Url.normalizePath` — the normal form of the text after the host.
-/

namespace RealtimeClient.Url

/-- Whether a character stands for its bytes, percent-encoded, in a path. -/
def isEscapedInPath (c : Char) : Bool :=
  c.toNat ≤ 0x20 || 0x7F ≤ c.toNat || c = '"' || c = '<' || c = '>' || c = '\x60' || c = '#' ||
    c = '?' || c = '\x7b' || c = '\x7d'

/-- A character of a path. -/
def escapeInPath (c : Char) : List Char :=
  if isEscapedInPath c then (String.utf8EncodeChar c).flatMap PercentEncoding.escapeByte else [c]

/-- What a dot may be written as. -/
def dotForms : List (List Char) := [['.'], ['%', '2', 'e'], ['%', '2', 'E']]

/-- Whether a segment means "here". -/
def isHere (segment : List Char) : Bool := dotForms.contains segment

/-- Whether a segment means "up". -/
def isUp (segment : List Char) : Bool :=
  dotForms.any fun a => dotForms.any fun b => segment = a ++ b

/-- Whether a segment looks like the letter of a drive. -/
def isDriveLetter : List Char → Bool
  | [c, d] => c.isAlpha && (d = ':' || d = '|')
  | _ => false

/-- The segments without the last one, which comes first here. -/
def goUp : List (List Char) → List (List Char)
  | [] => []
  | segment :: rest => if isDriveLetter segment then segment :: rest else rest

/-- The segments of a path, given in order: those that end with a slash, the last one first, and the
one that does not. -/
def resolveSegments (done : List (List Char)) :
    List (List Char) → List (List Char) × List Char
  | [] => (done, [])
  | [last] =>
    if isUp last then (goUp done, [])
    else if isHere last then (done, [])
    else (done, last)
  | segment :: rest =>
    if isUp segment then resolveSegments (goUp done) rest
    else if isHere segment then resolveSegments done rest
    else resolveSegments (segment :: done) rest

/-- The segments of a text between slashes of either direction. -/
def segments (text : List Char) : List (List Char) :=
  text.foldr
    (fun c parts =>
      match parts with
      | [] => [[c]]
      | part :: rest =>
        if c = '/' ∨ c = '\\' then [] :: part :: rest else (escapeInPath c ++ part) :: rest)
    [[]]

/-- **The normal form of a path.**  The text may begin with its first slash or without it. -/
def normalizePath (text : List Char) : List Char :=
  let text := match text with
    | '/' :: rest | '\\' :: rest => rest
    | text => text
  let (done, last) := resolveSegments [] (segments text)
  '/' :: (done.reverse.flatMap (· ++ ['/'])) ++ last

end RealtimeClient.Url
