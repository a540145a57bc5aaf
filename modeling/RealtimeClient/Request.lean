import RealtimeClient.Request.Target
import RealtimeClient.Transport

/-!
# Requests for a connection

A request names its target and carries header lines.  The names of headers do not depend on the case
of their letters, so they are kept in small letters; a header that is set again has the new value.

* `Request` — target and headers.
* `Request.headerName?`, `Request.isHeaderValue` — what may stand in a header line.
* `Request.build` — the request for an address with the headers of the application.

The key with which a server proves that it has understood the request is drawn when the request is
sent; it is no part of it here.
-/

namespace RealtimeClient

/-- **A request.** -/
structure Request where
  target : Request.Target
  /-- The headers, under names in small letters. -/
  headers : Headers
  deriving DecidableEq

namespace Request

/-- The characters of a header's name. -/
def isNameChar (c : Char) : Bool :=
  c.isAlphanum ||
    ['!', '#', '$', '%', '&', '\'', '*', '+', '-', '.', '^', '_', '\x60', '|', '~'].contains c

/-- The largest number of characters of a header's name. -/
def longestName : Nat := 65535

/-- **The name of a header in small letters**, if it is one. -/
def headerName? (name : String) : Option String :=
  let chars := name.toList
  if chars ≠ [] ∧ chars.length ≤ longestName ∧ chars.all isNameChar then
    some (String.ofList (chars.map Char.toLower))
  else none

/-- The characters of a header's value: all but control characters, and the tab. -/
def isValueChar (c : Char) : Bool := (0x20 ≤ c.toNat && c.toNat ≠ 0x7F) || c = '\t'

/-- Whether a text may be the value of a header. -/
def isHeaderValue (value : String) : Bool := value.toList.all isValueChar

/-- The headers by which a connection of this kind is asked for. -/
def standardHeaders (target : Target) : Headers :=
  Dict.ofList
    [("host", String.ofList target.host), ("connection", "Upgrade"), ("upgrade", "websocket"),
      ("sec-websocket-version", "13")]

def setHeader (headers : Headers) (name value : String) : Except TransportError Headers :=
  match headerName? name with
  | none => .error (.invalidHeader ("name: " ++ name))
  | some key =>
    if isHeaderValue value then .ok (Dict.insert headers key value)
    else .error (.invalidHeader ("value for " ++ name))

/-- **The request for an address.**  The headers of the application are set in order, over the
standard ones. -/
def build (url : String) (headers : Headers) : Except TransportError Request :=
  match Target.parse? url.toList with
  | none => .error (.invalidUrl url)
  | some target =>
    (headers.toList.foldlM (fun hs h => setHeader hs h.1 h.2) (standardHeaders target)).map
      fun headers => { target, headers }

end Request

end RealtimeClient
