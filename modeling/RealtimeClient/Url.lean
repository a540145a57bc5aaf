import RealtimeClient.Url.Address
import RealtimeClient.Url.Domain
import RealtimeClient.Url.Path

/-!
# Addresses of resources

Reading the address of a resource: scheme, host, port and path.  What comes after the path is not
kept.  Blanks around an address and line breaks inside it do not count; for the well-known schemes a
backslash is as good as a slash, and any number of slashes may stand before the host.

* `Url`, `Url.Host` — the parts.
* `Url.Fault` — why a text is no address.
* `Url.parse` — the parts of a text.
-/

namespace RealtimeClient

/-- **The host of an address.** -/
inductive Url.Host
  | domain (name : List Char)
  | ipv4 (address : Nat)
  | ipv6 (pieces : List Nat)
  deriving DecidableEq, Repr

def Url.Host.text : Url.Host → String
  | .domain name => String.ofList name
  | .ipv4 address => String.ofList (Url.writeIpv4 address)
  | .ipv6 pieces => String.ofList ('[' :: Url.writeIpv6 pieces ++ [']'])

/-- **An address.**  The port is absent where it is the scheme's own.  Only the well-known schemes
have their path kept. -/
structure Url where
  scheme : String
  host : Option Url.Host
  port : Option Nat
  path : String
  deriving DecidableEq, Repr

namespace Url

/-- **Why a text is no address.** -/
inductive Fault
  | noScheme
  | emptyHost
  | badPort
  | badIpv4
  | badIpv6
  | badDomain
  | badHostCharacter
  deriving DecidableEq, Repr

def Fault.message : Fault → String
  | .noScheme => "relative URL without a base"
  | .emptyHost => "empty host"
  | .badPort => "invalid port number"
  | .badIpv4 => "invalid IPv4 address"
  | .badIpv6 => "invalid IPv6 address"
  | .badDomain => "invalid international domain name"
  | .badHostCharacter => "invalid domain character"

/-- The port of a well-known scheme other than that of files; a scheme is well known if it has
one. -/
def defaultPort? : String → Option Nat
  | "http" | "ws" => some 80
  | "https" | "wss" => some 443
  | "ftp" => some 21
  | _ => none

/-! ## Scheme -/

/-- The text without blanks and control characters around it, and without tabs and line breaks. -/
def clean (text : List Char) : List Char :=
  let isEdge (c : Char) : Bool := c.toNat ≤ 0x20
  let trimmed := ((text.dropWhile isEdge).reverse.dropWhile isEdge).reverse
  trimmed.filter fun c => c ≠ '\t' ∧ c ≠ '\n' ∧ c ≠ '\r'

/-- The characters of a scheme after its first letter. -/
def isSchemeChar (c : Char) : Bool := c.isAlphanum || c = '+' || c = '-' || c = '.'

/-- The scheme in small letters, and the text after its colon. -/
def scheme? (text : List Char) : Option (List Char × List Char) :=
  match text with
  | [] => none
  | c :: _ =>
    if ¬c.isAlpha then none
    else
      match text.dropWhile isSchemeChar with
      | ':' :: rest => some ((text.takeWhile isSchemeChar).map Char.toLower, rest)
      | _ => none

/-! ## Host -/

/-- The bytes of a text in which each `%` with two digits is a byte; other `%` stand for
themselves. -/
def percentDecode : List Char → Bytes
  | [] => []
  | '%' :: a :: b :: rest =>
    match Text.digitValue? 16 a, Text.digitValue? 16 b with
    | some high, some low => (high * 16 + low).toUInt8 :: percentDecode rest
    | _, _ => String.utf8EncodeChar '%' ++ percentDecode (a :: b :: rest)
  | c :: rest => String.utf8EncodeChar c ++ percentDecode rest

def bracketedHost (text : List Char) : Except Fault Host :=
  if text.getLast? ≠ some ']' then .error .badIpv6
  else
    match readIpv6? (text.drop 1).dropLast with
    | some pieces => .ok (.ipv6 pieces)
    | none => .error .badIpv6

/-- **The host of a well-known scheme**: an address of eight pieces in brackets, an address of four
bytes, or a name. -/
def readHost (text : List Char) : Except Fault Host :=
  if text.head? = some '[' then bracketedHost text
  else
    match String.fromUTF8? ⟨(percentDecode text).toArray⟩ with
    | none => .error .badDomain
    | some name =>
      match domainToAscii? name.toList with
      | none => .error .badDomain
      | some [] => .error .emptyHost
      | some domain =>
        if endsInNumber domain then
          match readIpv4? domain with
          | some address => .ok (.ipv4 address)
          | none => .error .badIpv4
        else .ok (.domain domain)

/-- Whether a character may not occur in the host of a scheme that is not well known. -/
def isForbiddenInHost (c : Char) : Bool :=
  ['\x00', '\t', '\n', '\r', ' ', '#', '/', ':', '<', '>', '?', '@', '[', '\\', ']', '^',
    '|'].contains c

/-- The host of a scheme that is not well known: as it is, if its characters are allowed. -/
def readOpaqueHost (text : List Char) : Except Fault Host :=
  if text.head? = some '[' then bracketedHost text
  else if text.any isForbiddenInHost then .error .badHostCharacter
  else .ok (.domain text)

/-! ## Authority -/

/-- Whether a character ends the part of an address that names the host. -/
def endsAuthority (special : Bool) (c : Char) : Bool :=
  c = '/' || c = '?' || c = '#' || (special && c = '\\')

/-- The parts of a text before and after the last `@`. -/
def splitUserInfo (text : List Char) : Option (List Char) × List Char :=
  let after := (text.reverse.takeWhile (· ≠ '@')).reverse
  if after.length = text.length then (none, text)
  else (some (text.take (text.length - after.length - 1)), after)

/-- The length of the host at the start of a text: up to a colon outside of brackets. -/
def hostLength (inBrackets : Bool) : List Char → Nat
  | [] => 0
  | c :: rest =>
    if c = ':' ∧ ¬inBrackets then 0
    else 1 + hostLength (if c = '[' then true else if c = ']' then false else inBrackets) rest

def largestPort : Nat := 65535

/-- The port after the colon of a host; without digits there is none. -/
def readPort (text : List Char) : Except Fault (Option Nat) :=
  let digits := text.takeWhile Char.isDigit
  let rest := text.dropWhile Char.isDigit
  let port := Nat.ofDigitChars 10 digits 0
  if port > largestPort then .error .badPort
  else if rest ≠ [] ∧ rest.head? ≠ some '\\' then .error .badPort
  else .ok (if digits = [] then none else some port)

/-- **The part of an address that names the host**, and the text after it.  Whoever is named before
an `@` does not count. -/
def readAuthority (special : Bool) (text : List Char) :
    Except Fault (Option Host × Option Nat × List Char) := do
  let authority := text.takeWhile fun c => !endsAuthority special c
  let rest := text.dropWhile fun c => !endsAuthority special c
  let (userInfo, hostPort) := splitUserInfo authority
  if userInfo = some [] ∧ hostPort = [] ∧ rest ≠ [] then throw .emptyHost
  let length := hostLength false hostPort
  let hostText := hostPort.take length
  let portText := hostPort.drop length
  if hostText = [] ∧ special then throw .emptyHost
  let host ← if special then readHost hostText else readOpaqueHost hostText
  if host = .domain [] ∧ portText ≠ [] then throw .emptyHost
  let port ← readPort (portText.drop 1)
  if host = .domain [] ∧ userInfo ≠ none ∧ userInfo ≠ some [] ∧ userInfo ≠ some [':'] then
    throw .emptyHost
  return (if host = .domain [] then none else some host, port, rest)

/-- The host of a file's address, after its two slashes; the letter of a drive is none. -/
def readFileHost (text : List Char) : Except Fault (Option Host) :=
  let hostText := text.takeWhile fun c => !endsAuthority true c
  if hostText = [] ∨ isDriveLetter hostText then .ok none else (readHost hostText).map some

def isSlash (c : Char) : Bool := c = '/' || c = '\\'

/-- **The parts of an address.** -/
def parse (text : String) : Except Fault Url := do
  match scheme? (clean text.toList) with
  | none => throw .noScheme
  | some (schemeText, rest) =>
    let scheme := String.ofList schemeText
    match defaultPort? scheme with
    | some standard =>
      let (host, port, rest) ← readAuthority true (rest.dropWhile isSlash)
      let path := rest.takeWhile fun c => c ≠ '?' ∧ c ≠ '#'
      return {
        scheme, host, port := port.filter (· ≠ standard)
        path := String.ofList (normalizePath path) }
    | none =>
      if scheme = "file" then
        let host ← match rest with
          | a :: b :: rest => if isSlash a ∧ isSlash b then readFileHost rest else pure none
          | _ => pure none
        return { scheme, host, port := none, path := "" }
      else
        match rest with
        | '/' :: '/' :: rest =>
          let (host, port, _) ← readAuthority false rest
          return { scheme, host, port, path := "" }
        | _ => return { scheme, host := none, port := none, path := "" }

end Url

end RealtimeClient
