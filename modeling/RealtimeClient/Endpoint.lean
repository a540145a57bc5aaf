import RealtimeClient.Engine
import RealtimeClient.PercentEncoding
import RealtimeClient.Url

/-!
# The endpoint of a client

The server that a client connects to, and the address of each of its connections.

* `Endpoint.parse` — the endpoint of a target address; plain and secure schemes of documents and of
  sockets are alike.
* `Endpoint.connectionUrl` — the address of one connection: the endpoint, the protocol's own
  parameters, and the query with its values percent-encoded.
-/

namespace RealtimeClient

/-- **The server that a client connects to.** -/
structure Endpoint where
  secure : Bool
  host : String
  port : Nat
  path : String
  deriving DecidableEq, Repr

namespace Endpoint

/-- The path that is used where a target address has none. -/
def defaultPath : String := "/socket.io/"

/-- **Why a target cannot be used.** -/
inductive Fault
  | badUrl (fault : Url.Fault)
  | unsupportedScheme (scheme : String)
  | missingHost
  deriving DecidableEq, Repr

def Fault.message (target : String) (f : Fault) : String :=
  "Invalid URL: " ++ target ++ ": " ++
    match f with
    | .badUrl fault => fault.message
    | .unsupportedScheme scheme => "unsupported scheme " ++ scheme
    | .missingHost => "missing host"

/-- Whether a scheme is secure; other schemes than these four cannot be used. -/
def isSecure? : String → Option Bool
  | "http" | "ws" => some false
  | "https" | "wss" => some true
  | _ => none

/-- The port that is used where a target names none. -/
def standardPort (secure : Bool) : Nat := if secure then 443 else 80

/-- **The endpoint of a target address.**  An empty path is replaced by the default one. -/
def parse (target defaultPath : String) : Except Fault Endpoint :=
  match Url.parse target with
  | .error fault => .error (.badUrl fault)
  | .ok url =>
    match isSecure? url.scheme, url.host with
    | none, _ => .error (.unsupportedScheme url.scheme)
    | _, none => .error .missingHost
    | some secure, some host =>
      .ok {
        secure, host := host.text
        port := url.port.getD (standardPort secure)
        path := if url.path = "" ∨ url.path = "/" then defaultPath else url.path }

def scheme (e : Endpoint) : String := if e.secure then "wss" else "ws"

/-- A parameter of the query. -/
def parameter (p : String × String) : List Char :=
  '&' :: p.1.toList ++ '=' :: PercentEncoding.encode p.2.toList

/-- The parameters of the protocol: revision, kind of transport, session if there is one, and
time. -/
def protocolParameters (revision : Nat) (sid : Option String) (time : Nat) : List Char :=
  "?EIO=".toList ++ Nat.toDigits 10 revision ++ "&transport=websocket".toList ++
    (match sid with
      | some sid => "&sid=".toList ++ sid.toList
      | none => []) ++
    "&t=".toList ++ Nat.toDigits 10 time

/-- **The address of one connection.** -/
def connectionUrl (e : Endpoint) (revision : Nat) (sid : Option String) (time : Nat)
    (query : Query) : String :=
  String.ofList <|
    e.scheme.toList ++ "://".toList ++ e.host.toList ++ ':' :: Nat.toDigits 10 e.port ++
      e.path.toList ++ protocolParameters revision sid time ++ query.toList.flatMap parameter

end Endpoint

end RealtimeClient
