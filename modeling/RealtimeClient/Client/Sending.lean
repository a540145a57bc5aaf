import RealtimeClient.Client

/-!
# Sending

Handing packets to the transport, and carrying out what a socket asks for.

* `Client.send` — one packet, frame by frame; nothing is sent while the transport is not open, and
  the rest of a packet is dropped when a frame cannot be written.
* `Client.dispatch` — the packets and the change of standing that follow from a socket's work.
-/

namespace RealtimeClient.Client

variable {τ : Type} [Transport τ]

/-- Write frames until one cannot be written. -/
def writeFrames (c : Client τ) : List Frame → Client τ
  | [] => c
  | frame :: rest =>
    let metrics := c.metrics.recordFrame .outbound frame.size
    let (answer, transport) := Transport.write c.transport frame
    let c := { c with metrics, transport }
    match answer with
    | .ok () => c.writeFrames rest
    | .error _ => c

/-- **Send a packet**, if the transport is open. -/
def send (c : Client τ) (p : Packet) : Client τ :=
  if Transport.state c.transport = .opened then
    { c with journal := .sent c.current p :: c.journal }.writeFrames
      (Codec.encode c.codec.revision p)
  else c

def sendAll (c : Client τ) (ps : List Packet) : Client τ := ps.foldl send c

/-- **What follows from a socket's work**: its packets are sent, and its change of standing is
reported.  A socket that the server has closed leaves the client. -/
def dispatch (c : Client τ) (ns : String) (o : Socket.Outcome) : Client τ :=
  let c := c.sendAll o.outbound
  match o.lifecycle with
  | none => c
  | some .connected => c.notifySocketOpen ns
  | some .disconnected => { c with registry := c.registry.erase ns }.notifySocketClose ns

def requestSocket (c : Client τ) (id : SocketId) : Client τ :=
  match c.socket? id with
  | none => c
  | some s =>
    let (s', outcome) := s.requestOn c.engine.revision
    (c.modifySocket id fun _ => s').dispatch s.ns outcome

def leaveSocket (c : Client τ) (id : SocketId) : Client τ :=
  match c.socket? id with
  | none => c
  | some s =>
    let (s', packets) := s.leave
    ((c.modifySocket id fun _ => s').sendAll packets).notifySocketClose s.ns

end RealtimeClient.Client
