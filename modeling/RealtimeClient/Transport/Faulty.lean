import RealtimeClient.Transport.Memory

/-!
# A transport with faults

The in-memory transport with faults that can be switched on and off: requests that fail, closes that
fail or hang, and writes that fail after a while.
-/

namespace RealtimeClient

/-- **A transport with faults.**  `writesLeft` is the number of frames that are still written, if
writing is going to fail; `heldReasons` are the reasons of closes that hang. -/
structure FaultyTransport where
  memory : MemoryTransport
  dialFault : Option TransportError := none
  hangUpFault : Option TransportError := none
  holdsClose : Bool := false
  writesLeft : Option Nat := none
  heldReasons : List String := []
  connections : List ConnectionId := []
  deriving DecidableEq

namespace FaultyTransport

/-- A transport whose faults are off and whose events are received. -/
def new : FaultyTransport := { memory := MemoryTransport.new.installSink }

/-- Ask for a connection, unless that is to fail. -/
def dial (t : FaultyTransport) (url : String) (headers : Headers) :
    Except TransportError ConnectionId × FaultyTransport :=
  match t.dialFault with
  | some e => (.error e, t)
  | none =>
    let (answer, memory) := t.memory.dial url headers
    match answer with
    | .ok id => (.ok id, { t with memory, connections := t.connections ++ [id] })
    | .error e => (.error e, { t with memory })

/-- End the connection, unless that is to fail or to hang. -/
def hangUp (t : FaultyTransport) (reason : String) :
    Except TransportError Unit × FaultyTransport :=
  match t.hangUpFault with
  | some e => (.error e, t)
  | none =>
    if t.holdsClose ∧ t.memory.state ≠ .closed then
      (.ok (), { t with heldReasons := t.heldReasons ++ [reason] })
    else
      let (answer, memory) := t.memory.hangUp reason
      (answer, { t with memory })

/-- Write a frame, unless the frames that are written have run out. -/
def write (t : FaultyTransport) (frame : Frame) : Except TransportError Unit × FaultyTransport :=
  match t.writesLeft with
  | some 0 => (.error (.sendFailed "fault"), t)
  | left =>
    let (answer, memory) := t.memory.write frame
    (answer, { t with memory, writesLeft := left.map (· - 1) })

/-- The oldest event that was not taken yet. -/
def receive? (t : FaultyTransport) :
    Option ((ConnectionId × TransportEvent) × FaultyTransport) :=
  t.memory.receive?.map fun (event, memory) => (event, { t with memory })

instance : Transport FaultyTransport where
  dial := dial
  hangUp := hangUp
  write := write
  state t := t.memory.state
  receive? := receive?

def act (t : FaultyTransport) (a : MemoryTransport.PeerAction) : FaultyTransport :=
  { t with memory := t.memory.act a }

/-- Report an event in the name of the n-th connection; there may be none. -/
def replay? (t : FaultyTransport) (n : Nat) (event : TransportEvent) : Option FaultyTransport :=
  t.connections[n]?.map fun id =>
    { t with memory := { t.memory with events := t.memory.events ++ [(id, event)] } }

end FaultyTransport

end RealtimeClient
