/-!
# Metrics

What a client records about its work.  A metric that was never touched is absent from the readings.

* `Metrics` — the record, and one operation for each thing that is counted or set.
* `Metrics.descriptions` — name, kind and meaning of every metric.
* `Metrics.readings` — the current values.
-/

namespace RealtimeClient

/-- The way a frame travels. -/
inductive Direction
  | inbound
  | outbound
  deriving DecidableEq, Repr

def Direction.label : Direction → String
  | .inbound => "in"
  | .outbound => "out"

/-- **Frames in one direction**: how many, and their bytes altogether. -/
structure Traffic where
  frames : Nat := 0
  bytes : Nat := 0
  deriving DecidableEq, Repr

/-- **What a client records.**  The two gauges hold the value set last, if any. -/
structure Metrics where
  inbound : Traffic := {}
  outbound : Traffic := {}
  decodeErrors : Nat := 0
  reconnects : Nat := 0
  connected : Option Bool := none
  acksPending : Option Nat := none
  deriving DecidableEq, Repr

namespace Metrics

/-- What a metric measures. -/
inductive Kind
  | counter
  | gauge
  | histogram
  deriving DecidableEq, Repr

def Kind.name : Kind → String
  | .counter => "counter"
  | .gauge => "gauge"
  | .histogram => "histogram"

/-- The number of frames by direction. -/
def framesTotal : String := "sockio_frames_total"

/-- The sizes of frames by direction. -/
def frameBytes : String := "sockio_frame_bytes"

/-- The number of frames that could not be decoded. -/
def decodeErrorsTotal : String := "sockio_decode_errors_total"

/-- The number of further attempts at a connection. -/
def reconnectsTotal : String := "sockio_reconnects_total"

/-- Whether the session is open. -/
def connectedGauge : String := "sockio_connected"

/-- The number of events that wait for an ack. -/
def acksPendingGauge : String := "sockio_acks_pending"

/-- **Name, kind and meaning of every metric**, by name. -/
def descriptions : List (String × Kind × String) :=
  [(acksPendingGauge, .gauge, "Emitted events awaiting an ack"),
    (connectedGauge, .gauge, "1 while the session is open"),
    (decodeErrorsTotal, .counter, "Inbound frames dropped because they could not be decoded"),
    (frameBytes, .histogram, "Frame size in bytes"),
    (framesTotal, .counter, "Total number of frames by direction"),
    (reconnectsTotal, .counter, "Reconnection attempts started")]

/-- One frame more. -/
def Traffic.add (t : Traffic) (bytes : Nat) : Traffic :=
  { frames := t.frames + 1, bytes := t.bytes + bytes }

def recordFrame (m : Metrics) (d : Direction) (bytes : Nat) : Metrics :=
  match d with
  | .inbound => { m with inbound := Traffic.add m.inbound bytes }
  | .outbound => { m with outbound := Traffic.add m.outbound bytes }

def recordDecodeError (m : Metrics) : Metrics := { m with decodeErrors := m.decodeErrors + 1 }

def recordReconnect (m : Metrics) : Metrics := { m with reconnects := m.reconnects + 1 }

/-- The session is open, or is not. -/
def setConnected (m : Metrics) (b : Bool) : Metrics := { m with connected := some b }

/-- So many events wait for an ack. -/
def setAcksPending (m : Metrics) (n : Nat) : Metrics := { m with acksPending := some n }

/-- The value of a metric: a number, or how many values a histogram has seen and their sum. -/
inductive Reading
  | number (n : Nat)
  | summary (count sum : Nat)
  deriving DecidableEq, Repr

/-- The readings of one direction. -/
def Traffic.readings (t : Traffic) (d : Direction) :
    List (String × Option Direction × Reading) :=
  if t.frames = 0 then []
  else
    [(framesTotal, some d, .number t.frames),
      (frameBytes, some d, .summary t.frames t.bytes)]

/-- A counter's reading; one that never counted is absent. -/
def counterReading (name : String) (n : Nat) : List (String × Option Direction × Reading) :=
  if n = 0 then [] else [(name, none, .number n)]

/-- **The current values**, each with the direction that it is about, if it is about one. -/
def readings (m : Metrics) : List (String × Option Direction × Reading) :=
  Traffic.readings m.inbound .inbound ++ Traffic.readings m.outbound .outbound ++
    counterReading decodeErrorsTotal m.decodeErrors ++
    counterReading reconnectsTotal m.reconnects ++
    (m.connected.toList.map fun b => (connectedGauge, none, .number b.toNat)) ++
    (m.acksPending.toList.map fun n => (acksPendingGauge, none, .number n))

end Metrics

end RealtimeClient
