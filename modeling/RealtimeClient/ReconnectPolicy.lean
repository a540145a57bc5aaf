import RealtimeClient.Binary64.Rounding
import RealtimeClient.Duration

/-!
# Reconnection policy

How often a lost connection is tried again, and how long to wait before each attempt.  The wait
grows by half with each attempt made, from a base delay up to a cap; base and cap stay in order.

* `ReconnectPolicy.new`, `setAttempts`, `setDelay`, `setDelayMax` — making and changing a policy.
* `ReconnectPolicy.allows` — whether another attempt may follow.
* `ReconnectPolicy.delayFor` — the wait before the next attempt.
-/

namespace RealtimeClient

/-- **A reconnection policy.**  Without a limit the attempts never end. -/
structure ReconnectPolicy where
  attempts : Option Nat
  delay : Duration
  delayMax : Duration
  deriving DecidableEq, Repr

namespace ReconnectPolicy

/-- No limit, five seconds, and a cap of twenty-five. -/
def default : ReconnectPolicy :=
  { attempts := none, delay := .ofMillis 5000, delayMax := .ofMillis 25000 }

def setAttempts (p : ReconnectPolicy) (attempts : Option Nat) : ReconnectPolicy :=
  { p with attempts }

/-- Set the base delay; a lower cap is raised to it. -/
def setDelay (p : ReconnectPolicy) (delay : Duration) : ReconnectPolicy :=
  { p with delay, delayMax := if p.delayMax < delay then delay else p.delayMax }

/-- Set the cap; a higher base delay is lowered to it. -/
def setDelayMax (p : ReconnectPolicy) (delayMax : Duration) : ReconnectPolicy :=
  { p with delayMax, delay := if delayMax < p.delay then delayMax else p.delay }

/-- A policy with the given limit, base delay and cap; the base delay prevails over a lower cap. -/
def new (attempts : Option Nat) (delay delayMax : Duration) : ReconnectPolicy :=
  (({ default with attempts } : ReconnectPolicy).setDelayMax delayMax).setDelay delay

/-- Whether another attempt may follow the `made` ones. -/
def allows (p : ReconnectPolicy) (made : Nat) : Bool :=
  match p.attempts with
  | none => true
  | some limit => made < limit

/-- The number of attempts after which the wait no longer grows. -/
def growthLimit : Nat := 32

/-- The largest number of milliseconds that a wait can have. -/
def longestWait : Nat := UInt64.size - 1

/-- **The wait after `made` attempts**: the base delay times 1.5 to the power of `made`, at most the
cap, in whole milliseconds.  The product and both bounds have the precision of a double; the powers
of 1.5 in use are exact, and so is the division by a power of two. -/
def delayFor (p : ReconnectPolicy) (made : Nat) : Duration :=
  let k := min made growthLimit
  let scaled := Binary64.roundNat (Binary64.roundNat p.delay.millis * Nat.pow 3 k) / Nat.pow 2 k
  .ofMillis (min (min scaled (Binary64.roundNat p.delayMax.millis)) longestWait)

end ReconnectPolicy

end RealtimeClient
