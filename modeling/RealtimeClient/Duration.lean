/-!
# Durations

A length of time in nanoseconds.  Timers and messages show whole milliseconds.
-/

namespace RealtimeClient

/-- **A length of time.** -/
structure Duration where
  nanos : Nat
  deriving DecidableEq, Repr

namespace Duration

def nanosPerMilli : Nat := 1000000

def ofMillis (ms : Nat) : Duration := ⟨ms * nanosPerMilli⟩

def millis (d : Duration) : Nat := d.nanos / nanosPerMilli

instance : LT Duration := ⟨fun a b => a.nanos < b.nanos⟩
instance : LE Duration := ⟨fun a b => a.nanos ≤ b.nanos⟩
instance (a b : Duration) : Decidable (a < b) := inferInstanceAs (Decidable (a.nanos < b.nanos))
instance (a b : Duration) : Decidable (a ≤ b) := inferInstanceAs (Decidable (a.nanos ≤ b.nanos))
instance : Add Duration := ⟨fun a b => ⟨a.nanos + b.nanos⟩⟩

@[simp] theorem millis_ofMillis (ms : Nat) : (ofMillis ms).millis = ms :=
  Nat.mul_div_cancel ms (by decide)

end Duration

end RealtimeClient
