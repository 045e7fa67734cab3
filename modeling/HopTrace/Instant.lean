/-!
# Instants and spans

An instant is a signed number of nanoseconds since the first second of 1970, so an
earlier instant is an ordinary negative number and no reading is lost to rounding. A
span is what separates two instants and is never negative. The clock of the host keeps
whole seconds in a signed 64 bit word; `Instant.Representable` is that bound and nothing
in this module clamps to it.
-/
namespace HopTrace

def nanosPerSecond : Nat := 1000000000

def nanosPerMicro : Nat := 1000

structure Instant where
  sinceEpoch : Int
  deriving DecidableEq, Repr, Inhabited

structure Span where
  nanos : Nat
  deriving DecidableEq, Repr, Inhabited

namespace Instant

def ofParts (seconds : Int) (nanos : Nat) : Instant :=
  ⟨seconds * nanosPerSecond + nanos⟩

/-- Whole seconds, rounded toward the past so that `nanos` is never negative. -/
def seconds (t : Instant) : Int := t.sinceEpoch.fdiv nanosPerSecond

def nanos (t : Instant) : Nat := (t.sinceEpoch.fmod nanosPerSecond).toNat

/-- The host keeps whole seconds in a signed 64 bit word. -/
def Representable (t : Instant) : Prop :=
  -9223372036854775808 ≤ t.seconds ∧ t.seconds ≤ 9223372036854775807

instance (t : Instant) : Decidable t.Representable :=
  inferInstanceAs (Decidable (_ ∧ _))

def later (t : Instant) (nanos : Int) : Instant := ⟨t.sinceEpoch + nanos⟩

/-- The span from `earlier` to `t`, or nothing at all when the order is reversed. -/
def since (t earlier : Instant) : Span := ⟨(t.sinceEpoch - earlier.sinceEpoch).toNat⟩

end Instant

namespace Span

def ofParts (seconds nanos : Nat) : Span := ⟨seconds * nanosPerSecond + nanos⟩

def ofSeconds (seconds : Nat) : Span := ofParts seconds 0

def seconds (d : Span) : Nat := d.nanos / nanosPerSecond

def subsecondNanos (d : Span) : Nat := d.nanos % nanosPerSecond

def micros (d : Span) : Nat := d.nanos / nanosPerMicro

def millis (d : Span) : Nat := d.nanos / 1000000

def ofMillis (millis : Nat) : Span := ⟨millis * 1000000⟩

end Span

@[simp] theorem Span.millis_ofMillis (n : Nat) : (Span.ofMillis n).millis = n := by
  simp [Span.millis, Span.ofMillis]

end HopTrace
