import HopTrace.Instant

/-!
# The header of a probe

Every probe starts with sixteen bytes that say with which ttl and when it was sent, so
that a copy returned by a router identifies the probe without any local record. The
fields are big-endian: four bytes of ttl, eight of seconds, four of microseconds.

Reading looks at the first sixteen bytes only and never judges them; `trustedTtl` is the
judgement. A zero ttl, a zero second count and a ttl above 255 all betray a corrupted
copy. The microseconds and the upper range of the seconds are not judged, which is why
`sent` may have no answer.
-/
namespace HopTrace

/-- The bytes of the `width` low-order bytes of `n`, most significant first. -/
def bigEndian : (width : Nat) → (n : Nat) → List UInt8
  | 0, _ => []
  | width + 1, n => bigEndian width (n / 256) ++ [UInt8.ofNat n]

def ofBigEndian (bytes : List UInt8) : Nat :=
  bytes.foldl (fun n b => n * 256 + b.toNat) 0

@[simp] theorem length_bigEndian (width n : Nat) : (bigEndian width n).length = width := by
  induction width generalizing n with
  | zero => rfl
  | succ w ih => simp [bigEndian, ih]

structure ProbeHeader where
  ttl : UInt32
  seconds : UInt64
  micros : UInt32
  deriving DecidableEq, Repr, Inhabited

namespace ProbeHeader

def size : Nat := 16

/-- A time before 1970 is written as zero. -/
def ofSend (ttl : UInt8) (sent : Instant) : ProbeHeader :=
  let elapsed := sent.sinceEpoch.toNat
  { ttl := ttl.toUInt32
    seconds := UInt64.ofNat (elapsed / nanosPerSecond)
    micros := UInt32.ofNat (elapsed % nanosPerSecond / nanosPerMicro) }

def encode (h : ProbeHeader) : List UInt8 :=
  bigEndian 4 h.ttl.toNat ++ bigEndian 8 h.seconds.toNat ++ bigEndian 4 h.micros.toNat

/-- The header at the front of `bytes`, unless there are too few of them. -/
def read (bytes : List UInt8) : Option ProbeHeader :=
  if bytes.length < size then none
  else some
    { ttl := UInt32.ofNat (ofBigEndian (bytes.take 4))
      seconds := UInt64.ofNat (ofBigEndian ((bytes.drop 4).take 8))
      micros := UInt32.ofNat (ofBigEndian ((bytes.drop 12).take 4)) }

/-- The front of `buffer` overwritten by the header, cut off where the buffer ends. -/
def write (h : ProbeHeader) (buffer : List UInt8) : List UInt8 :=
  h.encode.take buffer.length ++ buffer.drop size

/-- The ttl of the probe, if the header can be trusted. -/
def trustedTtl (h : ProbeHeader) : Option UInt8 :=
  if h.seconds = 0 ∨ h.ttl = 0 ∨ h.ttl > 255 then none else some h.ttl.toUInt8

/-- The time the header names, if the host can represent it. -/
def sent (h : ProbeHeader) : Option Instant :=
  let t : Instant := ⟨h.seconds.toNat * nanosPerSecond + h.micros.toNat * nanosPerMicro⟩
  if t.Representable then some t else none

@[simp] theorem length_encode (h : ProbeHeader) : h.encode.length = size := by
  simp [encode, size]

@[simp] theorem length_write (h : ProbeHeader) (buffer : List UInt8) :
    (h.write buffer).length = buffer.length := by
  simp only [write, List.length_append, List.length_take, List.length_drop, length_encode]
  omega

theorem read_eq_none_iff {bytes : List UInt8} : read bytes = none ↔ bytes.length < size := by
  unfold read
  split <;> simp_all

end ProbeHeader

end HopTrace
