import HopTrace.Header

/-!
# The payload of a probe

A payload is a probe header followed by zeros, cut to a length. It is kept as the header
and the length, because the length follows the path MTU and may be far larger than
anything worth writing out; `bytes` is what goes on the wire. A payload shorter than the
header carries a truncated header and nothing else.
-/
namespace HopTrace

structure Payload where
  header : ProbeHeader
  length : Nat
  deriving DecidableEq, Repr, Inhabited

namespace Payload

def bytes (p : Payload) : List UInt8 := p.header.write (List.replicate p.length 0)

/-- The part of the payload that can differ from zero. -/
def leading (p : Payload) : List UInt8 := p.header.encode.take p.length

/-- A payload of zeros. -/
def blank (length : Nat) : Payload := ⟨⟨0, 0, 0⟩, length⟩

@[simp] theorem length_bytes (p : Payload) : p.bytes.length = p.length := by
  simp [bytes]

theorem take_bytes (p : Payload) : p.bytes.take ProbeHeader.size = p.leading := by
  have h : (p.header.encode.take p.length).length ≤ ProbeHeader.size := by
    simp only [List.length_take, ProbeHeader.length_encode]
    omega
  by_cases hp : p.length ≤ ProbeHeader.size
  · simp [bytes, leading, ProbeHeader.write, Nat.sub_eq_zero_of_le hp, List.take_of_length_le h]
  · have hl : (p.header.encode.take p.length).length = ProbeHeader.size := by
      simp only [List.length_take, ProbeHeader.length_encode]
      omega
    simp only [bytes, leading, ProbeHeader.write, List.length_replicate]
    rw [List.take_append_of_le_length (by omega), List.take_of_length_le h]

end Payload

end HopTrace
