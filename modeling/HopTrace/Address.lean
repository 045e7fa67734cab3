/-!
# Network addresses

Addresses of both versions of the Internet Protocol. A version 6 address is kept as its
eight groups, which is the unit its text is written in. The one relation between the two
versions used by a trace is the mapped form: a version 4 address carried inside a
version 6 one.
-/
namespace HopTrace

inductive IpVersion where
  | v4
  | v6
  deriving DecidableEq, Repr

structure Ipv4 where
  bits : UInt32
  deriving DecidableEq, Repr

structure Ipv6 where
  groups : Vector UInt16 8
  deriving DecidableEq, Repr

namespace Ipv4

def ofOctets (a b c d : UInt8) : Ipv4 :=
  ⟨a.toUInt32 <<< 24 ||| b.toUInt32 <<< 16 ||| c.toUInt32 <<< 8 ||| d.toUInt32⟩

def octets (ip : Ipv4) : List UInt8 :=
  [(ip.bits >>> 24).toUInt8, (ip.bits >>> 16).toUInt8, (ip.bits >>> 8).toUInt8, ip.bits.toUInt8]

def localhost : Ipv4 := ofOctets 127 0 0 1

/-- The groups `0:0:0:0:0:ffff` followed by the address itself. -/
def mapped (ip : Ipv4) : Ipv6 :=
  ⟨#v[0, 0, 0, 0, 0, 0xffff, (ip.bits >>> 16).toUInt16, ip.bits.toUInt16]⟩

end Ipv4

namespace Ipv6

def isMapped (ip : Ipv6) : Bool :=
  (ip.groups.toList.take 5).all (· == 0) && ip.groups[5] == 0xffff

/-- The groups `0:0:0:0:0:ffff` and any other two. -/
theorem isMapped_iff {ip : Ipv6} :
    ip.isMapped = true ↔
      ∃ upper lower : UInt16, ip = ⟨#v[0, 0, 0, 0, 0, 0xffff, upper, lower]⟩ := by
  constructor
  · intro mapped
    obtain ⟨zeros, ones⟩ := Bool.and_eq_true_iff.mp mapped
    have zero (i : Nat) (h : i < 5) : ip.groups[i] = 0 := by
      apply beq_iff_eq.mp
      apply List.all_eq_true.mp zeros
      exact List.mem_take_iff_getElem.mpr ⟨i, by simp; omega, by simp⟩
    refine ⟨ip.groups[6], ip.groups[7], ?_⟩
    rw [Ipv6.mk.injEq]
    apply Vector.ext
    intro i h
    rcases (by omega : i = 0 ∨ i = 1 ∨ i = 2 ∨ i = 3 ∨ i = 4 ∨ i = 5 ∨ i = 6 ∨ i = 7) with
      rfl | rfl | rfl | rfl | rfl | rfl | rfl | rfl
    · exact zero 0 (by omega)
    · exact zero 1 (by omega)
    · exact zero 2 (by omega)
    · exact zero 3 (by omega)
    · exact zero 4 (by omega)
    · exact beq_iff_eq.mp ones
    · rfl
    · rfl
  · rintro ⟨upper, lower, rfl⟩
    rfl

/-- The version 4 address inside a mapped address. -/
def toMapped? (ip : Ipv6) : Option Ipv4 :=
  if ip.isMapped then
    some ⟨ip.groups[6].toUInt32 <<< 16 ||| ip.groups[7].toUInt32⟩
  else none

end Ipv6

inductive IpAddress where
  | v4 (ip : Ipv4)
  | v6 (ip : Ipv6)
  deriving DecidableEq, Repr

namespace IpAddress

instance : Inhabited IpAddress := ⟨.v4 Ipv4.localhost⟩

def version : IpAddress → IpVersion
  | .v4 _ => .v4
  | .v6 _ => .v6

/-- A mapped address stands for the version 4 address inside it. -/
def unmapped : IpAddress → IpAddress
  | .v4 ip => .v4 ip
  | .v6 ip => match ip.toMapped? with
    | some inner => .v4 inner
    | none => .v6 ip

@[simp] theorem version_v4 (ip : Ipv4) : (IpAddress.v4 ip).version = .v4 := rfl

@[simp] theorem version_v6 (ip : Ipv6) : (IpAddress.v6 ip).version = .v6 := rfl

end IpAddress

/-- Where a datagram goes. -/
structure Endpoint where
  address : IpAddress
  port : UInt16
  /-- The zone of a version 6 address, if it has one. -/
  zone : UInt32 := 0
  deriving DecidableEq, Repr

end HopTrace
