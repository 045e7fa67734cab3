import HopTrace.Address
import HopTrace.Errno
import HopTrace.Instant

/-!
# Notifications

A notification is a message from the error queue of the socket: which port the offending
probe went to, how much of its payload came back, what went wrong, and the remaining hop
limit of the packet that brought the news. Every part may be missing.
-/
namespace HopTrace

/-- Who raised an extended error. -/
inductive Origin where
  | local
  | icmp
  | icmp6
  | other (code : UInt8)
  deriving DecidableEq, Repr

inductive ErrorCode where
  | timedOut
  | messageTooBig
  | connectionRefused
  | protocol
  | hostUnreachable
  | netUnreachable
  | accessDenied
  | other (errno : Errno)
  deriving DecidableEq, Repr

def ErrorCode.ofErrno (e : Errno) : ErrorCode :=
  if e = Errno.timedOut then .timedOut
  else if e = Errno.messageTooLong then .messageTooBig
  else if e = Errno.connectionRefused then .connectionRefused
  else if e = Errno.protocolError then .protocol
  else if e = Errno.hostUnreachable then .hostUnreachable
  else if e = Errno.networkUnreachable then .netUnreachable
  else if e = Errno.accessDenied then .accessDenied
  else .other e

structure ExtendedError where
  origin : Origin
  code : ErrorCode
  icmpType : UInt8
  icmpCode : UInt8
  /-- The next hop MTU, when the code is `messageTooBig`. -/
  info : UInt32
  offender : Option IpAddress
  deriving DecidableEq, Repr

/-- The regular answer of a router on the way: time exceeded in transit, which is type 11
or 3 by the version of the protocol, with code 0. -/
def ExtendedError.isTimeExceeded (e : ExtendedError) : Bool :=
  match e.origin with
  | .icmp => e.icmpType = 11 && e.icmpCode = 0
  | .icmp6 => e.icmpType = 3 && e.icmpCode = 0
  | _ => false

structure Notification where
  received : Instant
  port : Option UInt16
  /-- The front of the echoed payload. -/
  payload : List UInt8
  error : Option ExtendedError
  receivedTtl : Option UInt8
  deriving DecidableEq, Repr

/-- An estimate of the hops a packet has travelled from the hop limit it arrives with. A
host starts from 64, 128 or 255, and the smallest of these that can be is assumed. -/
def returnHops (receivedTtl : UInt8) : UInt8 :=
  if receivedTtl ≤ 64 then 65 - receivedTtl
  else if receivedTtl ≤ 128 then 129 - receivedTtl
  else 255 - receivedTtl + 1

/-- The sum of two ttls, unless it does not fit. A trace counts its ttls up itself; the sum
is there for callers who reckon with the ttls of their events. -/
def addTtl? (a b : UInt8) : Option UInt8 :=
  if a.toNat + b.toNat < 256 then some (a + b) else none

theorem addTtl?_eq_some_iff {a b c : UInt8} :
    addTtl? a b = some c ↔ c.toNat = a.toNat + b.toNat := by
  have small := c.toNat_lt
  unfold addTtl?
  split
  case isTrue fits =>
    have sum : (a + b).toNat = a.toNat + b.toNat := by
      rw [UInt8.toNat_add, Nat.mod_eq_of_lt fits]
    rw [Option.some.injEq, ← UInt8.toNat_inj, sum]
    exact eq_comm
  case isFalse beyond =>
    constructor
    · intro refused
      cases refused
    · intro same
      omega

end HopTrace
