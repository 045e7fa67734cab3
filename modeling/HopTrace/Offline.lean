import HopTrace.Address.HostName
import HopTrace.Host

/-!
# A host without a network

A host that grants sockets and their options but has nowhere to send a datagram to. It
knows the address that a name spells and its own name, and cannot look up any other. Its
clock stands still.
-/
namespace HopTrace.Offline

/-- The failure of a lookup that may succeed once there is a network. -/
def noAnswer : Int := -3

/-- The failure of a lookup that cannot succeed. -/
def unknown : Int := -2

/-- The name that every host calls itself by. -/
def itself : String := "localhost"

def names (σ : Type) : NameService σ where
  forward host s :=
    match HostName.address? host with
    | some address => .ok [address] s
    | none =>
      if host.toLower = itself then .ok [.v4 Ipv4.localhost] s
      else .error (if HostName.isPossible host then noAnswer else unknown) s
  reverse _ s := (none, s)

def kernel (clock : Instant) : Kernel Unit where
  now s := (clock, s)
  createSocket _ s := .ok () s
  setOption _ _ s := .ok () s
  sendTo _ _ s := .error Errno.networkUnreachable s
  select _ s := .ok 0 s
  receive _ s := .error Errno.wouldBlock s
  receiveError _ _ s := .error Errno.wouldBlock s
  replyBacklog _ := 0
  errorBacklog _ := 0
  receive_interrupted h := by
    injection h with h₁ _
    exact absurd h₁ (by decide)
  receiveError_interrupted h := by
    injection h with h₁ _
    exact absurd h₁ (by decide)
  receiveError_ok h := by injection h
  errorBacklog_now_le _ := Nat.le_refl _

def host (clock : Instant) : Host Unit where
  kernel := kernel clock
  names := names Unit
  errorBacklog_reverse_le _ _ := Nat.le_refl _

end HopTrace.Offline
