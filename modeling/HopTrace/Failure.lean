import HopTrace.Address.Text
import HopTrace.Errno

/-!
# Why a trace stops

A refused system call stops a trace, except that a refused datagram is first looked up
in the error queue (see `HopTrace.Probe`); the two are told apart by the constructor.
The third cause is an echoed header that can be trusted and yet names a time the host
cannot represent. It has no message of its own: the trace ends without an answer.

Running out of memory is no cause here (see `HopTrace.Session`).
-/
namespace HopTrace

inductive IoOperation where
  | newSocket
  | select
  | receive
  | receiveError
  | setTtl
  | setUnicastHopsV6
  | setMtuDiscover
  | setMtuDiscoverV6
  | setReceiveErrors
  | setReceiveErrorsV6
  | setReceiveTtl
  | setReceiveHopLimitV6
  deriving DecidableEq, Repr

def IoOperation.text : IoOperation → String
  | .newSocket => "create new socket"
  | .select => "select"
  | .receive => "recv"
  | .receiveError => "recv from error queue"
  | .setTtl => "set TTL"
  | .setUnicastHopsV6 => "set unicast hops v6"
  | .setMtuDiscover => "set IP_MTU_DISCOVER"
  | .setMtuDiscoverV6 => "set IPV6_MTU_DISCOVER"
  | .setReceiveErrors => "set IP_RECVERR"
  | .setReceiveErrorsV6 => "set IPV6_RECVERR"
  | .setReceiveTtl => "set IP_RECVTTL"
  | .setReceiveHopLimitV6 => "set IPV6_RECVHOPLIMIT"

inductive IoFailure where
  | send (errno : Errno) (target : Endpoint)
  | call (errno : Errno) (operation : IoOperation)
  deriving DecidableEq, Repr

def IoFailure.message : IoFailure → String
  | .send errno target => "Sendto error for " ++ target.text ++ ": " ++ errno.message
  | .call errno operation => "Failed to " ++ errno.message ++ ": " ++ operation.text

inductive Failure where
  | io (cause : IoFailure)
  | probeFailed (cause : IoFailure)
  | unrepresentableTime
  deriving DecidableEq, Repr

/-- The message of a failure that has one. -/
def Failure.message? : Failure → Option String
  | .io cause => some ("IO error: " ++ cause.message)
  | .probeFailed cause => some ("Probe failed to send: " ++ cause.message)
  | .unrepresentableTime => none

end HopTrace
