import HopTrace.Proofs.PayloadBuffer
import HopTrace.Proofs.SystemTranscript
import HopTrace.Simulation.Kernel

/-!
# From a message of the host to a notification

A message on the error queue says what it says by its control messages, in whatever order they
come. The last error and the last hop limit are what counts, each without regard to the other.
The payload is cut to what the message claims to hold, but never beyond the sixteen bytes of the
buffer it is read into, which holds zeros where the message ends early.

Every message that is read becomes a notification, unless its control messages did not fit into
the room for them. Then something of what it says may be lost, and the read fails.
-/
namespace HopTrace

section Mapped
variable {upper lower : UInt16}

end Mapped

namespace ControlMessage

/-- The error that a control message reports. A mapped offender is named by the address inside. -/
inductive Reports : ControlMessage → ExtendedError → Prop
  | v4 (e : HostError) (offender : Option Ipv4) :
      Reports (.errorV4 e offender) (e.extended (offender.map .v4))
  | v6 (e : HostError) {ip : Ipv6} : (∀ inner : Ipv4, ip ≠ inner.mapped) →
      Reports (.errorV6 e (some ip)) (e.extended (some (.v6 ip)))
  | mapped (e : HostError) (inner : Ipv4) :
      Reports (.errorV6 e (some inner.mapped)) (e.extended (some (.v4 inner)))
  | unnamed (e : HostError) : Reports (.errorV6 e none) (e.extended none)

/-- The error as it is decoded. -/
def error? : ControlMessage → Option ExtendedError
  | .errorV4 e offender => some (e.extended (offender.map .v4))
  | .errorV6 e offender => some (e.extended (offender.map fun ip => (IpAddress.v6 ip).unmapped))
  | .ttl _ | .hopLimit _ | .other => none

end ControlMessage

/-- The notification that a message becomes when it is read. -/
def HostMessage.notification (m : HostMessage) (received : Instant) : Notification where
  received := received
  port := m.source.bind SourceAddress.port?
  payload := (fillBuffer ProbeHeader.size m.content).take (min m.bytesRead ProbeHeader.size)
  error := (decodeControl m.control).error
  receivedTtl := (decodeControl m.control).receivedTtl

/-- The host answers a read of the error queue with a message, if need be after the read was
interrupted any number of times. -/
inductive Kernel.Delivers {κ : Type} (k : Kernel κ) : κ → HostMessage → κ → Prop
  | read {s m s'} : k.receiveError ProbeHeader.size controlSize s = .ok m s' → k.Delivers s m s'
  | interrupted {s between m s'} :
      k.receiveError ProbeHeader.size controlSize s = .error Errno.interrupted between →
      k.Delivers between m s' → k.Delivers s m s'

section Delivery
variable {κ : Type} {k : Kernel κ} {s s' : κ} {m : HostMessage}

theorem Kernel.Delivers.readError (h : k.Delivers s m s') :
    k.readError ProbeHeader.size s =
      match Kernel.queueMessage m ProbeHeader.size with
      | .ok message => .ok (some message) s'
      | .error e => .error e s' := by
  induction h with
  | @read s m s' read =>
    cases converted : Kernel.queueMessage m ProbeHeader.size <;>
      rw [Kernel.readError_eq, read] <;> simp only [converted]
  | interrupted read _ ih =>
    rw [Kernel.readError_eq, read]
    dsimp only
    rw [if_neg (by decide), if_pos rfl]
    exact ih

theorem Kernel.Delivers.received (h : k.Delivers s m s') (whole : m.truncated = false) :
    k.socket.receiveNotification s =
      .ok (some (m.notification (k.now s').1)) (k.now s').2 := by
  have read := h.readError
  unfold Kernel.queueMessage at read
  rw [whole] at read
  unfold Socket.receiveNotification Kernel.socket
  dsimp only
  rw [read]
  rfl

theorem Kernel.Delivers.refused (h : k.Delivers s m s') (cutOff : m.truncated = true) :
    k.socket.receiveNotification s =
      .error (.io (.call Errno.noBufferSpace .receiveError)) s' := by
  have read := h.readError
  unfold Kernel.queueMessage at read
  rw [cutOff] at read
  unfold Socket.receiveNotification Kernel.socket
  dsimp only
  rw [read]
  rfl

end Delivery

namespace Queued
open Simulation

/-- Port unreachable, as the target reports it. -/
def refusal : HostError := ⟨111, 2, 3, 3, 0⟩

def message (content : List UInt8) (control : List ControlMessage) : QueuedMessage :=
  ⟨some (.internet .v4 44445), content, 7, control, false⟩

/-- A host with messages on its error queue. -/
def host (errors : List (Except Errno QueuedMessage)) : ScriptedKernel :=
  { ScriptedKernel.start ⟨1000000000⟩ [] none (fun _ => none) with errors }

end Queued

end HopTrace
