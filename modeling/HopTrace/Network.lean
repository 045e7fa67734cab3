import HopTrace.Event
import HopTrace.Failure
import HopTrace.Family
import HopTrace.Payload

/-!
# The network and the world of a trace

A trace sees the network through six operations on a state of any type. Each may fail,
and the state survives the failure. Nothing is assumed of what the operations answer,
except that the error queue runs dry: reading a notification lowers `pending`. That is
all a drain needs in order to end.

The world of a trace is a network together with a way to look up names and a place to
publish events. Neither may refill the error queue.
-/
namespace HopTrace

structure Network (σ : Type) where
  now : σ → Instant × σ
  setTtl : UInt8 → EStateM Failure σ Unit
  send : Payload → UInt16 → EStateM Failure σ Unit
  /-- Waits for the socket to become readable. -/
  awaitReadable : Span → EStateM Failure σ Bool
  /-- The size of a datagram from the target, if one is waiting. -/
  receiveReply : EStateM Failure σ (Option Nat)
  receiveNotification : EStateM Failure σ (Option Notification)
  pending : σ → Nat
  pending_lt : ∀ {s s' : σ} {n : Notification},
    receiveNotification s = .ok (some n) s' → pending s' < pending s

structure World (σ : Type) extends Network σ where
  resolve : IpAddress → σ → Option String × σ
  publish : Event → σ → σ
  pending_resolve_le : ∀ (a : IpAddress) (s : σ), pending (resolve a s).2 ≤ pending s
  pending_publish_le : ∀ (e : Event) (s : σ), pending (publish e s) ≤ pending s

/-- The name shown for a responder that has none. -/
def unresolvedHost : String := "???"

namespace World

/-- A responder with its name looked up, if the mode shows names. -/
def name {σ : Type} (w : World σ) (mode : AddressMode) (r : Responder) (s : σ) : Responder × σ :=
  match r with
  | .remote address _ =>
    if mode.needsHostname then
      match address with
      | none => (.remote none (some unresolvedHost), s)
      | some a =>
        let (found, s) := w.resolve a s
        (.remote (some a) (some (found.getD unresolvedHost)), s)
    else (.remote address none, s)
  | other => (other, s)

theorem pending_name_le {σ : Type} (w : World σ) (mode : AddressMode) (r : Responder) (s : σ) :
    w.pending (w.name mode r s).2 ≤ w.pending s := by
  unfold name
  split
  · split
    · split
      · exact Nat.le_refl _
      · exact w.pending_resolve_le _ _
    · exact Nat.le_refl _
  · exact Nat.le_refl _

end World

/-- Who looks up names and listens to events, without refilling the error queue. -/
structure Audience (σ : Type) (pending : σ → Nat) where
  resolve : IpAddress → σ → Option String × σ
  publish : Event → σ → σ
  pending_resolve_le : ∀ (a : IpAddress) (s : σ), pending (resolve a s).2 ≤ pending s
  pending_publish_le : ∀ (e : Event) (s : σ), pending (publish e s) ≤ pending s

/-- No names to look up and nobody listening. -/
def Audience.silent {σ : Type} (pending : σ → Nat) : Audience σ pending where
  resolve _ s := (none, s)
  publish _ s := s
  pending_resolve_le _ _ := Nat.le_refl _
  pending_publish_le _ _ := Nat.le_refl _

def Network.attendedBy {σ : Type} (n : Network σ) (a : Audience σ n.pending) : World σ where
  toNetwork := n
  resolve := a.resolve
  publish := a.publish
  pending_resolve_le := a.pending_resolve_le
  pending_publish_le := a.pending_publish_le

end HopTrace
