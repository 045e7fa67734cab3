import HopTrace.Proofs.Reordering

/-!
# Which probe a notification is attributed to

A notification may tell of its probe twice: by the header it returns and by the port the
probe was sent to. The header comes first, if a probe can have had it. Otherwise the record
for the port decides, if the port belongs to the session and the probe is still on record,
and a header that was returned nevertheless shows that somebody on the way is broken.

`Session.Attributes` says this about the session and the notification alone. Everything in
the hop that depends on the probe follows from it.
-/
namespace HopTrace

/-- The time that a header tells. -/
def ProbeHeader.time (h : ProbeHeader) : Instant :=
  ⟨h.seconds.toNat * 1000000000 + h.micros.toNat * 1000⟩

namespace Notification
variable {n : Notification} {h : ProbeHeader}

/-- The notification returns a header that a probe can have had. -/
structure Returns (n : Notification) (h : ProbeHeader) : Prop where
  read : ProbeHeader.read n.payload = some h
  positive : 1 ≤ h.ttl.toNat
  small : h.ttl.toNat ≤ 255
  seconds : h.seconds ≠ 0

theorem Returns.trusted (returned : n.Returns h) : h.trustedTtl = some h.ttl.toUInt8 :=
  ProbeHeader.trustedTtl_eq_some_iff.mpr
    ⟨returned.seconds, returned.positive, returned.small, rfl⟩

/-- A returned header tells its time, unless the time is too late for the host. -/
theorem Returns.sent (returned : n.Returns h) (timely : ¬n.Overflows) : h.sent = some h.time := by
  cases named : h.sent with
  | none =>
    have late := (ProbeHeader.sent_eq_none_iff h).mp named
    exact absurd ⟨h, returned.read, ⟨_, returned.trusted⟩, late⟩ timely
  | some sent =>
    unfold ProbeHeader.sent at named
    dsimp only at named
    split at named
    · exact named.symm
    · cases named

theorem slot?_eq_some_iff {base : UInt16} {slot : Slot} :
    n.slot? base = some slot ↔ n.port = some (slot.port base) := by
  unfold slot?
  rw [Option.bind_eq_some_iff]
  constructor
  · intro ⟨port, told, place⟩
    rw [told, Slot.port_of_ofPort place]
  · intro told
    exact ⟨_, told, slot.ofPort_port base⟩

end Notification

/-- The probe that a notification is attributed to, and whether the notification is broken. -/
inductive Session.Attributes (s : Session) (n : Notification) : Option ProbeRecord → Bool → Prop
  | header {h} : n.Returns h → s.Attributes n (some ⟨h.ttl.toUInt8, h.time⟩) false
  | record {slot r} : (∀ h, ¬n.Returns h) → n.port = some (slot.port s.basePort) →
      s.history.get? slot = some r →
      s.Attributes n (some r) (decide (16 ≤ n.payload.length))
  | unknown : (∀ h, ¬n.Returns h) →
      (∀ slot, n.port = some (slot.port s.basePort) → s.history.get? slot = none) →
      s.Attributes n none (decide (16 ≤ n.payload.length))

namespace Session
variable {s : Session} {n : Notification}

/-- A probe has a ttl, wherever it was found. -/
theorem Attributes.positive {probe : Option ProbeRecord} {broken : Bool}
    (h : s.Attributes n probe broken)
    (live : ∀ slot r, s.history.get? slot = some r → 0 < r.ttl) :
    ∀ r, probe = some r → 0 < r.ttl := by
  intro r found
  cases h with
  | header returned =>
    injection found with found
    subst found
    exact ProbeHeader.trustedTtl_pos returned.trusted
  | record _ _ held =>
    injection found with found
    subst found
    exact live _ _ held
  | unknown => cases found

end Session

/-- The session once a notification has consumed the record for its port. -/
structure Session.Consumed (s s' : Session) (n : Notification) : Prop where
  slots : ∀ slot, s'.history.get? slot =
    if n.port = some (slot.port s.basePort) then none else s.history.get? slot
  cursor : s'.history.cursor = s.history.cursor

theorem Session.consumed_after (s : Session) (ttl : UInt8) (n : Notification) :
    s.Consumed (s.after ttl n) n where
  slots slot := by
    rw [get?_after]
    simp only [Notification.slot?_eq_some_iff]
  cursor := (SameSetup.after ttl s n).cursor

section Decode
variable {σ : Type} {n : Notification} {t : Tracing σ} {p : MatchedProbe}

theorem World.decode_uninformed (w : World σ) (ttl : UInt8)
    (found : t.session.identify n = .ok p) (error : n.error = none) :
    w.decode ttl n t = .ok none { t with session := t.session.after ttl n } := by
  rw [t.session.after_uninformed error]
  unfold World.decode
  simp only [Session.decode_eq, found, error]

end Decode

namespace ReturnedHeader
open Simulation

/-- A router returns the header of the probe to the first slot, with `ttl` in it. -/
def notification (ttl : UInt32) : Notification :=
  ⟨⟨1000005000⟩, some 44444, ProbeHeader.encode ⟨ttl, 1, 2⟩,
    some ⟨.icmp, .hostUnreachable, 11, 0, 0, none⟩, some 60⟩

def world : World ScriptedNetwork := scriptedNetwork.attendedBy (Audience.silent _)

/-- The record has another ttl than the headers, and is two microseconds older. -/
def tracing : Tracing ScriptedNetwork :=
  ⟨(Session.start SessionConfig.default).record Slot.first 3 ⟨1000000000⟩,
    .start ⟨1000005000⟩ [] fun _ => none⟩

theorem held : tracing.session.history.get? Slot.first = some ⟨3, ⟨1000000000⟩⟩ := by decide

theorem live (slot : Slot) (r : ProbeRecord) (held : tracing.session.history.get? slot = some r) :
    0 < r.ttl := by
  change (History.empty.record Slot.first 3 ⟨1000000000⟩).get? slot = some r at held
  rw [History.get?_record, History.get?_empty] at held
  split at held
  · injection held with held
    subst held
    decide
  · cases held

theorem own (ttl : UInt32) :
    (notification ttl).port = some (Slot.first.port tracing.session.basePort) := rfl

theorem read (ttl : UInt32) : ProbeHeader.read (notification ttl).payload = some ⟨ttl, 1, 2⟩ :=
  ProbeHeader.read_encode _

theorem timely (ttl : UInt32) : ¬(notification ttl).Overflows := by
  intro ⟨h, told, _, late⟩
  rw [read, Option.some.injEq] at told
  subst told
  change 2 ^ 63 ≤ 1 + 2 / 1000000 at late
  omega

end ReturnedHeader

end HopTrace
