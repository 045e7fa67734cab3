import HopTrace.Proofs.Header
import HopTrace.Session

/-!
# What a notification decodes to

A notification is decoded in two halves. The first settles the probe and does not look at
the error, the second describes the error for whatever probe was found. `Session.decode_eq`
takes them apart, so that nothing that follows has to open `Session.decode`.
-/
namespace HopTrace

namespace Slot

/-- The slot of a probe is found again from the port it was sent to. -/
theorem ofPort_port (slot : Slot) (base : UInt16) : ofPort (slot.port base) base = some slot := by
  have small : slot.val < 64 := slot.isLt
  have back : (slot.port base - base).toNat = slot.val := by
    unfold Slot.port
    rw [UInt16.add_comm, UInt16.add_sub_cancel, UInt16.toNat_ofNat', Nat.mod_eq_of_lt (by omega)]
  unfold Slot.ofPort
  rw [dif_pos (by omega), Option.some.injEq]
  exact Fin.ext back

/-- No two slots share a port. -/
theorem port_inj {slot slot' : Slot} {base : UInt16} :
    slot.port base = slot'.port base ↔ slot = slot' := by
  constructor
  · intro same
    have found := ofPort_port slot base
    rw [same, ofPort_port slot' base] at found
    injection found with found
    exact found.symm
  · intro same
    rw [same]

theorem port_of_ofPort {port base : UInt16} {slot : Slot} (found : ofPort port base = some slot) :
    slot.port base = port := by
  unfold ofPort at found
  dsimp only at found
  split at found
  · injection found with found
    subst found
    unfold Slot.port
    rw [UInt16.ofNat_toNat, UInt16.add_comm, UInt16.sub_add_cancel]
  · cases found

theorem ofPort_eq_some_iff {port base : UInt16} {slot : Slot} :
    ofPort port base = some slot ↔ slot.port base = port := by
  constructor
  · exact port_of_ofPort
  · rintro rfl
    exact ofPort_port slot base

end Slot

namespace MatchedProbe

/-- The probe a record points to. -/
def ofRecord (record : Option ProbeRecord) : MatchedProbe :=
  ⟨record.map (·.ttl), record.map (·.sent), false⟩

/-- What a complete header makes of the probe its record points to. -/
def judge (known : MatchedProbe) (trusted : Option UInt8) (sent : Option Instant) :
    Except Failure MatchedProbe :=
  match trusted with
  | none => .ok { known with broken := true }
  | some ttl =>
    match sent with
    | none => .error .unrepresentableTime
    | some sent => .ok ⟨some ttl, some sent, false⟩

theorem identify_eq (record : Option ProbeRecord) (payload : List UInt8) :
    identify record payload =
      match ProbeHeader.read payload with
      | none => .ok (ofRecord record)
      | some header => (ofRecord record).judge header.trustedTtl header.sent := by
  unfold identify
  cases ProbeHeader.read payload with
  | none => rfl
  | some header => rfl

theorem identify_unread {payload : List UInt8} (record : Option ProbeRecord)
    (read : ProbeHeader.read payload = none) : identify record payload = .ok (ofRecord record) := by
  rw [identify_eq, read]

theorem identify_trusted {payload : List UInt8} {header : ProbeHeader} {ttl : UInt8}
    {sent : Instant} (record : Option ProbeRecord) (read : ProbeHeader.read payload = some header)
    (trusted : header.trustedTtl = some ttl) (time : header.sent = some sent) :
    identify record payload = .ok ⟨some ttl, some sent, false⟩ := by
  rw [identify_eq, read]
  change (ofRecord record).judge header.trustedTtl header.sent = _
  rw [trusted, time]
  rfl

end MatchedProbe

/-- The hop that an error is published as when `p` was matched. -/
def MatchedProbe.hop (p : MatchedProbe) (ttl : UInt8) (n : Notification) (e : ExtendedError) :
    Hop where
  ttl
  confirmed := p.ttl.filter (· > 0)
  responder := Responder.ofError e
  rtt := p.sent.map n.received.since
  broken := p.broken
  status := classify e p.ttl (n.receivedTtl.map returnHops) ttl

/-- The probe a notification is matched with. -/
def Session.identify (s : Session) (n : Notification) : Except Failure MatchedProbe :=
  MatchedProbe.identify (s.takeRecord n.port).1 n.payload

/-- The session once a notification has consumed its record. -/
def Session.taken (s : Session) (n : Notification) : Session := (s.takeRecord n.port).2

namespace Session
variable {s s' : Session} {ttl : UInt8} {n : Notification}

theorem decode_eq (s : Session) (ttl : UInt8) (n : Notification) :
    s.decode ttl n =
      match s.identify n with
      | .error e => .error e (s.taken n)
      | .ok p =>
        match n.error with
        | none => .ok none (s.taken n)
        | some e => .ok (some (p.hop ttl n e))
            ((s.taken n).learn (p.hop ttl n e).status (p.ttl.getD ttl)
              (n.receivedTtl.map returnHops)) := by
  unfold Session.decode Session.matchProbe Session.identify Session.taken
  cases MatchedProbe.identify (s.takeRecord n.port).1 n.payload with
  | error e => rfl
  | ok p =>
    cases n.error with
    | none => rfl
    | some e => rfl

theorem decode_failed {e : Failure} (h : s.decode ttl n = .error e s') :
    s.identify n = .error e ∧ s' = s.taken n := by
  rw [decode_eq] at h
  cases found : s.identify n with
  | error f =>
    rw [found] at h
    injection h with he hs
    exact ⟨he ▸ rfl, hs.symm⟩
  | ok p => cases none : n.error <;> simp [found, none] at h

theorem decode_uninformed (h : s.decode ttl n = .ok none s') :
    (∃ p, s.identify n = .ok p) ∧ n.error = none ∧ s' = s.taken n := by
  rw [decode_eq] at h
  cases found : s.identify n with
  | error f => simp [found] at h
  | ok p =>
    cases none : n.error with
    | none =>
      simp only [found, none, EStateM.Result.ok.injEq, true_and] at h
      exact ⟨⟨p, rfl⟩, rfl, h.symm⟩
    | some e => simp [found, none] at h

theorem decode_hop {hop : Hop} (h : s.decode ttl n = .ok (some hop) s') :
    ∃ p e, s.identify n = .ok p ∧ n.error = some e ∧ hop = p.hop ttl n e ∧
      s' = (s.taken n).learn hop.status (p.ttl.getD ttl) (n.receivedTtl.map returnHops) := by
  rw [decode_eq] at h
  cases found : s.identify n with
  | error f => simp [found] at h
  | ok p =>
    cases some : n.error with
    | none => simp [found, some] at h
    | some e =>
      simp only [found, some, EStateM.Result.ok.injEq, Option.some.injEq] at h
      obtain ⟨rfl, rfl⟩ := h
      exact ⟨p, e, rfl, rfl, rfl, rfl⟩

/-- What is learned does not depend on parts of the session that are not learned. -/
theorem learn_map {f : Session → Session} (mtu : ∀ s, (f s).mtu = s.mtu)
    (hopsTo : ∀ s, (f s).hopsTo = s.hopsTo)
    (withMtu : ∀ s mtu, { f s with mtu } = f { s with mtu })
    (withHops : ∀ s hopsTo hopsFrom,
      { f s with hopsTo, hopsFrom } = f { s with hopsTo, hopsFrom })
    (s : Session) (status : HopStatus) (hops : UInt8) (backHops : Option UInt8) :
    (f s).learn status hops backHops = f (s.learn status hops backHops) := by
  cases status with
  | pathMtu lower =>
    simp only [learn, clampMtu, mtu, withMtu]
    split <;> rfl
  | reached =>
    simp only [learn, setHops, hopsTo, withHops]
    split <;> rfl
  | _ => rfl

/-- A change of the session that decoding does not look at stays as it is, also where the
port of the notification is changed with it. -/
theorem decode_map {f : Session → Session} {port : Option UInt16}
    (take : (f s).takeRecord port = ((s.takeRecord n.port).1, f (s.takeRecord n.port).2))
    (learn : ∀ s status hops backHops,
      (f s).learn status hops backHops = f (s.learn status hops backHops)) :
    (f s).decode ttl { n with port } =
      match s.decode ttl n with
      | .ok hop s' => .ok hop (f s')
      | .error e s' => .error e (f s') := by
  have identify : (f s).identify { n with port } = s.identify n := by
    unfold Session.identify
    rw [take]
  have taken : (f s).taken { n with port } = f (s.taken n) := by
    unfold Session.taken
    rw [take]
  rw [decode_eq, decode_eq, identify, taken]
  cases s.identify n with
  | error e => rfl
  | ok p =>
    cases error : n.error with
    | none => rfl
    | some e =>
      dsimp only
      rw [learn]
      rfl

/-- Consuming a record leaves everything but the history as it was. -/
theorem taken_eq (s : Session) (n : Notification) :
    s.taken n = { s with history := (s.taken n).history } := by
  unfold Session.taken Session.takeRecord
  split <;> rfl

theorem get?_taken {slot : Slot} {r : ProbeRecord}
    (h : (s.taken n).history.get? slot = some r) : s.history.get? slot = some r := by
  unfold Session.taken Session.takeRecord at h
  split at h
  · exact h
  · next slot' _ =>
    have cleared := s.history.get?_clear slot' slot
    change (s.history.clear slot').get? slot = some r at h
    rw [h] at cleared
    split at cleared
    · cases cleared
    · exact cleared.symm

theorem takeRecord_eq_some {port : Option UInt16} {r : ProbeRecord}
    (h : (s.takeRecord port).1 = some r) : ∃ slot, s.history.get? slot = some r := by
  unfold Session.takeRecord at h
  split at h
  · cases h
  · next slot _ => exact ⟨slot, h⟩

@[simp] theorem history_learn (s : Session) (status : HopStatus) (hops : UInt8)
    (backHops : Option UInt8) : (s.learn status hops backHops).history = s.history := by
  unfold Session.learn Session.clampMtu Session.setHops
  split
  · split <;> rfl
  · split <;> rfl
  all_goals rfl

end Session

/-- A matched probe has no ttl zero unless the record has. -/
theorem MatchedProbe.identify_pos {record : Option ProbeRecord} {payload : List UInt8}
    {p : MatchedProbe} (positive : ∀ r, record = some r → 0 < r.ttl)
    (h : MatchedProbe.identify record payload = .ok p) : ∀ ttl, p.ttl = some ttl → 0 < ttl := by
  have known : ∀ ttl, record.map (·.ttl) = some ttl → 0 < ttl := by
    intro ttl found
    cases record with
    | none => cases found
    | some r =>
      injection found with found
      exact found ▸ positive r rfl
  rw [MatchedProbe.identify_eq] at h
  cases read : ProbeHeader.read payload with
  | none =>
    simp only [read, Except.ok.injEq] at h
    subst h
    exact known
  | some header =>
    simp only [read] at h
    have trusted : ∀ ttl, header.trustedTtl = some ttl → 0 < ttl :=
      fun _ => ProbeHeader.trustedTtl_pos
    generalize header.trustedTtl = judgement at h trusted
    generalize header.sent = sent at h
    cases judgement with
    | none =>
      injection h with h
      subst h
      exact known
    | some ttl =>
      cases sent with
      | none => cases h
      | some time =>
        injection h with h
        subst h
        exact trusted

theorem classify_eq_reached_iff (e : ExtendedError) (sentHops backHops : Option UInt8)
    (ttl : UInt8) : classify e sentHops backHops ttl = .reached ↔ e.code = .connectionRefused := by
  unfold classify
  cases e.code <;> simp
  split <;> simp

end HopTrace
