import HopTrace.Proofs.Calls
import HopTrace.Proofs.Header
import HopTrace.Proofs.ProbeBudget
import HopTrace.Simulation.Network

/-!
# Which probe a notification answers

A notification that returns the whole header of a probe names its ttl and the time it was
sent, in whole microseconds. One that returns less is matched by the port alone, through the
record of the last probe that went there.

The records are read off the transcript: a probe is outstanding from the moment it is
accepted until its port is used again or a notification for it has been read. Ports come
round after sixty-four calls of the probe engine, not sooner, and within a call nothing is
sent once a probe was accepted. So the two ways to match a probe agree on its ttl, and on
its round trip time to the microsecond.
-/
namespace HopTrace

/-- The time a header tells. -/
def Instant.wholeMicros (t : Instant) : Instant :=
  ⟨t.sinceEpoch / nanosPerMicro * nanosPerMicro⟩

/-- Less than a microsecond is lost. -/
theorem Instant.since_wholeMicros (received sent : Instant) :
    (received.since sent).nanos ≤ (received.since sent.wholeMicros).nanos ∧
      (received.since sent.wholeMicros).nanos < (received.since sent).nanos + nanosPerMicro := by
  unfold Instant.since Instant.wholeMicros nanosPerMicro
  dsimp only
  omega

namespace ProbeHeader

/-- A header names the time it was written with. -/
theorem sent_ofSend_eq (ttl : UInt8) {now : Instant} (h : now.Tellable) :
    (ofSend ttl now).sent = some now.wholeMicros := by
  obtain ⟨sent, named⟩ := sent_ofSend ttl h
  obtain ⟨seconds, -, -⟩ := seconds_ofSend ttl h
  have late := h.1
  have micros : (ofSend ttl now).micros.toNat =
      now.sinceEpoch.toNat % nanosPerSecond / nanosPerMicro := by
    unfold ofSend nanosPerSecond nanosPerMicro
    rw [UInt32.toNat_ofNat', Nat.mod_eq_of_lt (by omega)]
  rw [named]
  unfold ProbeHeader.sent at named
  dsimp only at named
  split at named
  · injection named with named
    subst named
    rw [seconds, micros, Option.some.injEq]
    unfold Instant.wholeMicros
    unfold nanosPerSecond at late ⊢
    unfold nanosPerMicro
    rw [Instant.mk.injEq]
    omega
  · cases named

/-- Reading looks at nothing after the header. -/
theorem read_take (bytes : List UInt8) : read (bytes.take size) = read bytes := by
  have length : (bytes.take size).length < size ↔ bytes.length < size := by
    rw [List.length_take]
    omega
  unfold read
  by_cases short : bytes.length < size
  · rw [if_pos short, if_pos (length.mpr short)]
  · rw [if_neg short, if_neg (mt length.mp short), List.take_take, List.drop_take, List.drop_take,
      List.take_take, List.take_take]
    rfl

/-- What is returned of a payload tells its header, unless it is too short. -/
theorem read_returned {bytes : List UInt8} {payload : Payload} (returned : bytes <+: payload.bytes)
    (long : size ≤ bytes.length) : read bytes = some payload.header := by
  have fits := returned.length_le
  rw [Payload.length_bytes] at fits
  have front : bytes.take size = payload.leading := by
    rw [← payload.take_bytes, List.prefix_iff_eq_take.mp returned, List.take_take,
      Nat.min_eq_left long]
  rw [← read_take, front, Payload.read_leading, if_pos (Nat.le_trans long fits)]

end ProbeHeader

/-- The reading of the clock that was taken last. -/
def lastReading : List Exchange → Option Instant
  | [] => none
  | .now reading :: _ => some reading
  | _ :: past => lastReading past

/-- The exchange uses the port, or tells of it. -/
def Exchange.concerns (port : UInt16) : Exchange → Bool
  | .send _ port' _ => port' = port
  | .receiveNotification (.ok (some n)) => n.port = some port
  | _ => false

/-- The record of a datagram that was accepted. -/
def Exchange.record? : Exchange → List Exchange → Option ProbeRecord
  | .send payload _ (.ok ()), past =>
    (lastReading past).map fun reading => ⟨payload.header.ttl.toUInt8, reading⟩
  | _, _ => none

/-- The probe that was accepted for the port, unless the port has been used or told of
since. -/
def outstanding (port : UInt16) : List Exchange → Option ProbeRecord
  | [] => none
  | x :: past => if x.concerns port then x.record? past else outstanding port past

section Outstanding
variable {port : UInt16} {x : Exchange} {new past : List Exchange}

theorem outstanding_other (other : x.concerns port = false) :
    outstanding port (x :: past) = outstanding port past := by
  simp [outstanding, other]

theorem outstanding_append (other : ∀ x ∈ new, x.concerns port = false) :
    outstanding port (new ++ past) = outstanding port past := by
  induction new with
  | nil => rfl
  | cons x new ih =>
    rw [List.cons_append, outstanding_other (other x List.mem_cons_self)]
    exact ih fun y m => other y (List.mem_cons_of_mem x m)

/-- Only a datagram makes a probe outstanding. -/
theorem outstanding_eq_none_append (quiet : ∀ x ∈ new, x.isSend = false)
    (none : outstanding port past = none) : outstanding port (new ++ past) = Option.none := by
  induction new with
  | nil => exact none
  | cons x new ih =>
    have rest := ih fun y m => quiet y (List.mem_cons_of_mem x m)
    rw [List.cons_append, outstanding, rest]
    have here := quiet x List.mem_cons_self
    cases x with
    | send _ _ _ => cases here
    | _ => simp [Exchange.record?]

theorem outstanding_accepted {payload : Payload} {ttl : UInt8} {now : Instant}
    (header : payload.header = .ofSend ttl now) (port : UInt16) (past : List Exchange) :
    outstanding port (.send payload port (.ok ()) :: .now now :: past) = some ⟨ttl, now⟩ := by
  have ttl : payload.header.ttl.toUInt8 = ttl := by
    rw [header]
    exact UInt8.toUInt8_toUInt32 ttl
  simp [outstanding, Exchange.concerns, Exchange.record?, lastReading, ttl]

theorem outstanding_refused (payload : Payload) (port : UInt16) (e : Failure)
    (past : List Exchange) :
    outstanding port (.send payload port (.error e) :: past) = none := by
  simp [outstanding, Exchange.concerns, Exchange.record?]

theorem outstanding_send_other {payload : Payload} {port' : UInt16} {answer : Except Failure Unit}
    {now : Instant} (other : port' ≠ port) (past : List Exchange) :
    outstanding port (.send payload port' answer :: .now now :: past) = outstanding port past := by
  rw [outstanding_other (by simpa [Exchange.concerns] using other), outstanding_other rfl]

end Outstanding

/-- The hop was published for the notification that was read after `before`. -/
def PublishedFor (past : List Exchange) (n : Notification) (before : List Exchange) (hop : Hop) :
    Prop :=
  ∃ names : List Exchange, (∀ x ∈ names, ∃ a name, x = .resolve a name) ∧
    .event (.hop hop) :: (names ++ .receiveNotification (.ok (some n)) :: before) <:+ past

/-- The notification was matched with the probe that was outstanding, if there was one, and
published accordingly. -/
def Matched (base : UInt16) (past : List Exchange) (n : Notification) (e : ExtendedError)
    (before : List Exchange) : Prop :=
  ∃ record, (∀ slot r, n.port = some (Slot.port slot base) →
      outstanding (Slot.port slot base) before = some r → record = some r) ∧
    ∀ p, MatchedProbe.identify record n.payload = .ok p →
      ∃ ttl responder, PublishedFor past n before { p.hop ttl n e with responder }

theorem Matched.mono {base : UInt16} {past past' before : List Exchange} {n : Notification}
    {e : ExtendedError} (h : Matched base past n e before) (grown : past <:+ past') :
    Matched base past' n e before := by
  obtain ⟨record, found, published⟩ := h
  refine ⟨record, found, ?_⟩
  intro p identified
  obtain ⟨ttl, responder, names, asked, here⟩ := published p identified
  exact ⟨ttl, responder, names, asked, here.trans grown⟩

/-- A probe that is outstanding is on record, and every notification has been matched. -/
structure Correlates (base : UInt16) (s : Session) (past : List Exchange) : Prop where
  basePort : s.basePort = base
  recorded : ∀ slot r, outstanding (Slot.port slot base) past = some r →
    s.history.get? slot = some r
  matched : ∀ n e before, .receiveNotification (.ok (some n)) :: before <:+ past →
    n.error = some e → Matched base past n e before

namespace Correlates
variable {base : UInt16} {s s' : Session} {past : List Exchange} {x : Exchange}
variable {n : Notification} {e : Failure}

theorem start (c : SessionConfig) : Correlates c.basePort (Session.start c) [] where
  basePort := rfl
  recorded _ _ found := by cases found
  matched _ _ _ here := by cases List.eq_nil_of_suffix_nil here

/-- Reading a notification consumes the record for its port. -/
theorem recorded_taken (h : Correlates base s past) (n : Notification) (slot : Slot)
    (r : ProbeRecord)
    (found : outstanding (slot.port base) (.receiveNotification (.ok (some n)) :: past) = some r) :
    (s.taken n).history.get? slot = some r := by
  by_cases own : n.port = some (slot.port base)
  · simp [outstanding, Exchange.concerns, own, Exchange.record?] at found
  · rw [outstanding_other (by simpa [Exchange.concerns] using own)] at found
    have kept := h.recorded slot r found
    unfold Session.taken Session.takeRecord
    cases taken : n.port.bind (Slot.ofPort · s.basePort) with
    | none => exact kept
    | some slot' =>
      obtain ⟨port, told, place⟩ := Option.bind_eq_some_iff.mp taken
      change (s.history.clear slot').get? slot = some r
      rw [History.get?_clear, if_neg, kept]
      rintro rfl
      rw [h.basePort] at place
      rw [told, Slot.port_of_ofPort place] at own
      exact own rfl

/-- The record that a notification takes is that of the outstanding probe. -/
theorem takeRecord (h : Correlates base s past) {slot : Slot} {r : ProbeRecord}
    (port : n.port = some (slot.port base))
    (found : outstanding (slot.port base) past = some r) : (s.takeRecord n.port).1 = some r := by
  unfold Session.takeRecord
  rw [port, Option.bind_some, h.basePort, Slot.ofPort_port]
  exact h.recorded slot r found

/-- A notification that is read, with what follows on it. -/
theorem read (new : List Exchange) (h : Correlates base s past)
    (basePort : s'.basePort = s.basePort)
    (history : s'.history = (s.taken n).history)
    (quiet : ∀ x ∈ new, (∀ port, x.concerns port = false) ∧
      ∀ n, x ≠ .receiveNotification (.ok (some n)))
    (own : ∀ e, n.error = some e →
      Matched base (new ++ .receiveNotification (.ok (some n)) :: past) n e past) :
    Correlates base s' (new ++ .receiveNotification (.ok (some n)) :: past) where
  basePort := basePort.trans h.basePort
  recorded slot r found := by
    rw [outstanding_append fun x m => (quiet x m).1 _] at found
    rw [history]
    exact h.recorded_taken n slot r found
  matched n' e before here error := by
    rcases mem_or_suffix here with made | here
    · exact absurd rfl ((quiet _ made).2 n')
    · rcases cons_suffix_cases here with ⟨same, rest⟩ | earlier
      · cases same
        subst rest
        exact own e error
      · have grown : past <:+ new ++ .receiveNotification (.ok (some n)) :: past :=
          (List.suffix_cons _ _).trans (List.suffix_append _ _)
        exact (h.matched n' e before earlier error).mono grown

/-- An exchange that has to do with no port. -/
theorem exchanged (h : Correlates base s past) (elsewhere : ∀ port, x.concerns port = false)
    (other : ∀ n, x ≠ .receiveNotification (.ok (some n))) : Correlates base s (x :: past) where
  basePort := h.basePort
  recorded slot r found := by
    rw [outstanding_other (elsewhere _)] at found
    exact h.recorded slot r found
  matched n e before here error := by
    have earlier := suffix_of_ne (other n).symm here
    exact (h.matched n e before earlier error).mono (List.suffix_cons _ _)

/-- A datagram for a slot, once it is on record. -/
theorem record (h : Correlates base s past) (slot : Slot) (ttl : UInt8) (now : Instant)
    {payload : Payload} (header : payload.header = .ofSend ttl now)
    (answer : Except Failure Unit) :
    Correlates base (s.record slot ttl now)
      (.send payload (slot.port s.basePort) answer :: .now now :: past) where
  basePort := h.basePort
  recorded slot' r found := by
    rw [h.basePort] at found
    change (s.history.record slot ttl now).get? slot' = some r
    rw [History.get?_record]
    by_cases same : slot = slot'
    · subst same
      rw [if_pos rfl]
      cases answer with
      | ok _ => exact (outstanding_accepted header _ past).symm.trans found
      | error e =>
        rw [outstanding_refused] at found
        cases found
    · rw [if_neg same]
      rw [outstanding_send_other (mt Slot.port_inj.mp same)] at found
      exact h.recorded slot' r found
  matched n e before here error := by
    have earlier := suffix_of_ne Exchange.noConfusion (suffix_of_ne Exchange.noConfusion here)
    have grown := (List.suffix_cons (Exchange.now now) past).trans
      (List.suffix_cons (.send payload (slot.port s.basePort) answer) _)
    exact (h.matched n e before earlier error).mono grown

theorem failed (h : Correlates base s past) (undecoded : s.identify n = .error e) :
    Correlates base (s.taken n) (.receiveNotification (.ok (some n)) :: past) := by
  have own : ∀ error, n.error = some error →
      Matched base (.receiveNotification (.ok (some n)) :: past) n error past := by
    intro error _
    refine ⟨_, fun slot r port found => h.takeRecord port found, ?_⟩
    intro p identified
    rw [Session.identify, identified] at undecoded
    cases undecoded
  have base : (s.taken n).basePort = s.basePort := congrArg Prod.fst (s.aim_taken n)
  exact h.read [] base rfl (by simp) own

theorem uninformed (h : Correlates base s past) (none : n.error = none) :
    Correlates base (s.taken n)
      (.event .noInfo :: .receiveNotification (.ok (some n)) :: past) := by
  have base : (s.taken n).basePort = s.basePort := congrArg Prod.fst (s.aim_taken n)
  refine h.read [.event .noInfo] base rfl ?_ ?_
  · simp [Exchange.concerns]
  · intro error some
    rw [none] at some
    cases some

theorem decode {ttl : UInt8} {hop : Hop} {names : List Exchange} (h : Correlates base s past)
    (decoded : s.decode ttl n = .ok (some hop) s')
    (asked : ∀ x ∈ names, ∃ a name, x = Exchange.resolve a name) (responder : Responder) :
    Correlates base s' (.event (.hop { hop with responder }) ::
      (names ++ .receiveNotification (.ok (some n)) :: past)) := by
  have base : s'.basePort = s.basePort := congrArg Prod.fst (Session.aim_decode decoded)
  obtain ⟨p, e, identified, error, rfl, rfl⟩ := Session.decode_hop decoded
  refine h.read (.event _ :: names) base (Session.history_learn _ _ _ _) ?_ ?_
  · intro x m
    rcases List.mem_cons.mp m with rfl | m
    · exact ⟨fun _ => rfl, by simp⟩
    · obtain ⟨a, name, rfl⟩ := asked x m
      exact ⟨fun _ => rfl, by simp⟩
  · intro e' error'
    rw [error] at error'
    injection error' with error'
    subst error'
    refine ⟨_, fun slot r port found => h.takeRecord port found, ?_⟩
    intro p' identified'
    rw [Session.identify, identified'] at identified
    injection identified with same
    subst same
    exact ⟨ttl, responder, names, asked, List.suffix_rfl⟩

end Correlates

theorem Session.header_payload (s : Session) (slot : Slot) (ttl : UInt8) (now : Instant) :
    ((s.record slot ttl now).payload ttl now).header = .ofSend ttl now := rfl

section Maintains
variable {σ : Type} {w : World σ} {ttl : UInt8} {base : UInt16}

theorem maintainsDrain_correlates (w : World σ) (ttl : UInt8) (base : UInt16) :
    w.MaintainsDrain ttl (Correlates base) (fun _ => Correlates base) where
  unread _ h _ := h.exchanged (fun _ => rfl) (by simp)
  emptied h := h.exchanged (fun _ => rfl) (by simp)
  undecoded n e h decoded := by
    obtain ⟨undecoded, rfl⟩ := Session.decode_failed decoded
    exact h.failed undecoded
  uninformed n h decoded := by
    obtain ⟨-, none, rfl⟩ := Session.decode_uninformed decoded
    exact h.uninformed none
  decoded n hop responder names h decoded asked := h.decode decoded asked responder

theorem steady_forgotten (port : UInt16) : Steady fun _ past => outstanding port past = none :=
  fun _ h _ quiet => outstanding_eq_none_append quiet h

/-- A probe that was refused is not outstanding, so its slot may be cleared. -/
theorem maintains_correlates (w : World σ) (ttl : UInt8) (base : UInt16) (slot : Slot) :
    w.MaintainsCall ttl slot (Correlates base)
      (fun s past => Correlates base s past ∧ outstanding (slot.port base) past = none)
      (Correlates base) (fun _ => Correlates base) where
  accepted {s past} now h := by
    have sent := h.record slot ttl now (s.header_payload slot ttl now) (.ok ())
    exact ⟨sent.basePort, sent.recorded, sent.matched⟩
  refused {s past} now cause h := by
    refine ⟨h.record slot ttl now (s.header_payload slot ttl now) _, ?_⟩
    rw [h.basePort]
    exact outstanding_refused _ _ _ _
  unsent {s past} now e h _ := h.record slot ttl now (s.header_payload slot ttl now) _
  explained := (maintainsDrain_correlates w ttl base).and
    (maintainsDrain_of_steady (steady_forgotten _) fun _ _ => trivial)
  cleared {s past} h := by
    obtain ⟨h, forgotten⟩ := h
    refine ⟨h.basePort, ?_, h.matched⟩
    intro slot' r found
    change (s.history.clear slot).get? slot' = some r
    rw [History.get?_clear, if_neg]
    · exact h.recorded slot' r found
    · rintro rfl
      rw [forgotten] at found
      cases found
  abandoned h := ⟨h.basePort, h.recorded, h.matched⟩
  awaited _ h := h.exchanged (fun _ => rfl) (by simp)
  unawaited _ h := h.exchanged (fun _ => rfl) (by simp)
  answered _ h := h.exchanged (fun _ => rfl) (by simp)
  unanswered _ h := h.exchanged (fun _ => rfl) (by simp)
  collected := maintainsDrain_correlates w ttl base
  published _ _ h := h.exchanged (fun _ => rfl) (by simp)

theorem Calls.correlates {c : SessionConfig} {s : σ} {as : List (Attempt (Transcript σ))}
    {failure : Option Failure} {t : Tracing (Transcript σ)}
    (h : Calls w.transcribed (Tracing.unspoken ⟨Session.start c, s⟩) as failure t) :
    Correlates c.basePort t.session t.world.past := by
  refine h.keeps ?_ ?_ (Correlates.start c)
  · intro a holds
    exact (maintains_correlates w a.ttl c.basePort _).lands_sendProbe holds
  · intro x s past pausing holds
    refine holds.exchanged ?_ ?_
    · intro port
      cases x with
      | send _ _ _ => cases pausing
      | receiveNotification _ => cases pausing
      | _ => rfl
    · rintro n rfl
      cases pausing

end Maintains

/-- The hop is that of a probe with this ttl, after this round trip time. -/
structure Hop.Confirms (hop : Hop) (ttl : UInt8) (rtt : Span) : Prop where
  confirmed : hop.confirmed = some ttl
  sound : hop.broken = false
  rtt : hop.rtt = some rtt

namespace Matched
variable {base : UInt16} {past before : List Exchange} {n : Notification} {e : ExtendedError}
variable {ttl : UInt8} {sent : Instant}

/-- The hop of a probe that was identified. -/
theorem confirms {record : Option ProbeRecord} (positive : 0 < ttl)
    (published : ∀ p, MatchedProbe.identify record n.payload = .ok p →
      ∃ ttl responder, PublishedFor past n before { p.hop ttl n e with responder })
    (identified : MatchedProbe.identify record n.payload = .ok ⟨some ttl, some sent, false⟩) :
    ∃ hop, PublishedFor past n before hop ∧ hop.Confirms ttl (n.received.since sent) := by
  obtain ⟨probed, responder, here⟩ := published _ identified
  have confirmed : (some ttl).filter (· > 0) = some ttl := by simpa using positive
  exact ⟨_, here, confirmed, rfl, rfl⟩

/-- A whole header is enough, whatever is on record. -/
theorem by_header (h : Matched base past n e before) (positive : 0 < ttl)
    {payload : Payload} (header : payload.header = .ofSend ttl sent) (tellable : sent.Tellable)
    (returned : n.payload <+: payload.bytes) (long : ProbeHeader.size ≤ n.payload.length) :
    ∃ hop, PublishedFor past n before hop ∧
      hop.Confirms ttl (n.received.since sent.wholeMicros) := by
  obtain ⟨record, -, published⟩ := h
  have read := ProbeHeader.read_returned returned long
  rw [header] at read
  exact confirms positive published (MatchedProbe.identify_trusted record read
    (ProbeHeader.trustedTtl_ofSend positive tellable) (ProbeHeader.sent_ofSend_eq ttl tellable))

/-- Without a header the outstanding probe is taken. -/
theorem by_record (h : Matched base past n e before) (positive : 0 < ttl) {slot : Slot}
    (port : n.port = some (slot.port base))
    (found : outstanding (slot.port base) before = some ⟨ttl, sent⟩)
    (short : n.payload.length < ProbeHeader.size) :
    ∃ hop, PublishedFor past n before hop ∧ hop.Confirms ttl (n.received.since sent) := by
  obtain ⟨record, taken, published⟩ := h
  have unread := ProbeHeader.read_eq_none_iff.mpr short
  have identified := MatchedProbe.identify_unread record unread
  rw [taken slot _ port found] at published identified
  exact confirms positive published identified

end Matched

section Trace
variable {σ : Type} {w : World σ} {t t' : Tracing (Transcript σ)}
variable {as : List (Attempt (Transcript σ))} {failure : Option Failure}

/-- Nothing is sent to the port of a probe from when it was accepted until the calls that
follow have gone once through the slots. -/
theorem Calls.not_sent_again (h : Calls w.transcribed t as failure t')
    (start : t.world.past = []) {k j : Nat} {a b : Attempt (Transcript σ)}
    (first : as[k]? = some a) (last : as[j]? = some b) (near : j < k + historySize)
    {payload payload' : Payload} {port port' : UInt16} {answer : Except Failure Unit}
    {before between mid : List Exchange} {y : Exchange}
    (accepted : a.Makes w.transcribed Transcript.past (.send payload port (.ok ())) before)
    (closing : b.Makes w.transcribed Transcript.past y mid)
    (after : .send payload port (.ok ()) :: before <:+ between)
    (sent : .send payload' port' answer :: between <:+ mid) : port' ≠ port := by
  have here : .send payload' port' answer :: between <:+ t'.world.past :=
    sent.trans ((List.suffix_cons y mid).trans
      (closing.2.trans (h.bounds w.transcribed_logs last).2))
  obtain ⟨i, c, called, made⟩ := h.made w.transcribed_logs (start ▸ not_cons_suffix_nil) rfl here
  have lower : k ≤ i := h.le_of_made w.transcribed_logs first called accepted made after
  have upper : i ≤ j := h.le_of_made w.transcribed_logs called last made closing sent
  have fromA := (Attempt.sentInCall accepted).port
  have fromC := (Attempt.sentInCall made).port
  rw [fromC, fromA, h.port called, h.port first]
  intro same
  rcases Nat.eq_or_lt_of_le lower with rfl | later
  · rw [first] at called
    injection called with called
    subst called
    exact Attempt.not_sent_after accepted made after
  · exact Slot.after_ne later (by omega) (Slot.port_inj.mp same).symm

/-- So the probe is outstanding until a notification for its port is read. -/
theorem Calls.outstanding (h : Calls w.transcribed t as failure t') (start : t.world.past = [])
    {k j : Nat} {a b : Attempt (Transcript σ)} (first : as[k]? = some a) (last : as[j]? = some b)
    (near : j < k + historySize) {payload : Payload} {port : UInt16} {sent : Instant}
    {earlier mid : List Exchange} {y : Exchange} (header : payload.header = .ofSend a.ttl sent)
    (accepted : a.Makes w.transcribed Transcript.past (.send payload port (.ok ()))
      (.now sent :: earlier))
    (closing : b.Makes w.transcribed Transcript.past y mid)
    (after : .send payload port (.ok ()) :: .now sent :: earlier <:+ mid)
    (untold : ∀ n between, .receiveNotification (.ok (some n)) :: between <:+ mid →
      .send payload port (.ok ()) :: .now sent :: earlier <:+ between → n.port ≠ some port) :
    HopTrace.outstanding port mid = some ⟨a.ttl, sent⟩ := by
  obtain ⟨new, rfl⟩ := after
  rw [outstanding_append, outstanding_accepted header]
  intro x m
  obtain ⟨later, between, rfl⟩ := List.append_of_mem m
  have here : x :: (between ++ .send payload port (.ok ()) :: .now sent :: earlier) <:+
      later ++ x :: between ++ .send payload port (.ok ()) :: .now sent :: earlier := by
    rw [List.append_assoc, List.cons_append]
    exact List.suffix_append _ _
  have after : .send payload port (.ok ()) :: .now sent :: earlier <:+
      between ++ .send payload port (.ok ()) :: .now sent :: earlier := List.suffix_append _ _
  cases x with
  | send payload' port' answer =>
    exact decide_eq_false (h.not_sent_again start first last near accepted closing after here)
  | receiveNotification answer =>
    cases answer with
    | error e => rfl
    | ok found =>
      cases found with
      | none => rfl
      | some n => exact decide_eq_false (untold n _ here after)
  | _ => rfl

end Trace

/-- Take a probe that was accepted and a later notification for its port that carries an
error and returns nothing but the front of its payload. Both were made in calls of the probe
engine, say the calls `k` and `j`. If the notification returns the header, and the clock was
right when the probe was sent, or if it returns less, is not more than 63 calls late and is
the first for the port, then the hop that is published for it is that of the probe. -/
theorem trace_correlated {σ : Type} (w : World σ) (c : SessionConfig) (s : σ) :
    ∃ walk, TraceExec w.transcribed (Tracing.unspoken ⟨Session.start c, s⟩) walk
        (w.transcribed.trace (Tracing.unspoken ⟨Session.start c, s⟩)) ∧
      ∀ past, past = w.transcribed.trace.transcript ⟨Session.start c, s⟩ →
      ∀ payload port before n e mid,
        .send payload port (.ok ()) :: before <:+ mid →
        .receiveNotification (.ok (some n)) :: mid <:+ past →
        n.port = some port → n.error = some e → n.payload <+: payload.bytes →
        ∃ (k j : Nat) (a b : Attempt (Transcript σ)) (sent : Instant) (earlier : List Exchange),
          walk.flatten[k]? = some a ∧ walk.flatten[j]? = some b ∧ before = .now sent :: earlier ∧
          a.Makes w.transcribed Transcript.past (.send payload port (.ok ())) before ∧
          b.Makes w.transcribed Transcript.past (.receiveNotification (.ok (some n))) mid ∧
          (16 ≤ n.payload.length → sent.Tellable →
            ∃ hop, PublishedFor past n mid hop ∧
              hop.Confirms a.ttl (n.received.since sent.wholeMicros)) ∧
          (n.payload.length < 16 → j ≤ k + 63 →
            (∀ other between, .receiveNotification (.ok (some other)) :: between <:+ mid →
              .send payload port (.ok ()) :: before <:+ between → other.port ≠ some port) →
            ∃ hop, PublishedFor past n mid hop ∧ hop.Confirms a.ttl (n.received.since sent)) ∧
          (n.received.since sent).nanos ≤ (n.received.since sent.wholeMicros).nanos ∧
          (n.received.since sent.wholeMicros).nanos <
            (n.received.since sent).nanos + 1000 := by
  obtain ⟨walk, exec⟩ := w.transcribed.trace_exec (Tracing.unspoken ⟨Session.start c, s⟩)
  refine ⟨walk, exec, ?_⟩
  intro past told payload port before n e mid after here own error returned
  subst told
  have calls := exec.calls
  have correlates := calls.correlates
  -- The calls that sent the probe and read the notification.
  have sentHere := after.trans ((List.suffix_cons _ mid).trans here)
  obtain ⟨k, a, first, accepted⟩ := calls.made w.transcribed_logs not_cons_suffix_nil rfl sentHere
  obtain ⟨j, b, last, closing⟩ := calls.made w.transcribed_logs not_cons_suffix_nil rfl here
  -- What is known of the probe.
  obtain ⟨port', ⟨sent, earlier, rfl, -, header⟩, -⟩ := Attempt.sentInCall accepted
  have positive : 0 < a.ttl :=
    Session.pos_of_mem_ttls (exec.mem_ttls a (List.mem_of_getElem? first))
  have matched := correlates.matched n e mid here error
  refine ⟨k, j, a, b, sent, earlier, first, last, rfl, accepted, closing, ?_, ?_,
    n.received.since_wholeMicros sent⟩
  · intro long tellable
    exact matched.by_header positive header tellable returned long
  · intro short near untold
    have place : port = (Slot.first.after k).port c.basePort := port'.trans (calls.port first)
    have found := calls.outstanding rfl first last (Nat.lt_succ_of_le near) header accepted closing
      after untold
    rw [place] at own found
    exact matched.by_record positive own found short

namespace Echoes
open Simulation

def error : ExtendedError := ⟨.icmp, .connectionRefused, 3, 3, 0, none⟩

/-- The first probe is refused five microseconds after it was sent, and comes back. -/
def network : ScriptedNetwork :=
  .start ⟨1000000999⟩
    [{ ScriptEntry.empty with notes := [.notification 5000 .sent .echo (some error) (some 64)] }]
    fun _ => none

def world : World ScriptedNetwork := scriptedNetwork.attendedBy (Audience.silent _)

def config (mtu : UInt32) : SessionConfig := { SessionConfig.default with mtu, maxTtl := 1 }

def start (mtu : UInt32) : Tracing ScriptedNetwork := ⟨Session.start (config mtu), network⟩

/-- The refusal, with what it returns of the probe. -/
def refusal (payload : List UInt8) : Notification :=
  ⟨⟨1000005999⟩, some 44444, payload, some error, some 64⟩

def payload (length : Nat) : Payload := ⟨.ofSend 1 ⟨1000000999⟩, length⟩

/-- What comes before the refusal. -/
def before (length : Nat) : List Exchange :=
  [.receiveReply (.ok none), .awaitReadable replyWait (.ok false),
    .send (payload length) 44444 (.ok ()), .now ⟨1000000999⟩, .setTtl 1 (.ok ())]

def header : List UInt8 := [0, 0, 0, 1, 0, 0, 0, 0, 0, 0, 0, 1, 0, 0, 0, 0]

theorem returned (length : Nat) :
    header.take length <+: (payload length).bytes := by
  have written : (ProbeHeader.ofSend 1 ⟨1000000999⟩).encode = header := by decide
  have leading : (payload length).bytes.take ProbeHeader.size = header.take length := by
    rw [Payload.take_bytes, ← written]
    rfl
  rw [← leading]
  exact List.take_prefix _ _

theorem tellable : Instant.Tellable ⟨1000000999⟩ := ⟨by decide, by decide⟩

theorem ttl_eq {mtu : UInt32} {ttl : UInt8} (m : ttl ∈ (start mtu).session.ttls) : ttl = 1 :=
  List.mem_singleton.mp m

theorem transcript_long :
    (world.transcribed.trace.transcript (start 1500)).tail =
      .receiveNotification (.ok (some (refusal header))) :: before 1472 := by
  have seen : (world.transcribed.traceWithin 4 (start 1500).unspoken).map
      (fun r => (finalState r).world.past.tail) =
        some (.receiveNotification (.ok (some (refusal header))) :: before 1472) := by
    decide +kernel
  exact World.trace_seen seen

theorem transcript_short :
    (world.transcribed.trace.transcript (start 36)).tail =
      .receiveNotification (.ok (some (refusal (header.take 8)))) :: before 8 := by
  have seen : (world.transcribed.traceWithin 4 (start 36).unspoken).map
      (fun r => (finalState r).world.past.tail) =
        some (.receiveNotification (.ok (some (refusal (header.take 8)))) :: before 8) := by
    decide +kernel
  exact World.trace_seen seen

theorem mtu_short :
    (finalState (world.transcribed.trace (start 36).unspoken)).session.mtu = 36 := by
  have seen : (world.transcribed.traceWithin 4 (start 36).unspoken).map
      (fun r => (finalState r).session.mtu) = some 36 := by decide +kernel
  exact World.trace_seen seen

/-- No mtu is lowered, so the one ttl is probed in three calls at most. -/
theorem length_short {walk : List (List (Attempt (Transcript ScriptedNetwork)))}
    (h : TraceExec world.transcribed (start 36).unspoken walk
      (world.transcribed.trace (start 36).unspoken)) : walk.flatten.length ≤ 3 := by
  obtain ⟨r', path, final⟩ := h.path
  have ttls : walk.length ≤ 1 := path.length_walk_le
  have lowered := path.mtu_le
  rw [final, mtu_short] at lowered
  have none : (restarts world.transcribed walk.flatten).length = 0 := by
    have first : (start 36).unspoken.session.mtu.toNat = 36 := rfl
    have last : (36 : UInt32).toNat = 36 := rfl
    omega
  have length := path.length_le
  rw [none] at length
  unfold maxTtlAttempts at length
  omega

end Echoes

/-- One probe comes back with its header, and the other without. -/
theorem trace_correlated_echoes :
    (∃ hop, PublishedFor (Echoes.world.transcribed.trace.transcript (Echoes.start 1500))
      (Echoes.refusal Echoes.header) (Echoes.before 1472) hop ∧ hop.Confirms 1 ⟨5999⟩) ∧
    (∃ hop, PublishedFor (Echoes.world.transcribed.trace.transcript (Echoes.start 36))
      (Echoes.refusal (Echoes.header.take 8)) (Echoes.before 8) hop ∧ hop.Confirms 1 ⟨5000⟩) := by
  constructor
  · have here := List.tail_suffix (Echoes.world.transcribed.trace.transcript (Echoes.start 1500))
    rw [Echoes.transcript_long] at here
    obtain ⟨walk, exec, correlated⟩ :=
      trace_correlated Echoes.world (Echoes.config 1500) Echoes.network
    obtain ⟨k, j, a, b, sent, earlier, first, -, clock, -, -, header, -⟩ :=
      correlated _ rfl (Echoes.payload 1472) 44444 _ _ _ _ ⟨[_, _], rfl⟩ here rfl rfl
        (Echoes.returned 1472)
    injection clock with clock
    injection clock with clock
    rw [← clock, Echoes.ttl_eq (exec.mem_ttls a (List.mem_of_getElem? first))] at header
    exact header (by decide) Echoes.tellable
  · have here := List.tail_suffix (Echoes.world.transcribed.trace.transcript (Echoes.start 36))
    rw [Echoes.transcript_short] at here
    obtain ⟨walk, exec, correlated⟩ :=
      trace_correlated Echoes.world (Echoes.config 36) Echoes.network
    obtain ⟨k, j, a, b, sent, earlier, first, last, clock, -, -, -, record, -⟩ :=
      correlated _ rfl (Echoes.payload 8) 44444 _ _ _ _ ⟨[_, _], rfl⟩ here rfl rfl
        (Echoes.returned 8)
    have calls := Echoes.length_short exec
    have late := (List.getElem?_eq_some_iff.mp last).1
    injection clock with clock
    injection clock with clock
    rw [← clock, Echoes.ttl_eq (exec.mem_ttls a (List.mem_of_getElem? first))] at record
    refine record (by decide) (by omega) ?_
    intro other between told _
    have told := told.subset List.mem_cons_self
    simp at told

end HopTrace
