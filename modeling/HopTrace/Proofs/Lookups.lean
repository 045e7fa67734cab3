import HopTrace.Proofs.HeaderTime
import HopTrace.Proofs.HopCounts

/-!
# Which names a trace looks up

The mode of a session decides whether responders are shown by name, and decoding looks at it
for nothing else. A name is looked up when a notification is decoded that came from a router
or from the target and says who sent it. Nothing else makes a trace look up a name, and no
such notification is passed over.

A notification with an extended error that is received is decoded at once. Only one whose
echoed time cannot be represented is not, and the trace fails there.
-/
namespace HopTrace

def Session.withMode (s : Session) (mode : AddressMode) : Session := { s with mode }

namespace Session
variable {s s' : Session} {ttl : UInt8} {n : Notification}

theorem takeRecord_withMode (s : Session) (mode : AddressMode) (port : Option UInt16) :
    (s.withMode mode).takeRecord port =
      ((s.takeRecord port).1, (s.takeRecord port).2.withMode mode) := by
  have base : (s.withMode mode).basePort = s.basePort := rfl
  unfold takeRecord
  rw [base]
  cases port.bind (Slot.ofPort · s.basePort) <;> rfl

/-- Sessions that differ in the mode decode a notification alike. -/
theorem decode_withMode (s : Session) (mode : AddressMode) (ttl : UInt8) (n : Notification) :
    (s.withMode mode).decode ttl n =
      match s.decode ttl n with
      | .ok hop s' => .ok hop (s'.withMode mode)
      | .error e s' => .error e (s'.withMode mode) := by
  apply decode_map (f := (withMode · mode)) (s.takeRecord_withMode mode n.port)
  exact learn_map (fun _ => rfl) (fun _ => rfl) (fun _ _ => rfl) (fun _ _ _ => rfl)

/-- Decoding leaves the mode as it is. -/
theorem mode_decode (s : Session) (ttl : UInt8) (n : Notification) :
    (finalState (s.decode ttl n)).mode = s.mode := by
  have same := s.decode_withMode s.mode ttl n
  change s.decode ttl n = _ at same
  rw [same]
  cases s.decode ttl n <;> rfl

end Session

/-- The address whose name is looked up when the error is decoded. -/
def ExtendedError.asked (mode : AddressMode) (e : ExtendedError) : Option IpAddress :=
  match e.origin with
  | .icmp | .icmp6 => if mode ≠ .ip then e.offender else none
  | .local | .other _ => none

def Notification.asked (mode : AddressMode) (n : Notification) : Option IpAddress :=
  n.error.bind (·.asked mode)

/-- A numeric trace asks for no name. -/
theorem Notification.asked_ip (n : Notification) : n.asked .ip = none := by
  have never (e : ExtendedError) : e.asked .ip = none := by
    unfold ExtendedError.asked
    cases e.origin <;> rfl
  unfold asked
  cases n.error with
  | none => rfl
  | some e => exact never e

def Exchange.lookup? : Exchange → Option IpAddress
  | .resolve address _ => some address
  | _ => none

def Exchange.informed? : Exchange → Option Notification
  | .receiveNotification (.ok (some n)) => if n.error.isSome then some n else none
  | _ => none

/-- The addresses whose names were looked up, the latest first. -/
def lookups (past : List Exchange) : List IpAddress := past.filterMap Exchange.lookup?

/-- The notifications that were received with an extended error, the latest first. -/
def informed (past : List Exchange) : List Notification := past.filterMap Exchange.informed?

/-- The notifications that were decoded to a hop, the latest first. -/
def decoded : List Exchange → List Notification
  | [] => []
  | .event (.hop _) :: past => (lastRead past).toList ++ decoded past
  | _ :: past => decoded past

section Names
variable {names past : List Exchange}

theorem lookups_append (new past : List Exchange) :
    lookups (new ++ past) = lookups new ++ lookups past := List.filterMap_append ..

theorem informed_append_resolves (asked : ∀ x ∈ names, ∃ a name, x = Exchange.resolve a name) :
    informed (names ++ past) = informed past :=
  append_resolves asked fun _ _ _ => rfl

theorem decoded_append_resolves (asked : ∀ x ∈ names, ∃ a name, x = Exchange.resolve a name) :
    decoded (names ++ past) = decoded past :=
  append_resolves asked fun _ _ _ => rfl

theorem informed_received (n : Notification) (past : List Exchange) :
    informed (.receiveNotification (.ok (some n)) :: past) =
      if n.error.isSome then n :: informed past else informed past := by
  unfold informed
  rw [List.filterMap_cons, Exchange.informed?]
  cases n.error.isSome <;> rfl

theorem decoded_hop (hop : Hop) (n : Notification)
    (asked : ∀ x ∈ names, ∃ a name, x = Exchange.resolve a name) :
    decoded (.event (.hop hop) :: (names ++ .receiveNotification (.ok (some n)) :: past)) =
      n :: decoded past := by
  rw [decoded, lastRead_append_resolves asked, decoded_append_resolves asked]
  rfl

variable {σ : Type}

/-- A name is looked up for an error with an offender on the way, and for no other. -/
theorem World.transcribed_name_ofError (w : World σ) (mode : AddressMode) (e : ExtendedError)
    (x : Transcript σ) :
    ∃ names : List Exchange, (∀ y ∈ names, ∃ a name, y = .resolve a name) ∧
      lookups names = (e.asked mode).toList ∧
      w.transcribed.name mode (Responder.ofError e) x =
        ((w.name mode (Responder.ofError e) x.inner).1,
          ⟨names ++ x.past, (w.name mode (Responder.ofError e) x.inner).2⟩) := by
  have remote : lookups (w.transcribed.name mode (.remote e.offender none) x).2.past =
      (if mode ≠ .ip then e.offender else none).toList ++ lookups x.past := by
    unfold World.name
    simp only [AddressMode.needsHostname_iff]
    split
    · cases e.offender <;> rfl
    · rfl
  have grown : lookups (w.transcribed.name mode (Responder.ofError e) x).2.past =
      (e.asked mode).toList ++ lookups x.past := by
    unfold Responder.ofError ExtendedError.asked
    cases e.origin with
    | icmp => exact remote
    | icmp6 => exact remote
    | «local» => rfl
    | other code => rfl
  obtain ⟨names, asked, named⟩ := w.transcribed_name mode (Responder.ofError e) x
  rw [named, lookups_append] at grown
  exact ⟨names, asked, List.append_cancel_right grown, named⟩

end Names

/-- The names that were looked up are those of the decoded notifications, and `left` is
received but not decoded. -/
structure Attends (mode : AddressMode) (left : Option Notification) (s : Session)
    (past : List Exchange) : Prop where
  kept : s.mode = mode
  named : lookups past = (decoded past).filterMap (Notification.asked mode)
  heard : informed past = left.toList ++ decoded past

/-- A failed trace has left a notification only because of the time that it echoes. -/
def AttendsFailing (mode : AddressMode) (e : Failure) (s : Session) (past : List Exchange) :
    Prop :=
  ∃ left, Attends mode left s past ∧ (left.isSome → e = .unrepresentableTime)

namespace Attends
variable {mode : AddressMode} {s s' : Session} {past past' : List Exchange} {ttl : UInt8}
variable {n : Notification}

theorem start (c : SessionConfig) : Attends c.mode none (Session.start c) [] := ⟨rfl, rfl, rfl⟩

theorem of_session (h : Attends mode none s past) (same : s'.mode = s.mode) :
    Attends mode none s' past where
  kept := same.trans h.kept
  named := h.named
  heard := h.heard

/-- An exchange that has nothing to do with notifications and names. -/
theorem exchanged (h : Attends mode none s past) (asked : lookups past' = lookups past)
    (told : informed past' = informed past) (same : decoded past' = decoded past) :
    Attends mode none s past' where
  kept := h.kept
  named := by rw [asked, same, h.named]
  heard := by rw [told, same, h.heard]

/-- A failure that has nothing to do with them either. -/
theorem failed (h : Attends mode none s past) (e : Failure) (asked : lookups past' = lookups past)
    (told : informed past' = informed past) (same : decoded past' = decoded past) :
    AttendsFailing mode e s past' :=
  ⟨none, h.exchanged asked told same, by simp⟩

theorem mode_decode (h : Attends mode none s past)
    {r : EStateM.Result Failure Session (Option Hop)} (decoded : s.decode ttl n = r) :
    (finalState r).mode = mode := by
  rw [← decoded, s.mode_decode ttl n, h.kept]

theorem undecoded (h : Attends mode none s past) {e : Failure}
    (failed : s.decode ttl n = .error e s') :
    AttendsFailing mode e s' (.receiveNotification (.ok (some n)) :: past) := by
  obtain ⟨unidentified, -⟩ := Session.decode_failed failed
  obtain ⟨late, -⟩ := (s.identify_eq_error_iff n e).mp unidentified
  have kept : s'.mode = mode := h.mode_decode failed
  have told := informed_received n past
  cases error : n.error with
  | none =>
    rw [error] at told
    exact ⟨none, ⟨kept, h.named, told.trans h.heard⟩, fun _ => late⟩
  | some _ =>
    rw [error] at told
    exact ⟨some n, ⟨kept, h.named, told.trans (congrArg (n :: ·) h.heard)⟩, fun _ => late⟩

theorem uninformed (h : Attends mode none s past) (decoded : s.decode ttl n = .ok none s') :
    Attends mode none s' (.event .noInfo :: .receiveNotification (.ok (some n)) :: past) := by
  obtain ⟨-, error, -⟩ := Session.decode_uninformed decoded
  have told := informed_received n past
  rw [error] at told
  have settled : Attends mode none s' past := ⟨h.mode_decode decoded, h.named, h.heard⟩
  exact settled.exchanged rfl told rfl

/-- The name that is looked up is the one the decoded notification asks for. -/
theorem decode (h : Attends mode none s past) {hop : Hop}
    (found : s.decode ttl n = .ok (some hop) s') {names : List Exchange}
    (asked : ∀ y ∈ names, ∃ a name, y = Exchange.resolve a name)
    (looked : lookups names = (n.asked mode).toList) (responder : Responder) :
    Attends mode none s' (.event (.hop { hop with responder }) ::
      (names ++ .receiveNotification (.ok (some n)) :: past)) where
  kept := h.mode_decode found
  named := by
    have grown : lookups (names ++ .receiveNotification (.ok (some n)) :: past) =
        (n.asked mode).toList ++ lookups past := by
      rw [lookups_append, looked]
      rfl
    rw [decoded_hop _ n asked, List.filterMap_cons, ← h.named]
    refine grown.trans ?_
    cases n.asked mode <;> rfl
  heard := by
    obtain ⟨-, e, -, error, -, -⟩ := s.decode_hop found
    have told : informed (names ++ .receiveNotification (.ok (some n)) :: past) =
        n :: informed past := by
      rw [informed_append_resolves asked, informed_received, error]
      rfl
    rw [decoded_hop _ n asked]
    exact told.trans (congrArg (n :: ·) h.heard)

end Attends

section Trace
variable {σ : Type}

theorem World.attends_readOne (w : World σ) (mode : AddressMode) (ttl : UInt8)
    {t : Tracing (Transcript σ)} (h : Attends mode none t.session t.world.past) :
    Lands (Attends mode none) (AttendsFailing mode) (w.transcribed.readOne ttl t) := by
  rw [World.transcribed_readOne]
  cases w.receiveNotification t.world.inner with
  | error e s => exact h.failed e rfl rfl rfl
  | ok found s =>
    cases found with
    | none => exact h.exchanged rfl rfl rfl
    | some n =>
      dsimp only
      cases decoded : t.session.decode ttl n with
      | error e session => exact h.undecoded decoded
      | ok found session =>
        cases found with
        | none => exact h.uninformed decoded
        | some hop =>
          obtain ⟨p, e, -, error, rfl, -⟩ := t.session.decode_hop decoded
          have kept : session.mode = mode := h.mode_decode decoded
          have asks : n.asked mode = e.asked mode := by
            rw [Notification.asked, error, Option.bind_some]
          obtain ⟨names, asked, looked, named⟩ := w.transcribed_name_ofError session.mode e
            ⟨.receiveNotification (.ok (some n)) :: t.world.past, s⟩
          have responder : (p.hop ttl n e).responder = Responder.ofError e := rfl
          rw [kept, ← asks] at looked
          simp only [responder, named]
          exact h.decode decoded asked looked _

theorem World.attends_shoot (w : World σ) (mode : AddressMode) (ttl : UInt8) (slot : Slot)
    {t : Tracing (Transcript σ)} (h : Attends mode none t.session t.world.past) :
    Lands (Attends mode none) (AttendsFailing mode) (w.transcribed.shoot ttl slot t) := by
  have recorded : Attends mode none (t.session.record slot ttl (w.now t.world.inner).1)
      t.world.past := h.of_session rfl
  rw [World.shoot_eq, World.transcribed_trySend]
  split
  · exact recorded.exchanged rfl rfl rfl
  · exact recorded.exchanged rfl rfl rfl
  · exact recorded.failed _ rfl rfl rfl

/-- Nothing but the decoding of a notification bears on the names that are looked up. -/
theorem World.carries_attends (w : World σ) (mode : AddressMode) (ttl : UInt8) :
    w.transcribed.Carries ttl (fun t => Attends mode none t.session t.world.past)
      (fun e t => AttendsFailing mode e t.session t.world.past) where
  readOne h := (w.attends_readOne mode ttl h).ends
  shoot slot h := (w.attends_shoot mode ttl slot h).ends
  awaitReadable h := (lands_perform (fun _ => h.exchanged rfl rfl rfl) fun e _ _ _ =>
    h.failed e rfl rfl rfl).ends
  receiveReply h := (lands_perform (fun _ => h.exchanged rfl rfl rfl) fun e _ _ _ =>
    h.failed e rfl rfl rfl).ends
  publish e engine h := by
    simp only [List.mem_cons, List.not_mem_nil, or_false] at engine
    obtain rfl | rfl | rfl := engine <;> exact h.exchanged rfl rfl rfl
  clear _ h := h.of_session rfl
  advance h := h.of_session rfl

theorem World.lands_attends (w : World σ) (c : SessionConfig) (s : σ) :
    Lands (Attends c.mode none) (AttendsFailing c.mode)
      (w.transcribed.trace (Tracing.unspoken ⟨Session.start c, s⟩)) := by
  refine (World.Carries.trace (fun ttl _ => w.carries_attends c.mode ttl) ?_
    (Attends.start c)).lands
  intro ttl _ t h
  exact (lands_perform (fun _ => h.exchanged rfl rfl rfl) fun e _ _ _ =>
    h.failed e rfl rfl rfl).ends

/-- A trace looks up the names of the notifications that it decodes, and decodes all that it
receives with an extended error, up to the one at which it may fail. -/
theorem World.attends_trace (w : World σ) (c : SessionConfig) (s : σ) :
    ∃ left : Option Notification,
      Attends c.mode left (finalState (w.transcribed.trace
          (Tracing.unspoken ⟨Session.start c, s⟩))).session
        (w.transcribed.trace.transcript ⟨Session.start c, s⟩) ∧
      (left.isSome → failure? (w.trace ⟨Session.start c, s⟩) = some .unrepresentableTime) := by
  have lands := w.lands_attends c s
  rw [(w.trace_told ⟨Session.start c, s⟩).2.1]
  unfold Step.transcript
  cases traced : w.transcribed.trace (Tracing.unspoken ⟨Session.start c, s⟩) with
  | ok summary t =>
    rw [traced] at lands
    exact ⟨none, lands, by simp⟩
  | error e t =>
    rw [traced] at lands
    obtain ⟨left, attends, late⟩ := lands
    exact ⟨left, attends, fun found => congrArg some (late found)⟩

end Trace

end HopTrace
