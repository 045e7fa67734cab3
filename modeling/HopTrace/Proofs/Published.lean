import HopTrace.Proofs.Decoding
import HopTrace.Proofs.Invariant

/-!
# What a trace publishes

The events of a transcript, read off in the order in which they were published, and the
path MTUs they announce. Every lower estimate of the path MTU is announced by an event, so
the estimate of a session is at all times the least of the initial one and those announced
so far. The payload of a probe is cut to the estimate at the moment it is sent.

A transcript is searched by its exchanges and what came before each of them. `Everywhere`
says that a property of that kind holds of all its exchanges.
-/
namespace HopTrace

/-- Every entry of a record, the latest first, is as `P` says in view of the earlier ones. -/
def Everywhere {ι : Type} (P : ι → List ι → Prop) : List ι → Prop
  | [] => True
  | x :: past => P x past ∧ Everywhere P past

section Everywhere
variable {ι : Type} {P : ι → List ι → Prop} {new past before : List ι} {x : ι}

theorem Everywhere.of_suffix (h : Everywhere P past) (here : x :: before <:+ past) :
    P x before := by
  induction past with
  | nil =>
    have empty := List.eq_nil_of_suffix_nil here
    cases empty
  | cons y past ih =>
    rcases List.suffix_cons_iff.mp here with same | earlier
    · injection same with hx hbefore
      subst hx hbefore
      exact h.1
    · exact ih h.2 earlier

theorem Everywhere.append (h : Everywhere P past)
    (indifferent : ∀ x ∈ new, ∀ before, P x before) : Everywhere P (new ++ past) := by
  induction new with
  | nil => exact h
  | cons x new ih =>
    have here : P x (new ++ past) := indifferent x List.mem_cons_self _
    have rest : Everywhere P (new ++ past) := by
      apply ih
      intro y m
      exact indifferent y (List.mem_cons_of_mem _ m)
    exact ⟨here, rest⟩

end Everywhere

def Exchange.event? : Exchange → Option Event
  | .event e => some e
  | _ => none

/-- The events of a transcript in the order in which they were published. -/
def published (past : List Exchange) : List Event := (past.filterMap Exchange.event?).reverse

section Published
variable {names past : List Exchange}

@[simp] theorem published_nil : published [] = [] := rfl

theorem published_event (e : Event) (past : List Exchange) :
    published (.event e :: past) = published past ++ [e] := by
  simp [published, Exchange.event?]

theorem published_other {x : Exchange} (other : x.event? = none) (past : List Exchange) :
    published (x :: past) = published past := by
  simp [published, other]

theorem published_append_resolves (asked : ∀ x ∈ names, ∃ a name, x = Exchange.resolve a name) :
    published (names ++ past) = published past :=
  append_resolves asked fun _ _ _ => published_other rfl _

theorem published_append (new past : List Exchange) :
    published (new ++ past) = published past ++ published new := by
  unfold published
  rw [List.filterMap_append, List.reverse_append]

/-- What a notification that is decoded adds to the events. -/
theorem published_decoded (hop : Hop) (n : Notification)
    (asked : ∀ x ∈ names, ∃ a name, x = Exchange.resolve a name) :
    published (.event (.hop hop) :: (names ++ .receiveNotification (.ok (some n)) :: past)) =
      published past ++ [.hop hop] := by
  rw [published_event, published_append_resolves asked, published_other rfl]

end Published

def HopStatus.pathMtu? : HopStatus → Option UInt32
  | .pathMtu mtu => some mtu
  | _ => none

/-- The path MTU that an event announces. -/
def Event.pathMtu? : Event → Option UInt32
  | .hop h => h.status.pathMtu?
  | _ => none

def announced (events : List Event) : List UInt32 := events.filterMap Event.pathMtu?

/-- The least of the initial path MTU and those announced by the events. -/
def estimate (initial : UInt32) (events : List Event) : UInt32 :=
  (announced events).foldl min initial

section Estimate
variable {initial : UInt32} {events : List Event} {e : Event}

@[simp] theorem estimate_nil (initial : UInt32) : estimate initial [] = initial := rfl

theorem estimate_concat_of_none (silent : e.pathMtu? = none) :
    estimate initial (events ++ [e]) = estimate initial events := by
  simp [estimate, announced, silent]

theorem estimate_concat_of_some {mtu : UInt32} (announces : e.pathMtu? = some mtu) :
    estimate initial (events ++ [e]) = min (estimate initial events) mtu := by
  simp [estimate, announced, announces]

theorem lt_min_iff (bound a b : UInt32) : bound < min a b ↔ bound < a ∧ bound < b := by
  rw [Std.min_eq_if]
  split <;> grind

/-- A bound that the first estimate exceeds holds as long as no announcement breaks it. -/
theorem lt_estimate_iff (bound initial : UInt32) (events : List Event) :
    bound < estimate initial events ↔
      bound < initial ∧ ∀ mtu ∈ announced events, bound < mtu := by
  unfold estimate
  generalize announced events = mtus
  induction mtus generalizing initial with
  | nil => simp
  | cons mtu mtus ih =>
    rw [List.foldl_cons, ih, lt_min_iff, List.forall_mem_cons, and_assoc]

theorem estimate_le (initial : UInt32) (events : List Event) :
    estimate initial events ≤ initial := by
  apply UInt32.not_lt.mp
  intro above
  have self := ((lt_estimate_iff initial initial events).mp above).1
  exact UInt32.lt_irrefl _ self

theorem estimate_le_of_mem {mtu : UInt32} (told : mtu ∈ announced events) :
    estimate initial events ≤ mtu := by
  apply UInt32.not_lt.mp
  intro above
  have self := ((lt_estimate_iff mtu initial events).mp above).2 mtu told
  exact UInt32.lt_irrefl _ self

theorem estimate_append (initial : UInt32) (events later : List Event) :
    estimate initial (events ++ later) = estimate (estimate initial events) later := by
  unfold estimate announced
  rw [List.filterMap_append, List.foldl_append]

/-- The estimate does not rise while a transcript grows. -/
theorem estimate_le_of_suffix {before past : List Exchange} (initial : UInt32)
    (grown : before <:+ past) :
    estimate initial (published past) ≤ estimate initial (published before) := by
  obtain ⟨new, rfl⟩ := grown
  rw [published_append, estimate_append]
  exact estimate_le _ _

end Estimate

namespace Session
variable {s s' : Session} {c : SessionConfig} {ttl : UInt8} {n : Notification}

theorem mtu_clampMtu (s : Session) (mtu : UInt32) : (s.clampMtu mtu).mtu = min s.mtu mtu := by
  unfold clampMtu
  rw [Std.min_eq_if]
  split <;> grind

/-- What the session was started with and keeps. -/
structure ConfiguredBy (s : Session) (c : SessionConfig) : Prop where
  family : s.family = c.family
  basePort : s.basePort = c.basePort
  capacity : s.capacity = payloadLength c.mtu c.family.overhead

namespace ConfiguredBy

theorem start (c : SessionConfig) : (Session.start c).ConfiguredBy c := ⟨rfl, rfl, rfl⟩

theorem taken (h : s.ConfiguredBy c) (n : Notification) : (s.taken n).ConfiguredBy c := by
  rw [s.taken_eq n]
  exact ⟨h.family, h.basePort, h.capacity⟩

theorem learn (h : s.ConfiguredBy c) (status : HopStatus) (hops : UInt8)
    (backHops : Option UInt8) : (s.learn status hops backHops).ConfiguredBy c := by
  cases status with
  | pathMtu mtu =>
    simp only [Session.learn, clampMtu]
    split
    · exact ⟨h.family, h.basePort, h.capacity⟩
    · exact h
  | reached =>
    simp only [Session.learn, setHops]
    split
    · exact ⟨h.family, h.basePort, h.capacity⟩
    · exact h
  | _ => exact h

theorem record (h : s.ConfiguredBy c) (slot : Slot) (ttl : UInt8) (sent : Instant) :
    (s.record slot ttl sent).ConfiguredBy c := ⟨h.family, h.basePort, h.capacity⟩

theorem clear (h : s.ConfiguredBy c) (slot : Slot) : (s.clear slot).ConfiguredBy c :=
  ⟨h.family, h.basePort, h.capacity⟩

theorem advance (h : s.ConfiguredBy c) : s.advance.ConfiguredBy c :=
  ⟨h.family, h.basePort, h.capacity⟩

/-- Decoding keeps it, whether it succeeds or not. -/
theorem decode (h : s.ConfiguredBy c) (ttl : UInt8) (n : Notification) :
    (finalState (s.decode ttl n)).ConfiguredBy c := by
  cases decoded : s.decode ttl n with
  | error e s' =>
    obtain ⟨-, rfl⟩ := s.decode_failed decoded
    exact h.taken n
  | ok found s' =>
    cases found with
    | none =>
      obtain ⟨-, -, rfl⟩ := s.decode_uninformed decoded
      exact h.taken n
    | some hop =>
      obtain ⟨p, e, -, -, -, rfl⟩ := s.decode_hop decoded
      exact (h.taken n).learn _ _ _

end ConfiguredBy

@[simp] theorem mtu_taken (s : Session) (n : Notification) : (s.taken n).mtu = s.mtu :=
  s.mtu_takeRecord n.port

theorem mtu_learn_of_none {status : HopStatus} (silent : status.pathMtu? = none) (hops : UInt8)
    (backHops : Option UInt8) : (s.learn status hops backHops).mtu = s.mtu := by
  cases status with
  | pathMtu mtu => cases silent
  | reached => exact s.mtu_setHops hops backHops
  | _ => rfl

theorem mtu_learn_of_some {status : HopStatus} {mtu : UInt32} (low : status.pathMtu? = some mtu)
    (hops : UInt8) (backHops : Option UInt8) :
    (s.learn status hops backHops).mtu = min s.mtu mtu := by
  cases status with
  | pathMtu mtu' =>
    injection low with low
    subst low
    exact s.mtu_clampMtu mtu'
  | _ => cases low

end Session

/-- The estimate of the session is the least of what has been announced. -/
structure Estimates (c : SessionConfig) (s : Session) (past : List Exchange) : Prop where
  configured : s.ConfiguredBy c
  mtu : s.mtu = estimate c.mtu (published past)
  /-- The payload of a probe fills the estimate at the moment it is sent. -/
  lengths : Everywhere (fun x before => ∀ payload port answer, x = .send payload port answer →
    payload.length = payloadLength (estimate c.mtu (published before)) c.family.overhead) past

namespace Estimates
variable {c : SessionConfig} {s s' : Session} {past : List Exchange} {ttl : UInt8}

theorem start (c : SessionConfig) : Estimates c (Session.start c) [] where
  configured := .start c
  mtu := rfl
  lengths := trivial

/-- An exchange that is neither a datagram nor the announcement of a path MTU. -/
theorem exchanged {x : Exchange} (h : Estimates c s past)
    (silent : estimate c.mtu (published (x :: past)) = estimate c.mtu (published past))
    (other : ∀ payload port answer, x ≠ .send payload port answer) :
    Estimates c s (x :: past) where
  configured := h.configured
  mtu := h.mtu.trans silent.symm
  lengths := ⟨fun payload port answer sent => absurd sent (other payload port answer), h.lengths⟩

theorem unpublished {x : Exchange} (h : Estimates c s past) (unpublished : x.event? = none)
    (other : ∀ payload port answer, x ≠ .send payload port answer) :
    Estimates c s (x :: past) :=
  h.exchanged (by rw [published_other unpublished]) other

theorem event {e : Event} (h : Estimates c s past) (silent : e.pathMtu? = none) :
    Estimates c s (.event e :: past) :=
  h.exchanged (by rw [published_event, estimate_concat_of_none silent]) (by simp)

theorem of_session (h : Estimates c s past) (configured : s'.ConfiguredBy c)
    (same : s'.mtu = s.mtu) : Estimates c s' past where
  configured := configured
  mtu := same.trans h.mtu
  lengths := h.lengths

theorem decode {names : List Exchange} {n : Notification} {hop : Hop} (h : Estimates c s past)
    (decoded : s.decode ttl n = .ok (some hop) s')
    (asked : ∀ x ∈ names, ∃ a name, x = Exchange.resolve a name) (responder : Responder) :
    Estimates c s' (.event (.hop { hop with responder }) ::
      (names ++ .receiveNotification (.ok (some n)) :: past)) where
  configured := by
    have kept := h.configured.decode ttl n
    rw [decoded] at kept
    exact kept
  mtu := by
    obtain ⟨p, e, -, -, -, rfl⟩ := s.decode_hop decoded
    rw [published_decoded _ n asked]
    cases low : hop.status.pathMtu? with
    | none =>
      have silent : (Event.hop { hop with responder }).pathMtu? = none := low
      rw [Session.mtu_learn_of_none low, s.mtu_taken, h.mtu, estimate_concat_of_none silent]
    | some mtu =>
      have announces : (Event.hop { hop with responder }).pathMtu? = some mtu := low
      rw [Session.mtu_learn_of_some low, s.mtu_taken, h.mtu, estimate_concat_of_some announces]
  lengths := by
    refine ⟨by simp, Everywhere.append ⟨by simp, h.lengths⟩ ?_⟩
    intro x m before payload port answer sent
    obtain ⟨a, name, rfl⟩ := asked x m
    cases sent

/-- A payload is cut to the estimate, which the buffer always has room for. -/
theorem length_payload (h : Estimates c s past) (ttl : UInt8) (now : Instant) :
    (s.payload ttl now).length =
      payloadLength (estimate c.mtu (published past)) c.family.overhead := by
  have le : (estimate c.mtu (published past)).toNat ≤ c.mtu.toNat :=
    UInt32.le_iff_toNat_le.mp (estimate_le c.mtu (published past))
  have fits : payloadLength (estimate c.mtu (published past)) c.family.overhead ≤
      payloadLength c.mtu c.family.overhead := by
    unfold payloadLength
    omega
  unfold Session.payload
  rw [h.mtu, h.configured.family, h.configured.capacity]
  exact Nat.min_eq_left fits

theorem record (h : Estimates c s past) (slot : Slot) (ttl : UInt8) (now : Instant)
    (port : UInt16) (answer : Except Failure Unit) :
    Estimates c (s.record slot ttl now)
      (.send ((s.record slot ttl now).payload ttl now) port answer :: .now now :: past) where
  configured := h.configured.record slot ttl now
  mtu := by
    rw [published_other rfl, published_other rfl]
    exact h.mtu
  lengths := by
    have here := h.length_payload ttl now
    refine ⟨?_, ⟨by simp, h.lengths⟩⟩
    intro payload port answer sent
    injection sent with sent _ _
    rw [← sent, published_other rfl]
    exact here

end Estimates

section Maintains
variable {σ : Type} {c : SessionConfig}

theorem maintains_estimates (w : World σ) (c : SessionConfig) (ttl : UInt8) :
    w.Maintains ttl (Estimates c) (fun _ => Estimates c) where
  unread _ h _ := h.unpublished rfl (by simp)
  emptied h := h.unpublished rfl (by simp)
  undecoded n e h decoded := by
    obtain ⟨-, rfl⟩ := Session.decode_failed decoded
    have taken := h.of_session (h.configured.taken n) (Session.mtu_taken _ n)
    exact taken.unpublished rfl (by simp)
  uninformed n h decoded := by
    obtain ⟨-, -, rfl⟩ := Session.decode_uninformed decoded
    have taken := h.of_session (h.configured.taken n) (Session.mtu_taken _ n)
    exact (taken.unpublished rfl (by simp)).event rfl
  decoded n hop responder names h decoded asked := h.decode decoded asked responder
  sent slot now answer h _ := h.record slot ttl now _ answer
  unsent slot now e h _ _ := h.record slot ttl now _ _
  awaited _ h := h.unpublished rfl (by simp)
  unawaited _ h _ := h.unpublished rfl (by simp)
  answered _ h := h.unpublished rfl (by simp)
  unanswered _ h _ := h.unpublished rfl (by simp)
  published e engine h := by
    simp only [List.mem_cons, List.not_mem_nil, or_false] at engine
    obtain rfl | rfl | rfl := engine <;> exact h.event rfl
  cleared slot h := h.of_session (h.configured.clear slot) rfl
  advanced h := h.of_session h.configured.advance rfl

/-- Wherever a trace ends, the estimate is the least of what it has announced. -/
theorem estimates_trace (w : World σ) (c : SessionConfig) (s : σ) :
    Estimates c (finalState (w.trace ⟨Session.start c, s⟩)).session
      (w.transcribed.trace.transcript ⟨Session.start c, s⟩) := by
  have lands : Lands (Estimates c) (fun _ => Estimates c)
      (w.transcribed.trace (Tracing.unspoken ⟨Session.start c, s⟩)) := by
    refine World.Maintains.lands_trace ?_ ?_ (Estimates.start c)
    · intro ttl _
      exact maintains_estimates w c ttl
    · intro ttl _
      exact ⟨fun h => h.unpublished rfl (by simp), fun _ h _ => h.unpublished rfl (by simp)⟩
  have same : (finalState (w.trace ⟨Session.start c, s⟩)).session =
      (finalState (w.transcribed.trace (Tracing.unspoken ⟨Session.start c, s⟩))).session := by
    rw [w.trace_eq]
    cases w.transcribed.trace (Tracing.unspoken ⟨Session.start c, s⟩) <;> rfl
  rw [same]
  exact lands.finalState

end Maintains

end HopTrace
