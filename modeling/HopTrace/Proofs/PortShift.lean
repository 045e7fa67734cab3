import HopTrace.Proofs.HeaderTime
import HopTrace.Proofs.HopCounts
import HopTrace.Proofs.ProbePorts

/-!
# Shifted ports

A trace looks at ports only to tell its probes apart, and tells them apart by their offset
from the base port. A network can be shifted: what it is sent to a port goes to the port that
lies lower by the shift, and what it tells of a port it tells of the port that lies higher.
A trace whose base port is shifted by as much goes on a shifted network exactly as before,
and the window of its ports may wrap around the port space for one base port and not for the
other.

The port that a failure names is no port of the trace. A shifted network may name any, which
shows in the failure of the trace and nowhere else.
-/
namespace HopTrace

def IoFailure.mapPort (f : UInt16 → UInt16) : IoFailure → IoFailure
  | .send errno target => .send errno { target with port := f target.port }
  | .call errno operation => .call errno operation

/-- The failure with another port in the address that it names. -/
def Failure.mapPort (f : UInt16 → UInt16) : Failure → Failure
  | .io cause => .io (cause.mapPort f)
  | .probeFailed cause => .probeFailed (cause.mapPort f)
  | .unrepresentableTime => .unrepresentableTime

def Notification.shifted (shift : UInt16) (n : Notification) : Notification :=
  { n with port := n.port.map (· + shift) }

def Session.shifted (shift : UInt16) (s : Session) : Session :=
  { s with basePort := s.basePort + shift }

section Shift
variable {σ : Type} (shift : UInt16) (relabel : UInt16 → UInt16)

/-- The network with its ports higher by `shift`. Its failures name the ports `relabel` says. -/
def Network.shifted (n : Network σ) : Network σ where
  now := n.now
  setTtl ttl := EStateM.adaptExcept (Failure.mapPort relabel) (n.setTtl ttl)
  send payload port := EStateM.adaptExcept (Failure.mapPort relabel) (n.send payload (port - shift))
  awaitReadable limit := EStateM.adaptExcept (Failure.mapPort relabel) (n.awaitReadable limit)
  receiveReply := EStateM.adaptExcept (Failure.mapPort relabel) n.receiveReply
  receiveNotification := EStateM.adaptExcept (Failure.mapPort relabel)
    (EStateM.map (Option.map (Notification.shifted shift)) n.receiveNotification)
  pending := n.pending
  pending_lt {s s' m} h := by
    unfold EStateM.adaptExcept EStateM.map at h
    cases read : n.receiveNotification s with
    | error e s₁ => simp [read] at h
    | ok found s₁ =>
      simp only [read, EStateM.Result.ok.injEq, Option.map_eq_some_iff] at h
      obtain ⟨⟨m', rfl, -⟩, rfl⟩ := h
      exact n.pending_lt read

/-- The world with a shifted network. -/
def World.shifted (w : World σ) : World σ where
  toNetwork := w.toNetwork.shifted shift relabel
  resolve := w.resolve
  publish := w.publish
  pending_resolve_le := w.pending_resolve_le
  pending_publish_le := w.pending_publish_le

def Exchange.shifted : Exchange → Exchange
  | .now reading => .now reading
  | .setTtl ttl answer => .setTtl ttl (answer.mapError (Failure.mapPort relabel))
  | .send payload port answer =>
    .send payload (port + shift) (answer.mapError (Failure.mapPort relabel))
  | .awaitReadable limit answer =>
    .awaitReadable limit (answer.mapError (Failure.mapPort relabel))
  | .receiveReply answer => .receiveReply (answer.mapError (Failure.mapPort relabel))
  | .receiveNotification answer => .receiveNotification
    ((answer.map (Option.map (Notification.shifted shift))).mapError (Failure.mapPort relabel))
  | .resolve address name => .resolve address name
  | .event e => .event e

def Transcript.shifted (x : Transcript σ) : Transcript σ :=
  ⟨x.past.map (Exchange.shifted shift relabel), x.inner⟩

def Tracing.shifted (t : Tracing (Transcript σ)) : Tracing (Transcript σ) :=
  ⟨t.session.shifted shift, t.world.shifted shift relabel⟩

end Shift

section Offset
variable {shift : UInt16}

/-- The slot of a port depends on its offset from the base port alone. -/
theorem Slot.ofPort_shifted (port base : UInt16) :
    Slot.ofPort (port + shift) (base + shift) = Slot.ofPort port base := by
  have offset : port + shift - (base + shift) = port - base := by grind
  unfold Slot.ofPort
  rw [offset]

theorem Slot.port_shifted (slot : Slot) (base : UInt16) :
    slot.port (base + shift) = slot.port base + shift := by
  unfold Slot.port
  grind

end Offset

namespace Session
variable {s : Session} {ttl : UInt8} {n : Notification} {shift : UInt16}

theorem takeRecord_shifted (s : Session) (port : Option UInt16) :
    (s.shifted shift).takeRecord (port.map (· + shift)) =
      ((s.takeRecord port).1, (s.takeRecord port).2.shifted shift) := by
  have slot : (port.map (· + shift)).bind (Slot.ofPort · (s.shifted shift).basePort) =
      port.bind (Slot.ofPort · s.basePort) := by
    cases port with
    | none => rfl
    | some port => exact Slot.ofPort_shifted port s.basePort
  unfold takeRecord
  rw [slot]
  cases port.bind (Slot.ofPort · s.basePort) <;> rfl

theorem learn_shifted (s : Session) (status : HopStatus) (hops : UInt8)
    (backHops : Option UInt8) :
    (s.shifted shift).learn status hops backHops = (s.learn status hops backHops).shifted shift :=
  learn_map (f := Session.shifted shift) (fun _ => rfl) (fun _ => rfl) (fun _ _ => rfl)
    (fun _ _ _ => rfl) s status hops backHops

/-- A shifted notification is decoded to the same hop. -/
theorem decode_shifted (s : Session) (ttl : UInt8) (n : Notification) :
    (s.shifted shift).decode ttl (n.shifted shift) =
      match s.decode ttl n with
      | .ok hop s' => .ok hop (s'.shifted shift)
      | .error e s' => .error e (s'.shifted shift) :=
  decode_map (s.takeRecord_shifted n.port) learn_shifted

end Session

/-- The second running trace is the first, shifted. -/
def Shifts {σ : Type} (shift : UInt16) (relabel : UInt16 → UInt16)
    (t u : Tracing (Transcript σ)) : Prop := u = t.shifted shift relabel

def ShiftsFailure {σ : Type} (shift : UInt16) (relabel : UInt16 → UInt16) (e : Failure)
    (t : Tracing (Transcript σ)) (f : Failure) (u : Tracing (Transcript σ)) : Prop :=
  f = e.mapPort relabel ∧ Shifts shift relabel t u

section Worlds
variable {σ α : Type} {shift : UInt16} {relabel : UInt16 → UInt16}

theorem shifts_cons {t u : Tracing (Transcript σ)} (h : Shifts shift relabel t u) {x y : Exchange}
    (said : x.shifted shift relabel = y) (s : σ) :
    Shifts shift relabel ⟨t.session, ⟨x :: t.world.past, s⟩⟩
      ⟨u.session, ⟨y :: u.world.past, s⟩⟩ := by
  subst h said
  rfl

theorem shifts_perform {mark : Except Failure α → Exchange} {act : EStateM Failure σ α}
    (marked : ∀ answer, (mark answer).shifted shift relabel =
      mark (answer.mapError (Failure.mapPort relabel)))
    {t u : Tracing (Transcript σ)} (h : Shifts shift relabel t u) :
    Agree (Shifts shift relabel) (ShiftsFailure shift relabel) (· = ·)
      (Step.world (Transcript.perform mark act) t)
      (Step.world (Transcript.perform mark (EStateM.adaptExcept (Failure.mapPort relabel) act))
        u) := by
  have same : u.world.inner = t.world.inner := h ▸ rfl
  unfold Step.world Transcript.perform EStateM.adaptExcept
  rw [same]
  cases act t.world.inner with
  | ok a s => exact ⟨rfl, shifts_cons h (marked (.ok a)) s⟩
  | error e s => exact ⟨rfl, shifts_cons h (marked (.error e)) s⟩

/-- Names are looked up as before. -/
theorem World.shifted_name (w : World σ) (mode : AddressMode) (r : Responder) (x : Transcript σ) :
    (w.shifted shift relabel).transcribed.name mode r (x.shifted shift relabel) =
      ((w.transcribed.name mode r x).1, (w.transcribed.name mode r x).2.shifted shift relabel) := by
  unfold World.name
  split
  · split
    · split <;> rfl
    · rfl
  · rfl

theorem World.shifted_readOne (w : World σ) (ttl : UInt8) {t u : Tracing (Transcript σ)}
    (h : Shifts shift relabel t u) :
    Agree (Shifts shift relabel) (ShiftsFailure shift relabel) (· = ·)
      (w.transcribed.readOne ttl t) ((w.shifted shift relabel).transcribed.readOne ttl u) := by
  subst h
  have read : (w.shifted shift relabel).receiveNotification (t.shifted shift relabel).world.inner =
      EStateM.adaptExcept (Failure.mapPort relabel)
        (EStateM.map (Option.map (Notification.shifted shift)) w.receiveNotification)
        t.world.inner := rfl
  rw [World.transcribed_readOne, World.transcribed_readOne, read]
  unfold EStateM.adaptExcept EStateM.map
  cases w.receiveNotification t.world.inner with
  | error e s => exact ⟨rfl, rfl⟩
  | ok found s =>
    cases found with
    | none => exact ⟨rfl, rfl⟩
    | some n =>
      have session : (t.shifted shift relabel).session = t.session.shifted shift := rfl
      simp only [Option.map_some, session, Session.decode_shifted]
      cases decoded : t.session.decode ttl n with
      | error e s' =>
        obtain ⟨unnamed, -⟩ := (t.session.identify_eq_error_iff n e).mp
          (Session.decode_failed decoded).1
        subst unnamed
        exact ⟨rfl, rfl⟩
      | ok found s' =>
        cases found with
        | none => exact ⟨rfl, rfl⟩
        | some hop =>
          have named : (w.shifted shift relabel).transcribed.name (s'.shifted shift).mode
              hop.responder ⟨.receiveNotification (.ok (some (n.shifted shift))) ::
                (t.shifted shift relabel).world.past, s⟩ = _ :=
            w.shifted_name s'.mode hop.responder
              ⟨.receiveNotification (.ok (some n)) :: t.world.past, s⟩
          simp only [named]
          exact ⟨rfl, rfl⟩

theorem World.shifted_trySend (w : World σ) (payload : Payload) (port : UInt16)
    {t u : Tracing (Transcript σ)} (h : Shifts shift relabel t u) :
    Agree (Shifts shift relabel) (ShiftsFailure shift relabel) (· = ·)
      (w.transcribed.trySend payload port t)
      ((w.shifted shift relabel).transcribed.trySend payload (port + shift) u) := by
  have same : u.world.inner = t.world.inner := h ▸ rfl
  have handed : (w.shifted shift relabel).send payload (port + shift) u.world.inner =
      EStateM.adaptExcept (Failure.mapPort relabel) (w.send payload port) t.world.inner := by
    rw [same]
    change EStateM.adaptExcept _ (w.send payload (port + shift - shift)) _ = _
    rw [UInt16.add_sub_cancel]
  rw [World.transcribed_trySend, World.transcribed_trySend, handed]
  unfold EStateM.adaptExcept
  rcases w.send payload port t.world.inner with ⟨⟨⟩, s⟩ | ⟨e, s⟩
  · exact ⟨rfl, shifts_cons h rfl s⟩
  · cases e with
    | probeFailed cause => exact ⟨rfl, shifts_cons h rfl s⟩
    | io cause => exact ⟨rfl, shifts_cons h rfl s⟩
    | unrepresentableTime => exact ⟨rfl, shifts_cons h rfl s⟩

theorem World.shifted_shoot (w : World σ) (ttl : UInt8) (slot : Slot)
    {t u : Tracing (Transcript σ)} (h : Shifts shift relabel t u) :
    Agree (Shifts shift relabel) (ShiftsFailure shift relabel) (· = ·)
      (w.transcribed.shoot ttl slot t) ((w.shifted shift relabel).transcribed.shoot ttl slot u) := by
  subst h
  have port : slot.port (t.shifted shift relabel).session.basePort =
      slot.port t.session.basePort + shift := Slot.port_shifted slot t.session.basePort
  rw [World.shoot_eq, World.shoot_eq, port]
  apply World.shifted_trySend
  rfl

/-- All that a shifted world does goes as in the world it is made from. -/
theorem World.shifted_simulates (w : World σ) (shift : UInt16) (relabel : UInt16 → UInt16)
    (ttl : UInt8) :
    w.transcribed.Simulates (Shifts shift relabel) (ShiftsFailure shift relabel)
      (w.shifted shift relabel).transcribed ttl where
  mtu h := h ▸ rfl
  cursor h := h ▸ rfl
  readOne h := (w.shifted_readOne ttl h).mono fun _ _ same => same ▸ rfl
  shoot slot h := w.shifted_shoot ttl slot h
  awaitReadable h := shifts_perform (fun _ => rfl) h
  receiveReply h := shifts_perform (fun _ => rfl) h
  publish _ _ h := h ▸ rfl
  clear _ h := h ▸ rfl
  advance h := h ▸ rfl

theorem World.shifted_trace (w : World σ) (shift : UInt16) (relabel : UInt16 → UInt16)
    (t : Tracing (Transcript σ)) :
    Agree (Shifts shift relabel) (ShiftsFailure shift relabel) (· = ·) (w.transcribed.trace t)
      ((w.shifted shift relabel).transcribed.trace (t.shifted shift relabel)) := by
  apply World.Simulates.trace (fun ttl _ => w.shifted_simulates shift relabel ttl)
  · intro ttl _ t u h
    exact shifts_perform (fun _ => rfl) h
  · intro t u h
    exact h ▸ rfl
  · rfl
  · rfl

/-- Both results are told apart by the shift alone. -/
theorem shifts_results {r r' : EStateM.Result Failure (Tracing (Transcript σ)) α}
    (h : Agree (Shifts shift relabel) (ShiftsFailure shift relabel) (· = ·) r r') :
    answer? r' = answer? r ∧ failure? r' = (failure? r).map (Failure.mapPort relabel) ∧
      finalState r' = (finalState r).shifted shift relabel := by
  cases r with
  | ok a t =>
    obtain ⟨b, u, rfl, rfl, shifted⟩ := h.of_ok
    exact ⟨rfl, rfl, shifted⟩
  | error e t =>
    obtain ⟨f, u, rfl, named, shifted⟩ := h.of_error
    exact ⟨rfl, congrArg some named, shifted⟩

end Worlds

section Told
variable {shift : UInt16} {relabel : UInt16 → UInt16}

/-- A reading of the exchanges that takes each of them alone. -/
theorem filterMap_shifted {β γ : Type} {f : Exchange → Option β} {g : Exchange → Option γ}
    {h : β → γ} (told : ∀ x, g (x.shifted shift relabel) = (f x).map h) (past : List Exchange) :
    ((past.map (Exchange.shifted shift relabel)).filterMap g).reverse =
      (past.filterMap f).reverse.map h := by
  have each : g ∘ Exchange.shifted shift relabel = fun x => (f x).map h := funext told
  rw [List.filterMap_map, List.map_reverse, List.map_filterMap, each]

theorem published_shifted (past : List Exchange) :
    published (past.map (Exchange.shifted shift relabel)) = published past := by
  have told (x : Exchange) : (x.shifted shift relabel).event? = x.event?.map id := by
    cases x <;> rfl
  exact (filterMap_shifted told past).trans (List.map_id _)

theorem payloads_shifted (past : List Exchange) :
    payloads (past.map (Exchange.shifted shift relabel)) = payloads past := by
  have told (x : Exchange) : (x.shifted shift relabel).payload? = x.payload?.map id := by
    cases x <;> rfl
  exact (filterMap_shifted told past).trans (List.map_id _)

theorem ports_shifted (past : List Exchange) :
    ports (past.map (Exchange.shifted shift relabel)) = (ports past).map (· + shift) := by
  have told (x : Exchange) : (x.shifted shift relabel).port? = x.port?.map (· + shift) := by
    cases x <;> rfl
  exact filterMap_shifted told past

end Told

theorem Session.start_shifted (c : SessionConfig) (base : UInt16) :
    Session.start { c with basePort := base } =
      (Session.start c).shifted (base - c.basePort) := by
  have back : c.basePort + (base - c.basePort) = base := by grind
  unfold Session.shifted Session.start
  rw [back]

/-- Two traces that differ in their base ports, over networks that are apart by as much: the
second asks what the first asks with all ports shifted, and ends as the first does. Only the
port that a failure names may be another. -/
theorem trace_shifted {σ : Type} (w : World σ) (c : SessionConfig) (base : UInt16)
    (relabel : UInt16 → UInt16) (s : σ) :
    let shift := base - c.basePort
    let first := w.trace ⟨Session.start c, s⟩
    let second := (w.shifted shift relabel).trace ⟨Session.start { c with basePort := base }, s⟩
    let past := w.transcribed.trace.transcript ⟨Session.start c, s⟩
    let past' := (w.shifted shift relabel).transcribed.trace.transcript
      ⟨Session.start { c with basePort := base }, s⟩
    (answer? second = answer? first ∧
      failure? second = (failure? first).map (Failure.mapPort relabel) ∧
      (finalState second).session = { (finalState first).session with basePort := base } ∧
      (finalState second).world = (finalState first).world) ∧
    past' = past.map (Exchange.shifted shift relabel) ∧
    published past' = published past ∧
    payloads past' = payloads past ∧
    ports past' = (ports past).map (· + shift) := by
  intro shift first second past past'
  have kept : (finalState first).session.basePort = c.basePort :=
    (estimates_trace w c s).configured.basePort
  have start : Tracing.unspoken ⟨Session.start { c with basePort := base }, s⟩ =
      (Tracing.unspoken ⟨Session.start c, s⟩).shifted shift relabel := by
    rw [Session.start_shifted]
    rfl
  have agree := w.shifted_trace shift relabel (Tracing.unspoken ⟨Session.start c, s⟩)
  rw [← start] at agree
  obtain ⟨answer, failure, ended⟩ := shifts_results agree
  have told : past' = past.map (Exchange.shifted shift relabel) := congrArg (·.world.past) ended
  refine ⟨?_, told, ?_⟩
  · obtain ⟨answer₁, failure₁, ended₁⟩ := w.trace_told ⟨Session.start c, s⟩
    obtain ⟨answer₂, failure₂, ended₂⟩ :=
      (w.shifted shift relabel).trace_told ⟨Session.start { c with basePort := base }, s⟩
    have state : finalState second =
        ⟨(finalState first).session.shifted shift, (finalState first).world⟩ := by
      rw [ended₂, ended, ended₁]
      rfl
    have back : c.basePort + shift = base := by grind
    refine ⟨?_, ?_, ?_, ?_⟩
    · rw [answer₂, answer, answer₁]
    · rw [failure₂, failure, failure₁]
    · rw [state, Session.shifted, kept, back]
    · rw [state]
  · rw [told]
    exact ⟨published_shifted past, payloads_shifted past, ports_shifted past⟩

end HopTrace
