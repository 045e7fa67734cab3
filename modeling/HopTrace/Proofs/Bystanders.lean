import HopTrace.Proofs.Lookups
import HopTrace.Proofs.Published
import HopTrace.Proofs.SystemTranscript

/-!
# Names do not matter

Whoever looks up names and listens to events while a trace runs has a memory of their own and
no way to the network. Such a bystander hears of the trace and is heard in the names of the
responders, and nowhere else: two traces over the same network that differ in the bystander
and in the mode call the network alike, end alike, and publish the same events up to the names.

A trace is compared with one that nobody attends. The sessions may differ in the mode, the
transcripts in the lookups and the names.
-/
namespace HopTrace

/-- One who looks up names and listens to events. -/
structure Bystander (η : Type) where
  resolve : IpAddress → η → Option String × η
  publish : Event → η → η

section Aside
variable {σ η ε α : Type}

/-- An operation on the first half of a state. -/
def aside (act : EStateM ε σ α) : EStateM ε (σ × η) α := fun x =>
  match act x.1 with
  | .ok a s => .ok a (s, x.2)
  | .error e s => .error e (s, x.2)

theorem aside_eq_ok {act : EStateM ε σ α} {x x' : σ × η} {a : α} (h : aside act x = .ok a x') :
    act x.1 = .ok a x'.1 := by
  unfold aside at h
  split at h
  · next answer =>
    injection h with h₁ h₂
    subst h₁ h₂
    exact answer
  · cases h

/-- The network with a memory beside it. -/
def Network.aside (n : Network σ) (η : Type) : Network (σ × η) where
  now x := ((n.now x.1).1, (n.now x.1).2, x.2)
  setTtl ttl := HopTrace.aside (n.setTtl ttl)
  send payload port := HopTrace.aside (n.send payload port)
  awaitReadable limit := HopTrace.aside (n.awaitReadable limit)
  receiveReply := HopTrace.aside n.receiveReply
  receiveNotification := HopTrace.aside n.receiveNotification
  pending x := n.pending x.1
  pending_lt h := n.pending_lt (aside_eq_ok h)

/-- The socket with a memory beside it. -/
def Socket.aside (sock : Socket σ) (η : Type) : Socket (σ × η) where
  now x := ((sock.now x.1).1, (sock.now x.1).2, x.2)
  create version := HopTrace.aside (sock.create version)
  enable feature := HopTrace.aside (sock.enable feature)
  limitHops version limit := HopTrace.aside (sock.limitHops version limit)
  sendTo payload target := HopTrace.aside (sock.sendTo payload target)
  awaitReadable limit := HopTrace.aside (sock.awaitReadable limit)
  receive size := HopTrace.aside (sock.receive size)
  receiveError size := HopTrace.aside (sock.receiveError size)
  pending x := sock.pending x.1
  pending_lt h := sock.pending_lt (aside_eq_ok h)
  pending_now_le x := sock.pending_now_le x.1

/-- A bystander attends with nothing but the memory. -/
def Bystander.audience (b : Bystander η) (pending : σ → Nat) :
    Audience (σ × η) fun x => pending x.1 where
  resolve address x := ((b.resolve address x.2).1, x.1, (b.resolve address x.2).2)
  publish e x := (x.1, b.publish e x.2)
  pending_resolve_le _ _ := Nat.le_refl _
  pending_publish_le _ _ := Nat.le_refl _

def Network.watchedBy (n : Network σ) (b : Bystander η) : World (σ × η) :=
  (n.aside η).attendedBy (b.audience n.pending)

theorem liftIo_aside (act : EStateM IoFailure σ α) :
    liftIo (aside act : EStateM IoFailure (σ × η) α) = aside (liftIo act) := by
  funext x
  simp only [liftIo, aside]
  cases act x.1 <;> rfl

theorem forM_aside {ι : Type} (act : ι → EStateM ε σ Unit) (items : List ι) :
    (items.forM fun i => aside (act i) : EStateM ε (σ × η) Unit) = aside (items.forM act) := by
  funext x
  induction items generalizing x with
  | nil => rfl
  | cons i rest ih =>
    simp only [forM_cons, ih, aside]
    cases act i x.1 <;> rfl

namespace Socket
variable (sock : Socket σ) (target : IpAddress)

theorem connect_aside : (sock.aside η).connect target = HopTrace.aside (sock.connect target) := by
  funext x
  have created : liftIo ((sock.aside η).create (Family.ofTarget target).socketVersion) =
      HopTrace.aside (liftIo (sock.create (Family.ofTarget target).socketVersion)) :=
    liftIo_aside _
  have enabled (feature : SocketFeature) : liftIo ((sock.aside η).enable feature) =
      HopTrace.aside (liftIo (sock.enable feature)) :=
    liftIo_aside _
  simp only [connect_eq, created, enabled, forM_aside, HopTrace.aside]
  cases liftIo (sock.create (Family.ofTarget target).socketVersion) x.1 <;> rfl

theorem network_aside : (sock.aside η).network target = (sock.network target).aside η := by
  have setTtl : (sock.aside η).setTtl (Family.ofTarget target) = fun ttl =>
      HopTrace.aside (sock.setTtl (Family.ofTarget target) ttl) := by
    funext ttl
    have limited (version : IpVersion) : liftIo ((sock.aside η).limitHops version ttl) =
        HopTrace.aside (liftIo (sock.limitHops version ttl)) :=
      liftIo_aside _
    simp only [Socket.setTtl, limited, forM_aside]
  have send : (sock.aside η).send target = fun payload port =>
      HopTrace.aside (sock.send target payload port) := by
    funext payload port x
    simp only [Socket.send, Socket.aside, HopTrace.aside]
    cases sock.sendTo payload { address := target, port } x.1 <;> rfl
  have await : (fun limit => liftIo ((sock.aside η).awaitReadable limit)) = fun limit =>
      HopTrace.aside (liftIo (sock.awaitReadable limit)) :=
    funext fun _ => liftIo_aside _
  have reply : (sock.aside η).receiveReply = HopTrace.aside sock.receiveReply := by
    funext x
    simp only [Socket.receiveReply, Socket.aside, HopTrace.aside]
    cases sock.receive replySize x.1 <;> rfl
  have notification : (sock.aside η).receiveNotification =
      HopTrace.aside sock.receiveNotification := by
    funext x
    simp only [Socket.receiveNotification, Socket.aside, HopTrace.aside]
    rcases sock.receiveError ProbeHeader.size x.1 with ⟨_ | m, s⟩ | ⟨e, s⟩ <;> rfl
  unfold Socket.network Network.aside
  simp only [setTtl, send, await, reply, notification]
  rfl

end Socket

end Aside

def Responder.nameless : Responder → Responder
  | .remote address _ => .remote address none
  | r => r

def Hop.nameless (hop : Hop) : Hop := { hop with responder := hop.responder.nameless }

/-- The event without the name of the responder. -/
def Event.nameless : Event → Event
  | .hop h => .hop h.nameless
  | e => e

/-- The exchange as it is without names, unless it is the lookup of one. -/
def Exchange.nameless? : Exchange → Option Exchange
  | .resolve _ _ => none
  | .event e => some (.event e.nameless)
  | x => some x

def nameless (past : List Exchange) : List Exchange := past.filterMap Exchange.nameless?

section Nameless
variable {past past' : List Exchange}

theorem nameless_cons (same : nameless past = nameless past') (x : Exchange) :
    nameless (x :: past) = nameless (x :: past') := by
  unfold nameless at same ⊢
  rw [List.filterMap_cons, List.filterMap_cons, same]

theorem nameless_event (e : Event) (past : List Exchange) :
    nameless (.event e :: past) = .event e.nameless :: nameless past := rfl

theorem published_nameless (past : List Exchange) :
    published (nameless past) = (published past).map Event.nameless := by
  have each (x : Exchange) : x.nameless?.bind Exchange.event? = x.event?.map Event.nameless := by
    cases x <;> rfl
  unfold published nameless
  rw [List.filterMap_filterMap, List.map_reverse, List.map_filterMap]
  simp only [each]

theorem World.nameless_name {σ : Type} (w : World σ) (mode : AddressMode) (r : Responder) (s : σ) :
    (w.name mode r s).1.nameless = r.nameless := by
  unfold World.name
  split
  · split
    · split <;> rfl
    · rfl
  · rfl

end Nameless

section Worlds
variable {σ τ α : Type} {S : σ → τ → Prop}

/-- Networks that answer alike, whoever attends. -/
def Network.Matches (S : σ → τ → Prop) (n : Network σ) (m : Network τ) : Prop :=
  (n.attendedBy (Audience.silent n.pending)).Matches S (m.attendedBy (Audience.silent m.pending))

/-- Worlds that differ in nothing but names: neither a lookup nor the name in an event leads
to states that are not related. -/
structure World.NamesApart (S : σ → τ → Prop) (w : World σ) (v : World τ) : Prop where
  network : w.toNetwork.Matches S v.toNetwork
  resolveLeft : ∀ {s u} a, S s u → S (w.resolve a s).2 u
  resolveRight : ∀ {s u} a, S s u → S s (v.resolve a u).2
  publish : ∀ {s u e e'}, e.nameless = e'.nameless → S s u → S (w.publish e s) (v.publish e' u)

/-- Two running traces whose sessions differ in the mode alone, in related worlds. -/
def ModeApart (mode : AddressMode) (S : σ → τ → Prop) (t : Tracing σ) (u : Tracing τ) : Prop :=
  u.session = t.session.withMode mode ∧ S t.world u.world

namespace World.NamesApart
variable {w : World σ} {v : World τ} {mode : AddressMode} {t : Tracing σ} {u : Tracing τ}

theorem readOne (h : w.NamesApart S v) (ttl : UInt8) (hR : ModeApart mode S t u) :
    Agree (ModeApart mode S) (SameFailure (ModeApart mode S)) SameRound (w.readOne ttl t)
      (v.readOne ttl u) := by
  obtain ⟨session, hS⟩ := hR
  have read : Alike S (w.receiveNotification t.world) (v.receiveNotification u.world) :=
    h.network.receiveNotification hS
  unfold World.readOne World.decode
  rw [session]
  generalize w.receiveNotification t.world = r at read
  generalize v.receiveNotification u.world = r' at read
  cases read with
  | error e related => exact ⟨rfl, rfl, related⟩
  | @ok found s s' related =>
    cases found with
    | none => exact ⟨rfl, rfl, related⟩
    | some n =>
      dsimp only
      rw [Session.decode_withMode]
      rcases t.session.decode ttl n with ⟨_ | hop, s₁⟩ | ⟨e, s₁⟩
      · exact ⟨rfl, rfl, h.publish rfl related⟩
      · have named : (w.name s₁.mode hop.responder s).1.nameless =
            (v.name mode hop.responder s').1.nameless := by
          rw [World.nameless_name, World.nameless_name]
        have alike := congrArg (fun responder => Event.hop { hop with responder }) named
        have both : S (w.name s₁.mode hop.responder s).2 (v.name mode hop.responder s').2 :=
          w.name_preserves (S · _) h.resolveLeft (v.name_preserves (S s) h.resolveRight related)
        exact ⟨rfl, rfl, h.publish alike both⟩
      · exact ⟨rfl, rfl, related⟩

theorem shoot (h : w.NamesApart S v) (ttl : UInt8) (slot : Slot) (hR : ModeApart mode S t u) :
    Agree (ModeApart mode S) (SameFailure (ModeApart mode S)) (· = ·) (w.shoot ttl slot t)
      (v.shoot ttl slot u) := by
  have clock : (w.now t.world).1 = (v.now u.world).1 := (h.network.now hR.2).1
  have related : S (w.now t.world).2 (v.now u.world).2 := (h.network.now hR.2).2
  rw [World.shoot_eq, World.shoot_eq, hR.1, ← clock]
  have sent := h.network.send
    ((t.session.record slot ttl (w.now t.world).1).payload ttl (w.now t.world).1)
    (slot.port t.session.basePort) related
  exact Alike.trySend sent fun related => ⟨rfl, related⟩

theorem simulates (h : w.NamesApart S v) (mode : AddressMode) (ttl : UInt8) :
    w.Simulates (ModeApart mode S) (SameFailure (ModeApart mode S)) v ttl where
  mtu hR := (congrArg Session.mtu hR.1).symm
  cursor hR := (congrArg (·.history.cursor) hR.1).symm
  readOne hR := h.readOne ttl hR
  shoot slot hR := h.shoot ttl slot hR
  awaitReadable hR := Alike.world (h.network.awaitReadable _ hR.2) fun related => ⟨hR.1, related⟩
  receiveReply hR := Alike.world (h.network.receiveReply hR.2) fun related => ⟨hR.1, related⟩
  publish _ _ hR := ⟨hR.1, h.publish rfl hR.2⟩
  clear slot hR := ⟨congrArg (·.clear slot) hR.1, hR.2⟩
  advance hR := ⟨congrArg Session.advance hR.1, hR.2⟩

theorem trace (h : w.NamesApart S v) (mode : AddressMode) (hR : ModeApart mode S t u) :
    Agree (ModeApart mode S) (SameFailure (ModeApart mode S)) (· = ·) (w.trace t) (v.trace u) := by
  apply World.Simulates.trace (fun ttl _ => h.simulates mode ttl)
  · intro ttl _ t u hR
    exact Alike.world (h.network.setTtl ttl hR.2) fun related => ⟨hR.1, related⟩
  · intro t u hR
    rw [hR.1]
    rfl
  · rw [hR.1]
    rfl
  · exact hR

theorem traceWith (h : w.NamesApart S v) (c : SessionConfig) {s : σ} {u : τ} (hS : S s u) :
    Alike S (w.traceWith c s) (v.traceWith c u) := by
  have agree := h.trace c.mode (t := ⟨Session.start c, s⟩)
    (u := ⟨Session.start c, u⟩) ⟨rfl, hS⟩
  exact agree.traceWith fun related => related.2

end World.NamesApart

/-- The transcripts are the same up to names, in related states. -/
def NamelessAlike (S : σ → τ → Prop) (x : Transcript σ) (y : Transcript τ) : Prop :=
  nameless x.past = nameless y.past ∧ S x.inner y.inner

theorem alike_perform_nameless (mark : Except Failure α → Exchange) {act : EStateM Failure σ α}
    {act' : EStateM Failure τ α} {x : Transcript σ} {y : Transcript τ}
    (alike : Alike S (act x.inner) (act' y.inner)) (same : nameless x.past = nameless y.past) :
    Alike (NamelessAlike S) (Transcript.perform mark act x) (Transcript.perform mark act' y) := by
  unfold Transcript.perform
  generalize act x.inner = r at alike
  generalize act' y.inner = r' at alike
  cases alike with
  | ok a related => exact .ok a ⟨nameless_cons same _, related⟩
  | error e related => exact .error e ⟨nameless_cons same _, related⟩

/-- Worlds that differ in names have transcripts that do. -/
theorem World.NamesApart.transcribed {w : World σ} {v : World τ} (h : w.NamesApart S v) :
    w.transcribed.NamesApart (NamelessAlike S) v.transcribed where
  network :=
    { now := by
        rintro x y ⟨same, hS⟩
        obtain ⟨reading, related⟩ := h.network.now hS
        change (w.now x.inner).1 = (v.now y.inner).1 at reading
        refine ⟨reading, ?_, related⟩
        change nameless (.now (w.now x.inner).1 :: x.past) = nameless (.now _ :: y.past)
        rw [reading]
        exact nameless_cons same _
      setTtl := fun ttl hS => alike_perform_nameless _ (h.network.setTtl ttl hS.2) hS.1
      send := fun payload port hS =>
        alike_perform_nameless _ (h.network.send payload port hS.2) hS.1
      awaitReadable := fun limit hS =>
        alike_perform_nameless _ (h.network.awaitReadable limit hS.2) hS.1
      receiveReply := fun hS => alike_perform_nameless _ (h.network.receiveReply hS.2) hS.1
      receiveNotification := fun hS =>
        alike_perform_nameless _ (h.network.receiveNotification hS.2) hS.1
      resolve := fun _ hS => ⟨rfl, hS⟩
      publish := fun _ hS => hS }
  resolveLeft a hS := ⟨hS.1, h.resolveLeft a hS.2⟩
  resolveRight a hS := ⟨hS.1, h.resolveRight a hS.2⟩
  publish {x y e e'} alike hS := by
    refine ⟨?_, h.publish alike hS.2⟩
    change nameless (.event e :: x.past) = nameless (.event e' :: y.past)
    rw [nameless_event, nameless_event, alike, hS.1]

end Worlds

section Unattended
variable {σ η : Type}

/-- Attending with the memory alone makes a difference in names alone. -/
theorem Network.Matches.namesApart {n : Network σ} {m : Network (σ × η)}
    (h : n.Matches (· = ·.1) m) {a : Audience (σ × η) m.pending}
    (resolve : ∀ address x, (a.resolve address x).2.1 = x.1)
    (publish : ∀ e x, (a.publish e x).1 = x.1) :
    (n.attendedBy (Audience.silent n.pending)).NamesApart (· = ·.1) (m.attendedBy a) where
  network := h
  resolveLeft _ same := same
  resolveRight address same := same.trans (resolve address _).symm
  publish _ same := same.trans (publish _ _).symm

theorem alike_aside {ε α : Type} (act : EStateM ε σ α) {s : σ} {x : σ × η} (same : s = x.1) :
    Alike (· = ·.1) (act s) (aside act x) := by
  subst same
  unfold aside
  cases act x.1 with
  | ok a s => exact .ok a rfl
  | error e s => exact .error e rfl

theorem Network.matches_aside (n : Network σ) : n.Matches (· = ·.1) (n.aside η) where
  now same := same ▸ ⟨rfl, rfl⟩
  setTtl _ same := alike_aside _ same
  send _ _ same := alike_aside _ same
  awaitReadable _ same := alike_aside _ same
  receiveReply same := alike_aside _ same
  receiveNotification same := alike_aside _ same
  resolve _ same := ⟨rfl, same⟩
  publish _ same := same

/-- A trace is the same with a bystander as with nobody, up to the mode and to names. -/
theorem trace_watchedBy (n : Network σ) (b : Bystander η) (c : SessionConfig)
    (mode : AddressMode) (s : σ) (memory : η) :
    let first := (n.attendedBy (Audience.silent n.pending)).trace ⟨Session.start c, s⟩
    let second := (n.watchedBy b).trace ⟨Session.start { c with mode }, (s, memory)⟩
    answer? second = answer? first ∧ failure? second = failure? first ∧
      (finalState second).session = (finalState first).session.withMode mode ∧
      (finalState second).world.1 = (finalState first).world ∧
      nameless ((n.watchedBy b).transcribed.trace.transcript
          ⟨Session.start { c with mode }, (s, memory)⟩) =
        nameless ((n.attendedBy (Audience.silent n.pending)).transcribed.trace.transcript
          ⟨Session.start c, s⟩) := by
  intro first second
  have apart : (n.attendedBy (Audience.silent n.pending)).NamesApart (· = ·.1) (n.watchedBy b) :=
    n.matches_aside.namesApart (fun _ _ => rfl) fun _ _ => rfl
  have agree := apart.transcribed.trace mode
    (t := Tracing.unspoken ⟨Session.start c, s⟩)
    (u := Tracing.unspoken ⟨Session.start { c with mode }, (s, memory)⟩) ⟨rfl, rfl, rfl⟩
  obtain ⟨answer, failure, session, told, world⟩ := agree.results
  obtain ⟨answer₁, failure₁, ended₁⟩ :=
    (n.attendedBy (Audience.silent n.pending)).trace_told ⟨Session.start c, s⟩
  obtain ⟨answer₂, failure₂, ended₂⟩ :=
    (n.watchedBy b).trace_told ⟨Session.start { c with mode }, (s, memory)⟩
  refine ⟨?_, ?_, ?_, ?_, told.symm⟩
  · rw [answer₂, answer, answer₁]
  · rw [failure₂, failure, failure₁]
  · rw [ended₂, ended₁]
    exact session
  · rw [ended₂, ended₁]
    exact world.symm

/-- A run is the same with a bystander as with nobody. -/
theorem alike_runWith (tracer : Tracer) (sock : Socket σ) (b : Bystander η) (s : σ) (memory : η) :
    Alike (· = ·.1) (tracer.run sock s)
      (tracer.runWith (sock.aside η) (b.audience sock.pending) (s, memory)) := by
  have matching : (sock.network tracer.target).Matches (· = ·.1)
      ((sock.aside η).network tracer.target) := by
    rw [Socket.network_aside]
    exact (sock.network tracer.target).matches_aside
  have apart := matching.namesApart (a := b.audience sock.pending) (fun _ _ => rfl) fun _ _ => rfl
  have connected := alike_aside (sock.connect tracer.target) (x := (s, memory)) rfl
  have watched := tracer.runWith_socket (sock.aside η) (b.audience sock.pending) (s, memory)
  rw [Socket.connect_aside] at watched
  unfold Tracer.run
  rw [Tracer.runWith_socket, watched]
  generalize sock.connect tracer.target s = r at connected
  generalize aside (sock.connect tracer.target) (s, memory) = r' at connected
  cases connected with
  | ok _ same => exact apart.traceWith tracer.config same
  | error e same => exact .error e same

/-- Results in states of which the first half is the same. -/
theorem Alike.first {ε α : Type} {r : EStateM.Result ε σ α} {r' : EStateM.Result ε (σ × η) α}
    (h : Alike (· = ·.1) r r') :
    answer? r' = answer? r ∧ failure? r' = failure? r ∧ (finalState r').1 = finalState r := by
  cases h with
  | ok a same => exact ⟨rfl, rfl, same.symm⟩
  | error e same => exact ⟨rfl, rfl, same.symm⟩

end Unattended

/-- Neither the mode nor who looks up names and listens has any influence on a trace. It calls
the network alike and ends alike, and its events differ in the names of responders alone. A
name is looked up once for each notification that is decoded and came from an offender on the
way, in the order in which they are decoded, unless the mode is numeric. So a run that is
watched ends as one that is not. -/
theorem trace_watched {σ η η' : Type} (s : σ) (b : Bystander η) (memory : η)
    (b' : Bystander η') (memory' : η') :
    (∀ (n : Network σ) (c : SessionConfig) (mode : AddressMode),
      let start : Tracing (σ × η) := ⟨Session.start c, (s, memory)⟩
      let start' : Tracing (σ × η') := ⟨Session.start { c with mode }, (s, memory')⟩
      let first := (n.watchedBy b).trace start
      let second := (n.watchedBy b').trace start'
      let past := (n.watchedBy b).transcribed.trace.transcript start
      let past' := (n.watchedBy b').transcribed.trace.transcript start'
      (answer? second = answer? first ∧ failure? second = failure? first ∧
        (finalState second).session = { (finalState first).session with mode } ∧
        (finalState second).world.1 = (finalState first).world.1) ∧
      nameless past' = nameless past ∧
      (published past').map Event.nameless = (published past).map Event.nameless ∧
      (c.mode = .ip → lookups past = []) ∧
      ∃ left : Option Notification,
        lookups past = (decoded past).filterMap (Notification.asked c.mode) ∧
        informed past = left.toList ++ decoded past ∧
        (left.isSome → failure? first = some .unrepresentableTime)) ∧
    ∀ (tracer : Tracer) (sock : Socket σ),
      let run := tracer.run sock s
      let watched := tracer.runWith (sock.aside η) (b.audience sock.pending) (s, memory)
      answer? watched = answer? run ∧ failure? watched = failure? run ∧
        (finalState watched).1 = finalState run := by
  constructor
  · intro n c mode start start' first second past past'
    obtain ⟨answer, failure, session, world, told⟩ := trace_watchedBy n b c c.mode s memory
    obtain ⟨answer', failure', session', world', told'⟩ := trace_watchedBy n b' c mode s memory'
    have same : nameless past' = nameless past := told'.trans told.symm
    obtain ⟨left, attends, late⟩ := (n.watchedBy b).attends_trace c (s, memory)
    refine ⟨⟨answer'.trans answer.symm, failure'.trans failure.symm, ?_, world'.trans world.symm⟩,
      same, ?_, ?_, left, attends.named, attends.heard, late⟩
    · exact session'.trans (congrArg (·.withMode mode) session).symm
    · rw [← published_nameless, same, published_nameless]
    · intro numeric
      refine attends.named.trans ?_
      rw [numeric, List.filterMap_eq_nil_iff]
      intro n _
      exact n.asked_ip
  · intro tracer sock run watched
    exact (alike_runWith tracer sock b s memory).first

namespace NamedRouter
open Simulation

def router : IpAddress := .v4 (.ofOctets 192 0 2 1)

/-- The first probe is refused by the router. -/
def network : ScriptedNetwork :=
  .start ⟨1000000000⟩
    [{ ScriptEntry.empty with notes := [.notification 0 .sent .echo
        (some ⟨.icmp, .connectionRefused, 3, 3, 0, some router⟩) (some 64)] }]
    fun _ => none

/-- One name for everybody, and a count of those who asked. -/
def bystander : Bystander Nat where
  resolve _ count := (some "router", count + 1)
  publish _ count := count

def world : World (ScriptedNetwork × Nat) := scriptedNetwork.watchedBy bystander

def config : SessionConfig := { SessionConfig.default with mtu := 1500, maxTtl := 1, mode := .ip }

def past (mode : AddressMode) : List Exchange :=
  world.transcribed.trace.transcript ⟨Session.start { config with mode }, (network, 0)⟩

theorem lookups_named (mode : AddressMode) (named : mode ≠ .ip) :
    lookups (past mode) = [router] := by
  have seen : (world.transcribed.traceWithin 4
      (Tracing.unspoken ⟨Session.start { config with mode }, (network, 0)⟩)).map (fun r =>
        lookups (finalState r).world.past) = some [router] := by
    cases mode with
    | ip => exact absurd rfl named
    | host => decide +kernel
    | hostIp => decide +kernel
    | ipHost => decide +kernel
  exact World.trace_seen seen

end NamedRouter

open NamedRouter in
/-- The router is looked up once, or not at all by a numeric trace, which sees the same. -/
theorem trace_watched_namedRouter :
    (lookups (past .host) = [router] ∧ nameless (past .host) = nameless (past .ip)) ∧
    (lookups (past .hostIp) = [router] ∧ nameless (past .hostIp) = nameless (past .ip)) ∧
    (lookups (past .ipHost) = [router] ∧ nameless (past .ipHost) = nameless (past .ip)) ∧
    lookups (past .ip) = [] := by
  have watched (mode : AddressMode) := (trace_watched network bystander 0 bystander 0).1
    Simulation.scriptedNetwork config mode
  have same (mode : AddressMode) : nameless (past mode) = nameless (past .ip) := (watched mode).2.1
  refine ⟨⟨?_, same .host⟩, ⟨?_, same .hostIp⟩, ⟨?_, same .ipHost⟩, (watched .ip).2.2.2.1 rfl⟩
  · exact lookups_named .host nofun
  · exact lookups_named .hostIp nofun
  · exact lookups_named .ipHost nofun

end HopTrace
