import HopTrace.Proofs.Calls
import HopTrace.Proofs.SystemTranscript

/-!
# Exchanges spelt in system calls

What a trace exchanges with its network is spelt in system calls, in so many of them as it
takes. `Spelled` puts the two transcripts of one trace side by side. A trace over the
network of a host goes the same way on both levels, so what is known of the exchanges
carries over to the system calls: a datagram on the wire is a datagram of the trace, and an
event is an event.
-/
namespace HopTrace

variable {κ : Type}

/-- What an exchange of a trace to `target` consists of. -/
inductive Spells (target : IpAddress) : Exchange → List SystemExchange → Prop
  | now (reading) : Spells target (.now reading) [.now reading]
  | setTtl {ttl answer new} :
      Settled (fun version => .setOption (.hopLimit version) ttl.toNat)
        (Family.ofTarget target).hopLimits answer new →
      Spells target (.setTtl ttl answer) new
  | send {payload port answer new} :
      Mirrored (.sendTo payload { address := target, port }) answer new →
      Spells target (.send payload port answer) new
  | awaitReadable (limit answer selected) :
      Spells target (.awaitReadable limit answer) [.select limit selected]
  | receiveReply {new} (answer) : Only (.receive replySize) new →
      Spells target (.receiveReply answer) new
  | receiveNotification {new} (answer) : Only (.receiveError ProbeHeader.size controlSize) new →
      Spells target (.receiveNotification answer) new
  | timedNotification {new} (answer reading) :
      Only (.receiveError ProbeHeader.size controlSize) new →
      Spells target (.receiveNotification answer) (.now reading :: new)
  | resolve (a name) : Spells target (.resolve a name) [.resolve a name]
  | event (e) : Spells target (.event e) [.event e]

/-- The transcript of a trace to `target` beside its system calls since `start`. -/
inductive Spelled (target : IpAddress) (start : List SystemExchange) :
    List Exchange → List SystemExchange → Prop
  | start : Spelled target start [] start
  | cons {past sys x new} : Spelled target start past sys → Spells target x new →
      Spelled target start (x :: past) (new ++ sys)

/-- Two transcripts of the same trace to `target`. -/
def Retold (target : IpAddress) (start : List SystemExchange) (x : SystemTranscript κ)
    (y : Transcript κ) : Prop :=
  x.inner = y.inner ∧ Spelled target start y.past x.past

section Matches
variable (k : Kernel κ) (target : IpAddress) (a : Audience κ k.errorBacklog)

theorem told_setTtl (ttl : UInt8) (x : SystemTranscript κ) :
    Told (fun answer => Spells target (.setTtl ttl answer)) x.past
      ((k.world target a).setTtl ttl x.inner) ((k.transcribedWorld target a).setTtl ttl x) := by
  have settled := told_forM (fun version y =>
    told_setOption k (hopLimitOperation version) (.hopLimit version) ttl.toNat y)
    (Family.ofTarget target).hopLimits x
  exact settled.mono fun _ _ => .setTtl

theorem told_send (payload : Payload) (port : UInt16) (x : SystemTranscript κ) :
    Told (fun answer => Spells target (.send payload port answer)) x.past
      ((k.world target a).send payload port x.inner)
      ((k.transcribedWorld target a).send payload port x) := by
  change Told _ _ (k.socket.send target payload port x.inner)
    (k.transcribed.socket.send target payload port x)
  unfold Socket.send Kernel.socket Kernel.sendProbe Kernel.transcribed SystemTranscript.perform
  dsimp only
  cases k.sendTo payload _ x.inner with
  | ok _ s => exact .ok [_] (.send .granted)
  | error e s => exact .error [_] (.send (.refused e _))

theorem told_awaitReadable (limit : Span) (x : SystemTranscript κ) :
    Told (fun answer => Spells target (.awaitReadable limit answer)) x.past
      ((k.world target a).awaitReadable limit x.inner)
      ((k.transcribedWorld target a).awaitReadable limit x) := by
  change Told _ _ (liftIo (k.awaitReadable limit) x.inner)
    (liftIo (k.transcribed.awaitReadable limit) x)
  unfold liftIo Kernel.awaitReadable Kernel.transcribed SystemTranscript.perform
  dsimp only
  cases k.select limit x.inner with
  | ok ready s => exact .ok [_] (.awaitReadable limit _ _)
  | error e s =>
    dsimp only
    by_cases interrupted : e = Errno.interrupted
    · rw [if_pos interrupted, if_pos interrupted]
      exact .ok [_] (.awaitReadable limit _ _)
    · rw [if_neg interrupted, if_neg interrupted]
      exact .error [_] (.awaitReadable limit _ _)

theorem told_receiveReply (x : SystemTranscript κ) :
    Told (fun answer => Spells target (.receiveReply answer)) x.past
      ((k.world target a).receiveReply x.inner)
      ((k.transcribedWorld target a).receiveReply x) := by
  change Told _ _ (k.socket.receiveReply x.inner) (k.transcribed.socket.receiveReply x)
  have read := told_readReply k replySize x
  unfold Socket.receiveReply Kernel.socket
  dsimp only
  generalize k.readReply replySize x.inner = r at read
  generalize k.transcribed.readReply replySize x = r' at read
  cases read with
  | ok new only => exact .ok new (.receiveReply _ only)
  | error new only => exact .ok new (.receiveReply _ only)

/-- The clock is read for a notification, and for nothing else. -/
theorem told_receiveNotification (x : SystemTranscript κ) :
    Told (fun answer => Spells target (.receiveNotification answer)) x.past
      ((k.world target a).receiveNotification x.inner)
      ((k.transcribedWorld target a).receiveNotification x) := by
  change Told _ _ (k.socket.receiveNotification x.inner)
    (k.transcribed.socket.receiveNotification x)
  have read := told_readError k ProbeHeader.size x
  unfold Socket.receiveNotification Kernel.socket
  dsimp only
  generalize k.readError ProbeHeader.size x.inner = r at read
  generalize k.transcribed.readError ProbeHeader.size x = r' at read
  cases read with
  | error new only => exact .error new (.receiveNotification _ only)
  | @ok found s new only =>
    cases found with
    | none => exact .ok new (.receiveNotification _ only)
    | some m => exact .ok (_ :: new) (.timedNotification _ _ only)

variable {target} in
theorem Told.alike {α : Type} {start : List SystemExchange} {mark : Except Failure α → Exchange}
    {act : EStateM Failure κ α} {x : SystemTranscript κ} {y : Transcript κ}
    {r : EStateM.Result Failure (SystemTranscript κ) α}
    (told : Told (fun answer => Spells target (mark answer)) x.past (act x.inner) r)
    (retold : Retold target start x y) :
    Alike (Retold target start) r (Transcript.perform mark act y) := by
  obtain ⟨same, spelled⟩ := retold
  unfold Transcript.perform
  rw [← same]
  generalize act x.inner = r' at told
  cases told with
  | @ok a s new spells => exact .ok a ⟨rfl, spelled.cons spells⟩
  | @error e s new spells => exact .error e ⟨rfl, spelled.cons spells⟩

/-- A trace over system calls goes as over the network, with its exchanges spelt out. -/
theorem transcribedWorld_matches (start : List SystemExchange) :
    (k.transcribedWorld target a).Matches (Retold target start)
      (k.world target a).transcribed where
  now := by
    rintro ⟨_, s⟩ ⟨_, _⟩ ⟨rfl, spelled⟩
    exact ⟨rfl, rfl, spelled.cons (.now _)⟩
  setTtl ttl retold := (told_setTtl k target a ttl _).alike retold
  send payload port retold := (told_send k target a payload port _).alike retold
  awaitReadable limit retold := (told_awaitReadable k target a limit _).alike retold
  receiveReply retold := (told_receiveReply k target a _).alike retold
  receiveNotification retold := (told_receiveNotification k target a _).alike retold
  resolve := by
    rintro ⟨_, s⟩ ⟨_, _⟩ address ⟨rfl, spelled⟩
    exact ⟨rfl, rfl, spelled.cons (.resolve address _)⟩
  publish := by
    rintro ⟨_, s⟩ ⟨_, _⟩ e ⟨rfl, spelled⟩
    exact ⟨rfl, spelled.cons (.event e)⟩

end Matches

section Spelled
variable {target : IpAddress} {start sys : List SystemExchange} {past : List Exchange}

/-- A system call belongs to one of the exchanges, unless it was made before. -/
theorem Spelled.split {y : SystemExchange} {before : List SystemExchange}
    (h : Spelled target start past sys) (here : y :: before <:+ sys) :
    y :: before <:+ start ∨ ∃ x past' sys' later earlier, x :: past' <:+ past ∧
      Spelled target start past' sys' ∧ Spells target x (later ++ y :: earlier) ∧
      before = earlier ++ sys' := by
  induction h with
  | start => exact .inl here
  | @cons past sys x new told spells ih =>
    rcases append_suffix_cases here with ⟨later, earlier, rfl, rest⟩ | here
    · exact .inr ⟨x, past, sys, later, earlier, List.suffix_rfl, told, spells, rest⟩
    · rcases ih here with first | ⟨x', past', sys', later, earlier, made, told, spells, rest⟩
      · exact .inl first
      · have made := made.trans (List.suffix_cons x past)
        exact .inr ⟨x', past', sys', later, earlier, made, told, spells, rest⟩

theorem Spelled.suffix (h : Spelled target start past sys) : start <:+ sys := by
  induction h with
  | start => exact List.suffix_rfl
  | cons _ _ ih => exact ih.trans (List.suffix_append _ _)

end Spelled

/-- The exchange sends a datagram or publishes an event. -/
def Exchange.audible : Exchange → Bool
  | .send _ _ _ | .event _ => true
  | _ => false

def SystemExchange.audible : SystemExchange → Bool
  | .sendTo _ _ _ | .event _ => true
  | _ => false

section Origin
variable {target : IpAddress} {start sys : List SystemExchange} {past : List Exchange}
variable {x : Exchange} {new before : List SystemExchange}
variable {payload : Payload} {dest : Endpoint} {answer : Except Errno Unit} {e : Event}

/-- What the other exchanges consist of sends no datagram and publishes no event. -/
theorem Spells.inaudible (h : Spells target x new) (other : x.audible = false) :
    ∀ y ∈ new, y.audible = false := by
  cases h with
  | send _ => cases other
  | event _ => cases other
  | setTtl settled =>
    intro y m
    obtain ⟨_, _, rfl⟩ := settled.made y m
    rfl
  | receiveReply _ only => exact only.all fun _ => rfl
  | receiveNotification _ only => exact only.all fun _ => rfl
  | timedNotification _ _ only => exact List.forall_mem_cons.mpr ⟨rfl, only.all fun _ => rfl⟩
  | _ => exact List.forall_mem_singleton.mpr rfl

theorem Spells.sendTo (h : Spells target x new) (m : .sendTo payload dest answer ∈ new) :
    new = [.sendTo payload dest answer] ∧ ∃ port result, x = .send payload port result ∧
      dest = { address := target, port } := by
  cases x with
  | send payload' port result =>
    cases h with
    | send mirrored =>
      cases mirrored with
      | granted =>
        cases List.mem_singleton.mp m
        exact ⟨rfl, port, .ok (), rfl, rfl⟩
      | refused cause failure =>
        cases List.mem_singleton.mp m
        exact ⟨rfl, port, .error failure, rfl, rfl⟩
  | event e =>
    cases h with
    | event => cases List.mem_singleton.mp m
  | _ => cases h.inaudible rfl _ m

theorem Spells.published (h : Spells target x new) (m : .event e ∈ new) :
    new = [.event e] ∧ x = .event e := by
  cases x with
  | event e' =>
    cases h with
    | event =>
      cases List.mem_singleton.mp m
      exact ⟨rfl, rfl⟩
  | send _ _ _ =>
    cases h with
    | send mirrored => cases mirrored <;> cases List.mem_singleton.mp m
  | _ => cases h.inaudible rfl _ m

theorem earlier_eq_nil {ι : Type} {y : ι} {later earlier : List ι}
    (single : later ++ y :: earlier = [y]) : earlier = [] := by
  have length := congrArg List.length single
  rw [List.length_append, List.length_cons, List.length_singleton] at length
  apply List.eq_nil_of_length_eq_zero
  omega

/-- Where a datagram comes from that was not sent before. -/
theorem Spelled.sendTo (h : Spelled target start past sys)
    (here : .sendTo payload dest answer :: before <:+ sys) :
    .sendTo payload dest answer :: before <:+ start ∨
      ∃ port result past', .send payload port result :: past' <:+ past ∧
        Spelled target start past' before ∧ dest = { address := target, port } := by
  rcases h.split here with first | ⟨x, past', sys', later, earlier, made, told, spells, rest⟩
  · exact .inl first
  · obtain ⟨single, port, result, rfl, address⟩ :=
      spells.sendTo (List.mem_append_right later List.mem_cons_self)
    rw [earlier_eq_nil single, List.nil_append] at rest
    subst rest
    exact .inr ⟨port, result, past', made, told, address⟩

theorem Spelled.published (h : Spelled target start past sys) (here : .event e :: before <:+ sys) :
    .event e :: before <:+ start ∨
      ∃ past', .event e :: past' <:+ past ∧ Spelled target start past' before := by
  rcases h.split here with first | ⟨x, past', sys', later, earlier, made, told, spells, rest⟩
  · exact .inl first
  · obtain ⟨single, rfl⟩ := spells.published (List.mem_append_right later List.mem_cons_self)
    rw [earlier_eq_nil single, List.nil_append] at rest
    subst rest
    exact .inr ⟨past', made, told⟩

/-- A datagram that was accepted shows in the system calls. -/
theorem Spelled.accepted {past' : List Exchange} {port : UInt16}
    (h : Spelled target start past sys) (here : .send payload port (.ok ()) :: past' <:+ past) :
    ∃ before, .sendTo payload { address := target, port } (.ok ()) :: before <:+ sys ∧
      Spelled target start past' before := by
  induction h with
  | start => exact absurd here not_cons_suffix_nil
  | @cons past sys x new told spells ih =>
    rcases cons_suffix_cases here with ⟨rfl, rfl⟩ | earlier
    · cases spells with
      | send mirrored =>
        cases mirrored with
        | granted => exact ⟨sys, List.suffix_rfl, told⟩
    · obtain ⟨before, made, told'⟩ := ih earlier
      exact ⟨before, made.trans (List.suffix_append new sys), told'⟩

end Origin

section Trace
variable (k : Kernel κ) (target : IpAddress) (a : Audience κ k.errorBacklog) (c : SessionConfig)
variable (x : SystemTranscript κ)

theorem agree_transcribedWorld :
    Agree (Beside (Retold target x.past)) (BesideFailure (Retold target x.past)) (· = ·)
      ((k.transcribedWorld target a).trace ⟨Session.start c, x⟩)
      ((k.world target a).transcribed.trace (Tracing.unspoken ⟨Session.start c, x.inner⟩)) :=
  (transcribedWorld_matches k target a x.past).trace ⟨rfl, rfl, .start⟩

/-- Whether a trace is transcribed or not, it ends in the same way. -/
theorem traceWith_transcribedWorld :
    (k.world target a).traceWith c x.inner =
      forgottenResult ((k.transcribedWorld target a).traceWith c x) := by
  have agree := agree_transcribedWorld k target a c x
  rw [World.traceWith_eq, World.traceWith_eq, World.trace_eq]
  generalize (k.transcribedWorld target a).trace ⟨Session.start c, x⟩ = r at agree
  cases r with
  | ok summary t =>
    obtain ⟨_, u, told, rfl, -, same, -⟩ := agree.of_ok
    rw [told]
    exact congrArg (EStateM.Result.ok summary) same.symm
  | error e t =>
    obtain ⟨_, u, told, rfl, -, same, -⟩ := agree.of_error
    rw [told]
    exact congrArg (EStateM.Result.error e) same.symm

end Trace

section Run
variable (tracer : Tracer) (k : Kernel κ) (a : Audience κ k.errorBacklog) (s : κ)

/-- The run of a tracer with its system calls written down. -/
def Tracer.transcribedRun : EStateM.Result Failure (SystemTranscript κ) Summary :=
  tracer.runWith k.transcribed.socket a.transcribed ⟨[], s⟩

theorem Tracer.runWith_kernel (s : κ) :
    tracer.runWith k.socket a s =
      match k.socket.connect tracer.target s with
      | .ok _ s => (k.world tracer.target a).traceWith tracer.config s
      | .error e s => .error e s :=
  tracer.runWith_socket k.socket a s

theorem Tracer.transcribedRun_eq :
    tracer.transcribedRun k a s =
      match k.transcribed.socket.connect tracer.target ⟨[], s⟩ with
      | .ok _ x => (k.transcribedWorld tracer.target a).traceWith tracer.config x
      | .error e x => .error e x := by
  apply (tracer.runWith_kernel k.transcribed a.transcribed ⟨[], s⟩).trans
  cases k.transcribed.socket.connect tracer.target ⟨[], s⟩ <;> rfl

/-- Writing the system calls down changes nothing about a run. -/
theorem Tracer.runWith_eq :
    tracer.runWith k.socket a s = forgottenResult (tracer.transcribedRun k a s) := by
  have connected := told_connect k tracer.target ⟨[], s⟩
  rw [Tracer.runWith_kernel, Tracer.transcribedRun_eq]
  generalize k.socket.connect tracer.target s = r at connected
  generalize k.transcribed.socket.connect tracer.target ⟨[], s⟩ = r' at connected
  cases connected with
  | error new _ => rfl
  | @ok _ s new _ => exact traceWith_transcribedWorld k tracer.target a tracer.config ⟨_, s⟩

end Run

end HopTrace
