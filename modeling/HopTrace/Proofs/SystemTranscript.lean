import HopTrace.Proofs.Transcript
import HopTrace.Tracer

/-!
# The system calls of a run

The dialogue of a run with its host: every system call with the answer it got, the readings
of the clock, the names looked up and the events published in between. The latest stands
first. `World.transcribed` writes down what a trace asks of its network; here the same is
done one level below, where the network is made of system calls.

Each operation of a socket tells a definite kind of calls. One that concerns several versions
of the protocol makes a call for each, until one is refused, and a read that is interrupted
is repeated.
-/
namespace HopTrace

inductive SystemExchange where
  | now (reading : Instant)
  | createSocket (version : IpVersion) (answer : Except Errno Unit)
  | setOption (option : SocketOption) (value : Nat) (answer : Except Errno Unit)
  | sendTo (payload : Payload) (target : Endpoint) (answer : Except Errno Unit)
  | select (limit : Span) (answer : Except Errno Nat)
  | receive (size : Nat) (answer : Except Errno Nat)
  | receiveError (size room : Nat) (answer : Except Errno HostMessage)
  | resolve (address : IpAddress) (name : Option String)
  | event (event : Event)
  deriving DecidableEq

/-- The state of a host and the exchanges that led to it, the latest first. -/
structure SystemTranscript (κ : Type) where
  past : List SystemExchange
  inner : κ

variable {κ : Type}

namespace SystemTranscript
variable {α : Type}

/-- A system call, written down with its answer. -/
def perform (mark : Except Errno α → SystemExchange) (act : EStateM Errno κ α) :
    EStateM Errno (SystemTranscript κ) α := fun x =>
  match act x.inner with
  | .ok a s => .ok a ⟨mark (.ok a) :: x.past, s⟩
  | .error e s => .error e ⟨mark (.error e) :: x.past, s⟩

theorem perform_eq_ok {mark : Except Errno α → SystemExchange} {act : EStateM Errno κ α}
    {x x' : SystemTranscript κ} {a : α} (h : perform mark act x = .ok a x') :
    act x.inner = .ok a x'.inner := by
  unfold perform at h
  split at h
  · next answer =>
    injection h with h₁ h₂
    subst h₁ h₂
    exact answer
  · cases h

theorem perform_eq_error {mark : Except Errno α → SystemExchange} {act : EStateM Errno κ α}
    {x x' : SystemTranscript κ} {e : Errno} (h : perform mark act x = .error e x') :
    act x.inner = .error e x'.inner := by
  unfold perform at h
  split at h
  · cases h
  · next answer =>
    injection h with h₁ h₂
    subst h₁ h₂
    exact answer

theorem perform_ok {mark : Except Errno α → SystemExchange} {act : EStateM Errno κ α}
    {x : SystemTranscript κ} {a : α} {s : κ} (h : act x.inner = .ok a s) :
    perform mark act x = .ok a ⟨mark (.ok a) :: x.past, s⟩ := by
  unfold perform
  rw [h]

theorem perform_error {mark : Except Errno α → SystemExchange} {act : EStateM Errno κ α}
    {x : SystemTranscript κ} {e : Errno} {s : κ} (h : act x.inner = .error e s) :
    perform mark act x = .error e ⟨mark (.error e) :: x.past, s⟩ := by
  unfold perform
  rw [h]

end SystemTranscript

/-- A host whose calls are written down with their answers. -/
def Kernel.transcribed (k : Kernel κ) : Kernel (SystemTranscript κ) where
  now x := ((k.now x.inner).1, ⟨.now (k.now x.inner).1 :: x.past, (k.now x.inner).2⟩)
  createSocket version := SystemTranscript.perform (.createSocket version) (k.createSocket version)
  setOption option value :=
    SystemTranscript.perform (.setOption option value) (k.setOption option value)
  sendTo payload target := SystemTranscript.perform (.sendTo payload target) (k.sendTo payload target)
  select limit := SystemTranscript.perform (.select limit) (k.select limit)
  receive size := SystemTranscript.perform (.receive size) (k.receive size)
  receiveError size room :=
    SystemTranscript.perform (.receiveError size room) (k.receiveError size room)
  replyBacklog x := k.replyBacklog x.inner
  errorBacklog x := k.errorBacklog x.inner
  receive_interrupted h := k.receive_interrupted (SystemTranscript.perform_eq_error h)
  receiveError_interrupted h := k.receiveError_interrupted (SystemTranscript.perform_eq_error h)
  receiveError_ok h := k.receiveError_ok (SystemTranscript.perform_eq_ok h)
  errorBacklog_now_le x := k.errorBacklog_now_le x.inner

/-- An audience whose lookups and events are written down too. -/
def Audience.transcribed {pending : κ → Nat} (a : Audience κ pending) :
    Audience (SystemTranscript κ) fun x => pending x.inner where
  resolve address x := ((a.resolve address x.inner).1,
    ⟨.resolve address (a.resolve address x.inner).1 :: x.past, (a.resolve address x.inner).2⟩)
  publish e x := ⟨.event e :: x.past, a.publish e x.inner⟩
  pending_resolve_le address x := a.pending_resolve_le address x.inner
  pending_publish_le e x := a.pending_publish_le e x.inner

/-- The world of a trace to `target` on a host. -/
def Kernel.world (k : Kernel κ) (target : IpAddress) (a : Audience κ k.errorBacklog) : World κ :=
  (k.socket.network target).attendedBy a

/-- The same world with its system calls written down. -/
def Kernel.transcribedWorld (k : Kernel κ) (target : IpAddress) (a : Audience κ k.errorBacklog) :
    World (SystemTranscript κ) :=
  k.transcribed.world target a.transcribed

/-- A result beside the transcribed one, which has added to the past what `P` says. -/
inductive Told {ε α : Type} (P : Except ε α → List SystemExchange → Prop)
    (past : List SystemExchange) :
    EStateM.Result ε κ α → EStateM.Result ε (SystemTranscript κ) α → Prop
  | ok {a s} (new) : P (.ok a) new → Told P past (.ok a s) (.ok a ⟨new ++ past, s⟩)
  | error {e s} (new) : P (.error e) new →
      Told P past (.error e s) (.error e ⟨new ++ past, s⟩)

namespace Told
variable {ε α : Type} {P Q : Except ε α → List SystemExchange → Prop}
variable {past mid : List SystemExchange} {r : EStateM.Result ε κ α}
variable {r' : EStateM.Result ε (SystemTranscript κ) α}

theorem mono (h : Told P past r r') (weaker : ∀ answer new, P answer new → Q answer new) :
    Told Q past r r' := by
  cases h with
  | ok new told => exact .ok new (weaker _ new told)
  | error new told => exact .error new (weaker _ new told)

/-- What had been added before is counted in. -/
theorem after (h : Told P (mid ++ past) r r')
    (joined : ∀ answer new, P answer new → Q answer (new ++ mid)) : Told Q past r r' := by
  cases h with
  | ok new told =>
    rw [← List.append_assoc]
    exact .ok _ (joined _ new told)
  | error new told =>
    rw [← List.append_assoc]
    exact .error _ (joined _ new told)

end Told

/-- A call that is granted or refused, as the operation that consists of it. -/
inductive Mirrored (call : Except Errno Unit → SystemExchange) :
    Except Failure Unit → List SystemExchange → Prop
  | granted : Mirrored call (.ok ()) [call (.ok ())]
  | refused (e f) : Mirrored call (.error f) [call (.error e)]

/-- Calls that are made one after the other until one of them is refused. -/
inductive Settled {ι : Type} (call : ι → Except Errno Unit → SystemExchange) :
    List ι → Except Failure Unit → List SystemExchange → Prop
  | done : Settled call [] (.ok ()) []
  | refused (i rest e f) : Settled call (i :: rest) (.error f) [call i (.error e)]
  | granted {rest answer new} (i) : Settled call rest answer new →
      Settled call (i :: rest) answer (new ++ [call i (.ok ())])

section Settled
variable {ι : Type} {call : ι → Except Errno Unit → SystemExchange}

theorem told_setOption (k : Kernel κ) (operation : IoOperation) (option : SocketOption)
    (value : Nat) (x : SystemTranscript κ) :
    Told (Mirrored (.setOption option value)) x.past
      (liftIo (Kernel.attempt operation (k.setOption option value)) x.inner)
      (liftIo (Kernel.attempt operation (k.transcribed.setOption option value)) x) := by
  unfold liftIo Kernel.attempt Kernel.transcribed SystemTranscript.perform
  dsimp only
  cases k.setOption option value x.inner with
  | ok _ s => exact .ok [_] .granted
  | error e s => exact .error [_] (.refused e _)

theorem forM_cons {ε σ : Type} (act : ι → EStateM ε σ Unit) (i : ι) (rest : List ι) (s : σ) :
    ((i :: rest).forM act : EStateM ε σ Unit) s =
      match act i s with
      | .ok _ s => (rest.forM act : EStateM ε σ Unit) s
      | .error e s => .error e s := by
  change (act i >>= fun _ => rest.forM act) s = _
  simp only [Bind.bind, EStateM.bind]
  cases act i s <;> rfl

theorem told_forM {act : ι → EStateM Failure κ Unit}
    {act' : ι → EStateM Failure (SystemTranscript κ) Unit}
    (each : ∀ i x, Told (Mirrored (call i)) x.past (act i x.inner) (act' i x))
    (items : List ι) (x : SystemTranscript κ) :
    Told (Settled call items) x.past ((items.forM act : EStateM Failure κ Unit) x.inner)
      ((items.forM act' : EStateM Failure (SystemTranscript κ) Unit) x) := by
  induction items generalizing x with
  | nil => exact .ok [] .done
  | cons i rest ih =>
    have first := each i x
    rw [forM_cons, forM_cons]
    generalize act i x.inner = r at first
    generalize act' i x = r' at first
    cases first with
    | error new told =>
      cases told with
      | refused e f => exact .error _ (.refused i rest e _)
    | @ok _ s new told =>
      cases told with
      | granted =>
        have later := ih ⟨[call i (.ok ())] ++ x.past, s⟩
        exact later.after fun _ _ settled => .granted i settled

theorem Settled.made {items : List ι} {answer : Except Failure Unit} {new : List SystemExchange}
    (h : Settled call items answer new) : ∀ y ∈ new, ∃ i answer, y = call i answer := by
  induction h with
  | done => simp
  | refused i rest e f =>
    intro y m
    exact ⟨i, .error e, List.mem_singleton.mp m⟩
  | granted i _ ih =>
    intro y m
    rcases List.mem_append.mp m with later | first
    · exact ih y later
    · exact ⟨i, .ok (), List.mem_singleton.mp first⟩

theorem Settled.complete {items : List ι} {answer : Except Failure Unit}
    {new : List SystemExchange} (h : Settled call items answer new) (ok : answer = .ok ()) :
    ∀ i ∈ items, call i (.ok ()) ∈ new := by
  induction h with
  | done => simp
  | refused _ _ _ _ => cases ok
  | granted i _ ih =>
    intro j m
    rcases List.mem_cons.mp m with rfl | m
    · exact List.mem_append_right _ List.mem_cons_self
    · exact List.mem_append_left _ (ih ok j m)

end Settled

section Reads
variable (k : Kernel κ)

theorem Kernel.readReply_eq (size : Nat) (s : κ) :
    k.readReply size s =
      match k.receive size s with
      | .ok n s' => .ok (some n) s'
      | .error e s' =>
        if e = Errno.wouldBlock then .ok none s'
        else if e = Errno.interrupted then k.readReply size s'
        else .error (.call e.recognized .receive) s' := by
  rw [Kernel.readReply]
  split
  · next read => simp only [read]
  · next read => simp only [read, dite_eq_ite]

theorem Kernel.readError_eq (size : Nat) (s : κ) :
    k.readError size s =
      match k.receiveError size controlSize s with
      | .ok m s' =>
        match Kernel.queueMessage m size with
        | .ok message => .ok (some message) s'
        | .error e => .error e s'
      | .error e s' =>
        if e = Errno.wouldBlock then .ok none s'
        else if e = Errno.interrupted then k.readError size s'
        else .error (.call e.recognized .receiveError) s' := by
  rw [Kernel.readError]
  split
  · next m _ read => cases converted : Kernel.queueMessage m size <;> simp only [read, converted]
  · next read => simp only [read, dite_eq_ite]

/-- All of the exchanges are calls of one kind. -/
def Only {α : Type} (call : α → SystemExchange) (new : List SystemExchange) : Prop :=
  ∀ y ∈ new, ∃ answer, y = call answer

theorem only_singleton {α : Type} (call : α → SystemExchange) (answer : α) :
    Only call [call answer] := by
  intro y m
  exact ⟨answer, List.mem_singleton.mp m⟩

theorem Only.all {α : Type} {call : α → SystemExchange} {new : List SystemExchange}
    {P : SystemExchange → Prop} (h : Only call new) (each : ∀ answer, P (call answer)) :
    ∀ y ∈ new, P y := by
  intro y m
  obtain ⟨answer, rfl⟩ := h y m
  exact each answer

theorem Only.append {α : Type} {call : α → SystemExchange} {new mid : List SystemExchange}
    (h : Only call new) (h' : Only call mid) : Only call (new ++ mid) := by
  intro y m
  rcases List.mem_append.mp m with later | earlier
  · exact h y later
  · exact h' y earlier

section Written
variable {k} {size room : Nat} {s s' : κ} {e : Errno}

theorem Kernel.transcribed_receive_ok {n : Nat} (read : k.receive size s = .ok n s')
    (past : List SystemExchange) :
    k.transcribed.receive size ⟨past, s⟩ = .ok n ⟨.receive size (.ok n) :: past, s'⟩ :=
  SystemTranscript.perform_ok read

theorem Kernel.transcribed_receive_error (read : k.receive size s = .error e s')
    (past : List SystemExchange) :
    k.transcribed.receive size ⟨past, s⟩ = .error e ⟨.receive size (.error e) :: past, s'⟩ :=
  SystemTranscript.perform_error read

theorem Kernel.transcribed_receiveError_ok {m : HostMessage}
    (read : k.receiveError size room s = .ok m s') (past : List SystemExchange) :
    k.transcribed.receiveError size room ⟨past, s⟩ =
      .ok m ⟨.receiveError size room (.ok m) :: past, s'⟩ :=
  SystemTranscript.perform_ok read

theorem Kernel.transcribed_receiveError_error (read : k.receiveError size room s = .error e s')
    (past : List SystemExchange) :
    k.transcribed.receiveError size room ⟨past, s⟩ =
      .error e ⟨.receiveError size room (.error e) :: past, s'⟩ :=
  SystemTranscript.perform_error read

end Written

theorem told_readReply (size : Nat) (x : SystemTranscript κ) :
    Told (fun _ => Only (.receive size)) x.past (k.readReply size x.inner)
      (k.transcribed.readReply size x) := by
  obtain ⟨past, s⟩ := x
  dsimp only
  -- Each round of the induction is an interruption, which is written down as the rest is.
  fun_induction Kernel.readReply k size s generalizing past with
  | case1 s n s' read =>
    rw [Kernel.readReply_eq k.transcribed, Kernel.transcribed_receive_ok read]
    exact .ok [_] (only_singleton _ _)
  | case2 s s' read =>
    rw [Kernel.readReply_eq k.transcribed, Kernel.transcribed_receive_error read]
    exact .ok [_] (only_singleton _ _)
  | case3 s s' read _ ih =>
    rw [Kernel.readReply_eq k.transcribed, Kernel.transcribed_receive_error read]
    have later := ih ([.receive size (.error Errno.interrupted)] ++ past)
    exact later.after fun _ _ only => only.append (only_singleton _ _)
  | case4 s e s' read blocked interrupted =>
    rw [Kernel.readReply_eq k.transcribed, Kernel.transcribed_receive_error read]
    dsimp only
    rw [if_neg blocked, if_neg interrupted]
    exact .error [_] (only_singleton _ _)

theorem told_readError (size : Nat) (x : SystemTranscript κ) :
    Told (fun _ => Only (.receiveError size controlSize)) x.past (k.readError size x.inner)
      (k.transcribed.readError size x) := by
  obtain ⟨past, s⟩ := x
  dsimp only
  fun_induction Kernel.readError k size s generalizing past with
  | case1 s m s' read message converted =>
    rw [Kernel.readError_eq k.transcribed, Kernel.transcribed_receiveError_ok read]
    dsimp only
    rw [converted]
    exact .ok [_] (only_singleton _ _)
  | case2 s m s' read e cutOff =>
    rw [Kernel.readError_eq k.transcribed, Kernel.transcribed_receiveError_ok read]
    dsimp only
    rw [cutOff]
    exact .error [_] (only_singleton _ _)
  | case3 s s' read =>
    rw [Kernel.readError_eq k.transcribed, Kernel.transcribed_receiveError_error read]
    exact .ok [_] (only_singleton _ _)
  | case4 s s' read _ ih =>
    rw [Kernel.readError_eq k.transcribed, Kernel.transcribed_receiveError_error read]
    have later := ih ([.receiveError size controlSize (.error Errno.interrupted)] ++ past)
    exact later.after fun _ _ only => only.append (only_singleton _ _)
  | case5 s e s' read blocked interrupted =>
    rw [Kernel.readError_eq k.transcribed, Kernel.transcribed_receiveError_error read]
    dsimp only
    rw [if_neg blocked, if_neg interrupted]
    exact .error [_] (only_singleton _ _)

end Reads

/-- The system calls that set a socket up for `target`. -/
inductive Connected (target : IpAddress) : Except Failure Unit → List SystemExchange → Prop
  | uncreated (e f) : Connected target (.error f)
      [.createSocket (Family.ofTarget target).socketVersion (.error e)]
  | created {answer new} :
      Settled (fun feature => .setOption (.feature feature) feature.value)
        (Family.ofTarget target).features answer new →
      Connected target answer
        (new ++ [.createSocket (Family.ofTarget target).socketVersion (.ok ())])

theorem Socket.connect_eq {σ : Type} (sock : Socket σ) (target : IpAddress) (s : σ) :
    sock.connect target s =
      match liftIo (sock.create (Family.ofTarget target).socketVersion) s with
      | .ok _ s => ((Family.ofTarget target).features.forM
          fun feature => liftIo (sock.enable feature) : EStateM Failure σ Unit) s
      | .error e s => .error e s := by
  unfold Socket.connect
  simp only [Bind.bind, EStateM.bind]
  cases liftIo (sock.create (Family.ofTarget target).socketVersion) s <;> rfl

theorem told_createSocket (k : Kernel κ) (version : IpVersion) (x : SystemTranscript κ) :
    Told (Mirrored (.createSocket version)) x.past (liftIo (k.socket.create version) x.inner)
      (liftIo (k.transcribed.socket.create version) x) := by
  unfold liftIo Kernel.socket Kernel.attempt Kernel.transcribed SystemTranscript.perform
  dsimp only
  cases k.createSocket version x.inner with
  | ok _ s => exact .ok [_] .granted
  | error e s => exact .error [_] (.refused e _)

theorem told_connect (k : Kernel κ) (target : IpAddress) (x : SystemTranscript κ) :
    Told (Connected target) x.past (k.socket.connect target x.inner)
      (k.transcribed.socket.connect target x) := by
  have created := told_createSocket k (Family.ofTarget target).socketVersion x
  rw [Socket.connect_eq, Socket.connect_eq]
  generalize liftIo (k.socket.create _) x.inner = r at created
  generalize liftIo (k.transcribed.socket.create _) x = r' at created
  cases created with
  | error new told =>
    cases told with
    | refused e f => exact .error _ (.uncreated e _)
  | @ok _ s new told =>
    cases told with
    | granted =>
      have settled := told_forM (fun feature y =>
        told_setOption k feature.operation (.feature feature) feature.value y)
        (Family.ofTarget target).features
        ⟨[.createSocket (Family.ofTarget target).socketVersion (.ok ())] ++ x.past, s⟩
      exact settled.after fun _ _ => .created

theorem World.traceWith_eq {σ : Type} (w : World σ) (c : SessionConfig) (s : σ) :
    w.traceWith c s =
      match w.trace ⟨Session.start c, s⟩ with
      | .ok summary t => .ok summary t.world
      | .error e t => .error e t.world := rfl

theorem finalState_traceWith {σ : Type} (w : World σ) (c : SessionConfig) (s : σ) :
    finalState (w.traceWith c s) = (finalState (w.trace ⟨Session.start c, s⟩)).world := by
  rw [World.traceWith_eq]
  cases w.trace ⟨Session.start c, s⟩ <;> rfl

theorem Agree.traceWith {σ τ : Type} {S : σ → τ → Prop} {R : Tracing σ → Tracing τ → Prop}
    {w : World σ} {v : World τ} {c c' : SessionConfig} {s : σ} {u : τ}
    (agree : Agree R (SameFailure R) (· = ·) (w.trace ⟨Session.start c, s⟩)
      (v.trace ⟨Session.start c', u⟩))
    (world : ∀ {t t'}, R t t' → S t.world t'.world) :
    Alike S (w.traceWith c s) (v.traceWith c' u) := by
  rw [World.traceWith_eq, World.traceWith_eq]
  generalize w.trace ⟨Session.start c, s⟩ = r at agree
  cases r with
  | ok summary t =>
    obtain ⟨_, t', traced, rfl, related⟩ := agree.of_ok
    rw [traced]
    exact .ok summary (world related)
  | error e t =>
    obtain ⟨_, t', traced, rfl, related⟩ := agree.of_error
    rw [traced]
    exact .error e (world related)

/-- A run connects its socket and traces over it. -/
theorem Tracer.runWith_socket {σ : Type} (tracer : Tracer) (sock : Socket σ)
    (a : Audience σ sock.pending) (s : σ) :
    tracer.runWith sock a s =
      match sock.connect tracer.target s with
      | .ok _ s => ((sock.network tracer.target).attendedBy a).traceWith tracer.config s
      | .error e s => .error e s := by
  unfold Tracer.runWith
  simp only [Bind.bind, EStateM.bind]
  cases sock.connect tracer.target s <;> rfl

/-- A result without the transcript of its state. -/
def forgottenResult {ε α : Type} :
    EStateM.Result ε (SystemTranscript κ) α → EStateM.Result ε κ α
  | .ok a x => .ok a x.inner
  | .error e x => .error e x.inner

end HopTrace
