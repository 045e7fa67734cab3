import HopTrace.Proofs.ReadFailures
import HopTrace.Simulation.Kernel

/-!
# Interrupted reads

A read that is interrupted is made again. A run on a host whose reads are interrupted, as often
and wherever one likes, is compared with the same run on the host left alone: it makes more
system calls, all of them repetitions of a read, and differs in nothing else.

Both runs are written down. While one of them repeats a read the other waits, so the comparison
carries the interruptions so far through the loop of the read.
-/
namespace HopTrace

variable {κ α : Type}

/-- A host whose reads may be interrupted before the host gets to answer them. -/
structure Interrupted (κ : Type) where
  inner : κ
  /-- For each of the coming calls that read a reply, whether it is interrupted. -/
  replies : List Bool
  /-- The same for the calls that read the error queue. -/
  errors : List Bool

namespace Interrupted

def lift {ε : Type} (act : EStateM ε κ α) : EStateM ε (Interrupted κ) α := fun x =>
  match act x.inner with
  | .ok a s => .ok a { x with inner := s }
  | .error e s => .error e { x with inner := s }

/-- A call that is made, or interrupted with the host left as it was. -/
def read (interrupted : Bool) (act : EStateM Errno κ α) : EStateM Errno (Interrupted κ) α :=
  fun x => if interrupted then .error Errno.interrupted x else lift act x

section
variable {act : EStateM Errno κ α} {x x' : Interrupted κ} {interrupted : Bool} {plan : List Bool}

theorem read_eq_ok {a : α} (h : read interrupted act x = .ok a x') :
    act x.inner = .ok a x'.inner ∧ x'.replies = x.replies ∧ x'.errors = x.errors := by
  unfold read at h
  split at h
  · cases h
  · unfold lift at h
    split at h
    · next answer =>
      injection h with value state
      subst value state
      exact ⟨answer, rfl, rfl⟩
    · cases h

theorem read_eq_error {e : Errno} (h : read interrupted act x = .error e x') :
    (interrupted = true ∧ e = Errno.interrupted ∧ x' = x) ∨
      act x.inner = .error e x'.inner ∧ x'.replies = x.replies ∧ x'.errors = x.errors := by
  unfold read at h
  split at h
  · next now =>
    injection h with cause state
    exact .inl ⟨now, cause.symm, state.symm⟩
  · unfold lift at h
    split at h
    · cases h
    · next answer =>
      injection h with cause state
      subst cause state
      exact .inr ⟨answer, rfl, rfl⟩

theorem length_tail_lt (due : plan.headD false = true) : plan.tail.length < plan.length := by
  cases plan with
  | nil => cases due
  | cons _ rest => exact Nat.lt_succ_self _

end

end Interrupted

/-- The host with its reads interrupted. -/
def Kernel.interrupted (k : Kernel κ) : Kernel (Interrupted κ) where
  now x := ((k.now x.inner).1, { x with inner := (k.now x.inner).2 })
  createSocket version := Interrupted.lift (k.createSocket version)
  setOption option value := Interrupted.lift (k.setOption option value)
  sendTo payload target := Interrupted.lift (k.sendTo payload target)
  select limit := Interrupted.lift (k.select limit)
  receive size x := Interrupted.read (x.replies.headD false) (k.receive size)
    { x with replies := x.replies.tail }
  receiveError size room x := Interrupted.read (x.errors.headD false) (k.receiveError size room)
    { x with errors := x.errors.tail }
  replyBacklog x := k.replyBacklog x.inner + x.replies.length
  errorBacklog x := k.errorBacklog x.inner + x.errors.length
  receive_interrupted {size x x'} h := by
    rcases Interrupted.read_eq_error h with ⟨due, -, rfl⟩ | ⟨answer, replies, -⟩
    · exact Nat.add_lt_add_left (Interrupted.length_tail_lt due) _
    · have used : x'.replies.length = x.replies.tail.length := congrArg List.length replies
      rw [used, List.length_tail]
      exact Nat.add_lt_add_of_lt_of_le (k.receive_interrupted answer) (Nat.sub_le _ _)
  receiveError_interrupted {size room x x'} h := by
    rcases Interrupted.read_eq_error h with ⟨due, -, rfl⟩ | ⟨answer, -, errors⟩
    · exact Nat.add_lt_add_left (Interrupted.length_tail_lt due) _
    · have used : x'.errors.length = x.errors.tail.length := congrArg List.length errors
      rw [used, List.length_tail]
      exact Nat.add_lt_add_of_lt_of_le (k.receiveError_interrupted answer) (Nat.sub_le _ _)
  receiveError_ok {size room x x' m} h := by
    obtain ⟨answer, -, errors⟩ := Interrupted.read_eq_ok h
    have used : x'.errors.length = x.errors.tail.length := congrArg List.length errors
    rw [used, List.length_tail]
    exact Nat.add_lt_add_of_lt_of_le (k.receiveError_ok answer) (Nat.sub_le _ _)
  errorBacklog_now_le x := Nat.add_le_add_right (k.errorBacklog_now_le x.inner) _

/-- Whoever attends the host attends it when its reads are interrupted. -/
def Audience.interrupted {k : Kernel κ} (a : Audience κ k.errorBacklog) :
    Audience (Interrupted κ) k.interrupted.errorBacklog where
  resolve address x := ((a.resolve address x.inner).1,
    { x with inner := (a.resolve address x.inner).2 })
  publish e x := { x with inner := a.publish e x.inner }
  pending_resolve_le address x := Nat.add_le_add_right (a.pending_resolve_le address x.inner) _
  pending_publish_le e x := Nat.add_le_add_right (a.pending_publish_le e x.inner) _

/-- The same read, but interrupted. -/
inductive SystemExchange.Interrupts : SystemExchange → SystemExchange → Prop
  | receive (size answer) :
      Interrupts (.receive size (.error Errno.interrupted)) (.receive size answer)
  | receiveError (size room answer) :
      Interrupts (.receiveError size room (.error Errno.interrupted))
        (.receiveError size room answer)

/-- The second log is the first with repeated reads: each of its further entries is a read that
was interrupted, just before the same read in the first. -/
inductive Repeats : List SystemExchange → List SystemExchange → Prop
  | start : Repeats [] []
  | cons {past past'} (x again) : Repeats past past' → (∀ y ∈ again, y.Interrupts x) →
      Repeats (x :: past) (x :: (again ++ past'))

theorem Repeats.same {past past' : List SystemExchange} (h : Repeats past past')
    (x : SystemExchange) : Repeats (x :: past) (x :: past') :=
  h.cons x [] (List.forall_mem_nil _)

/-- A read is answered after the same read was interrupted any number of times. -/
theorem Repeats.answered {past past' again : List SystemExchange} {x z : SystemExchange}
    (h : Repeats past past') (interrupts : z.Interrupts x) (repeated : ∀ y ∈ again, y = z) :
    Repeats (x :: past) (x :: (again ++ past')) := by
  apply h.cons
  intro y m
  rw [repeated y m]
  exact interrupts

def SystemExchange.event? : SystemExchange → Option Event
  | .event e => some e
  | _ => none

/-- The events of a run, from its system log. -/
def heard (past : List SystemExchange) : List Event :=
  (past.filterMap SystemExchange.event?).reverse

theorem SystemExchange.Interrupts.silent {x y : SystemExchange} (h : y.Interrupts x) :
    y.event? = none := by
  cases h <;> rfl

theorem Repeats.heard_eq {past past' : List SystemExchange} (h : Repeats past past') :
    heard past' = heard past := by
  unfold heard
  induction h with
  | start => rfl
  | @cons past past' x again _ interrupted ih =>
    have silent : again.filterMap SystemExchange.event? = [] :=
      List.filterMap_eq_nil_iff.mpr fun y m => (interrupted y m).silent
    rw [List.reverse_inj] at ih ⊢
    rw [List.filterMap_cons, List.filterMap_cons, List.filterMap_append, silent, ih,
      List.nil_append]

section Alike
variable {σ τ ε ι : Type} {S : σ → τ → Prop}

theorem Alike.attempt {operation : IoOperation} {act : EStateM Errno σ α}
    {act' : EStateM Errno τ α} {s : σ} {u : τ} (h : Alike S (act s) (act' u)) :
    Alike S (Kernel.attempt operation act s) (Kernel.attempt operation act' u) := by
  unfold Kernel.attempt
  generalize act s = r at h
  generalize act' u = r' at h
  cases h with
  | ok a related => exact .ok a related
  | error e related => exact .error _ related

theorem Alike.liftIo {act : EStateM IoFailure σ α} {act' : EStateM IoFailure τ α} {s : σ} {u : τ}
    (h : Alike S (act s) (act' u)) : Alike S (liftIo act s) (HopTrace.liftIo act' u) := by
  unfold HopTrace.liftIo
  generalize act s = r at h
  generalize act' u = r' at h
  cases h with
  | ok a related => exact .ok a related
  | error e related => exact .error _ related

theorem alike_forM {act : ι → EStateM ε σ Unit} {act' : ι → EStateM ε τ Unit}
    (each : ∀ i {s u}, S s u → Alike S (act i s) (act' i u)) (items : List ι) {s : σ} {u : τ}
    (hS : S s u) :
    Alike S ((items.forM act : EStateM ε σ Unit) s) ((items.forM act' : EStateM ε τ Unit) u) := by
  induction items generalizing s u with
  | nil => exact .ok () hS
  | cons i rest ih =>
    have first := each i hS
    rw [forM_cons, forM_cons]
    generalize act i s = r at first
    generalize act' i u = r' at first
    cases first with
    | ok _ related => exact ih related
    | error e related => exact .error e related

end Alike

/-- The same run so far, on the host left alone and on the one that is interrupted. -/
def Undisturbed (x : SystemTranscript κ) (y : SystemTranscript (Interrupted κ)) : Prop :=
  x.inner = y.inner.inner ∧ Repeats x.past y.past

section Undisturbed
variable {x : SystemTranscript κ} {y : SystemTranscript (Interrupted κ)}

theorem alike_lift (mark : Except Errno α → SystemExchange) (act : EStateM Errno κ α)
    (h : Undisturbed x y) :
    Alike Undisturbed (SystemTranscript.perform mark act x)
      (SystemTranscript.perform mark (Interrupted.lift act) y) := by
  obtain ⟨same, repeats⟩ := h
  unfold SystemTranscript.perform Interrupted.lift
  rw [same]
  cases act y.inner.inner with
  | ok a s => exact .ok a ⟨rfl, repeats.same _⟩
  | error e s => exact .error e ⟨rfl, repeats.same _⟩

variable (k : Kernel κ) {past past' again : List SystemExchange}

/-- What has been interrupted so far, `again`, is counted in when the read is answered. -/
theorem alike_readReply (size : Nat) (u : Interrupted κ) (repeats : Repeats past past')
    (repeated : ∀ z ∈ again, z = .receive size (.error Errno.interrupted)) :
    Alike Undisturbed (k.transcribed.readReply size ⟨past, u.inner⟩)
      (k.interrupted.transcribed.readReply size ⟨again ++ past', u⟩) := by
  -- The induction is on the calls of the interrupted read, of which the other makes fewer.
  fun_induction Kernel.readReply k.interrupted size u generalizing past past' again with
  | case1 u n u' read =>
    obtain ⟨alone, -⟩ := Interrupted.read_eq_ok read
    rw [Kernel.readReply_eq k.transcribed, Kernel.transcribed_receive_ok alone,
      Kernel.readReply_eq k.interrupted.transcribed, Kernel.transcribed_receive_ok read]
    exact .ok _ ⟨rfl, repeats.answered (.receive size _) repeated⟩
  | case2 u u' read =>
    rcases Interrupted.read_eq_error read with ⟨-, blocked, -⟩ | ⟨alone, -⟩
    · cases blocked
    · rw [Kernel.readReply_eq k.transcribed, Kernel.transcribed_receive_error alone,
        Kernel.readReply_eq k.interrupted.transcribed, Kernel.transcribed_receive_error read]
      exact .ok _ ⟨rfl, repeats.answered (.receive size _) repeated⟩
  | case3 u u' read _ ih =>
    rw [Kernel.readReply_eq k.interrupted.transcribed, Kernel.transcribed_receive_error read]
    rcases Interrupted.read_eq_error read with ⟨-, -, rfl⟩ | ⟨alone, -⟩
    · exact ih repeats (List.forall_mem_cons.mpr ⟨rfl, repeated⟩)
    · -- The host itself interrupts, so both make the call again.
      rw [Kernel.readReply_eq k.transcribed, Kernel.transcribed_receive_error alone]
      exact ih (repeats.answered (.receive size _) repeated) (List.forall_mem_nil _)
  | case4 u e u' read blocked other =>
    rcases Interrupted.read_eq_error read with ⟨-, same, -⟩ | ⟨alone, -⟩
    · exact absurd same other
    · rw [Kernel.readReply_eq k.transcribed, Kernel.transcribed_receive_error alone,
        Kernel.readReply_eq k.interrupted.transcribed, Kernel.transcribed_receive_error read]
      dsimp only
      rw [if_neg blocked, if_neg other, if_neg blocked, if_neg other]
      exact .error _ ⟨rfl, repeats.answered (.receive size _) repeated⟩

theorem alike_readError (size : Nat) (u : Interrupted κ) (repeats : Repeats past past')
    (repeated : ∀ z ∈ again, z = .receiveError size controlSize (.error Errno.interrupted)) :
    Alike Undisturbed (k.transcribed.readError size ⟨past, u.inner⟩)
      (k.interrupted.transcribed.readError size ⟨again ++ past', u⟩) := by
  fun_induction Kernel.readError k.interrupted size u generalizing past past' again with
  | case1 u m u' read message converted =>
    obtain ⟨alone, -⟩ := Interrupted.read_eq_ok read
    rw [Kernel.readError_eq k.transcribed, Kernel.transcribed_receiveError_ok alone,
      Kernel.readError_eq k.interrupted.transcribed, Kernel.transcribed_receiveError_ok read]
    dsimp only
    rw [converted]
    exact .ok _ ⟨rfl, repeats.answered (.receiveError size _ _) repeated⟩
  | case2 u m u' read e cutOff =>
    obtain ⟨alone, -⟩ := Interrupted.read_eq_ok read
    rw [Kernel.readError_eq k.transcribed, Kernel.transcribed_receiveError_ok alone,
      Kernel.readError_eq k.interrupted.transcribed, Kernel.transcribed_receiveError_ok read]
    dsimp only
    rw [cutOff]
    exact .error _ ⟨rfl, repeats.answered (.receiveError size _ _) repeated⟩
  | case3 u u' read =>
    rcases Interrupted.read_eq_error read with ⟨-, blocked, -⟩ | ⟨alone, -⟩
    · cases blocked
    · rw [Kernel.readError_eq k.transcribed, Kernel.transcribed_receiveError_error alone,
        Kernel.readError_eq k.interrupted.transcribed, Kernel.transcribed_receiveError_error read]
      exact .ok _ ⟨rfl, repeats.answered (.receiveError size _ _) repeated⟩
  | case4 u u' read _ ih =>
    rw [Kernel.readError_eq k.interrupted.transcribed, Kernel.transcribed_receiveError_error read]
    rcases Interrupted.read_eq_error read with ⟨-, -, rfl⟩ | ⟨alone, -⟩
    · exact ih repeats (List.forall_mem_cons.mpr ⟨rfl, repeated⟩)
    · rw [Kernel.readError_eq k.transcribed, Kernel.transcribed_receiveError_error alone]
      exact ih (repeats.answered (.receiveError size _ _) repeated) (List.forall_mem_nil _)
  | case5 u e u' read blocked other =>
    rcases Interrupted.read_eq_error read with ⟨-, same, -⟩ | ⟨alone, -⟩
    · exact absurd same other
    · rw [Kernel.readError_eq k.transcribed, Kernel.transcribed_receiveError_error alone,
        Kernel.readError_eq k.interrupted.transcribed, Kernel.transcribed_receiveError_error read]
      dsimp only
      rw [if_neg blocked, if_neg other, if_neg blocked, if_neg other]
      exact .error _ ⟨rfl, repeats.answered (.receiveError size _ _) repeated⟩

theorem alike_setOption (operation : IoOperation) (option : SocketOption) (value : Nat)
    (h : Undisturbed x y) :
    Alike Undisturbed
      (liftIo (Kernel.attempt operation (k.transcribed.setOption option value)) x)
      (liftIo (Kernel.attempt operation (k.interrupted.transcribed.setOption option value)) y) :=
  (alike_lift (.setOption option value) (k.setOption option value) h).attempt.liftIo

theorem alike_connect (target : IpAddress) (h : Undisturbed x y) :
    Alike Undisturbed (k.transcribed.socket.connect target x)
      (k.interrupted.transcribed.socket.connect target y) := by
  have created : Alike Undisturbed
      (liftIo (k.transcribed.socket.create (Family.ofTarget target).socketVersion) x)
      (liftIo (k.interrupted.transcribed.socket.create (Family.ofTarget target).socketVersion) y) :=
    (alike_lift (.createSocket _) (k.createSocket _) h).attempt.liftIo
  rw [Socket.connect_eq, Socket.connect_eq]
  generalize liftIo (k.transcribed.socket.create _) x = r at created
  generalize liftIo (k.interrupted.transcribed.socket.create _) y = r' at created
  cases created with
  | error e related => exact .error e related
  | ok _ related =>
    exact alike_forM (fun feature _ _ related =>
      alike_setOption k feature.operation (.feature feature) feature.value related) _ related

variable (target : IpAddress) (a : Audience κ k.errorBacklog)

theorem alike_send (payload : Payload) (port : UInt16) (h : Undisturbed x y) :
    Alike Undisturbed ((k.transcribedWorld target a).send payload port x)
      ((k.interrupted.transcribedWorld target a.interrupted).send payload port y) := by
  have sent := alike_lift (.sendTo payload { address := target, port })
    (k.sendTo payload { address := target, port }) h
  change Alike _ (k.transcribed.socket.send target payload port x)
    (k.interrupted.transcribed.socket.send target payload port y)
  unfold Socket.send Kernel.socket Kernel.sendProbe Kernel.transcribed Kernel.interrupted
  dsimp only
  generalize SystemTranscript.perform _ _ x = r at sent
  generalize SystemTranscript.perform _ _ y = r' at sent
  cases sent with
  | ok _ related => exact .ok () related
  | error e related => exact .error _ related

theorem alike_awaitReadable (limit : Span) (h : Undisturbed x y) :
    Alike Undisturbed ((k.transcribedWorld target a).awaitReadable limit x)
      ((k.interrupted.transcribedWorld target a.interrupted).awaitReadable limit y) := by
  have waited := alike_lift (.select limit) (k.select limit) h
  have alike : Alike Undisturbed (k.transcribed.awaitReadable limit x)
      (k.interrupted.transcribed.awaitReadable limit y) := by
    unfold Kernel.awaitReadable Kernel.transcribed Kernel.interrupted
    dsimp only
    generalize SystemTranscript.perform _ _ x = r at waited
    generalize SystemTranscript.perform _ _ y = r' at waited
    cases waited with
    | ok ready related => exact .ok _ related
    | error e related =>
      dsimp only
      by_cases interrupted : e = Errno.interrupted
      · rw [if_pos interrupted, if_pos interrupted]
        exact .ok false related
      · rw [if_neg interrupted, if_neg interrupted]
        exact .error _ related
  exact alike.liftIo

theorem alike_receiveReply (h : Undisturbed x y) :
    Alike Undisturbed ((k.transcribedWorld target a).receiveReply x)
      ((k.interrupted.transcribedWorld target a.interrupted).receiveReply y) := by
  have read : Alike Undisturbed (k.transcribed.readReply replySize x)
      (k.interrupted.transcribed.readReply replySize y) := by
    obtain ⟨_, s⟩ := x
    obtain ⟨rfl, repeats⟩ := h
    exact alike_readReply k replySize y.inner repeats (List.forall_mem_nil _)
  change Alike _ (k.transcribed.socket.receiveReply x)
    (k.interrupted.transcribed.socket.receiveReply y)
  unfold Socket.receiveReply Kernel.socket
  dsimp only
  generalize k.transcribed.readReply replySize x = r at read
  generalize k.interrupted.transcribed.readReply replySize y = r' at read
  cases read with
  | ok _ related => exact .ok _ related
  | error _ related => exact .ok _ related

theorem alike_receiveNotification (h : Undisturbed x y) :
    Alike Undisturbed ((k.transcribedWorld target a).receiveNotification x)
      ((k.interrupted.transcribedWorld target a.interrupted).receiveNotification y) := by
  have read : Alike Undisturbed (k.transcribed.readError ProbeHeader.size x)
      (k.interrupted.transcribed.readError ProbeHeader.size y) := by
    obtain ⟨_, s⟩ := x
    obtain ⟨rfl, repeats⟩ := h
    exact alike_readError k ProbeHeader.size y.inner repeats (List.forall_mem_nil _)
  change Alike _ (k.transcribed.socket.receiveNotification x)
    (k.interrupted.transcribed.socket.receiveNotification y)
  unfold Socket.receiveNotification Kernel.socket
  dsimp only
  generalize k.transcribed.readError ProbeHeader.size x = r at read
  generalize k.interrupted.transcribed.readError ProbeHeader.size y = r' at read
  cases read with
  | error e related => exact .error _ related
  | @ok found x' y' related =>
    cases found with
    | none => exact .ok none related
    | some m =>
      obtain ⟨_, s⟩ := x'
      obtain ⟨rfl, repeats⟩ := related
      exact .ok _ ⟨rfl, repeats.same _⟩

/-- Interrupting the reads of a host changes no answer that a trace over it gets. -/
theorem transcribedWorld_matches_interrupted :
    (k.transcribedWorld target a).Matches Undisturbed
      (k.interrupted.transcribedWorld target a.interrupted) where
  now := by
    rintro ⟨_, s⟩ y ⟨rfl, repeats⟩
    exact ⟨rfl, rfl, repeats.same _⟩
  setTtl ttl h := alike_forM (fun version _ _ related =>
    alike_setOption k (hopLimitOperation version) (.hopLimit version) ttl.toNat related) _ h
  send payload port h := alike_send k target a payload port h
  awaitReadable limit h := alike_awaitReadable k target a limit h
  receiveReply h := alike_receiveReply k target a h
  receiveNotification h := alike_receiveNotification k target a h
  resolve := by
    rintro ⟨_, s⟩ y address ⟨rfl, repeats⟩
    exact ⟨rfl, rfl, repeats.same _⟩
  publish := by
    rintro ⟨_, s⟩ y e ⟨rfl, repeats⟩
    exact ⟨rfl, repeats.same _⟩

end Undisturbed

/-- Interrupting the reads of a host changes nothing about a run but how often it reads. -/
theorem Tracer.alike_transcribedRun (tracer : Tracer) (k : Kernel κ)
    (a : Audience κ k.errorBacklog) (u : Interrupted κ) :
    Alike Undisturbed (tracer.transcribedRun k a u.inner)
      (tracer.transcribedRun k.interrupted a.interrupted u) := by
  have start : Undisturbed ⟨[], u.inner⟩ ⟨[], u⟩ := ⟨rfl, .start⟩
  have connected := alike_connect k tracer.target start
  rw [Tracer.transcribedRun_eq, Tracer.transcribedRun_eq]
  generalize k.transcribed.socket.connect tracer.target ⟨[], u.inner⟩ = r at connected
  generalize k.interrupted.transcribed.socket.connect tracer.target ⟨[], u⟩ = r' at connected
  cases connected with
  | error e related => exact .error e related
  | ok _ related =>
    have matching := transcribedWorld_matches_interrupted k tracer.target a
    exact Agree.traceWith (matching.trace ⟨rfl, related⟩) fun beside => beside.2

/-- Results of the same run, without what is written down. -/
theorem Alike.forgotten {r : EStateM.Result Failure (SystemTranscript κ) α}
    {r' : EStateM.Result Failure (SystemTranscript (Interrupted κ)) α}
    (h : Alike Undisturbed r r') :
    answer? (forgottenResult r') = answer? (forgottenResult r) ∧
      failure? (forgottenResult r') = failure? (forgottenResult r) ∧
      (finalState (forgottenResult r')).inner = finalState (forgottenResult r) ∧
      Repeats (finalState r).past (finalState r').past := by
  cases h with
  | ok a related => exact ⟨rfl, rfl, related.1.symm, related.2⟩
  | error e related => exact ⟨rfl, rfl, related.1.symm, related.2⟩

/-- Interrupted reads leave no trace but in the system calls. However often and wherever the
reads of a host are interrupted, a run ends as without, leaves the host as without and publishes
the same events, and its calls are the same but for repeated reads. A read that would block finds
nothing. Any other error of a read of a reply counts as no reply, and any other error of a read
of the error queue is the failure of the run, which makes no call afterwards. -/
theorem Tracer.run_interrupted (tracer : Tracer) (k : Kernel κ) (a : Audience κ k.errorBacklog)
    (s : κ) :
    (∀ replies errors : List Bool,
      let start : Interrupted κ := ⟨s, replies, errors⟩
      let alone := tracer.runWith k.socket a s
      let disturbed := tracer.runWith k.interrupted.socket a.interrupted start
      let past := (finalState (tracer.transcribedRun k a s)).past
      let past' := (finalState (tracer.transcribedRun k.interrupted a.interrupted start)).past
      answer? disturbed = answer? alone ∧ failure? disturbed = failure? alone ∧
        (finalState disturbed).inner = finalState alone ∧ heard past' = heard past ∧
        Repeats past past') ∧
    (∀ u u' : κ, k.receive replySize u = .error Errno.wouldBlock u' →
      k.readReply replySize u = .ok none u') ∧
    (∀ u u' : κ, k.receiveError ProbeHeader.size controlSize u = .error Errno.wouldBlock u' →
      (k.world tracer.target a).receiveNotification u = .ok none u') ∧
    (∀ (u u' : κ) (e : Errno), e ≠ Errno.interrupted → k.receive replySize u = .error e u' →
      (k.world tracer.target a).receiveReply u = .ok none u') ∧
    ∀ e : Errno, e ≠ Errno.wouldBlock → e ≠ Errno.interrupted →
      (∀ u u' : κ, k.receiveError ProbeHeader.size controlSize u = .error e u' →
        (k.world tracer.target a).receiveNotification u =
          .error (.io (.call e.recognized .receiveError)) u') ∧
      ∀ size room before,
        .receiveError size room (.error e) :: before <:+
          (finalState (tracer.transcribedRun k a s)).past →
        (finalState (tracer.transcribedRun k a s)).past =
          .receiveError size room (.error e) :: before ∧
        failure? (tracer.runWith k.socket a s) =
          some (.io (.call e.recognized .receiveError)) := by
  refine ⟨?_, fun u u' => Kernel.readReply_of_wouldBlock,
    fun u u' => Kernel.receiveNotification_of_wouldBlock,
    fun u u' e other read => Kernel.receiveReply_of_error read other, ?_⟩
  · intro replies errors start alone disturbed past past'
    have alike := tracer.alike_transcribedRun k a start
    obtain ⟨answer, failure, host, repeats⟩ := alike.forgotten
    rw [← Tracer.runWith_eq, ← Tracer.runWith_eq] at answer failure host
    exact ⟨answer, failure, host, repeats.heard_eq, repeats⟩
  · intro e blocked other
    refine ⟨fun u u' read => Kernel.receiveNotification_of_error read blocked other, ?_⟩
    intro size room before here
    have failed : (SystemExchange.receiveError size room (.error e)).readFailure? = some e :=
      if_neg (not_or.mpr ⟨blocked, other⟩)
    obtain ⟨ends, failure⟩ := tracer.readFailure_ends k a s here failed
    refine ⟨ends, ?_⟩
    rw [Tracer.runWith_eq]
    obtain ⟨x, ran⟩ := failure?_eq_some_iff.mp failure
    rw [ran]
    rfl

namespace Interfered
open Simulation

/-- A host on which both reads fail, each with an error of its own. -/
def host : ScriptedKernel :=
  .start ⟨1000000000⟩ [{ KernelEntry.empty with replies := [.error 5], errors := [.error 104] }]
    none fun _ => none

/-- The first two calls that read a reply are interrupted, and the first that reads the error
queue. -/
def disturbed : Interrupted ScriptedKernel := ⟨host, [true, true], [true]⟩

def tracer : Tracer where
  target := .v4 (.ofOctets 192 0 2 1)
  config := { SessionConfig.default with mtu := 1500, maxTtl := 1 }

def audience : Audience ScriptedKernel scriptedKernel.errorBacklog := Audience.silent _

def past : List SystemExchange :=
  (finalState (tracer.transcribedRun scriptedKernel audience host)).past

def past' : List SystemExchange :=
  let run := tracer.transcribedRun scriptedKernel.interrupted audience.interrupted disturbed
  (finalState run).past

/-- What is seen of an evaluation is seen of the calls of the run. -/
theorem past_seen {k : Kernel κ} {a : Audience κ k.errorBacklog} {s : κ} {x : SystemTranscript κ}
    {β : Type} {f : List SystemExchange → β} {b : β}
    (connected : k.transcribed.socket.connect tracer.target ⟨[], s⟩ = .ok () x)
    (seen : ((k.transcribedWorld tracer.target a).traceWithin 4
      ⟨Session.start tracer.config, x⟩).map (fun r => f (finalState r).world.past) = some b) :
    f (finalState (tracer.transcribedRun k a s)).past = b := by
  rw [Tracer.transcribedRun_eq, connected]
  dsimp only
  rw [finalState_traceWith]
  exact World.trace_seen seen

def start : SystemTranscript ScriptedKernel :=
  finalState (scriptedKernel.transcribed.socket.connect tracer.target ⟨[], host⟩)

def start' : SystemTranscript (Interrupted ScriptedKernel) :=
  finalState (scriptedKernel.interrupted.transcribed.socket.connect tracer.target ⟨[], disturbed⟩)

theorem ends : past.length = 10 ∧
    past.head? = some (.receiveError ProbeHeader.size controlSize (.error 104)) := by
  have connected : scriptedKernel.transcribed.socket.connect tracer.target ⟨[], host⟩ =
      .ok () start := rfl
  have seen : ((scriptedKernel.transcribedWorld tracer.target audience).traceWithin 4
      ⟨Session.start tracer.config, start⟩).map (fun r =>
        ((finalState r).world.past.length, (finalState r).world.past.head?)) =
      some (10, some (.receiveError ProbeHeader.size controlSize (.error 104))) := by
    decide +kernel
  exact Prod.mk.inj (past_seen (f := fun past => (past.length, past.head?)) connected seen)

theorem length_past' : past'.length = 13 := by
  have connected : scriptedKernel.interrupted.transcribed.socket.connect tracer.target
      ⟨[], disturbed⟩ = .ok () start' := rfl
  have seen : ((scriptedKernel.interrupted.transcribedWorld tracer.target
      audience.interrupted).traceWithin 4 ⟨Session.start tracer.config, start'⟩).map (fun r =>
        (finalState r).world.past.length) = some 13 := by
    decide +kernel
  exact past_seen (f := List.length) connected seen

end Interfered

/-- Three interruptions make three calls more. The run fails with the error of the error queue,
not with the one of the reply. -/
theorem Tracer.run_interrupted_interfered :
    Interfered.past'.length = Interfered.past.length + 3 ∧
    Repeats Interfered.past Interfered.past' ∧
    failure? (Interfered.tracer.runWith Simulation.scriptedKernel.interrupted.socket
      Interfered.audience.interrupted Interfered.disturbed) =
        some (.io (.call 104 .receiveError)) ∧
    Simulation.scriptedKernel.readReply replySize Interfered.host = .ok none Interfered.host ∧
    (Simulation.scriptedKernel.world Interfered.tracer.target
      Interfered.audience).receiveNotification Interfered.host = .ok none Interfered.host ∧
    (Simulation.scriptedKernel.world Interfered.tracer.target Interfered.audience).receiveReply
      { Interfered.host with replies := [.error 5] } = .ok none Interfered.host ∧
    (Simulation.scriptedKernel.world Interfered.tracer.target
      Interfered.audience).receiveNotification { Interfered.host with errors := [.error 104] } =
        .error (.io (.call 104 .receiveError)) Interfered.host := by
  obtain ⟨invisible, emptied, drained, deaf, failing⟩ := Interfered.tracer.run_interrupted
    Simulation.scriptedKernel Interfered.audience Interfered.host
  obtain ⟨-, failure, -, -, repeats⟩ := invisible [true, true] [true]
  obtain ⟨length, head⟩ := Interfered.ends
  obtain ⟨failed, ends⟩ := failing 104 (by decide) (by decide)
  obtain ⟨before, last⟩ := List.head?_eq_some_iff.mp head
  obtain ⟨-, cause⟩ := ends _ _ before ⟨[], last.symm⟩
  refine ⟨?_, repeats, failure.trans cause, emptied _ _ rfl, drained _ _ rfl,
    deaf _ _ 5 (by decide) rfl, failed _ _ rfl⟩
  rw [Interfered.length_past', length]

end HopTrace
