import HopTrace.Proofs.Spelling
import HopTrace.Proofs.Upkeep

/-!
# Reads that fail

A read that would block finds nothing. Any other error of a read of a reply is taken for the
lack of one. Any other error of a read of the error queue ends the run, which makes no system
call afterwards.
-/
namespace HopTrace

variable {κ : Type}

section Operations
variable {k : Kernel κ} {s s' : κ} {e : Errno} {size : Nat}

theorem Kernel.readReply_of_wouldBlock (read : k.receive size s = .error Errno.wouldBlock s') :
    k.readReply size s = .ok none s' := by
  rw [Kernel.readReply_eq, read]
  rfl

theorem Kernel.readReply_of_error (read : k.receive size s = .error e s')
    (blocked : e ≠ Errno.wouldBlock) (other : e ≠ Errno.interrupted) :
    k.readReply size s = .error (.call e.recognized .receive) s' := by
  rw [Kernel.readReply_eq, read]
  dsimp only
  rw [if_neg blocked, if_neg other]

theorem Kernel.readError_of_wouldBlock
    (read : k.receiveError size controlSize s = .error Errno.wouldBlock s') :
    k.readError size s = .ok none s' := by
  rw [Kernel.readError_eq, read]
  rfl

theorem Kernel.readError_of_error (read : k.receiveError size controlSize s = .error e s')
    (blocked : e ≠ Errno.wouldBlock) (other : e ≠ Errno.interrupted) :
    k.readError size s = .error (.call e.recognized .receiveError) s' := by
  rw [Kernel.readError_eq, read]
  dsimp only
  rw [if_neg blocked, if_neg other]

/-- No error of a read of a reply is told apart from the lack of one. -/
theorem Kernel.receiveReply_of_error (read : k.receive replySize s = .error e s')
    (other : e ≠ Errno.interrupted) : k.socket.receiveReply s = .ok none s' := by
  unfold Socket.receiveReply Kernel.socket
  dsimp only
  by_cases blocked : e = Errno.wouldBlock
  · rw [Kernel.readReply_of_wouldBlock (blocked ▸ read)]
    rfl
  · rw [Kernel.readReply_of_error read blocked other]

theorem Kernel.receiveNotification_of_wouldBlock
    (read : k.receiveError ProbeHeader.size controlSize s = .error Errno.wouldBlock s') :
    k.socket.receiveNotification s = .ok none s' := by
  unfold Socket.receiveNotification Kernel.socket
  dsimp only
  rw [Kernel.readError_of_wouldBlock read]

theorem Kernel.receiveNotification_of_error
    (read : k.receiveError ProbeHeader.size controlSize s = .error e s')
    (blocked : e ≠ Errno.wouldBlock) (other : e ≠ Errno.interrupted) :
    k.socket.receiveNotification s = .error (.io (.call e.recognized .receiveError)) s' := by
  unfold Socket.receiveNotification Kernel.socket
  dsimp only
  rw [Kernel.readError_of_error read blocked other]

end Operations

/-- The error of a read of the error queue that is not dealt with. -/
def SystemExchange.readFailure? : SystemExchange → Option Errno
  | .receiveError _ _ (.error e) =>
    if e = Errno.wouldBlock ∨ e = Errno.interrupted then none else some e
  | _ => none

/-- Every read of the error queue has been dealt with. -/
def Unfailing (past : List SystemExchange) : Prop := ∀ y ∈ past, y.readFailure? = none

/-- The failure `e` comes from the last read of the error queue, if one has failed at all. -/
def FailedLast (e : Failure) (past : List SystemExchange) : Prop :=
  Unfailing past ∨ ∃ x before errno, past = x :: before ∧ Unfailing before ∧
    x.readFailure? = some errno ∧ e = .io (.call errno.recognized .receiveError)

section Unfailing
variable {past new : List SystemExchange}

theorem Unfailing.cons (h : Unfailing past) {x : SystemExchange} (dealt : x.readFailure? = none) :
    Unfailing (x :: past) :=
  List.forall_mem_cons.mpr ⟨dealt, h⟩

theorem Unfailing.append (h : Unfailing past) (added : Unfailing new) : Unfailing (new ++ past) :=
  List.forall_mem_append.mpr ⟨added, h⟩

/-- Nothing follows a read of the error queue that failed. -/
theorem FailedLast.ends {e : Failure} {x : SystemExchange} {before : List SystemExchange}
    {errno : Errno} (h : FailedLast e past) (here : x :: before <:+ past)
    (failed : x.readFailure? = some errno) :
    past = x :: before ∧ e = .io (.call errno.recognized .receiveError) := by
  have not_dealt {log : List SystemExchange} (quiet : Unfailing log) : ¬x :: before <:+ log := by
    intro here
    have dealt := quiet x (here.subset List.mem_cons_self)
    rw [failed] at dealt
    cases dealt
  rcases h with quiet | ⟨last, rest, errno', rfl, quiet, failed', rfl⟩
  · exact absurd here (not_dealt quiet)
  · rcases cons_suffix_cases here with ⟨rfl, rfl⟩ | earlier
    · rw [failed] at failed'
      cases failed'
      exact ⟨rfl, rfl⟩
    · exact absurd earlier (not_dealt quiet)

/-- The exchange reads the error queue. -/
def Exchange.readsErrors : Exchange → Bool
  | .receiveNotification _ => true
  | _ => false

theorem Spells.unfailing {target : IpAddress} {x : Exchange} (h : Spells target x new)
    (other : x.readsErrors = false) : Unfailing new := by
  cases h with
  | setTtl settled =>
    intro y m
    obtain ⟨_, _, rfl⟩ := settled.made y m
    rfl
  | send mirrored => cases mirrored <;> exact List.forall_mem_singleton.mpr rfl
  | receiveReply _ only => exact only.all fun _ => rfl
  | receiveNotification _ _ => cases other
  | timedNotification _ _ _ => cases other
  | _ => exact List.forall_mem_singleton.mpr rfl

theorem Connected.unfailing {target : IpAddress} {answer : Except Failure Unit}
    (h : Connected target answer new) : Unfailing new := by
  cases h with
  | uncreated _ _ => exact List.forall_mem_singleton.mpr rfl
  | created settled =>
    refine List.forall_mem_append.mpr ⟨?_, List.forall_mem_singleton.mpr rfl⟩
    intro y m
    obtain ⟨_, _, rfl⟩ := settled.made y m
    rfl

end Unfailing

section Ends
variable {ε α : Type} {past : List SystemExchange} {r : EStateM.Result ε κ α}
variable {r' : EStateM.Result ε (SystemTranscript κ) α}

/-- What makes no read of the error queue leaves all of them dealt with. -/
theorem Told.ends {P : Except ε α → List SystemExchange → Prop}
    {F : ε → SystemTranscript κ → Prop} (told : Told P past r r') (quiet : Unfailing past)
    (added : ∀ answer new, P answer new → Unfailing new)
    (failed : ∀ e x, Unfailing x.past → F e x) : Ends (fun x => Unfailing x.past) F r' := by
  cases told with
  | ok new told => exact quiet.append (added _ new told)
  | error new told => exact failed _ _ (quiet.append (added _ new told))

variable (k : Kernel κ) {x : SystemTranscript κ}

theorem ends_readError (size : Nat) (quiet : Unfailing x.past) :
    Ends (fun x => Unfailing x.past) (fun e x => FailedLast (.io e) x.past)
      (k.transcribed.readError size x) := by
  obtain ⟨past, s⟩ := x
  change Unfailing past at quiet
  fun_induction Kernel.readError k size s generalizing past with
  | case1 s m s' read message converted =>
    rw [Kernel.readError_eq k.transcribed, Kernel.transcribed_receiveError_ok read]
    dsimp only
    rw [converted]
    exact quiet.cons rfl
  | case2 s m s' read e cutOff =>
    rw [Kernel.readError_eq k.transcribed, Kernel.transcribed_receiveError_ok read]
    dsimp only
    rw [cutOff]
    exact .inl (quiet.cons rfl)
  | case3 s s' read =>
    rw [Kernel.readError_eq k.transcribed, Kernel.transcribed_receiveError_error read]
    exact quiet.cons rfl
  | case4 s s' read _ ih =>
    rw [Kernel.readError_eq k.transcribed, Kernel.transcribed_receiveError_error read]
    exact ih _ (quiet.cons rfl)
  | case5 s e s' read blocked other =>
    rw [Kernel.readError_eq k.transcribed, Kernel.transcribed_receiveError_error read]
    dsimp only
    rw [if_neg blocked, if_neg other]
    exact .inr ⟨_, past, e, rfl, quiet, if_neg (not_or.mpr ⟨blocked, other⟩), rfl⟩

variable (target : IpAddress) (a : Audience κ k.errorBacklog)

/-- A read of the error queue that fails is the last thing a trace does. -/
theorem upholds_unfailing :
    (k.transcribedWorld target a).Upholds (fun x => Unfailing x.past)
      (fun e x => FailedLast e x.past) where
  now quiet := quiet.cons rfl
  setTtl ttl quiet := (told_setTtl k target a ttl _).ends quiet
    (fun _ _ spells => spells.unfailing rfl) fun _ _ => .inl
  send payload port quiet := (told_send k target a payload port _).ends quiet
    (fun _ _ spells => spells.unfailing rfl) fun _ _ => .inl
  refused := by
    rintro x cause (quiet | ⟨_, _, _, _, _, _, failure⟩)
    · exact quiet
    · cases failure
  awaitReadable limit quiet := (told_awaitReadable k target a limit _).ends quiet
    (fun _ _ spells => spells.unfailing rfl) fun _ _ => .inl
  receiveReply quiet := (told_receiveReply k target a _).ends quiet
    (fun _ _ spells => spells.unfailing rfl) fun _ _ => .inl
  receiveNotification {x} quiet := by
    have ended := ends_readError k ProbeHeader.size quiet
    change Ends _ _ (k.transcribed.socket.receiveNotification x)
    unfold Socket.receiveNotification Kernel.socket
    dsimp only
    generalize k.transcribed.readError ProbeHeader.size x = r at ended
    cases r with
    | error e x' => exact ended
    | ok found x' =>
      cases found with
      | none => exact ended
      | some m => exact ended.cons rfl
  undecoded quiet := .inl quiet
  resolve _ quiet := quiet.cons rfl
  publish _ quiet := quiet.cons rfl

end Ends

/-- A run makes no system call after a read of the error queue that failed. -/
theorem Tracer.ends_transcribedRun (tracer : Tracer) (k : Kernel κ)
    (a : Audience κ k.errorBacklog) (s : κ) :
    Ends (fun x => Unfailing x.past) (fun e x => FailedLast e x.past)
      (tracer.transcribedRun k a s) := by
  have quiet : Unfailing [] := List.forall_mem_nil _
  have connected := told_connect k tracer.target ⟨[], s⟩
  rw [Tracer.transcribedRun_eq]
  generalize k.socket.connect tracer.target s = r at connected
  generalize k.transcribed.socket.connect tracer.target ⟨[], s⟩ = r' at connected
  cases connected with
  | error new told => exact .inl (quiet.append told.unfailing)
  | ok new told =>
    exact (upholds_unfailing k tracer.target a).ends_traceWith tracer.config
      (quiet.append told.unfailing)

theorem Tracer.readFailure_ends (tracer : Tracer) (k : Kernel κ) (a : Audience κ k.errorBacklog)
    (s : κ) {x : SystemExchange} {before : List SystemExchange} {e : Errno}
    (here : x :: before <:+ (finalState (tracer.transcribedRun k a s)).past)
    (failed : x.readFailure? = some e) :
    (finalState (tracer.transcribedRun k a s)).past = x :: before ∧
      failure? (tracer.transcribedRun k a s) = some (.io (.call e.recognized .receiveError)) := by
  have ended := tracer.ends_transcribedRun k a s
  cases ran : tracer.transcribedRun k a s with
  | ok summary y =>
    rw [ran] at ended here
    have dealt := ended x (here.subset List.mem_cons_self)
    rw [failed] at dealt
    cases dealt
  | error f y =>
    rw [ran] at ended here
    obtain ⟨last, rfl⟩ := FailedLast.ends ended here failed
    exact ⟨last, rfl⟩

end HopTrace
