import HopTrace.Proofs.Learning
import HopTrace.Proofs.Transcript
import HopTrace.Simulation.Network

/-!
# What a drain takes from the error queue

The error queue is looked at as a list of answers still to be given. A drain takes a front
part of it: the notifications up to the first one after which the trace does not go on, or
up to a failure, or all there are. What is left, what is published and how the session
changes all follow from that part, which is found without running anything.
-/
namespace HopTrace

variable {σ : Type}

/-- Notifications are read from a queue, to which neither names nor events matter. -/
structure World.ReadsFrom (w : World σ) (queue : σ → List (Except Failure Notification)) :
    Prop where
  emptied : ∀ {s}, queue s = [] →
    ∃ s', w.receiveNotification s = .ok none s' ∧ queue s' = []
  failed : ∀ {s e rest}, queue s = .error e :: rest →
    ∃ s', w.receiveNotification s = .error e s' ∧ queue s' = rest
  read : ∀ {s n rest}, queue s = .ok n :: rest →
    ∃ s', w.receiveNotification s = .ok (some n) s' ∧ queue s' = rest
  resolve : ∀ a s, queue (w.resolve a s).2 = queue s
  publish : ∀ e s, queue (w.publish e s) = queue s

/-- What a drain takes last. -/
inductive Ending where
  | emptied
  | failed (cause : Failure)
  | stopped (last : Notification)

/-- The part of the queue that a drain takes, and what it leaves. -/
structure Portion where
  read : List Notification
  ending : Ending
  rest : List (Except Failure Notification)

def portion : List (Except Failure Notification) → Portion
  | [] => ⟨[], .emptied, []⟩
  | .error e :: rest => ⟨[], .failed e, rest⟩
  | .ok n :: rest =>
    if n.stops then ⟨[n], .stopped n, rest⟩
    else { portion rest with read := n :: (portion rest).read }

/-- Where a queue is cut: at the first notification after which the trace does not go on, or
at a failure before it, or at the end. -/
inductive Cuts : List (Except Failure Notification) → Portion → Prop
  | emptied {read : List Notification} : (∀ n ∈ read, n.stops = false) →
      Cuts (read.map .ok) ⟨read, .emptied, []⟩
  | failed {read : List Notification} {e rest} : (∀ n ∈ read, n.stops = false) →
      Cuts (read.map .ok ++ .error e :: rest) ⟨read, .failed e, rest⟩
  | stopped {read : List Notification} {n rest} : (∀ m ∈ read, m.stops = false) →
      n.stops = true →
      Cuts (read.map .ok ++ .ok n :: rest) ⟨read ++ [n], .stopped n, rest⟩

theorem Cuts.cons {n : Notification} {pending : List (Except Failure Notification)} {p : Portion}
    (going : n.stops = false) (h : Cuts pending p) :
    Cuts (.ok n :: pending) { p with read := n :: p.read } := by
  have more {read : List Notification} (all : ∀ m ∈ read, m.stops = false) :
      ∀ m ∈ n :: read, m.stops = false := List.forall_mem_cons.mpr ⟨going, all⟩
  cases h with
  | emptied all => exact .emptied (more all)
  | failed all => exact .failed (more all)
  | stopped all last => exact .stopped (more all) last

theorem cuts_portion (pending : List (Except Failure Notification)) :
    Cuts pending (portion pending) := by
  induction pending with
  | nil => exact @Cuts.emptied [] (List.forall_mem_nil _)
  | cons answer rest ih =>
    cases answer with
    | error e => exact @Cuts.failed [] _ _ (List.forall_mem_nil _)
    | ok n =>
      rw [portion]
      cases stops : n.stops with
      | true => exact @Cuts.stopped [] _ _ (List.forall_mem_nil _) stops
      | false => exact ih.cons stops

/-- What a drain answers that stopped at the notification. -/
def Notification.outcome (n : Notification) : DrainOutcome :=
  match n.error with
  | none => .exhausted
  | some e => if e.code = .connectionRefused then .reached else .hardError

/-- How a drain ends, whose path MTU was `initial` at the start. `progress` says whether it
has read anything. -/
def Ending.result (ending : Ending) (initial : UInt32) (progress : Bool) (t : Tracing σ) :
    EStateM.Result Failure (Tracing σ) DrainOutcome :=
  match ending with
  | .emptied => .ok (.atEnd initial t.session.mtu progress) t
  | .failed e => .error e t
  | .stopped n => .ok n.outcome t

/-- The answer that a drain took last, unless it is the notification it stopped at. -/
def Ending.answer : Ending → List (Except Failure (Option Notification))
  | .emptied => [.ok none]
  | .failed e => [.error e]
  | .stopped _ => []

/-- All answers that a drain took, in order. -/
def Portion.answers (p : Portion) : List (Except Failure (Option Notification)) :=
  p.read.map (fun n => .ok (some n)) ++ p.ending.answer

def Exchange.received? : Exchange → Option (Except Failure (Option Notification))
  | .receiveNotification answer => some answer
  | _ => none

/-- The answers of the error queue in a transcript, in the order in which they were given. -/
def received (past : List Exchange) : List (Except Failure (Option Notification)) :=
  (past.filterMap Exchange.received?).reverse

/-- The event that a session publishes for a notification. -/
inductive World.Reports (w : World σ) (ttl : UInt8) (s : Session) (n : Notification) :
    Event → Prop
  | uninformed : n.error = none → w.Reports ttl s n .noInfo
  | informed {p e x} : s.identify n = .ok p → n.error = some e →
      w.Reports ttl s n
        (.hop { p.hop ttl n e with responder := (w.name s.mode (Responder.ofError e) x).1 })

/-- The events for notifications that are read one after another, one for each. -/
inductive World.ReportsAll (w : World σ) (ttl : UInt8) :
    Session → List Notification → List Event → Prop
  | nil {s} : w.ReportsAll ttl s [] []
  | cons {s n event read events} : w.Reports ttl s n event →
      w.ReportsAll ttl (s.after ttl n) read events →
      w.ReportsAll ttl s (n :: read) (event :: events)

section Received
variable {names past : List Exchange}

theorem received_other {x : Exchange} (other : x.received? = none) (past : List Exchange) :
    received (x :: past) = received past := by
  simp [received, other]

theorem received_append (new past : List Exchange) :
    received (new ++ past) = received past ++ received new := by
  unfold received
  rw [List.filterMap_append, List.reverse_append]

end Received

namespace World.ReadsFrom
variable {w : World σ} {queue : σ → List (Except Failure Notification)}

theorem name (h : w.ReadsFrom queue) (mode : AddressMode) (r : Responder) (s : σ) :
    queue (w.name mode r s).2 = queue s := by
  unfold World.name
  split
  · split
    · split
      · rfl
      · exact h.resolve _ s
    · rfl
  · rfl

end World.ReadsFrom

/-- The notification `n` has been read and decoded. -/
structure Took (w : World σ) (queue : σ → List (Except Failure Notification)) (ttl : UInt8)
    (n : Notification) (t t' : Tracing (Transcript σ)) : Prop where
  session : t'.session = t.session.after ttl n
  queue : queue t.world.inner = .ok n :: queue t'.world.inner
  past : ∃ event names, t'.world.past =
      .event event :: (names ++ .receiveNotification (.ok (some n)) :: t.world.past) ∧
    (∀ x ∈ names, ∃ a name, x = Exchange.resolve a name) ∧ w.Reports ttl t.session n event

/-- A front part of the queue has been taken. -/
structure Portion.Taken (p : Portion) (w : World σ)
    (queue : σ → List (Except Failure Notification)) (ttl : UInt8)
    (t t' : Tracing (Transcript σ)) : Prop where
  session : t'.session = t.session.afterAll ttl p.read
  queue : queue t'.world.inner = p.rest
  past : ∃ new, t'.world.past = new ++ t.world.past ∧ received new = p.answers ∧
    w.ReportsAll ttl t.session p.read (published new)

section Run
variable {w : World σ} {queue : σ → List (Except Failure Notification)} {ttl : UInt8}
variable {n : Notification} {rest : List (Except Failure Notification)}
variable {t : Tracing (Transcript σ)}

namespace World.ReadsFrom

theorem readOne_uninformed (h : w.ReadsFrom queue) (ttl : UInt8)
    (queued : queue t.world.inner = .ok n :: rest) (timely : ¬n.Overflows)
    (error : n.error = none) :
    ∃ t', w.transcribed.readOne ttl t = .ok (some none) t' ∧ Took w queue ttl n t t' := by
  obtain ⟨s, read, left⟩ := h.read queued
  obtain ⟨p, found⟩ := t.session.identify_ok timely
  have round := w.transcribed_readOne ttl t
  rw [read] at round
  simp only [Session.decode_eq, found, error] at round
  refine ⟨_, round, ?_, ?_, ?_⟩
  · exact (t.session.after_uninformed error).symm
  · rw [queued, ← left]
    exact congrArg _ (h.publish _ s).symm
  · exact ⟨.noInfo, [], rfl, by simp, .uninformed error⟩

theorem readOne_informed (h : w.ReadsFrom queue) (ttl : UInt8) {e : ExtendedError}
    (queued : queue t.world.inner = .ok n :: rest) (timely : ¬n.Overflows)
    (error : n.error = some e) :
    ∃ hop sentHops backHops t', w.transcribed.readOne ttl t = .ok (some (some hop)) t' ∧
      hop.status = classify e sentHops backHops ttl ∧ Took w queue ttl n t t' := by
  obtain ⟨s, read, left⟩ := h.read queued
  obtain ⟨p, found⟩ := t.session.identify_ok timely
  have round := w.transcribed_readOne ttl t
  rw [read] at round
  simp only [Session.decode_eq, found, error] at round
  have decoded : (t.session.taken n).learn (p.hop ttl n e).status (p.ttl.getD ttl)
      (n.receivedTtl.map returnHops) = t.session.after ttl n :=
    (Session.after_informed found error).symm
  rw [decoded, (Session.SameSetup.after ttl t.session n).mode] at round
  obtain ⟨names, asked, named⟩ := w.transcribed_name t.session.mode (p.hop ttl n e).responder
    ⟨.receiveNotification (.ok (some n)) :: t.world.past, s⟩
  rw [named] at round
  refine ⟨_, _, _, _, round, rfl, rfl, ?_, ?_⟩
  · rw [queued, ← left]
    exact congrArg _ ((h.publish _ _).trans (h.name _ _ s)).symm
  · exact ⟨_, names, rfl, asked, .informed found error⟩

/-- One round of a drain, and whether there is another. -/
theorem drainFrom_read (h : w.ReadsFrom queue) (initial : UInt32) (progress : Bool)
    (queued : queue t.world.inner = .ok n :: rest) (timely : ¬n.Overflows) :
    ∃ t', Took w queue ttl n t t' ∧
      w.transcribed.drainFrom ttl initial progress t =
        if n.stops then .ok n.outcome t' else w.transcribed.drainFrom ttl initial true t' := by
  rw [World.drainFrom_eq]
  unfold Notification.stops Notification.outcome
  cases error : n.error with
  | none =>
    obtain ⟨t', round, took⟩ := h.readOne_uninformed ttl queued timely error
    refine ⟨t', took, ?_⟩
    rw [round]
    rfl
  | some e =>
    obtain ⟨hop, sentHops, backHops, t', round, status, took⟩ :=
      h.readOne_informed ttl queued timely error
    refine ⟨t', took, ?_⟩
    rw [round]
    simp only [status, ofStatus?_classify, Option.all_some]
    cases e.isTerminal <;> rfl

end World.ReadsFrom

/-- Taking one notification and then a portion. -/
theorem Portion.Taken.cons {p : Portion} {t₁ t' : Tracing (Transcript σ)}
    (first : Took w queue ttl n t t₁) (h : p.Taken w queue ttl t₁ t') :
    Portion.Taken { p with read := n :: p.read } w queue ttl t t' where
  session := by
    rw [Session.afterAll_cons, ← first.session]
    exact h.session
  queue := h.queue
  past := by
    obtain ⟨event, names, here, asked, reports⟩ := first.past
    obtain ⟨new, there, answers, all⟩ := h.past
    refine ⟨new ++ .event event :: (names ++ [.receiveNotification (.ok (some n))]), ?_, ?_, ?_⟩
    · rw [there, here]
      simp
    · have unanswered : received names = [] := by
        have blind : received (names ++ []) = received [] :=
          append_resolves asked fun _ _ _ => received_other rfl _
        rwa [List.append_nil] at blind
      rw [received_append, received_other rfl, received_append, unanswered, answers]
      rfl
    · have unpublished : published names = [] := by
        have blind : published (names ++ []) = published [] := published_append_resolves asked
        rwa [List.append_nil] at blind
      rw [published_append, published_event, published_append, unpublished]
      rw [first.session] at all
      exact .cons reports all

/-- A drain takes its portion of the queue and ends as the ending of that portion says. -/
theorem World.ReadsFrom.drainFrom_portion (h : w.ReadsFrom queue)
    (pending : List (Except Failure Notification)) (initial : UInt32) (progress : Bool)
    (queued : queue t.world.inner = pending)
    (timely : ∀ n ∈ (portion pending).read, ¬n.Overflows) :
    ∃ t', (portion pending).Taken w queue ttl t t' ∧
      w.transcribed.drainFrom ttl initial progress t =
        (portion pending).ending.result initial
          (progress || !(portion pending).read.isEmpty) t' := by
  induction pending generalizing t progress with
  | nil =>
    obtain ⟨s, read, left⟩ := h.emptied queued
    refine ⟨⟨t.session, ⟨.receiveNotification (.ok none) :: t.world.past, s⟩⟩, ?_, ?_⟩
    · exact ⟨rfl, left, [.receiveNotification (.ok none)], rfl, rfl, .nil⟩
    · rw [World.drainFrom_eq, w.transcribed_readOne, read, portion, List.isEmpty_nil,
        Bool.not_true, Bool.or_false]
      rfl
  | cons answer rest ih =>
    cases answer with
    | error e =>
      obtain ⟨s, read, left⟩ := h.failed queued
      refine ⟨⟨t.session, ⟨.receiveNotification (.error e) :: t.world.past, s⟩⟩, ?_, ?_⟩
      · exact ⟨rfl, left, [.receiveNotification (.error e)], rfl, rfl, .nil⟩
      · rw [World.drainFrom_eq, w.transcribed_readOne, read]
        rfl
    | ok n =>
      rw [portion] at timely ⊢
      have now : ¬n.Overflows := by
        apply timely n
        split <;> exact List.mem_cons_self
      obtain ⟨t₁, took, round⟩ := h.drainFrom_read initial progress queued now
      rw [round]
      have left : queue t₁.world.inner = rest := by
        have same := took.queue
        rw [queued] at same
        injection same with _ same
        exact same.symm
      cases stops : n.stops with
      | true =>
        refine ⟨t₁, ?_, rfl⟩
        have none : Portion.Taken ⟨[], .stopped n, rest⟩ w queue ttl t₁ t₁ :=
          ⟨rfl, left, [], rfl, rfl, .nil⟩
        exact none.cons took
      | false =>
        rw [stops] at timely
        obtain ⟨t', taken, ended⟩ := ih true left fun m mem => timely m (List.mem_cons_of_mem _ mem)
        refine ⟨t', taken.cons took, ?_⟩
        simp only [Bool.false_eq_true, if_false, ended, Bool.true_or, List.isEmpty_cons,
          Bool.not_false, Bool.or_true]

end Run

/-- What a drain has done that took the portion `p` of the queue and led from `t` to `t'`,
given the exchanges it consists of. -/
structure Portion.Drained (p : Portion) (w : World σ)
    (queue : σ → List (Except Failure Notification)) (ttl : UInt8) (t t' : Tracing σ)
    (past : List Exchange) : Prop where
  left : queue t'.world = p.rest
  answers : received past = p.answers
  events : w.ReportsAll ttl t.session p.read (published past)
  setup : t.session.SameSetup t'.session
  mtu : t'.session.mtu = (p.read.filterMap Notification.tooBig?).foldl min t.session.mtu
  slots : ∀ slot, t'.session.history.get? slot =
    if ∃ n ∈ p.read, n.slot? t.session.basePort = some slot then none
    else t.session.history.get? slot
  /-- Hop counts change only at a refusal that the drain stopped at, and only if unset. -/
  kept : t.session.hopsTo.isSome = true ∨ (∀ n, p.ending = .stopped n → n.isRefusal = false) →
    t'.session.hopsTo = t.session.hopsTo ∧ t'.session.hopsFrom = t.session.hopsFrom
  counted : ∀ n, p.ending = .stopped n → n.isRefusal = true → t.session.hopsTo = none →
    t'.session.hopsTo.isSome = true ∧ t'.session.hopsFrom = n.receivedTtl.map returnHops

section Drained
variable {pending : List (Except Failure Notification)} {p : Portion}

/-- Only the notification that a drain stops at can be a refusal. -/
theorem Cuts.not_isRefusal (cut : Cuts pending p)
    (last : ∀ n, p.ending = .stopped n → n.isRefusal = false) :
    ∀ n ∈ p.read, n.isRefusal = false := by
  cases cut with
  | emptied all => exact fun n m => Notification.not_isRefusal_of_going (all n m)
  | failed all => exact fun n m => Notification.not_isRefusal_of_going (all n m)
  | @stopped read n rest all _ =>
    intro m mem
    rcases List.mem_append.mp mem with before | this
    · exact Notification.not_isRefusal_of_going (all m before)
    · rw [List.mem_singleton.mp this]
      exact last n rfl

theorem Cuts.counted (cut : Cuts pending p) {s : Session} {ttl : UInt8} {n : Notification}
    (timely : ∀ n ∈ p.read, ¬n.Overflows) (ending : p.ending = .stopped n)
    (refusal : n.isRefusal = true) (unset : s.hopsTo = none) :
    (s.afterAll ttl p.read).hopsTo.isSome = true ∧
      (s.afterAll ttl p.read).hopsFrom = n.receivedTtl.map returnHops := by
  cases cut with
  | emptied _ => cases ending
  | failed _ => cases ending
  | @stopped read n' rest all _ =>
    injection ending with same
    subst same
    have before : ∀ m ∈ read, m.isRefusal = false := fun m mem =>
      Notification.not_isRefusal_of_going (all m mem)
    have still : (s.afterAll ttl read).hopsTo = none :=
      (s.hops_afterAll (.inl before)).1.trans unset
    have now : ¬n'.Overflows := timely n' List.mem_concat_self
    have counted := Session.hops_after_refusal ttl now refusal still
    rwa [← Session.afterAll_concat] at counted

theorem Portion.Taken.drained {w : World σ} {queue : σ → List (Except Failure Notification)}
    {ttl : UInt8} {t : Tracing σ} {t' : Tracing (Transcript σ)}
    (h : p.Taken w queue ttl t.unspoken t') (cut : Cuts pending p)
    (timely : ∀ n ∈ p.read, ¬n.Overflows) :
    p.Drained w queue ttl t t'.untold t'.world.past := by
  obtain ⟨new, past, answers, events⟩ := h.past
  have told : t'.world.past = new := past.trans (List.append_nil new)
  have session : t'.untold.session = t.session.afterAll ttl p.read := h.session
  constructor
  case left => exact h.queue
  case answers => rwa [told]
  case events => rwa [told]
  case setup =>
    rw [session]
    exact .afterAll ttl t.session p.read
  case mtu =>
    rw [session]
    exact t.session.mtu_afterAll timely
  case slots =>
    rw [session]
    exact t.session.get?_afterAll ttl p.read
  case kept =>
    intro keep
    rw [session]
    exact t.session.hops_afterAll (keep.symm.imp_left cut.not_isRefusal)
  case counted =>
    intro n ending refusal unset
    rw [session]
    exact cut.counted timely ending refusal unset

/-- What a drain does, all of it. It takes the portion of the queue that is cut off where the
trace does not go on, ends as the ending of this portion says and has the effects of the
notifications in it, also where it fails. -/
theorem drain_portion {w : World σ} {queue : σ → List (Except Failure Notification)}
    (h : w.ReadsFrom queue) (ttl : UInt8) (t : Tracing σ)
    (timely : ∀ n ∈ (portion (queue t.world)).read, ¬n.Overflows) :
    Cuts (queue t.world) (portion (queue t.world)) ∧
      ∃ t', w.drain ttl t = (portion (queue t.world)).ending.result t.session.mtu
          (!(portion (queue t.world)).read.isEmpty) t' ∧
        (portion (queue t.world)).Drained w queue ttl t t'
          ((w.transcribed.drain ttl).transcript t) := by
  have cut := cuts_portion (queue t.world)
  obtain ⟨t', taken, ended⟩ :=
    h.drainFrom_portion (t := t.unspoken) (queue t.world) t.session.mtu false rfl timely
  have drained : w.transcribed.drain ttl t.unspoken = _ := ended
  refine ⟨cut, t'.untold, ?_, ?_⟩
  · rw [w.drain_eq, drained, Bool.false_or]
    cases (portion (queue t.world)).ending <;> rfl
  · have told : (w.transcribed.drain ttl).transcript t = t'.world.past := by
      rw [Step.transcript, drained]
      cases (portion (queue t.world)).ending <;> rfl
    rw [told]
    exact taken.drained cut timely

end Drained

namespace Simulation

/-- What a scripted network has queued, as answers. -/
def ScriptedNetwork.answers (s : ScriptedNetwork) : List (Except Failure Notification) :=
  s.queue.map (Except.mapError Failure.io)

theorem scriptedNetwork_readsFrom :
    (scriptedNetwork.attendedBy (Audience.silent _)).ReadsFrom ScriptedNetwork.answers where
  emptied {s} queued := by
    have empty : s.queue = [] := List.map_eq_nil_iff.mp queued
    refine ⟨s, ?_, queued⟩
    change ScriptedNetwork.receiveNotification s = _
    rw [ScriptedNetwork.receiveNotification, empty]
  failed {s e rest} queued := by
    obtain ⟨note, notes, queue, failed, later⟩ := List.map_eq_cons_iff.mp queued
    refine ⟨{ s with queue := notes }, ?_, later⟩
    change ScriptedNetwork.receiveNotification s = _
    rw [ScriptedNetwork.receiveNotification, queue]
    cases note with
    | ok n => cases failed
    | error cause =>
      injection failed with failed
      rw [← failed]
      rfl
  read {s n rest} queued := by
    obtain ⟨note, notes, queue, read, later⟩ := List.map_eq_cons_iff.mp queued
    refine ⟨{ s with queue := notes }, ?_, later⟩
    change ScriptedNetwork.receiveNotification s = _
    rw [ScriptedNetwork.receiveNotification, queue]
    cases note with
    | error cause => cases read
    | ok m =>
      injection read with read
      rw [← read]
      rfl
  resolve _ _ := rfl
  publish _ _ := rfl

end Simulation

namespace FullQueue
open Simulation

/-- An error about the probe in the first slot. -/
def note (code : ErrorCode) (info : UInt32) : Notification :=
  ⟨⟨2000000000⟩, some 44444, [], some ⟨.icmp, code, 11, 0, info, none⟩, some 62⟩

/-- A bottleneck, the target and a router that answers too late. -/
def network : ScriptedNetwork :=
  (ScriptedNetwork.start ⟨2000000000⟩ [] fun _ => none).enqueue
    [.ok (note .messageTooBig 1400), .ok (note .connectionRefused 0), .ok (note .hostUnreachable 0)]

def world : World ScriptedNetwork := scriptedNetwork.attendedBy (Audience.silent _)

def tracing : Tracing ScriptedNetwork :=
  ⟨(Session.start { SessionConfig.default with mtu := 1500 }).record Slot.first 3 ⟨1000000000⟩,
    network⟩

end FullQueue

theorem drain_portion_fullQueue :
    (∀ n ∈ (portion FullQueue.network.answers).read, ¬n.Overflows) ∧
      ∃ t', FullQueue.world.drain 3 FullQueue.tracing = .ok .reached t' ∧
        t'.world.answers = [.ok (FullQueue.note .hostUnreachable 0)] ∧
        t'.session.mtu = 1400 ∧ t'.session.history.get? Slot.first = none ∧
        t'.session.hopsFrom = some 3 := by
  have timely : ∀ n ∈ (portion FullQueue.network.answers).read, ¬n.Overflows := by
    intro n m
    change n ∈ [FullQueue.note .messageTooBig 1400, FullQueue.note .connectionRefused 0] at m
    apply Notification.not_overflows_of_unechoed
    rcases List.mem_cons.mp m with rfl | m
    · rfl
    · rw [List.mem_singleton.mp m]
      rfl
  obtain ⟨-, t', drained, h⟩ :=
    drain_portion Simulation.scriptedNetwork_readsFrom 3 FullQueue.tracing timely
  have counted := h.counted (FullQueue.note .connectionRefused 0) rfl rfl rfl
  exact ⟨timely, t', drained, h.left, h.mtu, (h.slots Slot.first).trans (by decide), counted.2⟩

end HopTrace
