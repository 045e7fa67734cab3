import HopTrace.Proofs.Headroom
import HopTrace.Proofs.Lookups
import HopTrace.Proofs.ReverseLookups
import HopTrace.Proofs.Runs
import HopTrace.Simulation.Kernel

/-!
# The names that a run shows

A responder is shown with the name that its address has in the cache, and the cache forgets
nothing. So an address has one name in all the events of a run, whatever else has been looked up
in the meantime and whatever the system would answer by now.
-/
namespace HopTrace

def Responder.shown? : Responder → Option (IpAddress × Option String)
  | .remote (some a) name => some (a, name)
  | _ => none

/-- The address of the responder that an event shows, and the name that it shows with it. -/
def Event.shown? : Event → Option (IpAddress × Option String)
  | .hop h => h.responder.shown?
  | _ => none

namespace NameCache

/-- Everything that was known is still known. -/
def Extends (c c' : NameCache) : Prop := ∀ a e, c.find? a = some e → c'.find? a = some e

/-- The name that is shown for an address. -/
def Shows (c : NameCache) (mode : AddressMode) (a : IpAddress) (name : Option String) : Prop :=
  if mode ≠ .ip then ∃ e, c.find? a = some e ∧ name = some (e.name?.getD "???")
  else name = none

variable {c c' : NameCache} {mode : AddressMode} {a : IpAddress} {name name' : Option String}

theorem Shows.mono (h : c.Shows mode a name) (grown : c.Extends c') : c'.Shows mode a name := by
  unfold Shows at h ⊢
  split
  · next needed =>
    rw [if_pos needed] at h
    obtain ⟨e, found, named⟩ := h
    exact ⟨e, grown a e found, named⟩
  · next numeric =>
    rw [if_neg numeric] at h
    exact h

/-- A cache has one name for an address. -/
theorem Shows.unique (h : c.Shows mode a name) (h' : c.Shows mode a name') : name = name' := by
  unfold Shows at h h'
  split at h
  · next needed =>
    rw [if_pos needed] at h'
    obtain ⟨e, found, rfl⟩ := h
    obtain ⟨e', found', rfl⟩ := h'
    rw [found] at found'
    injection found' with same
    rw [same]
  · next numeric =>
    rw [if_neg numeric] at h'
    rw [h, h']

end NameCache

variable {σ : Type}

/-- What the resolver answers is known from then on. -/
theorem NameService.reverseLookup_known (svc : NameService σ) (a : IpAddress) (c : NameCache)
    (s : σ) :
    c.Extends (svc.reverseLookup a c s).2.1 ∧
      (svc.reverseLookup a c s).2.1.find? a = some (svc.reverseLookup a c s).1 := by
  cases found : c.find? a with
  | some entry =>
    rw [reverseLookup_of_known found]
    exact ⟨fun _ _ known => known, found⟩
  | none =>
    rw [reverseLookup_of_unknown found]
    constructor
    · intro b e known
      have other : b ≠ a := by
        rintro rfl
        rw [found] at known
        cases known
      rw [NameCache.find?_insert, if_neg other]
      exact known
    · rw [NameCache.find?_insert, if_pos rfl]

/-- Every name that was shown is the one that is known, and all that was written are the events
that were published. -/
structure Reported (mode : AddressMode) (o : Report.Output) (x : Transcript (Running σ)) :
    Prop where
  shown : ∀ e ∈ published x.past, ∀ a name, e.shown? = some (a, name) →
    x.inner.cache.Shows mode a name
  output : x.inner.output = (published x.past).foldl (fun o e => o.event e mode) o

namespace Reported
variable {mode : AddressMode} {o : Report.Output} {x x' : Transcript (Running σ)}

theorem mono (h : Reported mode o x) (told : published x'.past = published x.past)
    (known : x.inner.cache.Extends x'.inner.cache) (written : x'.inner.output = x.inner.output) :
    Reported mode o x' where
  shown e m a name shows := by
    rw [told] at m
    exact (h.shown e m a name shows).mono known
  output := by rw [written, told, h.output]

theorem event (h : Reported mode o x) (e : Event)
    (shows : ∀ a name, e.shown? = some (a, name) → x.inner.cache.Shows mode a name) :
    Reported mode o ⟨.event e :: x.past,
      { x.inner with output := x.inner.output.event e mode }⟩ where
  shown e' m := by
    rw [published_event, List.mem_append, List.mem_singleton] at m
    rcases m with earlier | rfl
    · exact h.shown e' earlier
    · exact shows
  output := by rw [published_event, List.foldl_append, ← h.output]; rfl

/-- An operation on the host that is no event. -/
theorem perform {α : Type} (h : Reported mode o x) {mark : Except Failure α → Exchange}
    (unpublished : ∀ answer, (mark answer).event? = none)
    {act : EStateM Failure (Running σ) α}
    (keeps : ∀ P, Keeps (Running.Holding P) act) :
    Reported mode o (finalState (Transcript.perform mark act x)) := by
  have kept := keeps (fun c o => x.inner.cache.Extends c ∧ o = x.inner.output) x.inner
    ⟨fun _ _ known => known, rfl⟩
  unfold Transcript.perform
  generalize act x.inner = r at kept
  cases r with
  | ok a s => exact h.mono (published_other (unpublished _) _) kept.1 kept.2
  | error e s => exact h.mono (published_other (unpublished _) _) kept.1 kept.2

end Reported

/-- What is true of a trace under way. -/
def Reporting (mode : AddressMode) (o : Report.Output) (t : Tracing (Transcript (Running σ))) :
    Prop :=
  t.session.mode = mode ∧ Reported mode o t.world

namespace Host
variable (h : Host σ) {mode : AddressMode} (target : IpAddress)
variable {o : Report.Output} {x : Transcript (Running σ)} {t : Tracing (Transcript (Running σ))}

theorem network_keeping (mode : AddressMode) (P : NameCache → Report.Output → Prop) :
    (h.world mode target).toNetwork.Keeping (Running.Holding P) :=
  (Running.socket_keeping h.kernel.socket).network target

/-- The name that a responder gets is known. -/
theorem reported_name (reported : Reported mode o x) (r : Responder) :
    let named := (h.world mode target).transcribed.name mode r x
    Reported mode o named.2 ∧
      ∀ a name, named.1.shown? = some (a, name) → named.2.inner.cache.Shows mode a name := by
  intro named
  cases r with
  | «local» => exact ⟨reported, nofun⟩
  | unknown => exact ⟨reported, nofun⟩
  | remote address name =>
    by_cases needed : mode ≠ .ip
    · cases address with
      | none =>
        have same : named = (.remote none (some unresolvedHost), x) := by
          simp only [named, World.name, AddressMode.needsHostname_iff, if_pos needed]
        rw [same]
        exact ⟨reported, nofun⟩
      | some a =>
        have resolved : named = (.remote (some a)
            (some ((h.resolve a x.inner).1.getD unresolvedHost)),
            ⟨.resolve a (h.resolve a x.inner).1 :: x.past, (h.resolve a x.inner).2⟩) := by
          simp only [named, World.name, AddressMode.needsHostname_iff, if_pos needed]
          rfl
        obtain ⟨grown, known⟩ := h.names.reverseLookup_known a x.inner.cache x.inner.host
        rw [resolved]
        refine ⟨reported.mono (published_other rfl _) grown rfl, ?_⟩
        rintro _ _ ⟨⟩
        unfold NameCache.Shows
        rw [if_pos needed]
        exact ⟨_, known, rfl⟩
    · have same : named = (.remote address none, x) := by
        simp only [named, World.name, AddressMode.needsHostname_iff, if_neg needed]
      rw [same]
      refine ⟨reported, fun a name shows => ?_⟩
      cases address with
      | none => cases shows
      | some a =>
        obtain ⟨rfl, rfl⟩ : a = _ ∧ none = name := by simpa [Responder.shown?] using shows
        unfold NameCache.Shows
        rw [if_neg needed]

theorem reporting_readOne (ttl : UInt8) (ht : Reporting mode o t) :
    Reporting mode o (finalState ((h.world mode target).transcribed.readOne ttl t)) := by
  obtain ⟨kept, reported⟩ := ht
  have received : Reported mode o
      (finalState ((h.world mode target).transcribed.receiveNotification t.world)) :=
    reported.perform (fun _ => rfl) fun P => (h.network_keeping target mode P).receiveNotification
  unfold World.readOne World.decode
  generalize (h.world mode target).transcribed.receiveNotification t.world = r at received
  cases r with
  | error e x => exact ⟨kept, received⟩
  | ok found x =>
    cases found with
    | none => exact ⟨kept, received⟩
    | some n =>
      have decodes := t.session.mode_decode ttl n
      rw [kept] at decodes
      dsimp only
      generalize t.session.decode ttl n = d at decodes
      cases d with
      | error e session => exact ⟨decodes, received⟩
      | ok hop session =>
        cases hop with
        | none => exact ⟨decodes, received.event .noInfo nofun⟩
        | some hop =>
          have same : session.mode = mode := decodes
          obtain ⟨named, shows⟩ := h.reported_name target received hop.responder
          dsimp only
          rw [same]
          exact ⟨same, named.event _ shows⟩

theorem reporting_act {α : Type} {mark : Except Failure α → Exchange}
    {act : EStateM Failure (Running σ) α} (unpublished : ∀ answer, (mark answer).event? = none)
    (keeps : ∀ P, Keeps (Running.Holding P) act) (ht : Reporting mode o t) :
    Ends (Reporting mode o) (fun _ => Reporting mode o)
      (Step.world (Transcript.perform mark act) t) := by
  have performed := ht.2.perform unpublished keeps
  unfold Step.world
  generalize Transcript.perform mark act t.world = r at performed
  cases r <;> exact ⟨ht.1, performed⟩

theorem reporting_shoot (ttl : UInt8) (slot : Slot) (ht : Reporting mode o t) :
    Reporting mode o (finalState ((h.world mode target).transcribed.shoot ttl slot t)) := by
  have read : Reported mode o ((h.world mode target).transcribed.now t.world).2 :=
    ht.2.mono (published_other rfl _) (fun _ _ known => known) rfl
  have sent (payload : Payload) (port : UInt16) : Reported mode o (finalState
      ((h.world mode target).transcribed.send payload port
        ((h.world mode target).transcribed.now t.world).2)) :=
    read.perform (fun _ => rfl) fun P => (h.network_keeping target mode P).send payload port
  rw [World.shoot_eq]
  unfold World.trySend
  specialize sent
    ((t.session.record slot ttl ((h.world mode target).transcribed.now t.world).1).payload ttl
      ((h.world mode target).transcribed.now t.world).1) (slot.port t.session.basePort)
  generalize (h.world mode target).transcribed.send _ _ _ = r at sent
  cases r with
  | ok _ x => exact ⟨ht.1, sent⟩
  | error e x => cases e <;> exact ⟨ht.1, sent⟩

theorem carries_reporting (ttl : UInt8) :
    (h.world mode target).transcribed.Carries ttl (Reporting mode o)
      (fun _ => Reporting mode o) where
  readOne ht := .of_finalState (h.reporting_readOne target ttl ht)
  shoot slot ht := .of_finalState (h.reporting_shoot target ttl slot ht)
  awaitReadable ht := reporting_act (fun _ => rfl)
    (fun P => (h.network_keeping target mode P).awaitReadable _) ht
  receiveReply ht := reporting_act (fun _ => rfl)
    (fun P => (h.network_keeping target mode P).receiveReply) ht
  publish e engine ht := by
    simp only [List.mem_cons, List.not_mem_nil, or_false] at engine
    obtain rfl | rfl | rfl := engine <;> exact ⟨ht.1, ht.2.event _ nofun⟩
  clear _ ht := ht
  advance ht := ht

end Host

/-- What a run publishes and writes: every name is the one that is known at the end, and the
output holds a line for each event, followed by the summary if the run succeeds. -/
structure RunReport (mode : AddressMode) (o : Report.Output) (events : List Event)
    (result : EStateM.Result RunFailure (Running σ) Unit) : Prop where
  shown : ∀ e ∈ events, ∀ a name, e.shown? = some (a, name) →
    (finalState result).cache.Shows mode a name
  failed : ∀ e r, result = .error e r → r.output = events.foldl (fun o e => o.event e mode) o
  finished : ∀ r, result = .ok () r → ∃ summary,
    r.output = (events.foldl (fun o e => o.event e mode) o).summary summary

/-- A tracer that was built shows responders as the settings say. -/
theorem Settings.mode_built {s : Settings} {target : IpAddress} {tracer : Tracer}
    (built : (s.request target).build = .ok tracer) : tracer.config.mode = s.mode := by
  obtain ⟨_, -, -, config⟩ := TraceRequest.build_eq_ok built
  rw [config]
  rfl

section Report
variable {h : Host σ} {s : Settings} {r r₁ r₂ : Running σ} {tracer : Tracer} {target : IpAddress}

theorem output_resolved {result : EStateM.Result RunFailure (Running σ) IpAddress}
    (resolved : Running.onHost (h.resolveTarget s) r = result) :
    (finalState result).output = r.output :=
  resolved ▸ Running.keeps_onHost (P := fun _ o => o = r.output) _ r rfl

theorem output_connected {result : EStateM.Result Failure (Running σ) Unit}
    (connected : (Running.socket h.kernel.socket).connect target r = result) :
    (finalState result).output = r.output := by
  have keeping := Running.socket_keeping (P := fun _ o => o = r.output) h.kernel.socket
  exact connected ▸ keeping.connect target r rfl

theorem reporting_traced (resolved : Running.onHost (h.resolveTarget s) r = .ok target r₁)
    (built : (s.request target).build = .ok tracer)
    (connected : (Running.socket h.kernel.socket).connect tracer.target r₁ = .ok () r₂)
    {result : EStateM.Result Failure (Tracing (Transcript (Running σ))) Summary}
    (traced : (h.world s.mode tracer.target).transcribed.trace
      (Tracing.unspoken ⟨Session.start tracer.config, r₂⟩) = result) :
    Reported s.mode r.output (finalState result).world := by
  have output : r₂.output = r.output :=
    (output_connected connected).trans (output_resolved resolved)
  have start : Reporting s.mode r.output
      (Tracing.unspoken ⟨Session.start tracer.config, r₂⟩) :=
    ⟨Settings.mode_built built, List.forall_mem_nil _, output⟩
  have ends := World.Carries.trace (fun ttl _ => h.carries_reporting tracer.target ttl)
    (fun ttl _ _ => Host.reporting_act (fun _ => rfl)
      fun P => (h.network_keeping tracer.target s.mode P).setTtl ttl) start
  exact traced ▸ ends.finalState.2

theorem RunExec.report {started : Option Tracer} {events : List Event}
    {result : EStateM.Result RunFailure (Running σ) Unit}
    (ex : RunExec h s r started events result) : RunReport s.mode r.output events result := by
  cases ex with
  | unresolved resolved =>
    exact ⟨List.forall_mem_nil _, fun | _, _, rfl => output_resolved resolved, nofun⟩
  | unbuilt resolved _ =>
    exact ⟨List.forall_mem_nil _, fun | _, _, rfl => output_resolved resolved, nofun⟩
  | unconnected resolved _ connected =>
    have same := (output_connected connected).trans (output_resolved resolved)
    exact ⟨List.forall_mem_nil _, fun | _, _, rfl => same, nofun⟩
  | failed resolved built connected traced =>
    have reported := reporting_traced resolved built connected traced
    exact ⟨reported.shown, fun | _, _, rfl => reported.output, nofun⟩
  | @finished _ _ _ _ summary _ resolved built connected traced =>
    have reported := reporting_traced resolved built connected traced
    exact ⟨reported.shown, nofun,
      fun | _, rfl => ⟨summary, congrArg (·.summary summary) reported.output⟩⟩

end Report

/-- The system is asked for the name of an address at the first call for it and never again.
Every call is answered with what the system answered then, whether it was a name or none. If
what the system would answer about an address does not depend on what it is asked about others,
the answers to the calls for it do not either. So in all the events of a run an address is shown
with one name. -/
theorem reverseLookups_remembered {σ : Type} :
    (∀ (svc : NameService σ) (as : List IpAddress) (s : σ),
      svc.inquired.reverseLookups as .empty ⟨[], s⟩ =
        (svc.answers as s, svc.known as s, ⟨svc.queries as s, svc.after as s⟩) ∧
      (∀ a, svc.queries (as ++ [a]) s = svc.queries as s ++
        if a ∈ as then [] else [⟨a, (svc.reverse a (svc.after as s)).1⟩]) ∧
      ((svc.queries as s).map NameQuery.address).Nodup ∧
      (∀ a, a ∈ (svc.queries as s).map NameQuery.address ↔ a ∈ as) ∧
      List.Forall₂ (fun a entry => ∃ q ∈ svc.queries as s,
        q.address = a ∧ entry = .ofAnswer a q.answer) as (svc.answers as s) ∧
      ∀ a answer P, svc.Settled a answer P → P s →
        ∀ entry, (a, entry) ∈ as.zip (svc.answers as s) → entry = .ofAnswer a answer) ∧
    ∀ (h : Host σ) (settings : Settings) (r : Running σ),
      (∃ started events, RunExec h settings r started events (h.run settings r)) ∧
      ∀ started events result, RunExec h settings r started events result →
        RunReport settings.mode r.output events result ∧
        ∀ e ∈ events, ∀ e' ∈ events, ∀ a name name',
          e.shown? = some (a, name) → e'.shown? = some (a, name') → name = name' := by
  constructor
  · intro svc as s
    have h := svc.remembers as s
    have answered : List.Forall₂ (fun a entry => ∃ q ∈ svc.queries as s,
        q.address = a ∧ entry = .ofAnswer a q.answer) as (svc.answers as s) := by
      refine h.answered.imp ?_
      rintro a entry ⟨q, m, rfl, rfl⟩
      exact ⟨q, m, rfl, rfl⟩
    refine ⟨svc.reverseLookups_inquired as s, fun a => NameService.queries_next, h.once, h.asked,
      answered, ?_⟩
    intro a answer P settled start entry called
    obtain ⟨q, m, same, rfl⟩ := (List.forall₂_iff_zip.mp answered).2 called
    rw [(settled.queries start).2 q m same]
  · intro h settings r
    refine ⟨h.run_exec settings r, ?_⟩
    intro started events result ex
    have report := ex.report
    refine ⟨report, ?_⟩
    intro e m e' m' a name name' shows shows'
    exact (report.shown e m a name shows).unique (report.shown e' m' a name' shows')

namespace RenamedRouter
open Simulation

def router : IpAddress := .v4 (.ofOctets 192 0 2 1)

def clock : Instant := ⟨1000000000⟩

/-- The router has another name as soon as it has been asked for. Nobody else has one. -/
def names : NameService ScriptedKernel where
  forward _ s := .ok [.v4 (.ofOctets 192 0 2 9)] s
  reverse a s :=
    if a = router then
      (some (if s.clock = clock then "early" else "late"), { s with clock := s.clock.later 1 })
    else (none, s)

def host : Host ScriptedKernel where
  kernel := scriptedKernel
  names
  errorBacklog_reverse_le a s := by
    unfold names
    dsimp only
    split <;> exact Nat.le_refl _

/-- The router says that the datagram has been on its way for too long. -/
def exceeded : ScriptedMessage where
  name := some .v4
  port := .sent
  payload := .echo
  after := 0
  control := [.errorV4 ⟨113, 2, 11, 0, 0⟩ (some (.ofOctets 192 0 2 1))]
  cutOff := false

/-- Two datagrams in turn end at the router. -/
def kernel : ScriptedKernel :=
  let entry := { KernelEntry.empty with errors := [.ok exceeded] }
  .start clock [entry, entry] none fun _ => none

def setup (mode : AddressMode) : Settings where
  target := "target"
  port := 0
  preference := .system
  packetLength := some 1500
  maxHops := 2
  mode
  verbose := false
  logFormat := .pretty
  logFilter := ""
  logSpanEvents := .off

def target : IpAddress := .v4 (.ofOctets 192 0 2 9)

def tracer (mode : AddressMode) : Tracer where
  target := target
  config := { SessionConfig.default with mtu := 1500, maxTtl := 2, mode }

def connected : Running ScriptedKernel :=
  finalState ((Running.socket host.kernel.socket).connect target (Running.start kernel))

/-- The name that is shown in the events of a run. -/
def name? : AddressMode → Option String
  | .ip => none
  | .host | .hostIp | .ipHost => some "early"

theorem shown (mode : AddressMode) : ∃ events result,
    RunExec host (setup mode) (Running.start kernel) (some (tracer mode)) events result ∧
      events.filterMap Event.shown? = [(router, name? mode), (router, name? mode)] := by
  have seen : ((host.world mode target).transcribed.traceWithin 4
      (Tracing.unspoken ⟨Session.start (tracer mode).config, connected⟩)).map (fun r =>
        (answer? r, (published (finalState r).world.past).filterMap Event.shown?)) =
      some (some ⟨1500, none, none, .tooManyHops⟩,
        [(router, name? mode), (router, name? mode)]) := by
    cases mode <;> decide +kernel
  have ended := World.trace_seen seen
  obtain ⟨answer, names⟩ := Prod.mk.inj ended
  obtain ⟨t, traced⟩ := answer?_eq_some_iff.mp answer
  rw [traced] at names
  have resolved : Running.onHost (host.resolveTarget (setup mode)) (Running.start kernel) =
      .ok target (Running.start kernel) := by cases mode <;> rfl
  have built : ((setup mode).request target).build = .ok (tracer mode) := rfl
  have connects : (Running.socket host.kernel.socket).connect (tracer mode).target
      (Running.start kernel) = .ok () connected := rfl
  exact ⟨_, _, .finished resolved built connects traced, names⟩

theorem settled : names.Settled router (some "early") (·.clock = clock) where
  answers start := by
    unfold names
    simp only [if_pos start, if_true]
  others b other start := by
    unfold names
    simp only [if_neg other]
    exact start

/-- In a run in the given mode the router is shown twice, with the given name. -/
def Runs (mode : AddressMode) (name : Option String) : Prop :=
  ∃ events result,
    RunExec host (setup mode) (Running.start kernel) (some (tracer mode)) events result ∧
    events.filterMap Event.shown? = [(router, name), (router, name)] ∧
    RunReport mode Report.Output.empty events result

end RenamedRouter

open RenamedRouter in
/-- The router keeps the name that it had at first, in a sequence of calls and in a run that shows
names. The mapped address of the router is another address, and has no name at all. -/
theorem reverseLookups_remembered_renamedRouter :
    names.answers [.v6 (Ipv4.ofOctets 192 0 2 1).mapped, router, router] kernel =
      [.notFound (.v6 (Ipv4.ofOctets 192 0 2 1).mapped), .resolved router ["early"],
        .resolved router ["early"]] ∧
    (∀ entry, (router, entry) ∈ [router].zip (names.answers [router] kernel) →
      entry = .resolved router ["early"]) ∧
    Runs .host (some "early") ∧ Runs .hostIp (some "early") ∧ Runs .ipHost (some "early") ∧
    Runs .ip none := by
  obtain ⟨sequence, run⟩ := @reverseLookups_remembered Simulation.ScriptedKernel
  obtain ⟨-, -, -, -, -, unaffected⟩ := sequence names [router] kernel
  have runs (mode : AddressMode) : Runs mode (name? mode) := by
    obtain ⟨events, result, ex, shown⟩ := RenamedRouter.shown mode
    obtain ⟨report, -⟩ := (run host (setup mode) (Running.start kernel)).2 _ events result ex
    exact ⟨events, result, ex, shown, report⟩
  exact ⟨by decide +kernel, unaffected router _ _ settled rfl, runs .host, runs .hostIp,
    runs .ipHost, runs .ip⟩

end HopTrace
