import HopTrace.Proofs.Evaluation
import HopTrace.Proofs.Header
import HopTrace.Proofs.HopLimits
import HopTrace.Simulation.Kernel

/-!
# What a run does on the wire

The system calls of a run, judged by themselves. The socket is created and told all its
options, by the numbers the host knows them by, before anything is sent. For each version
that concerns the target the hop limits 1, 2, 3 and so on are set, and for the other version
none. A datagram starts with the one in force when it is sent, in four bytes. Its port is the
base port and the number of the call of the probe engine that sends it, counted in rounds of
sixty-four.
-/
namespace HopTrace

section Connected
variable {target : IpAddress} {answer : Except Failure Unit} {new : List SystemExchange}

/-- Setting the socket up sends nothing, publishes nothing and sets no hop limit. -/
theorem Connected.quiet (h : Connected target answer new) :
    ∀ y ∈ new, y.audible = false ∧ ∀ version, y.setting? version = none := by
  intro y m
  cases h with
  | uncreated _ _ =>
    cases List.mem_singleton.mp m
    exact ⟨rfl, fun _ => rfl⟩
  | created settled =>
    rcases List.mem_append.mp m with later | first
    · obtain ⟨feature, answer, rfl⟩ := settled.made y later
      exact ⟨rfl, fun version => setting?_feature version feature _ answer⟩
    · cases List.mem_singleton.mp first
      exact ⟨rfl, fun _ => rfl⟩

theorem Connected.settings (h : Connected target answer new) (version : IpVersion) :
    HopTrace.settings version new = [] :=
  settings_eq_nil fun y m => (h.quiet y m).2 version

theorem Connected.not_audible (h : Connected target answer new) {y : SystemExchange}
    {before : List SystemExchange} (audible : y.audible = true) : ¬y :: before <:+ new := by
  intro here
  have quiet := (h.quiet y (here.subset List.mem_cons_self)).1
  rw [audible] at quiet
  cases quiet

/-- A socket for the version of the target was created. -/
def Created (past : List SystemExchange) : IpAddress → Prop
  | .v4 _ => .createSocket .v4 (.ok ()) ∈ past
  | .v6 _ => .createSocket .v6 (.ok ()) ∈ past

/-- The host has accepted `value` for the option that it knows by a level and a number. -/
def Accepts (past : List SystemExchange) (level number value : Nat) : Prop :=
  ∃ option : SocketOption, option.level = level ∧ option.number = number ∧
    .setOption option value (.ok ()) ∈ past

/-- The host was told, for a version, never to fragment (`IP_MTU_DISCOVER`, with the value
`IP_PMTUDISC_DO`), to queue errors (`IP_RECVERR`), and to report with which hop limit they
arrive (`IP_RECVTTL`, which is `IPV6_RECVHOPLIMIT` for version 6). -/
def Equipped (past : List SystemExchange) : IpVersion → Prop
  | .v4 => Accepts past 0 10 2 ∧ Accepts past 0 11 1 ∧ Accepts past 0 12 1
  | .v6 => Accepts past 41 23 2 ∧ Accepts past 41 25 1 ∧ Accepts past 41 51 1

/-- The socket was created, and equipped for each version that concerns the target. -/
structure Prepared (target : IpAddress) (past : List SystemExchange) : Prop where
  created : Created past target
  equipped : ∀ version, Concerns target version → Equipped past version

theorem Created.mono {past past' : List SystemExchange} (h : Created past target)
    (grown : past <:+ past') : Created past' target := by
  cases target with
  | v4 ip => exact grown.subset h
  | v6 ip => exact grown.subset h

theorem Accepts.mono {past past' : List SystemExchange} {level number value : Nat}
    (h : Accepts past level number value) (grown : past <:+ past') :
    Accepts past' level number value := by
  obtain ⟨option, known, numbered, m⟩ := h
  exact ⟨option, known, numbered, grown.subset m⟩

theorem Equipped.mono {past past' : List SystemExchange} {version : IpVersion}
    (h : Equipped past version) (grown : past <:+ past') : Equipped past' version := by
  cases version <;> exact ⟨h.1.mono grown, h.2.1.mono grown, h.2.2.mono grown⟩

theorem Prepared.mono {past past' : List SystemExchange} (h : Prepared target past)
    (grown : past <:+ past') : Prepared target past' :=
  ⟨h.created.mono grown, fun version own => (h.equipped version own).mono grown⟩

/-- The features of a version, switched on, are what the host was to be told. -/
theorem equipped_of_features {past : List SystemExchange} {version : IpVersion}
    (enabled : ∀ feature ∈ SocketFeature.all version,
      .setOption (.feature feature) feature.value (.ok ()) ∈ past) : Equipped past version := by
  have accepts (feature : SocketFeature) (m : feature ∈ SocketFeature.all version) :
      Accepts past (SocketOption.feature feature).level (SocketOption.feature feature).number
        feature.value := ⟨.feature feature, rfl, rfl, enabled feature m⟩
  have discovery := accepts (.mtuDiscover version) (by simp [SocketFeature.all])
  have errors := accepts (.errors version) (by simp [SocketFeature.all])
  have limits := accepts (.receivedTtl version) (by simp [SocketFeature.all])
  cases version <;> exact ⟨discovery, errors, limits⟩

/-- A target has the features of every version that concerns it. -/
theorem features_of_concerns {version : IpVersion} (own : Concerns target version) :
    SocketFeature.all version ⊆ (Family.ofTarget target).features := by
  cases own with
  | v4 ip => exact List.Subset.refl _
  | v6 ip =>
    change _ ⊆ (Family.v6 ip.isMapped).features
    cases ip.isMapped
    · exact List.Subset.refl _
    · exact List.subset_append_left _ _
  | mapped upper lower => exact List.subset_append_right _ _

theorem Connected.prepared (h : Connected target answer new) (ok : answer = .ok ()) :
    Prepared target new := by
  cases h with
  | uncreated _ _ => cases ok
  | created settled =>
    constructor
    · cases target with
      | v4 ip => exact List.mem_append_right _ List.mem_cons_self
      | v6 ip => exact List.mem_append_right _ List.mem_cons_self
    · intro version own
      apply equipped_of_features
      intro feature m
      exact List.mem_append_left _ (settled.complete ok feature (features_of_concerns own m))

end Connected

/-- A number of 32 bits, the most significant byte first. -/
def fourBytes (n : Nat) : List UInt8 :=
  [UInt8.ofNat (n / 16777216), UInt8.ofNat (n / 65536), UInt8.ofNat (n / 256), UInt8.ofNat n]

/-- The hop limits and datagrams of a run to `target` are as they should be. -/
structure Conforms (target : IpAddress) (maxTtl : Nat) (log : List SystemExchange) : Prop where
  prepared : ∀ payload dest answer before, .sendTo payload dest answer :: before <:+ log →
    dest.address = target ∧ Prepared target before
  climbs : ∀ version, Concerns target version →
    ∃ n, n ≤ maxTtl ∧ Consecutive n (settings version log)
  unset : ∀ version, ¬Concerns target version → settings version log = []
  announced : ∀ payload dest answer before, .sendTo payload dest answer :: before <:+ log →
    ∃ ttl, (∀ version, Concerns target version → hopLimit? version before = some ttl) ∧
      payload.bytes.take 4 = (fourBytes ttl).take payload.length
  traced : ∀ e ttl before, .event e :: before <:+ log → e.ttl? = some ttl →
    ∀ version, Concerns target version → hopLimit? version before = some ttl.toNat

theorem bigEndian_four (n : Nat) : bigEndian 4 n = fourBytes n := by
  simp [bigEndian, fourBytes, Nat.div_div_eq_div_mul]

/-- The first four bytes of a payload are those of its ttl, as far as they go. -/
theorem Payload.take_four_bytes (payload : Payload) :
    payload.bytes.take 4 = (fourBytes payload.header.ttl.toNat).take payload.length := by
  have front : payload.bytes.take 4 = payload.leading.take 4 := by
    rw [← payload.take_bytes, List.take_take]
    rfl
  have ttl : payload.header.encode.take 4 = fourBytes payload.header.ttl.toNat := by
    unfold ProbeHeader.encode
    rw [List.append_assoc, ← bigEndian_four]
    exact List.take_left' (length_bigEndian 4 _)
  rw [front, ← ttl]
  unfold Payload.leading
  rw [List.take_take, List.take_take, Nat.min_comm]

section Trace
variable {target : IpAddress} {new log : List SystemExchange} {past : List Exchange}
variable {n maxTtl : Nat}

theorem conforms_unconnected {f : Failure} (h : Connected target (.error f) new) (maxTtl : Nat) :
    Conforms target maxTtl new where
  prepared _ _ _ _ here := absurd here (h.not_audible rfl)
  unset version _ := h.settings version
  climbs version _ := by
    refine ⟨0, Nat.zero_le maxTtl, ?_⟩
    rw [h.settings version]
    exact consecutive_rungs 0
  announced _ _ _ _ here := absurd here (h.not_audible rfl)
  traced _ _ _ here _ := absurd here (h.not_audible rfl)

theorem Spelled.conforms (spelled : Spelled target new past log)
    (connected : Connected target (.ok ()) new) (climbed : Climbed n past) (low : n ≤ maxTtl) :
    Conforms target maxTtl log where
  prepared payload dest answer before here := by
    rcases spelled.sendTo here with first | ⟨port, result, past', made, told, address⟩
    · exact absurd first (connected.not_audible rfl)
    · rw [address]
      exact ⟨rfl, (connected.prepared rfl).mono told.suffix⟩
  unset version other := spelled.settings_other (connected.settings version) other
  climbs version own := by
    obtain ⟨m, bound, consecutive⟩ := spelled.consecutive climbed (connected.settings version) own
    exact ⟨m, Nat.le_trans bound low, consecutive⟩
  announced payload dest answer before here := by
    rcases spelled.sendTo here with first | ⟨port, result, past', made, told, -⟩
    · exact absurd first (connected.not_audible rfl)
    · obtain ⟨positive, climb⟩ := climbed.carried made rfl
      refine ⟨payload.header.ttl.toNat, ?_, payload.take_four_bytes⟩
      intro version own
      exact told.inForce climb positive (connected.settings version) own
  traced e ttl before here carries := by
    rcases spelled.published here with first | ⟨past', made, told⟩
    · exact absurd first (connected.not_audible rfl)
    · have carries : Exchange.ttl? (.event e) = some ttl.toNat := congrArg (Option.map _) carries
      obtain ⟨positive, climb⟩ := climbed.carried made carries
      intro version own
      exact told.inForce climb positive (connected.settings version) own

/-- What a trace that has gone through all its ttls leaves behind. -/
structure Exhausted (target : IpAddress) (maxTtl : Nat) (log : List SystemExchange) : Prop where
  set : ∀ version, Concerns target version → settings version log = rungs maxTtl
  accepted : ∀ ttl, 1 ≤ ttl → ttl ≤ maxTtl → ∃ payload dest before,
    .sendTo payload dest (.ok ()) :: before <:+ log ∧
      ∀ version, Concerns target version → hopLimit? version before = some ttl

theorem Spelled.exhausted (spelled : Spelled target new past log)
    (connected : Connected target (.ok ()) new) (climb : Climb maxTtl past)
    (accepted : ∀ ttl, 1 ≤ ttl → ttl ≤ maxTtl → Accepted ttl past) :
    Exhausted target maxTtl log where
  set version own := spelled.settings climb (connected.settings version) own
  accepted ttl positive low := by
    obtain ⟨payload, port, past', here, carried⟩ := accepted ttl positive low
    obtain ⟨before, made, told⟩ := spelled.accepted here
    obtain ⟨_, climb⟩ := climb.carried here (congrArg some carried)
    refine ⟨payload, _, before, made, ?_⟩
    intro version own
    exact told.inForce climb positive (connected.settings version) own

end Trace

/-- What happens on the host between two calls of the probe engine. -/
def SystemExchange.pausing : SystemExchange → Bool
  | .setOption _ _ _ | .event (.noReply _) => true
  | _ => false

section Ports
variable {κ : Type} (k : Kernel κ) (target : IpAddress) (a : Audience κ k.errorBacklog)

/-- The system calls of one call of the probe engine, and the exchanges they spell out. -/
theorem spelled_call (call : Attempt (SystemTranscript κ)) :
    ∃ past, CallSoFar call.ttl call.port [] past ∧
      Spelled target call.start.world.past past
        (finalState (call.result (k.transcribedWorld target a))).world.past := by
  have start : Beside (Retold target call.start.world.past) call.start
      (Tracing.unspoken ⟨call.start.session, call.start.world.inner⟩) := ⟨rfl, rfl, .start⟩
  have simulates := (transcribedWorld_matches k target a call.start.world.past).simulates call.ttl
  have retold := (simulates.sendProbe start).finalStates
  have soFar := Attempt.callSoFar (k.world target a)
    ⟨call.ttl, Tracing.unspoken ⟨call.start.session, call.start.world.inner⟩⟩
  exact ⟨_, soFar, retold.2⟩

/-- A call sends all its datagrams to its own port. -/
theorem port_of_makes {call : Attempt (SystemTranscript κ)} {payload : Payload} {dest : Endpoint}
    {answer : Except Errno Unit} {before : List SystemExchange}
    (made : call.Makes (k.transcribedWorld target a) SystemTranscript.past
      (.sendTo payload dest answer) before) : dest.port = call.port := by
  obtain ⟨past, soFar, spelled⟩ := spelled_call k target a call
  rcases spelled.sendTo made.2 with first | ⟨port, result, past', here, -, rfl⟩
  · exact absurd made.1 (not_suffix_of_cons_suffix first)
  · exact (soFar.sends payload port result past' List.nil_suffix here).port

theorem transcribedWorld_logs :
    (k.transcribedWorld target a).Logs SystemTranscript.past SystemExchange.pausing where
  call call := by
    obtain ⟨_, -, spelled⟩ := spelled_call k target a call
    exact spelled.suffix
  set ttl x := by
    have told := told_setTtl k target a ttl x
    have idle {answer new} (spells : Spells target (.setTtl ttl answer) new) :
        ∀ y ∈ new, y.pausing = true := by
      intro y m
      cases spells with
      | setTtl settled =>
        obtain ⟨_, _, rfl⟩ := settled.made y m
        rfl
    generalize (k.world target a).setTtl ttl x.inner = r at told
    generalize (k.transcribedWorld target a).setTtl ttl x = r' at told
    cases told with
    | ok new spells => exact ⟨new, rfl, idle spells⟩
    | error new spells => exact ⟨new, rfl, idle spells⟩
  givenUp ttl x := ⟨[.event (.noReply ttl)], rfl, by simp [SystemExchange.pausing]⟩

end Ports

/-- The datagrams of a run, by the calls of the probe engine that sent them. -/
structure Numbered {κ : Type} (w : World (SystemTranscript κ)) (base : UInt16)
    (calls : List (Attempt (SystemTranscript κ))) (log : List SystemExchange) : Prop where
  numbered : ∀ payload dest answer before, .sendTo payload dest answer :: before <:+ log →
    ∃ (j : Nat) (call : Attempt (SystemTranscript κ)), calls[j]? = some call ∧
      call.Makes w SystemTranscript.past (.sendTo payload dest answer) before ∧
      dest.port = call.port ∧ dest.port.toNat = (base.toNat + j % 64) % 65536
  distinct : ∀ (i j : Nat) (first second : Attempt (SystemTranscript κ)),
    calls[i]? = some first → calls[j]? = some second → i < j → j < i + 64 →
    first.port ≠ second.port

/-- What is no datagram needs no call of the probe engine. -/
theorem numbered_nil {κ : Type} (w : World (SystemTranscript κ)) (base : UInt16)
    {log : List SystemExchange} (silent : ∀ y ∈ log, y.audible = false) :
    Numbered w base [] log where
  numbered payload dest answer before here := by
    cases silent _ (here.subset List.mem_cons_self)
  distinct i j first second called := by cases called

theorem numbered_trace {κ : Type} (k : Kernel κ) (target : IpAddress)
    (a : Audience κ k.errorBacklog) (c : SessionConfig) {x : SystemTranscript κ}
    {walk : List (List (Attempt (SystemTranscript κ)))}
    {r : EStateM.Result Failure (Tracing (SystemTranscript κ)) Summary}
    (exec : TraceExec (k.transcribedWorld target a) ⟨Session.start c, x⟩ walk r)
    (silent : ∀ y ∈ x.past, y.audible = false) :
    Numbered (k.transcribedWorld target a) c.basePort walk.flatten (finalState r).world.past where
  numbered payload dest answer before here := by
    have fresh : ¬.sendTo payload dest answer :: before <:+ x.past := by
      intro first
      cases silent _ (first.subset List.mem_cons_self)
    obtain ⟨j, call, called, made⟩ :=
      exec.calls.made (transcribedWorld_logs k target a) fresh rfl here
    have port := port_of_makes k target a made
    refine ⟨j, call, called, made, port, ?_⟩
    rw [port, exec.calls.port called]
    exact toNat_port_after c.basePort j
  distinct i j first second called called' later near :=
    exec.calls.port_ne called called' later near

section Run
variable {κ : Type} (k : Kernel κ) (target : IpAddress) (a : Audience κ k.errorBacklog)
variable (c : SessionConfig) {new : List SystemExchange}

theorem conforms_traceWith (connected : Connected target (.ok ()) new) (s : κ) :
    Conforms target c.maxTtl.toNat
      (finalState ((k.transcribedWorld target a).traceWith c ⟨new, s⟩)).past := by
  have agree := agree_transcribedWorld k target a c ⟨new, s⟩
  obtain ⟨walk, exec⟩ :=
    (k.world target a).transcribed.trace_exec (Tracing.unspoken ⟨Session.start c, s⟩)
  obtain ⟨n, low, climbed⟩ := exec.climbed rfl
  rw [finalState_traceWith]
  exact agree.finalStates.2.conforms connected climbed low

theorem exhausted_traceWith (connected : Connected target (.ok ()) new) (s : κ)
    {summary : Summary} {x : SystemTranscript κ}
    (ended : (k.transcribedWorld target a).traceWith c ⟨new, s⟩ = .ok summary x)
    (spent : summary.completion = .tooManyHops) : Exhausted target c.maxTtl.toNat x.past := by
  have agree := agree_transcribedWorld k target a c ⟨new, s⟩
  obtain ⟨walk, exec⟩ :=
    (k.world target a).transcribed.trace_exec (Tracing.unspoken ⟨Session.start c, s⟩)
  rw [World.traceWith_eq] at ended
  generalize (k.transcribedWorld target a).trace ⟨Session.start c, ⟨new, s⟩⟩ = r at agree ended
  cases r with
  | error e t => cases ended
  | ok answer t =>
    injection ended with same state
    subst same state
    obtain ⟨_, u, told, rfl, -, -, spelled⟩ := agree.of_ok
    obtain ⟨climb, accepted⟩ := exec.topped rfl told spent
    exact spelled.exhausted connected climb accepted

end Run

/-- A run does on the wire what it should, whatever the host answers. The datagrams are
numbered by the calls of the probe engine, of which there are none unless the socket could
be set up. A run that ends for want of hops has set every hop limit, and the host has
accepted a datagram with each. -/
theorem Tracer.run_conforms {κ : Type} (tracer : Tracer) (k : Kernel κ)
    (a : Audience κ k.errorBacklog) (s : κ) :
    tracer.runWith k.socket a s = forgottenResult (tracer.transcribedRun k a s) ∧
    Conforms tracer.target tracer.config.maxTtl.toNat
      (finalState (tracer.transcribedRun k a s)).past ∧
    (∃ walk : List (List (Attempt (SystemTranscript κ))),
      (∀ x, k.transcribed.socket.connect tracer.target ⟨[], s⟩ = .ok () x →
        TraceExec (k.transcribedWorld tracer.target a) ⟨Session.start tracer.config, x⟩ walk
          ((k.transcribedWorld tracer.target a).trace ⟨Session.start tracer.config, x⟩)) ∧
      Numbered (k.transcribedWorld tracer.target a) tracer.config.basePort walk.flatten
        (finalState (tracer.transcribedRun k a s)).past) ∧
    ∀ summary x, tracer.transcribedRun k a s = .ok summary x →
      summary.completion = .tooManyHops →
      Exhausted tracer.target tracer.config.maxTtl.toNat x.past := by
  refine ⟨tracer.runWith_eq k a s, ?_⟩
  have connected := told_connect k tracer.target ⟨[], s⟩
  rw [Tracer.transcribedRun_eq]
  generalize k.socket.connect tracer.target s = r at connected
  generalize k.transcribed.socket.connect tracer.target ⟨[], s⟩ = r' at connected
  cases connected with
  | error new uncreated =>
    rw [List.append_nil]
    have silent : ∀ y ∈ new, y.audible = false := fun y m => (uncreated.quiet y m).1
    refine ⟨conforms_unconnected uncreated _, ⟨[], ?_, numbered_nil _ _ silent⟩, ?_⟩
    · intro x connected
      cases connected
    · intro summary x ended
      cases ended
  | @ok _ s new created =>
    rw [List.append_nil]
    obtain ⟨walk, exec⟩ := (k.transcribedWorld tracer.target a).trace_exec
      ⟨Session.start tracer.config, ⟨new, s⟩⟩
    have silent : ∀ y ∈ new, y.audible = false := fun y m => (created.quiet y m).1
    refine ⟨conforms_traceWith k tracer.target a tracer.config created s, ⟨walk, ?_, ?_⟩, ?_⟩
    · intro x connected
      injection connected with _ state
      exact state ▸ exec
    · have numbered := numbered_trace k tracer.target a tracer.config exec silent
      rw [← finalState_traceWith] at numbered
      exact numbered
    · intro summary x ended spent
      exact exhausted_traceWith k tracer.target a tracer.config created s ended spent

namespace Mute
open Simulation

/-- A datagram that was taken: how long it is, how it starts, and its port. -/
structure Datagram where
  length : Nat
  start : List UInt8
  port : UInt16
  deriving DecidableEq

def datagrams (past : List SystemExchange) : List Datagram :=
  past.filterMap fun
    | .sendTo payload dest (.ok ()) =>
      some ⟨payload.length, payload.bytes.take 4, dest.port⟩
    | _ => none

/-- Three datagrams of `length` bytes with each of two hop limits, all to ports of their own. -/
def taken (length : Nat) : List Datagram :=
  [⟨length, [0, 0, 0, 2], 44449⟩, ⟨length, [0, 0, 0, 2], 44448⟩, ⟨length, [0, 0, 0, 2], 44447⟩,
    ⟨length, [0, 0, 0, 1], 44446⟩, ⟨length, [0, 0, 0, 1], 44445⟩, ⟨length, [0, 0, 0, 1], 44444⟩]

section
variable (target : IpAddress)

/-- Two hops at most are asked for. -/
def request : TraceRequest where
  target := target
  packetLength := some 1500
  maxTtl := 2

def tracer : Tracer where
  target := target
  config :=
    { SessionConfig.default with family := Family.ofTarget target, mtu := 1500, maxTtl := 2 }

/-- A host that takes everything and says nothing. -/
def host : ScriptedKernel := .start ⟨1000000000⟩ [] none fun _ => none

def start : SystemTranscript ScriptedKernel :=
  finalState (scriptedKernel.transcribed.socket.connect target ⟨[], host⟩)

def world : World (SystemTranscript ScriptedKernel) :=
  scriptedKernel.transcribedWorld target (Audience.silent _)

/-- What is to be seen of the run: for the given versions, and no others, both hop limits are
set, and the socket was told all it must be told before a datagram went out with either. -/
def Runs (versions : List IpVersion) (length : Nat) : Prop :=
  (request target).build = .ok (tracer target) ∧
  ∃ x, (tracer target).transcribedRun scriptedKernel (Audience.silent _) host =
      .ok ⟨1500, none, none, .tooManyHops⟩ x ∧
    datagrams x.past = taken length ∧
    (∀ version, settings version x.past =
      if version ∈ versions then [(2, .ok ()), (1, .ok ())] else []) ∧
    ∀ ttl, 1 ≤ ttl → ttl ≤ 2 → ∃ payload dest before,
      .sendTo payload dest (.ok ()) :: before <:+ x.past ∧ Created before target ∧
        ∀ version ∈ versions, Equipped before version ∧ hopLimit? version before = some ttl

/-- What is seen of the end of a trace. -/
def ending : EStateM.Result Failure (Tracing (SystemTranscript ScriptedKernel)) Summary →
    Option (Summary × List Datagram)
  | .ok summary t => some (summary, datagrams t.world.past)
  | .error _ _ => none

end

section
variable {target : IpAddress} {versions : List IpVersion} {length : Nat}

theorem ended
    (connected : scriptedKernel.transcribed.socket.connect target ⟨[], host⟩ =
      .ok () (start target))
    (seen : ((world target).traceWithin 4
      ⟨Session.start (tracer target).config, start target⟩).map ending =
        some (some (⟨1500, none, none, .tooManyHops⟩, taken length))) :
    ∃ x, (tracer target).transcribedRun scriptedKernel (Audience.silent _) host =
        .ok ⟨1500, none, none, .tooManyHops⟩ x ∧ datagrams x.past = taken length := by
  have ending := World.trace_seen seen
  have connected : scriptedKernel.transcribed.socket.connect (tracer target).target ⟨[], host⟩ =
      .ok () (start target) := connected
  rw [Tracer.transcribedRun_eq, connected]
  change ∃ x, (world target).traceWith (tracer target).config (start target) = _ ∧ _
  rw [World.traceWith_eq]
  generalize (world target).trace _ = r at ending
  cases r with
  | error e t => cases ending
  | ok summary t =>
    injection ending with ending
    injection ending with same sent
    exact ⟨t.world, by rw [same], sent⟩

theorem runs
    (built : (request target).build = .ok (tracer target))
    (ended : ∃ x, (tracer target).transcribedRun scriptedKernel (Audience.silent _) host =
      .ok ⟨1500, none, none, .tooManyHops⟩ x ∧ datagrams x.past = taken length)
    (concerned : ∀ version, Concerns target version ↔ version ∈ versions)
    (conforms : Conforms target 2 (finalState ((tracer target).transcribedRun scriptedKernel
      (Audience.silent _) host)).past)
    (exhausted : ∀ summary x, (tracer target).transcribedRun scriptedKernel (Audience.silent _)
      host = .ok summary x → summary.completion = .tooManyHops → Exhausted target 2 x.past) :
    Runs target versions length := by
  obtain ⟨x, ended, sent⟩ := ended
  obtain ⟨set, accepted⟩ := exhausted _ x ended rfl
  rw [ended] at conforms
  refine ⟨built, x, ended, sent, ?_, ?_⟩
  · intro version
    by_cases own : version ∈ versions
    · rw [if_pos own]
      exact set version ((concerned version).mpr own)
    · rw [if_neg own]
      exact conforms.unset version (mt (concerned version).mp own)
  · intro ttl positive low
    obtain ⟨payload, dest, before, here, inForce⟩ := accepted ttl positive low
    obtain ⟨-, prepared⟩ := conforms.prepared payload dest _ before here
    refine ⟨payload, dest, before, here, prepared.created, ?_⟩
    intro version own
    have own := (concerned version).mpr own
    exact ⟨prepared.equipped version own, inForce version own⟩

end

end Mute

/-- A target of version 4, one of version 6, and one of version 6 that stands for one of
version 4, for which both hop limits are set. -/
theorem Tracer.run_conforms_mute :
    Mute.Runs (.v4 (.ofOctets 192 0 2 1)) [.v4] 1472 ∧
    Mute.Runs (.v6 ⟨#v[0x2001, 0xdb8, 0, 0, 0, 0, 0, 1]⟩) [.v6] 1452 ∧
    Mute.Runs (.v6 ⟨#v[0, 0, 0, 0, 0, 0xffff, 0xc000, 0x201]⟩) [.v6, .v4] 1472 := by
  have conforms (target : IpAddress) := (Mute.tracer target).run_conforms
    Simulation.scriptedKernel (Audience.silent _) Mute.host
  refine ⟨?_, ?_, ?_⟩
  all_goals
    refine Mute.runs (by decide) (Mute.ended rfl (by decide +kernel)) ?_ (conforms _).2.1
      (conforms _).2.2.2
    intro version
    rw [concerns_iff]
    cases version <;> decide

end HopTrace
