import HopTrace.Config.Settings
import HopTrace.Host
import HopTrace.Report
import HopTrace.Tracer

/-!
# Runs

A run traces the path to the target of its settings on a host. The name of the target is
looked up first, and the first usable address is traced. Names of responders are looked up
through a cache that lasts as long as the run. Every event is reported as it happens, and
the summary at the end, so a run that fails keeps what it has reported.
-/
namespace HopTrace

/-- A run under way: its host, the names it knows and what it has written. -/
structure Running (σ : Type) where
  host : σ
  cache : NameCache
  output : Report.Output

inductive RunFailure where
  | lookup (target : String) (cause : LookupFailure)
  | noAddress (target : String) (preference : IpPreference)
  | packetLength (refused : PacketLengthRefused)
  | trace (cause : Failure)
  deriving DecidableEq, Repr

/-- The messages of a failure, each but the first the cause of the one before it. -/
def RunFailure.chain : RunFailure → List String
  | .lookup target cause =>
    ["failed to resolve target: " ++ target ++ " (" ++ cause.message ++ ")"]
  | .noAddress target preference =>
    ["failed to find any valid IP addresses for " ++ target ++ " for address family " ++
      preference.text]
  | .packetLength refused => [refused.message]
  | .trace e => e.message?.toList ++ match e with
    | .io cause => [cause.message]
    | .probeFailed _ | .unrepresentableTime => []

/-- What the settings ask of a tracer. -/
def Settings.request (s : Settings) (target : IpAddress) : TraceRequest :=
  TraceRequest.withBasePort
    { target
      packetLength := s.packetLength
      maxTtl := s.maxHops
      mode := s.mode }
    s.port

namespace Running

variable {σ ε α : Type}

def start (s : σ) : Running σ := ⟨s, NameCache.empty, Report.Output.empty⟩

/-- An operation on the host. -/
def onHost (act : EStateM ε σ α) : EStateM ε (Running σ) α := fun r =>
  match act r.host with
  | .ok a s => .ok a { r with host := s }
  | .error e s => .error e { r with host := s }

theorem onHost_eq_ok {act : EStateM ε σ α} {r r' : Running σ} {a : α}
    (h : onHost act r = .ok a r') : act r.host = .ok a r'.host := by
  unfold onHost at h
  split at h
  · next e =>
    injection h with h₁ h₂
    subst h₁ h₂
    exact e
  · injection h

/-- The socket of the host, used by a run. -/
def socket (sock : Socket σ) : Socket (Running σ) where
  now r :=
    let (t, s) := sock.now r.host
    (t, { r with host := s })
  create version := onHost (sock.create version)
  enable feature := onHost (sock.enable feature)
  limitHops version limit := onHost (sock.limitHops version limit)
  sendTo payload target := onHost (sock.sendTo payload target)
  awaitReadable limit := onHost (sock.awaitReadable limit)
  receive size := onHost (sock.receive size)
  receiveError size := onHost (sock.receiveError size)
  pending r := sock.pending r.host
  pending_lt h := sock.pending_lt (onHost_eq_ok h)
  pending_now_le r := sock.pending_now_le r.host

end Running

namespace Host

variable {σ : Type}

/-- The name of a responder, from the cache if it was looked up before. -/
def resolve (h : Host σ) (a : IpAddress) (r : Running σ) : Option String × Running σ :=
  let (entry, cache, s) := h.names.reverseLookup a r.cache r.host
  (entry.name?, { r with cache, host := s })

theorem errorBacklog_resolve_le (h : Host σ) (a : IpAddress) (r : Running σ) :
    h.kernel.errorBacklog (h.resolve a r).2.host ≤ h.kernel.errorBacklog r.host := by
  unfold resolve NameService.reverseLookup
  cases e : r.cache.find? a with
  | some entry => exact Nat.le_refl _
  | none => exact h.errorBacklog_reverse_le a r.host

/-- Events are written to the output, and names come from the host. -/
def audience (h : Host σ) (mode : AddressMode) :
    Audience (Running σ) (Running.socket h.kernel.socket).pending where
  resolve := h.resolve
  publish e r := { r with output := r.output.event e mode }
  pending_resolve_le := h.errorBacklog_resolve_le
  pending_publish_le _ _ := Nat.le_refl _

/-- The first usable address of the target. -/
def resolveTarget (h : Host σ) (s : Settings) : EStateM RunFailure σ IpAddress := fun state =>
  match h.names.lookup s.preference s.target state with
  | .error cause state => .error (.lookup s.target cause) state
  | .ok [] state => .error (.noAddress s.target s.preference) state
  | .ok (address :: _) state => .ok address state

/-- Traces the path to an address and reports it. -/
def traceTo (h : Host σ) (s : Settings) (target : IpAddress) :
    EStateM RunFailure (Running σ) Unit := fun r =>
  match (s.request target).build with
  | .error refused => .error (.packetLength refused) r
  | .ok tracer =>
    match tracer.runWith (Running.socket h.kernel.socket) (h.audience s.mode) r with
    | .error e r => .error (.trace e) r
    | .ok summary r => .ok () { r with output := r.output.summary summary }

def run (h : Host σ) (s : Settings) : EStateM RunFailure (Running σ) Unit := do
  h.traceTo s (← Running.onHost (h.resolveTarget s))

end Host

end HopTrace
