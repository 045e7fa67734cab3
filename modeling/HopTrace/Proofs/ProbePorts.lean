import HopTrace.Proofs.Calls
import HopTrace.Proofs.Headroom

/-!
# The ports of the probes

The ports of a trace are a window of sixty-four from the base port on, one for each slot of
the history, and they wrap around at the end of the port space. The base port is never zero.
A window that starts within sixty-three ports of the end contains port zero all the same, and
the probes of one call of the engine in every sixty-four go there.
-/
namespace HopTrace

theorem TraceRequest.basePort_built {r : TraceRequest} {port : UInt16} {tracer : Tracer}
    (built : (r.withBasePort port).build = .ok tracer) :
    tracer.config.basePort = if port = 0 then SessionConfig.defaultBasePort else port := by
  obtain ⟨mtu, -, -, config⟩ := TraceRequest.build_eq_ok built
  rw [config]
  rfl

/-- Port zero is not a base port. -/
theorem TraceRequest.basePort_ne_zero {r : TraceRequest} {port : UInt16} {tracer : Tracer}
    (built : (r.withBasePort port).build = .ok tracer) : tracer.config.basePort ≠ 0 := by
  rw [TraceRequest.basePort_built built]
  split
  · decide
  · next other => exact other

section Window
variable {base port : UInt16} {count : Nat}

/-- The window of ports reaches port zero where it wraps around, and nowhere else. -/
theorem eq_zero_iff_wraps (positive : base ≠ 0)
    (offset : port.toNat = (base.toNat + count % 64) % 65536) :
    port = 0 ↔ base.toNat + count % 64 = 65536 := by
  have small : count % 64 < 64 := Nat.mod_lt _ (by decide)
  have bound : base.toNat < 65536 := base.toNat_lt
  have start : base.toNat ≠ 0 := fun zero => positive (UInt16.toNat_inj.mp zero)
  have zero : port = 0 ↔ port.toNat = 0 := UInt16.toNat_inj.symm
  rw [zero, offset]
  omega

theorem ne_zero_of_low (positive : base ≠ 0) (low : base.toNat ≤ 65472)
    (offset : port.toNat = (base.toNat + count % 64) % 65536) : port ≠ 0 := by
  intro zero
  have wraps := (eq_zero_iff_wraps positive offset).mp zero
  omega

end Window

/-- A datagram is sent by one of the calls of the probe engine, to the port of that call. -/
theorem TraceExec.port_of_sent {σ : Type} {w : World σ} {c : SessionConfig} {s : σ}
    {walk : List (List (Attempt (Transcript σ)))}
    {r : EStateM.Result Failure (Tracing (Transcript σ)) Summary}
    (exec : TraceExec w.transcribed (Tracing.unspoken ⟨Session.start c, s⟩) walk r)
    {payload : Payload} {port : UInt16} {answer : Except Failure Unit} {before : List Exchange}
    (sent : .send payload port answer :: before <:+ (finalState r).world.past) :
    ∃ (j : Nat) (call : Attempt (Transcript σ)), walk.flatten[j]? = some call ∧
      call.Makes w.transcribed Transcript.past (.send payload port answer) before ∧
      port.toNat = (c.basePort.toNat + j % 64) % 65536 := by
  obtain ⟨j, call, called, made⟩ :=
    exec.calls.made w.transcribed_logs not_cons_suffix_nil rfl sent
  refine ⟨j, call, called, made, ?_⟩
  rw [(Attempt.sentInCall made).port, exec.calls.port called]
  exact toNat_port_after c.basePort j

/-- The port of a datagram is that of the call of the probe engine that sends it, counted from
the base port. It is zero exactly if the calls before it have taken the window to its end, and
never if the window lies below the end of the port space. -/
theorem trace_port_eq_zero_iff {σ : Type} {r : TraceRequest} {asked : UInt16} {tracer : Tracer}
    (built : (r.withBasePort asked).build = .ok tracer) (w : World σ) (s : σ) :
    ∃ walk : List (List (Attempt (Transcript σ))),
      TraceExec w.transcribed (Tracing.unspoken ⟨Session.start tracer.config, s⟩) walk
        (w.transcribed.trace (Tracing.unspoken ⟨Session.start tracer.config, s⟩)) ∧
      ∀ payload port answer before, .send payload port answer :: before <:+
          w.transcribed.trace.transcript ⟨Session.start tracer.config, s⟩ →
        ∃ (j : Nat) (call : Attempt (Transcript σ)), walk.flatten[j]? = some call ∧
          call.Makes w.transcribed Transcript.past (.send payload port answer) before ∧
          port.toNat = (tracer.config.basePort.toNat + j % 64) % 65536 ∧
          (port = 0 ↔ tracer.config.basePort.toNat + j % 64 = 65536) ∧
          (tracer.config.basePort.toNat ≤ 65472 → port ≠ 0) := by
  obtain ⟨walk, exec⟩ :=
    w.transcribed.trace_exec (Tracing.unspoken ⟨Session.start tracer.config, s⟩)
  have positive := TraceRequest.basePort_ne_zero built
  refine ⟨walk, exec, ?_⟩
  intro payload port answer before sent
  obtain ⟨j, call, called, made, offset⟩ := exec.port_of_sent sent
  exact ⟨j, call, called, made, offset, eq_zero_iff_wraps positive offset,
    fun low => ne_zero_of_low positive low offset⟩

/-- The ports that datagrams were handed to the network for, in order. -/
def Exchange.port? : Exchange → Option UInt16
  | .send _ port _ => some port
  | _ => none

def ports (past : List Exchange) : List UInt16 := (past.filterMap Exchange.port?).reverse

theorem sent_of_mem_ports {port : UInt16} {past : List Exchange} (m : port ∈ ports past) :
    ∃ payload answer before, .send payload port answer :: before <:+ past := by
  obtain ⟨x, made, sent⟩ := List.mem_filterMap.mp (List.mem_reverse.mp m)
  cases x with
  | send payload port' answer =>
    injection sent with sent
    subst sent
    obtain ⟨later, before, rfl⟩ := List.append_of_mem made
    exact ⟨payload, answer, before, List.suffix_append _ _⟩
  | _ => cases sent

namespace LastPort
open Simulation

/-- One hop is probed, from the last port on. -/
def request : TraceRequest :=
  { target := .v4 (.ofOctets 192 0 2 1), packetLength := some 1500, maxTtl := 1 }

def tracer : Tracer where
  target := request.target
  config := { family := .v4, basePort := 65535, mtu := 1500, maxTtl := 1, mode := .host }

theorem built : (request.withBasePort 65535).build = .ok tracer := rfl

/-- A network that takes everything and says nothing. -/
def network : ScriptedNetwork := .start ⟨1000000000⟩ [] fun _ => none

def world : World ScriptedNetwork := scriptedNetwork.attendedBy (Audience.silent _)

theorem ports_eq : ports (world.transcribed.trace.transcript
    ⟨Session.start tracer.config, network⟩) = [65535, 0, 1] := by
  have seen : (world.transcribed.traceWithin 4
      (Tracing.unspoken ⟨Session.start tracer.config, network⟩)).map (fun r =>
        ports (finalState r).world.past) = some [65535, 0, 1] := by decide +kernel
  exact World.trace_seen seen

theorem sent : ∃ payload answer before, .send payload 0 answer :: before <:+
    world.transcribed.trace.transcript ⟨Session.start tracer.config, network⟩ := by
  apply sent_of_mem_ports
  rw [ports_eq]
  decide

end LastPort

/-- From the last port on, the second probe already goes to port zero. -/
theorem not_port_ne_zero_lastPort :
    (LastPort.request.withBasePort 65535).build = .ok LastPort.tracer ∧
    ¬∀ payload port answer before, .send payload port answer :: before <:+
      LastPort.world.transcribed.trace.transcript
        ⟨Session.start LastPort.tracer.config, LastPort.network⟩ → port ≠ 0 := by
  refine ⟨LastPort.built, ?_⟩
  intro never
  obtain ⟨payload, answer, before, sent⟩ := LastPort.sent
  exact never payload 0 answer before sent rfl

theorem trace_port_eq_zero_iff_lastPort :
    (LastPort.request.withBasePort 65535).build = .ok LastPort.tracer ∧
    ∃ (j : Nat) (call : Attempt (Transcript Simulation.ScriptedNetwork)),
      call.port = 0 ∧ LastPort.tracer.config.basePort.toNat + j % 64 = 65536 := by
  refine ⟨LastPort.built, ?_⟩
  obtain ⟨payload, answer, before, sent⟩ := LastPort.sent
  obtain ⟨walk, exec, ports⟩ :=
    trace_port_eq_zero_iff LastPort.built LastPort.world LastPort.network
  obtain ⟨j, call, called, made, -, zero, -⟩ := ports payload 0 answer before sent
  exact ⟨j, call, (Attempt.sentInCall made).port.symm, zero.mp rfl⟩

end HopTrace
