import HopTrace.Proofs.Evaluation
import HopTrace.Proofs.Published
import HopTrace.Simulation.Network
import HopTrace.Tracer

/-!
# Room for a payload

A tracer is built with a first packet that is larger than its headers. A router that asks
for smaller packets is believed whatever it asks for, and so the estimate of the path MTU
can fall to the size of the headers and below. From then on every payload is empty, and
the packets are larger than the estimate.

The estimate leaves room for a payload, and the payload fills the estimate, exactly as long
as no path MTU has been announced that the headers use up.
-/
namespace HopTrace

/-- The payloads handed to the network, accepted or not, in order. -/
def Exchange.payload? : Exchange → Option Payload
  | .send payload _ _ => some payload
  | _ => none

def payloads (past : List Exchange) : List Payload := (past.filterMap Exchange.payload?).reverse

/-- The packet length of a request is checked against the headers of its family. -/
theorem TraceRequest.overhead_lt_mtu {r : TraceRequest} {mtu : UInt32} (h : r.mtu = .ok mtu) :
    (Family.ofTarget r.target).overhead < mtu := by
  unfold TraceRequest.mtu at h
  cases length : r.packetLength with
  | none =>
    simp only [length, Except.ok.injEq] at h
    subst h
    exact Family.overhead_lt_defaultMtu _
  | some length' =>
    simp only [length] at h
    split at h
    · cases h
    · next fits =>
      injection h with h
      subst h
      rw [not_or] at fits
      exact UInt32.not_le.mp fits.1

/-- A request that is granted is traced as it was asked. -/
theorem TraceRequest.build_eq_ok {r : TraceRequest} {tracer : Tracer}
    (built : r.build = .ok tracer) :
    ∃ mtu, r.mtu = .ok mtu ∧ tracer.target = r.target ∧
      tracer.config = ⟨Family.ofTarget r.target, r.basePort, mtu, r.maxTtl, r.mode⟩ := by
  unfold TraceRequest.build at built
  cases asked : r.mtu with
  | error refused =>
    rw [asked] at built
    cases built
  | ok mtu =>
    rw [asked] at built
    injection built with built
    subst built
    exact ⟨mtu, rfl, rfl, rfl⟩

theorem TraceRequest.overhead_lt_built {r : TraceRequest} {tracer : Tracer}
    (built : r.build = .ok tracer) : tracer.config.family.overhead < tracer.config.mtu := by
  obtain ⟨mtu, asked, -, config⟩ := r.build_eq_ok built
  rw [config]
  exact r.overhead_lt_mtu asked

/-- The headers leave room in a packet and fill it with what they leave, just if they are
shorter than it. -/
theorem fills_iff (mtu overhead : UInt32) :
    0 < mtu.toNat - overhead.toNat ∧ mtu.toNat - overhead.toNat + overhead.toNat = mtu.toNat ↔
      overhead < mtu := by
  rw [UInt32.lt_iff_toNat_lt]
  omega

/-- Whatever the network does, the estimate is the least of the first packet length and the
path MTUs announced so far. It is above the headers, and every payload fills it, if and only
if that is true of each of them. -/
theorem trace_headroom_iff {σ : Type} {r : TraceRequest} {tracer : Tracer}
    (built : r.build = .ok tracer) (w : World σ) (s : σ) (past : List Exchange)
    (told : past = w.transcribed.trace.transcript ⟨Session.start tracer.config, s⟩) :
    tracer.config.family.overhead < tracer.config.mtu ∧
    (finalState (w.trace ⟨Session.start tracer.config, s⟩)).session.mtu =
      estimate tracer.config.mtu (published past) ∧
    (tracer.config.family.overhead < estimate tracer.config.mtu (published past) ↔
      ∀ mtu ∈ announced (published past), tracer.config.family.overhead < mtu) ∧
    ∀ payload port answer before, .send payload port answer :: before <:+ past →
      payload.length = (estimate tracer.config.mtu (published before)).toNat -
        tracer.config.family.overhead.toNat ∧
      (0 < payload.length ∧ payload.length + tracer.config.family.overhead.toNat =
          (estimate tracer.config.mtu (published before)).toNat ↔
        ∀ mtu ∈ announced (published before), tracer.config.family.overhead < mtu) := by
  subst told
  have first := r.overhead_lt_built built
  have along := estimates_trace w tracer.config s
  have room (events : List Event) :
      tracer.config.family.overhead < estimate tracer.config.mtu events ↔
        ∀ mtu ∈ announced events, tracer.config.family.overhead < mtu := by
    rw [lt_estimate_iff]
    exact and_iff_right first
  refine ⟨first, along.mtu, room _, ?_⟩
  intro payload port answer before sent
  have length : payload.length = (estimate tracer.config.mtu (published before)).toNat -
      tracer.config.family.overhead.toNat := along.lengths.of_suffix sent payload port answer rfl
  refine ⟨length, ?_⟩
  rw [length, fills_iff]
  exact room _

namespace NoRoom
open Simulation

def request : TraceRequest :=
  { target := .v4 (.ofOctets 192 0 2 1), packetLength := some 1500, maxTtl := 1 }

def config : SessionConfig :=
  { family := .v4, basePort := 44444, mtu := 1500, maxTtl := 1, mode := .host }

theorem built : request.build = .ok ⟨.v4 (.ofOctets 192 0 2 1), config⟩ := rfl

/-- A router that names no next hop MTU, as those do that know none. -/
def network : ScriptedNetwork :=
  .start ⟨1000000000⟩
    [{ ScriptEntry.empty with
        notes :=
          [.notification 0 .sent .echo (some ⟨.icmp, .messageTooBig, 3, 4, 0, none⟩) (some 64)] }]
    fun _ => none

def world : World ScriptedNetwork := scriptedNetwork.attendedBy (Audience.silent _)

theorem traced : ∃ t', world.transcribed.trace (Tracing.unspoken ⟨Session.start config, network⟩) =
    .ok ⟨0, none, none, .tooManyHops⟩ t' ∧ t'.session.mtu = 0 ∧
      (payloads t'.world.past).map Payload.length = [1472, 0, 0, 0] ∧
      announced (published t'.world.past) = [0] := by
  have seen : (world.transcribed.traceWithin 4
      (Tracing.unspoken ⟨Session.start config, network⟩)).map (fun r =>
        (answer? r, (finalState r).session.mtu,
          (payloads (finalState r).world.past).map Payload.length,
          announced (published (finalState r).world.past))) =
      some (some ⟨0, none, none, .tooManyHops⟩, 0, [1472, 0, 0, 0], [0]) := by decide +kernel
  have seen := World.trace_seen seen
  generalize world.transcribed.trace _ = r at seen
  simp only [Prod.mk.injEq] at seen
  obtain ⟨answered, mtu, lengths, told⟩ := seen
  obtain ⟨t', rfl⟩ := answer?_eq_some_iff.mp answered
  exact ⟨t', rfl, mtu, lengths, told⟩

end NoRoom

/-- One answer of such a router empties all probes that follow, and leaves an estimate that
is smaller than the headers. -/
theorem not_headroom_noRoom :
    NoRoom.request.build = .ok ⟨.v4 (.ofOctets 192 0 2 1), NoRoom.config⟩ ∧
    ∃ t', NoRoom.world.trace ⟨Session.start NoRoom.config, NoRoom.network⟩ =
        .ok ⟨0, none, none, .tooManyHops⟩ t' ∧
      ¬NoRoom.config.family.overhead < t'.session.mtu ∧
      (payloads (NoRoom.world.transcribed.trace.transcript
        ⟨Session.start NoRoom.config, NoRoom.network⟩)).map Payload.length = [1472, 0, 0, 0] := by
  obtain ⟨t', traced, mtu, lengths, -⟩ := NoRoom.traced
  have plain := NoRoom.world.trace_eq ⟨Session.start NoRoom.config, NoRoom.network⟩
  rw [traced] at plain
  refine ⟨NoRoom.built, t'.untold, plain, ?_, ?_⟩
  · have zero : t'.untold.session.mtu = 0 := mtu
    rw [zero]
    decide
  · unfold Step.transcript
    rw [traced]
    exact lengths

theorem trace_headroom_iff_noRoom :
    NoRoom.request.build = .ok ⟨.v4 (.ofOctets 192 0 2 1), NoRoom.config⟩ ∧
    ¬∀ mtu ∈ announced (published (NoRoom.world.transcribed.trace.transcript
      ⟨Session.start NoRoom.config, NoRoom.network⟩)), NoRoom.config.family.overhead < mtu := by
  obtain ⟨t', traced, mtu, -, -⟩ := NoRoom.traced
  obtain ⟨-, final, room, -⟩ := trace_headroom_iff NoRoom.built NoRoom.world NoRoom.network _ rfl
  refine ⟨NoRoom.built, ?_⟩
  intro above
  have plain := NoRoom.world.trace_eq ⟨Session.start NoRoom.config, NoRoom.network⟩
  rw [traced] at plain
  have left := room.mpr above
  rw [← final, plain] at left
  have zero : t'.untold.session.mtu = 0 := mtu
  have low : ¬NoRoom.config.family.overhead < (0 : UInt32) := by decide
  exact low (zero ▸ left)

end HopTrace
