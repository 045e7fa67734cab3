import HopTrace.Proofs.Headroom

/-!
# The lengths of the payloads

A path MTU that has been announced counts for every probe that is sent after it: for the
next attempt of a probe that was refused, for the next probe of the same ttl and for all
later ttls. A payload is cut to the least path MTU announced so far, and a later payload is
never longer than an earlier one.

The payload is cut from a buffer that is as long as the first payload. The estimate never
rises, so the buffer never cuts a payload short.
-/
namespace HopTrace

theorem payloadLength_mono {mtu mtu' : UInt32} (le : mtu ≤ mtu') (overhead : UInt32) :
    payloadLength mtu overhead ≤ payloadLength mtu' overhead := by
  have le : mtu.toNat ≤ mtu'.toNat := UInt32.le_iff_toNat_le.mp le
  unfold payloadLength
  omega

theorem payloads_send (payload : Payload) (port : UInt16) (answer : Except Failure Unit)
    (past : List Exchange) :
    payloads (.send payload port answer :: past) = payloads past ++ [payload] := by
  simp [payloads, Exchange.payload?]

theorem payloads_other {x : Exchange} (other : x.payload? = none) (past : List Exchange) :
    payloads (x :: past) = payloads past := by
  simp [payloads, other]

/-- Every payload is as long as the estimate of the path MTU allowed when it was sent. -/
def Filled (c : SessionConfig) (past : List Exchange) : Prop :=
  ∀ payload port answer before, .send payload port answer :: before <:+ past →
    payload.bytes.length =
      (estimate c.mtu (published before)).toNat - c.family.overhead.toNat

/-- The payloads of a transcript are cut to the path MTUs announced before them. -/
structure Fitted (c : SessionConfig) (past : List Exchange) : Prop where
  filled : Filled c past
  shrinking : (payloads past).Pairwise fun earlier later =>
    later.bytes.length ≤ earlier.bytes.length
  heeded : ∀ payload port answer before, .send payload port answer :: before <:+ past →
    ∀ mtu ∈ announced (published before),
      payload.bytes.length ≤ mtu.toNat - c.family.overhead.toNat

namespace Filled
variable {c : SessionConfig} {past : List Exchange}

theorem of_suffix {before : List Exchange} (h : Filled c past) (here : before <:+ past) :
    Filled c before :=
  fun payload port answer earlier sent => h payload port answer earlier (sent.trans here)

/-- No payload falls below the last estimate. -/
theorem estimate_le (h : Filled c past) : ∀ payload ∈ payloads past,
    (estimate c.mtu (published past)).toNat - c.family.overhead.toNat ≤ payload.bytes.length := by
  intro payload m
  obtain ⟨x, made, sent⟩ := List.mem_filterMap.mp (List.mem_reverse.mp m)
  cases x with
  | send payload' port answer =>
    injection sent with sent
    subst sent
    obtain ⟨later, before, rfl⟩ := List.append_of_mem made
    have here : .send payload' port answer :: before <:+
        later ++ .send payload' port answer :: before := List.suffix_append _ _
    have since := (List.suffix_cons (.send payload' port answer) before).trans here
    rw [h payload' port answer before here]
    exact payloadLength_mono (estimate_le_of_suffix c.mtu since) _
  | _ => cases sent

theorem shrinking (h : Filled c past) :
    (payloads past).Pairwise fun earlier later => later.bytes.length ≤ earlier.bytes.length := by
  -- The latest payload is as long as the last estimate, below which no earlier one falls.
  induction past with
  | nil => exact List.Pairwise.nil
  | cons x past ih =>
    have earlier := h.of_suffix (List.suffix_cons x past)
    have falling := ih earlier
    cases x with
    | send payload port answer =>
      rw [payloads_send, List.pairwise_append]
      refine ⟨falling, List.pairwise_singleton _ _, ?_⟩
      intro first m last here
      rw [List.mem_singleton.mp here, h payload port answer past List.suffix_rfl]
      exact earlier.estimate_le first m
    | _ =>
      rw [payloads_other rfl]
      exact falling

theorem heeded (h : Filled c past) {payload : Payload} {port : UInt16}
    {answer : Except Failure Unit} {before : List Exchange}
    (sent : .send payload port answer :: before <:+ past) {mtu : UInt32}
    (told : mtu ∈ announced (published before)) :
    payload.bytes.length ≤ mtu.toNat - c.family.overhead.toNat := by
  rw [h payload port answer before sent]
  exact payloadLength_mono (estimate_le_of_mem told) _

end Filled

/-- Whatever the network does, the payloads of a trace are cut to what has been announced. -/
theorem trace_fitted {σ : Type} (w : World σ) (c : SessionConfig) (s : σ) :
    Fitted c (w.transcribed.trace.transcript ⟨Session.start c, s⟩) := by
  have along := estimates_trace w c s
  have filled : Filled c (w.transcribed.trace.transcript ⟨Session.start c, s⟩) := by
    intro payload port answer before sent
    rw [Payload.length_bytes]
    exact along.lengths.of_suffix sent payload port answer rfl
  exact ⟨filled, filled.shrinking, fun _ _ _ _ sent _ told => filled.heeded sent told⟩

namespace Lowered
open Simulation

def config : SessionConfig :=
  { family := .v4, basePort := 44444, mtu := 1500, maxTtl := 2, mode := .host }

/-- The report of a next hop MTU, by the host itself or by a router. -/
def tooBig (origin : Origin) (mtu : UInt32) : Note :=
  .notification 0 .sent .echo (some ⟨origin, .messageTooBig, 3, 4, mtu, none⟩) none

def timeExceeded : Note :=
  .notification 0 .sent .echo (some ⟨.icmp, .hostUnreachable, 11, 0, 0, none⟩) (some 64)

/-- The first probe is refused for its length, and a router on the second hop asks for less. -/
def network : ScriptedNetwork :=
  .start ⟨1000000000⟩
    [{ ScriptEntry.empty with
        refusal := some (.send Errno.messageTooLong), notes := [tooBig .local 1400] },
      { ScriptEntry.empty with notes := [timeExceeded] },
      { ScriptEntry.empty with notes := [timeExceeded] },
      { ScriptEntry.empty with notes := [tooBig .icmp 1200] }]
    fun _ => none

def world : World ScriptedNetwork := scriptedNetwork.attendedBy (Audience.silent _)

theorem lengths : (payloads (world.transcribed.trace.transcript
      ⟨Session.start config, network⟩)).map Payload.length =
      [1472, 1372, 1372, 1372, 1172, 1172, 1172] ∧
    announced (published (world.transcribed.trace.transcript
      ⟨Session.start config, network⟩)) = [1400, 1200] := by
  have seen : (world.transcribed.traceWithin 4
      (Tracing.unspoken ⟨Session.start config, network⟩)).map (fun r =>
        ((payloads (finalState r).world.past).map Payload.length,
          announced (published (finalState r).world.past))) =
      some ([1472, 1372, 1372, 1372, 1172, 1172, 1172], [1400, 1200]) := by decide +kernel
  exact Prod.mk.inj (World.trace_seen seen)

end Lowered

/-- The retry of a refused probe, the next probe and those of the next ttl are all shorter. -/
theorem trace_fitted_lowered :
    Fitted Lowered.config (Lowered.world.transcribed.trace.transcript
      ⟨Session.start Lowered.config, Lowered.network⟩) ∧
    (payloads (Lowered.world.transcribed.trace.transcript
      ⟨Session.start Lowered.config, Lowered.network⟩)).map Payload.length =
        [1472, 1372, 1372, 1372, 1172, 1172, 1172] ∧
    announced (published (Lowered.world.transcribed.trace.transcript
      ⟨Session.start Lowered.config, Lowered.network⟩)) = [1400, 1200] :=
  ⟨trace_fitted Lowered.world Lowered.config Lowered.network, Lowered.lengths⟩

end HopTrace
