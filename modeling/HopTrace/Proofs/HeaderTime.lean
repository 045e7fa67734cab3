import HopTrace.Proofs.Decoding
import HopTrace.Proofs.Evaluation
import HopTrace.Proofs.Invariant
import HopTrace.Simulation.Network
import HopTrace.Socket

/-!
# Times no host can represent

The judgement of an echoed header looks at its ttl and asks that its seconds are not zero.
It does not look at the upper range of the seconds, and the seconds may carry the time past
what the host can represent. Reading such a header ends whatever is running without an
answer. Nothing else a notification holds can do that.
-/
namespace HopTrace

namespace ProbeHeader

/-- The header is trusted, and the time it names is too late for the host. -/
def Overflows (h : ProbeHeader) : Prop :=
  (∃ ttl, h.trustedTtl = some ttl) ∧ 2 ^ 63 ≤ h.seconds.toNat + h.micros.toNat / 1000000

end ProbeHeader

/-- The notification echoes a header that is trusted and names a time that is too late. -/
def Notification.Overflows (n : Notification) : Prop :=
  ∃ h, ProbeHeader.read n.payload = some h ∧ h.Overflows

theorem MatchedProbe.judge_eq_error_iff (known : MatchedProbe) (trusted : Option UInt8)
    (sent : Option Instant) (e : Failure) :
    known.judge trusted sent = .error e ↔
      e = .unrepresentableTime ∧ (∃ ttl, trusted = some ttl) ∧ sent = none := by
  cases trusted with
  | none => simp [MatchedProbe.judge]
  | some ttl =>
    cases sent with
    | none => simp [MatchedProbe.judge, eq_comm]
    | some sent => simp [MatchedProbe.judge]

/-- Matching a notification fails for one reason only. -/
theorem Session.identify_eq_error_iff (s : Session) (n : Notification) (e : Failure) :
    s.identify n = .error e ↔ e = .unrepresentableTime ∧ n.Overflows := by
  unfold Session.identify Notification.Overflows
  rw [MatchedProbe.identify_eq]
  cases ProbeHeader.read n.payload with
  | none => simp
  | some header =>
    simp only [MatchedProbe.judge_eq_error_iff, ProbeHeader.sent_eq_none_iff, Option.some.injEq,
      exists_eq_left', ProbeHeader.Overflows]

theorem Session.not_overflows {s : Session} {n : Notification} {p : MatchedProbe}
    (found : s.identify n = .ok p) : ¬n.Overflows := by
  intro late
  rw [(s.identify_eq_error_iff n _).mpr ⟨rfl, late⟩] at found
  cases found

/-- A notification whose header overflows has been read. -/
def ReadOverflow (past : List Exchange) : Prop :=
  ∃ n, .receiveNotification (.ok (some n)) ∈ past ∧ n.Overflows

section ReadOverflow
variable {past names : List Exchange} {x : Exchange} {n : Notification}

theorem readOverflow_cons (other : ∀ n, x ≠ .receiveNotification (.ok (some n))) :
    ReadOverflow (x :: past) ↔ ReadOverflow past := by
  constructor
  · intro ⟨n, m, late⟩
    cases m with
    | head => exact absurd rfl (other n)
    | tail _ m => exact ⟨n, m, late⟩
  · intro ⟨n, m, late⟩
    exact ⟨n, List.mem_cons_of_mem _ m, late⟩

theorem readOverflow_read :
    ReadOverflow (.receiveNotification (.ok (some n)) :: past) ↔
      n.Overflows ∨ ReadOverflow past := by
  constructor
  · intro ⟨n', m, late⟩
    cases m with
    | head => exact .inl late
    | tail _ m => exact .inr ⟨n', m, late⟩
  · intro h
    cases h with
    | inl late => exact ⟨n, List.mem_cons_self, late⟩
    | inr before =>
      obtain ⟨n', m, late⟩ := before
      exact ⟨n', List.mem_cons_of_mem _ m, late⟩

theorem readOverflow_append_resolves
    (asked : ∀ x ∈ names, ∃ a name, x = Exchange.resolve a name) :
    ReadOverflow (names ++ past) ↔ ReadOverflow past := by
  have blind (a : IpAddress) (name : Option String) (past : List Exchange) :
      ReadOverflow (.resolve a name :: past) = ReadOverflow past :=
    propext (readOverflow_cons (by simp))
  exact Iff.of_eq (append_resolves asked blind)

end ReadOverflow

/-- The failure is the one of an overflow if and only if one was read. -/
def Blames (e : Failure) (_ : Session) (past : List Exchange) : Prop :=
  e = .unrepresentableTime ↔ ReadOverflow past

section Maintains
variable {σ : Type} {w : World σ}

theorem blames_other {e : Failure} {s : Session} {past : List Exchange} {x : Exchange}
    (sound : ¬w.MayFail .unrepresentableTime) (may : w.MayFail e)
    (other : ∀ n, x ≠ .receiveNotification (.ok (some n))) (clean : ¬ReadOverflow past) :
    Blames e s (x :: past) := by
  have innocent : e ≠ .unrepresentableTime := by
    intro blamed
    exact sound (blamed ▸ may)
  unfold Blames
  rw [readOverflow_cons other]
  exact iff_of_false innocent clean

theorem maintainsDrain_blames (sound : ¬w.MayFail .unrepresentableTime) (ttl : UInt8) :
    w.MaintainsDrain ttl (fun _ past => ¬ReadOverflow past) Blames where
  unread e clean may := blames_other sound may (by simp) clean
  emptied clean := by rwa [readOverflow_cons (by simp)]
  undecoded n e clean decoded := by
    obtain ⟨failed, -⟩ := Session.decode_failed decoded
    obtain ⟨rfl, late⟩ := (Session.identify_eq_error_iff _ n e).mp failed
    exact iff_of_true rfl (readOverflow_read.mpr (.inl late))
  uninformed n clean decoded := by
    obtain ⟨⟨p, found⟩, -, -⟩ := Session.decode_uninformed decoded
    rw [readOverflow_cons (by simp), readOverflow_read, not_or]
    exact ⟨Session.not_overflows found, clean⟩
  decoded n hop responder names clean decoded asked := by
    obtain ⟨p, e, found, -, -, -⟩ := Session.decode_hop decoded
    rw [readOverflow_cons (by simp), readOverflow_append_resolves asked, readOverflow_read, not_or]
    exact ⟨Session.not_overflows found, clean⟩

theorem maintains_blames (sound : ¬w.MayFail .unrepresentableTime) (ttl : UInt8) :
    w.Maintains ttl (fun _ past => ¬ReadOverflow past) Blames where
  toMaintainsDrain := maintainsDrain_blames sound ttl
  sent slot now answer clean _ := by
    rwa [readOverflow_cons (by simp), readOverflow_cons (by simp)]
  unsent slot now e clean may _ := by
    refine blames_other sound may (by simp) ?_
    rwa [readOverflow_cons (by simp)]
  awaited _ clean := by rwa [readOverflow_cons (by simp)]
  unawaited e clean may := blames_other sound may (by simp) clean
  answered _ clean := by rwa [readOverflow_cons (by simp)]
  unanswered e clean may := blames_other sound may (by simp) clean
  published e _ clean := by rwa [readOverflow_cons (by simp)]
  cleared _ clean := clean
  advanced clean := clean

theorem maintainsSetTtl_blames (sound : ¬w.MayFail .unrepresentableTime) (ttl : UInt8) :
    w.MaintainsSetTtl ttl (fun _ past => ¬ReadOverflow past) Blames where
  set clean := by rwa [readOverflow_cons (by simp)]
  unset e clean may := blames_other sound may (by simp) clean

theorem not_readOverflow_nil : ¬ReadOverflow [] := by
  intro ⟨n, m, _⟩
  cases m

theorem failed_iff_readOverflow {α : Type}
    {r : EStateM.Result Failure (Tracing (Transcript σ)) α}
    (h : Lands (fun _ past => ¬ReadOverflow past) Blames r) :
    (∃ t, untoldResult r = .error .unrepresentableTime t) ↔
      ReadOverflow (finalState r).world.past := by
  cases r with
  | ok a t =>
    constructor
    · intro ⟨t', failed⟩
      cases failed
    · intro late
      exact absurd late h
  | error e t =>
    constructor
    · intro ⟨t', failed⟩
      injection failed with blamed
      exact h.mp blamed
    · intro late
      exact ⟨_, congrArg (fun e => EStateM.Result.error e t.untold) (h.mpr late)⟩

/-- A drain, a probe and a trace fail to complete if and only if they read a notification
whose echoed header is trusted and names a time from 2⁶³ seconds on. -/
theorem unrepresentableTime_iff (w : World σ) (sound : ¬w.MayFail .unrepresentableTime)
    (ttl : UInt8) (t : Tracing σ) :
    ((∃ t', w.drain ttl t = .error .unrepresentableTime t') ↔
      ReadOverflow ((w.transcribed.drain ttl).transcript t)) ∧
    ((∃ t', w.sendProbe ttl t = .error .unrepresentableTime t') ↔
      ReadOverflow ((w.transcribed.sendProbe ttl).transcript t)) ∧
    ((∃ t', w.trace t = .error .unrepresentableTime t') ↔
      ReadOverflow (w.transcribed.trace.transcript t)) ∧
    ∀ h : ProbeHeader, h.sent = none ↔
      2 ^ 63 ≤ h.seconds.toNat + h.micros.toNat / 1000000 := by
  have clean : ¬ReadOverflow t.unspoken.world.past := not_readOverflow_nil
  have drain := (maintainsDrain_blames sound ttl).lands_drain clean
  have sendProbe := (maintains_blames sound ttl).lands_sendProbe clean
  have trace := World.Maintains.lands_trace (t := t.unspoken)
    (fun ttl _ => maintains_blames sound ttl) (fun ttl _ => maintainsSetTtl_blames sound ttl) clean
  refine ⟨?_, ?_, ?_, ProbeHeader.sent_eq_none_iff⟩
  · rw [w.drain_eq ttl t]
    exact failed_iff_readOverflow drain
  · rw [w.sendProbe_eq ttl t]
    exact failed_iff_readOverflow sendProbe
  · rw [w.trace_eq t]
    exact failed_iff_readOverflow trace

end Maintains

section Networks
variable {σ : Type}

theorem liftIo_ne {α : Type} {act : EStateM IoFailure σ α} {s s' : σ} :
    liftIo act s ≠ .error .unrepresentableTime s' := by
  unfold liftIo
  split <;> simp

theorem forM_liftIo_ne {ι : Type} (is : List ι) (act : ι → EStateM IoFailure σ Unit) (s s' : σ) :
    (is.forM fun i => liftIo (act i)) s ≠ .error .unrepresentableTime s' := by
  induction is generalizing s with
  | nil => simp [pure, EStateM.pure]
  | cons i is ih =>
    change (liftIo (act i) >>= fun _ => is.forM fun i => liftIo (act i)) s ≠ _
    simp only [Bind.bind, EStateM.bind]
    cases first : liftIo (act i) s with
    | ok u s₁ => exact ih s₁
    | error e s₁ =>
      intro failed
      injection failed with blamed
      exact liftIo_ne (blamed ▸ first)

/-- The network over a socket fails only with failures of system calls. -/
theorem not_mayFail_socket (sock : Socket σ) (target : IpAddress)
    (a : Audience σ (sock.network target).pending) :
    ¬((sock.network target).attendedBy a).MayFail .unrepresentableTime := by
  intro h
  obtain ⟨ttl, s, s', failed⟩ | ⟨payload, port, s, s', failed⟩ | ⟨limit, s, s', failed⟩ |
    ⟨s, s', failed⟩ | ⟨s, s', failed⟩ := h
  · exact forM_liftIo_ne _ _ s s' failed
  · change sock.send target payload port s = _ at failed
    unfold Socket.send at failed
    split at failed <;> simp at failed
  · exact liftIo_ne failed
  · change sock.receiveReply s = _ at failed
    unfold Socket.receiveReply at failed
    split at failed <;> simp at failed
  · change sock.receiveNotification s = _ at failed
    unfold Socket.receiveNotification at failed
    split at failed <;> simp at failed

namespace Simulation

theorem refused_ne {α : Type} {answer : Except IoFailure α} {s s' : σ} :
    ScriptedNetwork.refused answer s ≠ .error .unrepresentableTime s' := by
  cases answer <;> simp [ScriptedNetwork.refused]

/-- A script has no other failures either. -/
theorem not_mayFail_scripted (a : Audience _ scriptedNetwork.pending) :
    ¬(scriptedNetwork.attendedBy a).MayFail .unrepresentableTime := by
  intro h
  obtain ⟨ttl, s, s', failed⟩ | ⟨payload, port, s, s', failed⟩ | ⟨limit, s, s', failed⟩ |
    ⟨s, s', failed⟩ | ⟨s, s', failed⟩ := h
  · change ScriptedNetwork.setTtl ttl s = _ at failed
    unfold ScriptedNetwork.setTtl at failed
    split at failed <;> simp at failed
  · change ScriptedNetwork.send payload port s = _ at failed
    unfold ScriptedNetwork.send at failed
    dsimp only at failed
    split at failed <;> simp at failed
  · exact refused_ne failed
  · exact refused_ne failed
  · change ScriptedNetwork.receiveNotification s = _ at failed
    unfold ScriptedNetwork.receiveNotification at failed
    split at failed
    · simp at failed
    · exact refused_ne failed

end Simulation

end Networks

namespace LateHeader
open Simulation

/-- The last moment that can be written in a header, sent with ttl one. -/
def header : ProbeHeader := ⟨1, 0xffffffffffffffff, 0⟩

def notification : Notification :=
  ⟨⟨1000000000⟩, none, header.encode, some ⟨.icmp, .hostUnreachable, 11, 0, 0, none⟩, some 64⟩

def network : ScriptedNetwork :=
  (ScriptedNetwork.start ⟨1000000000⟩ [] fun _ => none).enqueue [.ok notification]

def world : World ScriptedNetwork := scriptedNetwork.attendedBy (Audience.silent _)

def tracing : Tracing ScriptedNetwork := ⟨Session.start SessionConfig.default, network⟩

end LateHeader

/-- One answer of a router is enough. -/
theorem drain_lateHeader :
    (∃ ttl, LateHeader.header.trustedTtl = some ttl) ∧ LateHeader.header.sent = none ∧
      ∃ t', LateHeader.world.drain 1 LateHeader.tracing = .error .unrepresentableTime t' := by
  refine ⟨⟨1, by decide⟩, ?_, ?_⟩
  · exact (ProbeHeader.sent_eq_none_iff _).mpr (by decide)
  · exact failure?_eq_some_iff.mp (by decide +kernel)

theorem unrepresentableTime_iff_lateHeader :
    ¬LateHeader.world.MayFail .unrepresentableTime ∧
      ReadOverflow ((LateHeader.world.transcribed.drain 1).transcript LateHeader.tracing) := by
  have sound : ¬LateHeader.world.MayFail .unrepresentableTime :=
    Simulation.not_mayFail_scripted _
  have fails : ∃ t', LateHeader.world.drain 1 LateHeader.tracing = .error .unrepresentableTime t' :=
    failure?_eq_some_iff.mp (by decide +kernel)
  exact ⟨sound, (unrepresentableTime_iff _ sound 1 LateHeader.tracing).1.mp fails⟩

end HopTrace
