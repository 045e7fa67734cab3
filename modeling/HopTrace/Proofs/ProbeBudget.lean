import HopTrace.Proofs.Invariant

/-!
# How many probes a trace sends

Every ttl has three attempts, and three more each time an attempt lowers the path MTU.
The path MTU never rises, so the attempts that lower it are no more than the bytes it has
lost, and an attempt hands at most ten datagrams to the network.

The count of the attempts is taken from the executions of `HopTrace.Proofs.Execution`,
of which a trace has exactly one, and the count of the datagrams from its transcript.
Nothing is asked of the network but that its error queue runs dry.
-/
namespace HopTrace

variable {σ : Type}

/-- The attempts among `as` that left a lower path MTU behind. -/
def restarts (w : World σ) (as : List (Attempt σ)) : List (Attempt σ) := as.filter (·.lowers w)

theorem length_restarts_cons (w : World σ) (a : Attempt σ) (as : List (Attempt σ)) :
    (restarts w (a :: as)).length = (a.lowers w).toNat + (restarts w as).length :=
  length_filter_cons ..

theorem restarts_append (w : World σ) (as bs : List (Attempt σ)) :
    restarts w (as ++ bs) = restarts w as ++ restarts w bs := List.filter_append ..

section Attempts
variable {w : World σ} {ttl : UInt8}

theorem TtlExec.mtu_le {left : Nat} {t : Tracing σ} {as : List (Attempt σ)}
    {r : EStateM.Result Failure (Tracing σ) (Option Completion)} (h : TtlExec w ttl left t as r) :
    (finalState r).session.mtu.toNat + (restarts w as).length ≤ t.session.mtu.toNat := by
  induction h with
  | unanswered => exact Nat.le_refl _
  | failed sent =>
    have hm := mtu_sendProbe_le sent
    rwa [length_restarts_cons]
  | ended sent _ _ =>
    have hm := mtu_sendProbe_le sent
    rwa [length_restarts_cons]
  | advanced sent _ =>
    have hm := mtu_sendProbe_le sent
    rwa [length_restarts_cons]
  | restarted sent _ _ ih =>
    have hm := mtu_sendProbe_le sent
    rw [finalState_ok] at hm
    rw [length_restarts_cons]
    omega
  | repeated sent _ _ _ _ ih =>
    have hm := mtu_sendProbe_le sent
    rw [finalState_ok] at hm
    rw [length_restarts_cons]
    omega

/-- Three attempts for each restart besides those left at the start. -/
theorem TtlExec.length_le {left : Nat} {t : Tracing σ} {as : List (Attempt σ)}
    {r : EStateM.Result Failure (Tracing σ) (Option Completion)} (h : TtlExec w ttl left t as r) :
    as.length ≤ left + maxTtlAttempts * (restarts w as).length := by
  induction h with
  | unanswered => exact Nat.zero_le _
  | failed => simp only [List.length_singleton]; omega
  | ended => simp only [List.length_singleton]; omega
  | advanced => simp only [List.length_singleton]; omega
  | restarted sent changed _ ih =>
    rw [length_restarts_cons, lowers_of_ne sent changed, Bool.toNat_true, Nat.mul_add,
      List.length_cons]
    omega
  | repeated _ _ _ _ _ ih =>
    rw [length_restarts_cons, Nat.mul_add, List.length_cons]
    omega

end Attempts

section Path
variable {w : World σ} {ttls : List UInt8} {t : Tracing σ} {walk : List (List (Attempt σ))}
variable {r : EStateM.Result Failure (Tracing σ) Completion}

theorem PathExec.mtu_le (h : PathExec w ttls t walk r) :
    (finalState r).session.mtu.toNat + (restarts w walk.flatten).length ≤
      t.session.mtu.toNat := by
  induction h with
  | spent => exact Nat.le_refl _
  | unset set =>
    have hs := session_world set
    rw [finalState_error] at hs ⊢
    rw [hs]
    exact Nat.le_refl _
  | failed set probed =>
    have hs := session_world set
    have hm := probed.mtu_le
    rw [finalState_ok] at hs
    rw [List.flatten_cons, List.flatten_nil, List.append_nil, ← hs]
    exact hm
  | ended set probed =>
    have hs := session_world set
    have hm := probed.mtu_le
    rw [finalState_ok] at hs
    rw [List.flatten_cons, List.flatten_nil, List.append_nil, ← hs]
    exact hm
  | advanced set probed _ ih =>
    have hs := session_world set
    have hm := probed.mtu_le
    rw [finalState_ok] at hs hm
    rw [List.flatten_cons, restarts_append, List.length_append, ← hs]
    omega

theorem PathExec.length_walk_le (h : PathExec w ttls t walk r) : walk.length ≤ ttls.length := by
  induction h with
  | spent => exact Nat.le_refl _
  | unset => exact Nat.zero_le _
  | failed => simp
  | ended => simp
  | advanced _ _ _ ih => simpa using ih

theorem PathExec.length_le (h : PathExec w ttls t walk r) :
    walk.flatten.length ≤
      maxTtlAttempts * (walk.length + (restarts w walk.flatten).length) := by
  induction h with
  | spent => exact Nat.zero_le _
  | unset => exact Nat.zero_le _
  | failed _ probed =>
    have hl := probed.length_le
    simp only [List.flatten_cons, List.flatten_nil, List.append_nil, List.length_singleton]
    rw [Nat.mul_add]
    omega
  | ended _ probed =>
    have hl := probed.length_le
    simp only [List.flatten_cons, List.flatten_nil, List.append_nil, List.length_singleton]
    rw [Nat.mul_add]
    omega
  | advanced _ probed _ ih =>
    have hl := probed.length_le
    rw [List.flatten_cons, restarts_append, List.length_append, List.length_append,
      List.length_cons]
    rw [Nat.mul_add] at ih ⊢
    rw [Nat.mul_add, Nat.mul_add]
    omega

end Path

/-- The datagrams handed to the network, accepted or not. -/
def sends (past : List Exchange) : Nat := past.countP Exchange.isSend

section Datagrams
variable {w : World σ} {ttl : UInt8} {t : Tracing (Transcript σ)}

theorem sends_append_resolves {names past : List Exchange}
    (asked : ∀ x ∈ names, ∃ a name, x = Exchange.resolve a name) :
    sends (names ++ past) = sends past :=
  append_resolves asked fun _ _ _ => rfl

theorem maintainsDrain_sends (w : World σ) (ttl : UInt8) (k : Nat) :
    w.MaintainsDrain ttl (fun _ past => sends past = k) (fun _ _ past => sends past = k) where
  unread _ h _ := h
  emptied h := h
  undecoded _ _ h _ := h
  uninformed _ h _ := h
  decoded _ _ _ _ h _ asked := (sends_append_resolves asked).trans h

theorem sends_drain {r : EStateM.Result Failure (Tracing (Transcript σ)) DrainOutcome}
    (drained : w.transcribed.drain ttl t = r) :
    sends (finalState r).world.past = sends t.world.past := by
  subst drained
  exact ((maintainsDrain_sends w ttl _).lands_drain (t := t) rfl).finalState

theorem sends_shoot {slot : Slot} {r : EStateM.Result Failure (Tracing (Transcript σ)) Bool}
    (shot : w.transcribed.shoot ttl slot t = r) :
    sends (finalState r).world.past = sends t.world.past + 1 := by
  obtain ⟨now, payload, port, answer, past⟩ := past_shoot shot
  rw [past]
  exact List.countP_cons_of_pos rfl

theorem sends_perform {α : Type} {mark : Except Failure α → Exchange} {act : EStateM Failure σ α}
    {r : EStateM.Result Failure (Tracing (Transcript σ)) α}
    (other : ∀ answer, (mark answer).isSend = false)
    (performed : Step.world (Transcript.perform mark act) t = r) :
    sends (finalState r).world.past = sends t.world.past := by
  obtain ⟨answer, past⟩ := past_perform performed
  rw [past]
  exact List.countP_cons_of_neg (by simp [other])

/-- Each attempt at a launch hands over one datagram. -/
theorem LaunchExec.sends_le {slot : Slot} {n : Nat}
    {r : EStateM.Result Failure (Tracing (Transcript σ)) Launch}
    (h : LaunchExec w.transcribed ttl slot n t r) :
    sends (finalState r).world.past ≤ sends t.world.past + n := by
  induction h with
  | refused => exact Nat.le_refl _
  | failed shot =>
    have hs := sends_shoot shot
    simp only [finalState_error] at hs ⊢
    omega
  | sent shot =>
    have hs := sends_shoot shot
    simp only [finalState_ok] at hs ⊢
    omega
  | undrained shot drained =>
    have hs := sends_shoot shot
    have hd := sends_drain drained
    simp only [finalState_ok, finalState_error] at hs hd ⊢
    omega
  | ended shot drained _ =>
    have hs := sends_shoot shot
    have hd := sends_drain drained
    simp only [finalState_ok] at hs hd ⊢
    omega
  | retried shot drained _ _ ih =>
    have hs := sends_shoot shot
    have hd := sends_drain drained
    simp only [finalState_ok] at hs hd ih
    omega

theorem CollectExec.sends_eq {r : EStateM.Result Failure (Tracing (Transcript σ)) ProbeOutcome}
    (h : CollectExec w.transcribed ttl t r) :
    sends (finalState r).world.past = sends t.world.past := by
  cases h with
  | unawaited awaited =>
    have ha := sends_perform (fun _ => rfl) awaited
    exact ha
  | unanswered awaited answered =>
    have ha := sends_perform (fun _ => rfl) awaited
    exact (sends_perform (fun _ => rfl) answered).trans ha
  | replied awaited answered =>
    have ha := sends_perform (fun _ => rfl) awaited
    exact (sends_perform (fun _ => rfl) answered).trans ha
  | undrained awaited answered drained =>
    have ha := sends_perform (fun _ => rfl) awaited
    have hr := sends_perform (fun _ => rfl) answered
    exact (sends_drain drained).trans (hr.trans ha)
  | drained awaited answered drained =>
    have ha := sends_perform (fun _ => rfl) awaited
    have hr := sends_perform (fun _ => rfl) answered
    exact (sends_drain drained).trans (hr.trans ha)

theorem sends_launch {slot : Slot} {r : EStateM.Result Failure (Tracing (Transcript σ)) Launch}
    (launched : w.transcribed.launch ttl slot maxSendAttempts t = r) :
    sends (finalState r).world.past ≤ sends t.world.past + maxSendAttempts :=
  launched ▸ (w.transcribed.launch_exec ttl slot maxSendAttempts t).sends_le

theorem sends_sendProbe {r : EStateM.Result Failure (Tracing (Transcript σ)) ProbeOutcome}
    (sent : w.transcribed.sendProbe ttl t = r) :
    sends (finalState r).world.past ≤ sends t.world.past + maxSendAttempts := by
  have h := sent ▸ w.transcribed.sendProbe_exec ttl t
  cases h with
  | failed launched => exact sends_launch launched
  | ended launched => exact sends_launch launched
  | refused launched => exact sends_launch launched
  | sent launched collected =>
    rw [collected.sends_eq]
    exact sends_launch launched

theorem TtlExec.sends_le {left : Nat} {as : List (Attempt (Transcript σ))}
    {r : EStateM.Result Failure (Tracing (Transcript σ)) (Option Completion)}
    (h : TtlExec w.transcribed ttl left t as r) :
    sends (finalState r).world.past ≤ sends t.world.past + maxSendAttempts * as.length := by
  induction h with
  | unanswered => exact Nat.le_refl _
  | failed sent => exact sends_sendProbe sent
  | ended sent => exact sends_sendProbe sent
  | advanced sent => exact sends_sendProbe sent
  | restarted sent _ _ ih =>
    have hs := sends_sendProbe sent
    rw [finalState_ok] at hs
    rw [List.length_cons, Nat.mul_succ]
    omega
  | repeated sent _ _ _ _ ih =>
    have hs := sends_sendProbe sent
    rw [finalState_ok] at hs
    rw [List.length_cons, Nat.mul_succ]
    omega

theorem PathExec.sends_le {ttls : List UInt8} {walk : List (List (Attempt (Transcript σ)))}
    {r : EStateM.Result Failure (Tracing (Transcript σ)) Completion}
    (h : PathExec w.transcribed ttls t walk r) :
    sends (finalState r).world.past ≤
      sends t.world.past + maxSendAttempts * walk.flatten.length := by
  induction h with
  | spent => exact Nat.le_refl _
  | unset set =>
    have hs := sends_perform (fun _ => rfl) set
    exact Nat.le_of_eq hs
  | failed set probed =>
    have hs := sends_perform (fun _ => rfl) set
    have hp := probed.sends_le
    simp only [finalState_ok, finalState_error] at hs hp ⊢
    rw [List.flatten_cons, List.flatten_nil, List.append_nil]
    omega
  | ended set probed =>
    have hs := sends_perform (fun _ => rfl) set
    have hp := probed.sends_le
    simp only [finalState_ok] at hs hp ⊢
    rw [List.flatten_cons, List.flatten_nil, List.append_nil]
    omega
  | advanced set probed _ ih =>
    have hs := sends_perform (fun _ => rfl) set
    have hp := probed.sends_le
    rw [finalState_ok] at hs hp
    rw [List.flatten_cons, List.length_append, Nat.mul_add]
    omega

end Datagrams

section Trace
variable {w : World σ} {t : Tracing σ} {walk : List (List (Attempt σ))}
variable {r : EStateM.Result Failure (Tracing σ) Summary}

theorem TraceExec.path (h : TraceExec w t walk r) :
    ∃ r', PathExec w t.session.ttls t walk r' ∧ finalState r' = finalState r := by
  cases h with
  | failed h => exact ⟨_, h, rfl⟩
  | finished h => exact ⟨_, h, rfl⟩

theorem TraceExec.sends_le {t : Tracing (Transcript σ)}
    {walk : List (List (Attempt (Transcript σ)))}
    {r : EStateM.Result Failure (Tracing (Transcript σ)) Summary}
    (h : TraceExec w.transcribed t walk r) :
    sends (finalState r).world.past ≤
      sends t.world.past + maxSendAttempts * walk.flatten.length := by
  obtain ⟨r', path, final⟩ := h.path
  exact final ▸ path.sends_le

/-- Every trace ends. It calls the engine at most three times for each ttl it probes and
each attempt that lowers the path MTU, and hands over at most ten datagrams for each call. -/
theorem trace_budget (w : World σ) (t : Tracing σ) :
    ∃ walk, TraceExec w t walk (w.trace t) ∧
      (∀ walk' r, TraceExec w t walk' r → walk' = walk ∧ r = w.trace t) ∧
      walk.length ≤ t.session.maxTtl.toNat ∧
      walk.flatten.length ≤ 3 * (walk.length + (restarts w walk.flatten).length) ∧
      (restarts w walk.flatten).length + (finalState (w.trace t)).session.mtu.toNat ≤
        t.session.mtu.toNat ∧
      sends (w.transcribed.trace.transcript t) ≤ 10 * walk.flatten.length := by
  obtain ⟨told, h⟩ := w.transcribed.trace_exec t.unspoken
  have plain := h.untold
  rw [← w.trace_eq t, Tracing.untold_unspoken] at plain
  obtain ⟨r', path, final⟩ := plain.path
  have shorter := path.length_walk_le
  have lowered := path.mtu_le
  have handed := h.sends_le
  refine ⟨_, plain, fun walk' r other => plain.unique other, ?_, path.length_le, ?_, ?_⟩
  · rwa [Session.length_ttls] at shorter
  · rw [final] at lowered
    omega
  · rw [← List.map_flatten, List.length_map]
    rw [← Nat.zero_add (_ * _)]
    exact handed

end Trace

end HopTrace
