import HopTrace.Proofs.Evaluation
import HopTrace.Proofs.Execution

/-!
# Worlds that answer alike

Two worlds are compared at the few operations a probe consists of: handing a datagram to
the network, one round of a drain, the wait, the look for a reply, and the changes of the
session around them. Worlds that agree on these, up to a relation of the running traces
and a relation of the failures, agree on every drain, every probe and every trace. The
loops are gone through once, here.

The relation may forget what the comparison is not about. It has to fix the path MTU and
the cursor of the history, which the loops themselves look at.

Worlds that answer each single operation alike agree on all of these, with the same session
on both sides.

A world that is compared with itself carries along whatever its operations keep up. So the loops
are not gone through again for an invariant.
-/
namespace HopTrace

variable {σ τ α β γ δ : Type}

/-- Both results are answers related by `V`, in related states, or both are failures
related by `E`. -/
def Agree (R : Tracing σ → Tracing τ → Prop)
    (E : Failure → Tracing σ → Failure → Tracing τ → Prop) (V : α → β → Prop) :
    EStateM.Result Failure (Tracing σ) α → EStateM.Result Failure (Tracing τ) β → Prop
  | .ok a t, .ok b u => V a b ∧ R t u
  | .error e t, .error f u => E e t f u
  | _, _ => False

section
variable {R : Tracing σ → Tracing τ → Prop}
variable {E : Failure → Tracing σ → Failure → Tracing τ → Prop}

theorem Agree.of_ok {V : α → β → Prop} {a : α} {t : Tracing σ}
    {r : EStateM.Result Failure (Tracing τ) β} (h : Agree R E V (.ok a t) r) :
    ∃ b u, r = .ok b u ∧ V a b ∧ R t u := by
  cases r with
  | ok b u => exact ⟨b, u, rfl, h⟩
  | error f u => exact h.elim

theorem Agree.of_error {V : α → β → Prop} {e : Failure} {t : Tracing σ}
    {r : EStateM.Result Failure (Tracing τ) β} (h : Agree R E V (.error e t) r) :
    ∃ f u, r = .error f u ∧ E e t f u := by
  cases r with
  | ok b u => exact h.elim
  | error f u => exact ⟨f, u, rfl, h⟩

theorem Agree.mono {V W : α → β → Prop} {r : EStateM.Result Failure (Tracing σ) α}
    {r' : EStateM.Result Failure (Tracing τ) β} (h : Agree R E V r r')
    (hV : ∀ a b, V a b → W a b) : Agree R E W r r' := by
  cases r with
  | ok a t =>
    obtain ⟨b, u, rfl, hab, hR⟩ := h.of_ok
    exact ⟨hV a b hab, hR⟩
  | error e t =>
    obtain ⟨f, u, rfl, hE⟩ := h.of_error
    exact hE

theorem Agree.bind {V : α → β → Prop} {W : γ → δ → Prop} {m : Step σ α} {m' : Step τ β}
    {f : α → Step σ γ} {f' : β → Step τ δ} {t : Tracing σ} {u : Tracing τ}
    (hm : Agree R E V (m t) (m' u))
    (hf : ∀ a b t u, V a b → R t u → Agree R E W (f a t) (f' b u)) :
    Agree R E W ((m >>= f) t) ((m' >>= f') u) := by
  simp only [Bind.bind, EStateM.bind]
  cases h : m t with
  | ok a t₁ =>
    rw [h] at hm
    obtain ⟨b, u₁, h', hV, hR⟩ := hm.of_ok
    simp only [h']
    exact hf a b t₁ u₁ hV hR
  | error e t₁ =>
    rw [h] at hm
    obtain ⟨f, u₁, h', hE⟩ := hm.of_error
    simp only [h']
    exact hE

end

/-- The rounds of two drains that go on in the same way. -/
def SameRound (a b : Option (Option Hop)) : Prop :=
  a.map (·.map Hop.status) = b.map (·.map Hop.status)

theorem SameRound.of_none {b : Option (Option Hop)} (h : SameRound none b) : b = none := by
  cases b with
  | none => rfl
  | some b => simp [SameRound] at h

theorem SameRound.of_uninformed {b : Option (Option Hop)} (h : SameRound (some none) b) :
    b = some none := by
  rcases b with _ | _ | hop
  · simp [SameRound] at h
  · rfl
  · simp [SameRound] at h

theorem SameRound.of_hop {hop : Hop} {b : Option (Option Hop)}
    (h : SameRound (some (some hop)) b) :
    ∃ hop', b = some (some hop') ∧ hop'.status = hop.status := by
  rcases b with _ | _ | hop'
  · simp [SameRound] at h
  · simp [SameRound] at h
  · simp only [SameRound, Option.map_some, Option.some.injEq] at h
    exact ⟨hop', rfl, h.symm⟩

/-- A drain of `v` at `ttl` goes as one of `w`, as far as `R` and `E` look. -/
structure World.SimulatesDrain (R : Tracing σ → Tracing τ → Prop)
    (E : Failure → Tracing σ → Failure → Tracing τ → Prop)
    (w : World σ) (v : World τ) (ttl : UInt8) : Prop where
  mtu : ∀ {t u}, R t u → t.session.mtu = u.session.mtu
  readOne : ∀ {t u}, R t u → Agree R E SameRound (w.readOne ttl t) (v.readOne ttl u)

/-- All that `v` does at `ttl` goes as with `w`. -/
structure World.Simulates (R : Tracing σ → Tracing τ → Prop)
    (E : Failure → Tracing σ → Failure → Tracing τ → Prop)
    (w : World σ) (v : World τ) (ttl : UInt8) : Prop extends w.SimulatesDrain R E v ttl where
  cursor : ∀ {t u}, R t u → t.session.history.cursor = u.session.history.cursor
  shoot : ∀ {t u} (slot : Slot), R t u → Agree R E (· = ·) (w.shoot ttl slot t) (v.shoot ttl slot u)
  awaitReadable : ∀ {t u}, R t u → Agree R E (· = ·)
    (Step.world (w.awaitReadable replyWait) t) (Step.world (v.awaitReadable replyWait) u)
  receiveReply : ∀ {t u}, R t u → Agree R E (· = ·)
    (Step.world w.receiveReply t) (Step.world v.receiveReply u)
  publish : ∀ {t u}, ∀ e ∈ [Event.replyReceived ttl, .sendFailed ttl, .noReply ttl],
    R t u → R { t with world := w.publish e t.world } { u with world := v.publish e u.world }
  clear : ∀ {t u} (slot : Slot), R t u →
    R { t with session := t.session.clear slot } { u with session := u.session.clear slot }
  advance : ∀ {t u}, R t u →
    R { t with session := t.session.advance } { u with session := u.session.advance }

section
variable {R : Tracing σ → Tracing τ → Prop}
variable {E : Failure → Tracing σ → Failure → Tracing τ → Prop}
variable {w : World σ} {v : World τ} {ttl : UInt8} {t : Tracing σ} {u : Tracing τ}

namespace World.SimulatesDrain

theorem drainFrom (h : w.SimulatesDrain R E v ttl) (initial : UInt32) (progress : Bool)
    (hR : R t u) :
    Agree R E (· = ·) (w.drainFrom ttl initial progress t) (v.drainFrom ttl initial progress u) := by
  have ex := w.drainFrom_exec ttl initial progress t
  generalize w.drainFrom ttl initial progress t = r at ex
  -- The induction is on the rounds of the first drain; the second follows by its equation.
  induction ex generalizing u with
  | failed read =>
    obtain ⟨f, u', read', hE⟩ := (read ▸ h.readOne hR).of_error
    rw [v.drainFrom_eq, read']
    exact hE
  | emptied read =>
    obtain ⟨b, u', read', same, hR'⟩ := (read ▸ h.readOne hR).of_ok
    obtain rfl := same.of_none
    rw [v.drainFrom_eq, read', h.mtu hR']
    exact ⟨rfl, hR'⟩
  | uninformed read =>
    obtain ⟨b, u', read', same, hR'⟩ := (read ▸ h.readOne hR).of_ok
    obtain rfl := same.of_uninformed
    rw [v.drainFrom_eq, read']
    exact ⟨rfl, hR'⟩
  | stopped read stop =>
    obtain ⟨b, u', read', same, hR'⟩ := (read ▸ h.readOne hR).of_ok
    obtain ⟨hop', rfl, status⟩ := same.of_hop
    rw [v.drainFrom_eq, read']
    simp only [status, stop]
    exact ⟨rfl, hR'⟩
  | decoded read go _ ih =>
    obtain ⟨b, u', read', same, hR'⟩ := (read ▸ h.readOne hR).of_ok
    obtain ⟨hop', rfl, status⟩ := same.of_hop
    rw [v.drainFrom_eq, read']
    simp only [status, go]
    exact ih hR'

theorem drain (h : w.SimulatesDrain R E v ttl) (hR : R t u) :
    Agree R E (· = ·) (w.drain ttl t) (v.drain ttl u) := by
  unfold World.drain
  rw [h.mtu hR]
  exact h.drainFrom _ _ hR

end World.SimulatesDrain

namespace World.Simulates

theorem launch (h : w.Simulates R E v ttl) (slot : Slot) (n : Nat) (hR : R t u) :
    Agree R E (· = ·) (w.launch ttl slot n t) (v.launch ttl slot n u) := by
  induction n generalizing t u with
  | zero => exact ⟨rfl, hR⟩
  | succ n ih =>
    rw [World.launch_succ, World.launch_succ]
    refine (h.shoot slot hR).bind ?_
    rintro accepted _ t u rfl hR
    cases accepted with
    | true => exact ⟨rfl, hR⟩
    | false =>
      refine (h.drain hR).bind ?_
      rintro outcome _ t u rfl hR
      have hR := h.clear slot hR
      cases ended : outcome.isTerminal with
      | true =>
        simp only [Step.update, Bind.bind, EStateM.bind]
        exact ⟨rfl, hR⟩
      | false =>
        simp only [Step.update, Bind.bind, EStateM.bind]
        exact ih hR

theorem collect (h : w.Simulates R E v ttl) (hR : R t u) :
    Agree R E (· = ·) (w.collect ttl t) (v.collect ttl u) := by
  unfold World.collect
  refine (h.awaitReadable hR).bind ?_
  rintro _ _ t u rfl hR
  refine (h.receiveReply hR).bind ?_
  rintro reply _ t u rfl hR
  cases reply with
  | some size => exact ⟨rfl, h.publish _ (by simp) hR⟩
  | none =>
    refine (h.drain hR).bind ?_
    rintro outcome _ t u rfl hR
    exact ⟨rfl, hR⟩

theorem sendProbe (h : w.Simulates R E v ttl) (hR : R t u) :
    Agree R E (· = ·) (w.sendProbe ttl t) (v.sendProbe ttl u) := by
  have cursor := h.cursor hR
  simp only [World.sendProbe, Step.session, Step.update, Bind.bind, EStateM.bind, cursor]
  refine (h.launch u.session.history.cursor maxSendAttempts hR).bind ?_
  rintro launch _ t u rfl hR
  have hR := h.advance hR
  cases launch with
  | sent => exact h.collect hR
  | ended outcome => exact ⟨rfl, hR⟩
  | refused => exact ⟨rfl, h.publish _ (by simp) hR⟩

theorem probeTtlFrom (h : w.Simulates R E v ttl) (left : Nat) (hR : R t u) :
    Agree R E (· = ·) (w.probeTtlFrom ttl left t) (v.probeTtlFrom ttl left u) := by
  obtain ⟨as, ex⟩ := w.probeTtlFrom_exec ttl left t
  generalize w.probeTtlFrom ttl left t = r at ex
  induction ex generalizing u with
  | unanswered =>
    rw [v.probeTtlFrom_zero]
    exact ⟨rfl, h.publish _ (by simp) hR⟩
  | failed sent =>
    obtain ⟨f, u', sent', hE⟩ := (sent ▸ h.sendProbe hR).of_error
    rw [v.probeTtlFrom_succ, sent']
    exact hE
  | restarted sent changed _ ih =>
    obtain ⟨b, u', sent', rfl, hR'⟩ := (sent ▸ h.sendProbe hR).of_ok
    rw [h.mtu hR, h.mtu hR'] at changed
    rw [v.probeTtlFrom_succ, sent']
    simp only [changed, if_true, ne_eq, not_false_eq_true]
    exact ih hR'
  | ended sent same ended =>
    obtain ⟨b, u', sent', rfl, hR'⟩ := (sent ▸ h.sendProbe hR).of_ok
    rw [h.mtu hR, h.mtu hR'] at same
    rw [v.probeTtlFrom_succ, sent']
    simp only [same, ended, ne_eq, not_true_eq_false, if_false]
    exact ⟨rfl, hR'⟩
  | advanced sent same =>
    obtain ⟨b, u', sent', rfl, hR'⟩ := (sent ▸ h.sendProbe hR).of_ok
    rw [h.mtu hR, h.mtu hR'] at same
    rw [v.probeTtlFrom_succ, sent']
    simp only [same, Completion.ofOutcome?, ne_eq, not_true_eq_false, if_false, if_true]
    exact ⟨rfl, hR'⟩
  | repeated sent same going stuck _ ih =>
    obtain ⟨b, u', sent', rfl, hR'⟩ := (sent ▸ h.sendProbe hR).of_ok
    rw [h.mtu hR, h.mtu hR'] at same
    rw [v.probeTtlFrom_succ, sent']
    simp only [same, going, stuck, ne_eq, not_true_eq_false, if_false]
    exact ih hR'

end World.Simulates

/-- The hop limits `v` sets in a trace over `ttls` take as they do with `w`. -/
def World.SimulatesSetTtl (R : Tracing σ → Tracing τ → Prop)
    (E : Failure → Tracing σ → Failure → Tracing τ → Prop)
    (w : World σ) (v : World τ) (ttls : List UInt8) : Prop :=
  ∀ ttl ∈ ttls, ∀ t u, R t u →
    Agree R E (· = ·) (Step.world (w.setTtl ttl) t) (Step.world (v.setTtl ttl) u)

theorem World.Simulates.traceOver {ttls : List UInt8} (h : ∀ ttl ∈ ttls, w.Simulates R E v ttl)
    (set : w.SimulatesSetTtl R E v ttls) (hR : R t u) :
    Agree R E (· = ·) (w.traceOver ttls t) (v.traceOver ttls u) := by
  induction ttls generalizing t u with
  | nil => exact ⟨rfl, hR⟩
  | cons ttl rest ih =>
    refine (set ttl (by simp) t u hR).bind ?_
    rintro _ _ t u rfl hR
    refine ((h ttl (by simp)).probeTtlFrom maxTtlAttempts hR).bind ?_
    rintro found _ t u rfl hR
    cases found with
    | some completion => exact ⟨rfl, hR⟩
    | none =>
      exact ih (fun ttl m => h ttl (List.mem_cons_of_mem _ m))
        (fun ttl m => set ttl (List.mem_cons_of_mem _ m)) hR

theorem World.Simulates.trace (h : ∀ ttl ∈ t.session.ttls, w.Simulates R E v ttl)
    (set : w.SimulatesSetTtl R E v t.session.ttls)
    (summary : ∀ {t u}, R t u → t.session.summary = u.session.summary)
    (ttls : t.session.ttls = u.session.ttls) (hR : R t u) :
    Agree R E (· = ·) (w.trace t) (v.trace u) := by
  simp only [World.trace, Step.session, Bind.bind, EStateM.bind, ← ttls]
  refine (World.Simulates.traceOver h set hR).bind ?_
  rintro completion _ t u rfl hR
  exact ⟨congrFun (summary hR) completion, hR⟩

end

/-- Both results are the same answer or the same failure, in states related by `S`. -/
inductive Alike {ε : Type} (S : σ → τ → Prop) :
    EStateM.Result ε σ α → EStateM.Result ε τ α → Prop
  | ok (a) {s u} : S s u → Alike S (.ok a s) (.ok a u)
  | error (e) {s u} : S s u → Alike S (.error e s) (.error e u)

/-- The same failure in related running traces. -/
def SameFailure (R : Tracing σ → Tracing τ → Prop) (e : Failure) (t : Tracing σ) (f : Failure)
    (u : Tracing τ) : Prop :=
  e = f ∧ R t u

/-- Results that agree but for their states are the same answer or the same failure. -/
theorem Agree.results {R : Tracing σ → Tracing τ → Prop}
    {r : EStateM.Result Failure (Tracing σ) α} {r' : EStateM.Result Failure (Tracing τ) α}
    (h : Agree R (SameFailure R) (· = ·) r r') :
    answer? r' = answer? r ∧ failure? r' = failure? r ∧ R (finalState r) (finalState r') := by
  cases r with
  | ok a t =>
    obtain ⟨_, u, rfl, rfl, related⟩ := h.of_ok
    exact ⟨rfl, rfl, related⟩
  | error e t =>
    obtain ⟨_, u, rfl, rfl, related⟩ := h.of_error
    exact ⟨rfl, rfl, related⟩

section Alike
variable {S : σ → τ → Prop} {R : Tracing σ → Tracing τ → Prop} {t : Tracing σ} {u : Tracing τ}

theorem Alike.world {act : EStateM Failure σ α} {act' : EStateM Failure τ α}
    (alike : Alike S (act t.world) (act' u.world))
    (hR : ∀ {s s'}, S s s' → R ⟨t.session, s⟩ ⟨u.session, s'⟩) :
    Agree R (SameFailure R) (· = ·) (Step.world act t) (Step.world act' u) := by
  unfold Step.world
  generalize act t.world = r at alike
  generalize act' u.world = r' at alike
  cases alike with
  | ok a related => exact ⟨rfl, hR related⟩
  | error e related => exact ⟨rfl, hR related⟩

theorem Alike.trySend {w : World σ} {v : World τ} {payload : Payload} {port : UInt16}
    (alike : Alike S (w.send payload port t.world) (v.send payload port u.world))
    (hR : ∀ {s s'}, S s s' → R ⟨t.session, s⟩ ⟨u.session, s'⟩) :
    Agree R (SameFailure R) (· = ·) (w.trySend payload port t) (v.trySend payload port u) := by
  unfold World.trySend
  generalize w.send payload port t.world = r at alike
  generalize v.send payload port u.world = r' at alike
  cases alike with
  | ok a related => exact ⟨rfl, hR related⟩
  | error e related =>
    cases e with
    | probeFailed cause => exact ⟨rfl, hR related⟩
    | io cause => exact ⟨rfl, hR related⟩
    | unrepresentableTime => exact ⟨rfl, hR related⟩

end Alike

/-- Every operation of `v` answers as that of `w`, and leads to related states again. -/
structure World.Matches (S : σ → τ → Prop) (w : World σ) (v : World τ) : Prop where
  now : ∀ {s u}, S s u → (w.now s).1 = (v.now u).1 ∧ S (w.now s).2 (v.now u).2
  setTtl : ∀ {s u} ttl, S s u → Alike S (w.setTtl ttl s) (v.setTtl ttl u)
  send : ∀ {s u} payload port, S s u → Alike S (w.send payload port s) (v.send payload port u)
  awaitReadable : ∀ {s u} limit, S s u → Alike S (w.awaitReadable limit s) (v.awaitReadable limit u)
  receiveReply : ∀ {s u}, S s u → Alike S (w.receiveReply s) (v.receiveReply u)
  receiveNotification : ∀ {s u}, S s u →
    Alike S (w.receiveNotification s) (v.receiveNotification u)
  resolve : ∀ {s u} a, S s u →
    (w.resolve a s).1 = (v.resolve a u).1 ∧ S (w.resolve a s).2 (v.resolve a u).2
  publish : ∀ {s u} e, S s u → S (w.publish e s) (v.publish e u)

/-- Two running traces with the same session, in related worlds. -/
def Beside (S : σ → τ → Prop) (t : Tracing σ) (u : Tracing τ) : Prop :=
  t.session = u.session ∧ S t.world u.world

def BesideFailure (S : σ → τ → Prop) (e : Failure) (t : Tracing σ) (f : Failure)
    (u : Tracing τ) : Prop :=
  e = f ∧ Beside S t u

theorem Agree.finalStates {S : σ → τ → Prop}
    {r : EStateM.Result Failure (Tracing σ) α} {r' : EStateM.Result Failure (Tracing τ) α}
    (h : Agree (Beside S) (BesideFailure S) (· = ·) r r') :
    S (finalState r).world (finalState r').world :=
  (Agree.results h).2.2.2

namespace World.Matches
variable {S : σ → τ → Prop} {w : World σ} {v : World τ}

theorem agree_world {act : EStateM Failure σ α} {act' : EStateM Failure τ α} {t : Tracing σ}
    {u : Tracing τ} (hR : Beside S t u) (alike : Alike S (act t.world) (act' u.world)) :
    Agree (Beside S) (BesideFailure S) (· = ·) (Step.world act t) (Step.world act' u) :=
  alike.world fun related => ⟨hR.1, related⟩

theorem name (h : w.Matches S v) (mode : AddressMode) (r : Responder) {s : σ} {u : τ}
    (hS : S s u) :
    (w.name mode r s).1 = (v.name mode r u).1 ∧ S (w.name mode r s).2 (v.name mode r u).2 := by
  unfold World.name
  split
  · split
    · split
      · exact ⟨rfl, hS⟩
      · next a =>
        obtain ⟨found, related⟩ := h.resolve a hS
        have named := congrArg
          (fun name => Responder.remote (some a) (some (name.getD unresolvedHost))) found
        exact ⟨named, related⟩
    · exact ⟨rfl, hS⟩
  · exact ⟨rfl, hS⟩

theorem decode (h : w.Matches S v) (ttl : UInt8) (n : Notification) {t : Tracing σ}
    {u : Tracing τ} (hR : Beside S t u) :
    Agree (Beside S) (BesideFailure S) (· = ·) (w.decode ttl n t) (v.decode ttl n u) := by
  obtain ⟨session, hS⟩ := hR
  unfold World.decode
  rw [session]
  rcases u.session.decode ttl n with ⟨_ | hop, s⟩ | ⟨e, s⟩
  · exact ⟨rfl, rfl, hS⟩
  · obtain ⟨named, related⟩ := h.name s.mode hop.responder hS
    exact ⟨congrArg (fun responder => some { hop with responder }) named, rfl, related⟩
  · exact ⟨rfl, rfl, hS⟩

theorem readOne (h : w.Matches S v) (ttl : UInt8) {t : Tracing σ} {u : Tracing τ}
    (hR : Beside S t u) :
    Agree (Beside S) (BesideFailure S) (· = ·) (w.readOne ttl t) (v.readOne ttl u) := by
  have read := h.receiveNotification hR.2
  unfold World.readOne
  generalize w.receiveNotification t.world = r at read
  generalize v.receiveNotification u.world = r' at read
  cases read with
  | error e related => exact ⟨rfl, hR.1, related⟩
  | @ok found s s' related =>
    cases found with
    | none => exact ⟨rfl, hR.1, related⟩
    | some n =>
      dsimp only
      have start : Beside S { t with world := s } { u with world := s' } := ⟨hR.1, related⟩
      have decoded := h.decode ttl n start
      generalize w.decode ttl n { t with world := s } = r at decoded
      cases r with
      | error e t' =>
        obtain ⟨f, u', decoded', failed⟩ := decoded.of_error
        rw [decoded']
        exact failed
      | ok hop t' =>
        obtain ⟨_, u', decoded', rfl, session, related⟩ := decoded.of_ok
        rw [decoded']
        cases hop with
        | none => exact ⟨rfl, session, h.publish _ related⟩
        | some hop => exact ⟨rfl, session, h.publish _ related⟩

theorem shoot (h : w.Matches S v) (ttl : UInt8) (slot : Slot) {t : Tracing σ} {u : Tracing τ}
    (hR : Beside S t u) :
    Agree (Beside S) (BesideFailure S) (· = ·) (w.shoot ttl slot t) (v.shoot ttl slot u) := by
  obtain ⟨session, hS⟩ := hR
  obtain ⟨clock, hS⟩ := h.now hS
  rw [World.shoot_eq, World.shoot_eq, session, clock]
  have sent := h.send ((u.session.record slot ttl (v.now u.world).1).payload ttl (v.now u.world).1)
    (slot.port u.session.basePort) hS
  exact sent.trySend fun related => ⟨rfl, related⟩

theorem simulates (h : w.Matches S v) (ttl : UInt8) :
    w.Simulates (Beside S) (BesideFailure S) v ttl where
  mtu hR := congrArg Session.mtu hR.1
  cursor hR := congrArg (·.history.cursor) hR.1
  readOne hR := (h.readOne ttl hR).mono fun _ _ same => same ▸ rfl
  shoot slot hR := h.shoot ttl slot hR
  awaitReadable hR := agree_world hR (h.awaitReadable _ hR.2)
  receiveReply hR := agree_world hR (h.receiveReply hR.2)
  publish e _ hR := ⟨hR.1, h.publish e hR.2⟩
  clear slot hR := ⟨congrArg (·.clear slot) hR.1, hR.2⟩
  advance hR := ⟨congrArg Session.advance hR.1, hR.2⟩

theorem trace (h : w.Matches S v) {t : Tracing σ} {u : Tracing τ} (hR : Beside S t u) :
    Agree (Beside S) (BesideFailure S) (· = ·) (w.trace t) (v.trace u) := by
  apply World.Simulates.trace (fun ttl _ => h.simulates ttl)
  · intro ttl _ t u hR
    exact agree_world hR (h.setTtl ttl hR.2)
  · intro t u hR
    rw [hR.1]
  · rw [hR.1]
  · exact hR

end World.Matches

/-- An operation ended where `J` holds, or failed where `E` does. -/
def Ends {ε : Type} (J : σ → Prop) (E : ε → σ → Prop) : EStateM.Result ε σ α → Prop
  | .ok _ s => J s
  | .error e s => E e s

/-- Every act of a trace at `ttl` carries `J` along, and leads to `E` if it fails. -/
structure World.Carries (w : World σ) (ttl : UInt8) (J : Tracing σ → Prop)
    (E : Failure → Tracing σ → Prop) : Prop where
  readOne : ∀ {t}, J t → Ends J E (w.readOne ttl t)
  shoot : ∀ {t} slot, J t → Ends J E (w.shoot ttl slot t)
  awaitReadable : ∀ {t}, J t → Ends J E (Step.world (w.awaitReadable replyWait) t)
  receiveReply : ∀ {t}, J t → Ends J E (Step.world w.receiveReply t)
  publish : ∀ {t}, ∀ e ∈ [Event.replyReceived ttl, .sendFailed ttl, .noReply ttl],
    J t → J { t with world := w.publish e t.world }
  clear : ∀ {t} slot, J t → J { t with session := t.session.clear slot }
  advance : ∀ {t}, J t → J { t with session := t.session.advance }

section Carried
variable (J : Tracing σ → Prop) (E : Failure → Tracing σ → Prop)

/-- The comparison of a trace with itself, where `J` holds of it. -/
def Carried (t u : Tracing σ) : Prop := t = u ∧ J t

def CarriedFailure (e : Failure) (t : Tracing σ) (f : Failure) (u : Tracing σ) : Prop :=
  (e = f ∧ t = u) ∧ E e t

variable {J E}

theorem Ends.agree {r : EStateM.Result Failure (Tracing σ) α} (h : Ends J E r) :
    Agree (Carried J) (CarriedFailure E) (· = ·) r r := by
  cases r with
  | ok a t => exact ⟨rfl, rfl, h⟩
  | error e t => exact ⟨⟨rfl, rfl⟩, h⟩

theorem Agree.ends {r : EStateM.Result Failure (Tracing σ) α}
    (h : Agree (Carried J) (CarriedFailure E) (· = ·) r r) : Ends J E r := by
  cases r with
  | ok a t => exact h.2.2
  | error e t => exact h.2

theorem Ends.of_finalState {r : EStateM.Result Failure (Tracing σ) α} (h : J (finalState r)) :
    Ends J (fun _ => J) r := by
  cases r <;> exact h

theorem Ends.finalState {r : EStateM.Result Failure (Tracing σ) α} (h : Ends J (fun _ => J) r) :
    J (finalState r) := by
  cases r <;> exact h

namespace World.Carries
variable {w : World σ} {ttl : UInt8} {t : Tracing σ}

theorem simulates (h : w.Carries ttl J E) :
    w.Simulates (Carried J) (CarriedFailure E) w ttl where
  mtu hR := congrArg (·.session.mtu) hR.1
  cursor hR := congrArg (·.session.history.cursor) hR.1
  readOne := by
    rintro t _ ⟨rfl, hJ⟩
    exact (h.readOne hJ).agree.mono fun _ _ same => same ▸ rfl
  shoot := by
    rintro t _ slot ⟨rfl, hJ⟩
    exact (h.shoot slot hJ).agree
  awaitReadable := by
    rintro t _ ⟨rfl, hJ⟩
    exact (h.awaitReadable hJ).agree
  receiveReply := by
    rintro t _ ⟨rfl, hJ⟩
    exact (h.receiveReply hJ).agree
  publish := by
    rintro t _ e engine ⟨rfl, hJ⟩
    exact ⟨rfl, h.publish e engine hJ⟩
  clear := by
    rintro t _ slot ⟨rfl, hJ⟩
    exact ⟨rfl, h.clear slot hJ⟩
  advance := by
    rintro t _ ⟨rfl, hJ⟩
    exact ⟨rfl, h.advance hJ⟩

/-- A trace carries along what every act of it does. -/
theorem trace (h : ∀ ttl ∈ t.session.ttls, w.Carries ttl J E)
    (set : ∀ ttl ∈ t.session.ttls, ∀ t, J t → Ends J E (Step.world (w.setTtl ttl) t))
    (hJ : J t) : Ends J E (w.trace t) := by
  refine Agree.ends (World.Simulates.trace (fun ttl m => (h ttl m).simulates) ?_ ?_ rfl ⟨rfl, hJ⟩)
  · rintro ttl m t _ ⟨rfl, hJ⟩
    exact (set ttl m t hJ).agree
  · rintro t _ ⟨rfl, -⟩
    rfl

end World.Carries

end Carried

end HopTrace
