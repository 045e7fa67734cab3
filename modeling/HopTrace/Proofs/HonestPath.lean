import HopTrace.Proofs.PathProbe

/-!
# Traces of an honest path

On a path that answers honestly a trace finds what there is to find. While it probes one
ttl its estimate of the path MTU stays between the MTU of the hops up to there and the size
it started from. A probe that is too big lowers the estimate to the limit of one of these
hops; once none is too big the estimate is their MTU, and the probe brings what the hop
itself has to say.
-/
namespace HopTrace

variable {σ : Type}

section Probe
variable {w : World σ} {p : Path} {c : SessionConfig} {view : PathView σ}
variable {ttl : UInt8} {t : Tracing σ}

/-- How the probing of one ttl ends. Running out of attempts takes a hop that has been silent. -/
theorem TtlExec.onPath (h : w.Follows p c.family.overhead view)
    (passable : p.Passable c.family.overhead) (positive : 0 < ttl)
    (near : ttl.toNat ≤ p.distance) {left : Nat} {as : List (Attempt σ)}
    {r : EStateM.Result Failure (Tracing σ) (Option Completion)} (ex : TtlExec w ttl left t as r)
    (searches : t.Searches view c ttl) (low : p.mtu c.mtu ttl.toNat ≤ t.session.mtu)
    (spent : left = 0 → ttl.toNat < p.distance ∧ Passed p c view ttl.toNat t) :
    (ttl.toNat = p.distance ∧ ∃ t', r = .ok (some .reached) t' ∧ Arrived w p c view ttl t') ∨
    (ttl.toNat < p.distance ∧ ∃ t', r = .ok none t' ∧ Passed p c view ttl.toNat t') := by
  -- `spent` is what the last silent attempt leaves for the end of the attempts; a restart has
  -- attempts again and owes nothing.
  induction ex with
  | @unanswered t =>
    obtain ⟨far, passed⟩ := spent rfl
    have same := h.publish (.noReply ttl) t.world
    exact .inr ⟨far, _, rfl, passed.session, same.2.trans passed.queue, passed.mtu⟩
  | failed sent =>
    obtain ⟨outcome, t', sent', -⟩ := h.probe passable positive near searches low
    cases sent.symm.trans sent'
  | restarted sent changed _ ih =>
    obtain ⟨outcome, t', sent', brought⟩ := h.probe passable positive near searches low
    cases sent.symm.trans sent'
    cases brought with
    | tooBig _ searches' low' => exact ih searches' low' (by simp [maxTtlAttempts])
    | arrived same => exact absurd same changed
    | passed same => exact absurd same changed
    | silent same => exact absurd same changed
  | ended sent same ended =>
    obtain ⟨outcome, t', sent', brought⟩ := h.probe passable positive near searches low
    cases sent.symm.trans sent'
    cases brought with
    | tooBig changed => exact absurd same changed
    | arrived _ last arrived =>
      cases ended
      exact .inl ⟨last, _, rfl, arrived⟩
    | passed => cases ended
    | silent => cases ended
  | advanced sent same =>
    obtain ⟨outcome, t', sent', brought⟩ := h.probe passable positive near searches low
    cases sent.symm.trans sent'
    cases brought with
    | passed _ far passed => exact .inr ⟨far, _, rfl, passed⟩
  | repeated sent same going stuck _ ih =>
    obtain ⟨outcome, t', sent', brought⟩ := h.probe passable positive near searches low
    cases sent.symm.trans sent'
    cases brought with
    | tooBig changed => exact absurd same changed
    | arrived => cases going
    | passed => exact absurd rfl stuck
    | silent _ far passed hopLimit =>
      refine ih ⟨hopLimit, passed.queue, passed.session⟩ ?_ fun _ => ⟨far, passed⟩
      exact same ▸ low

/-- The ttls after `hops`, as many as `count`. -/
def ttlsAfter (hops count : Nat) : List UInt8 := (List.range' (hops + 1) count).map UInt8.ofNat

theorem ttls_eq (s : Session) : s.ttls = ttlsAfter 0 s.maxTtl.toNat := by
  unfold Session.ttls ttlsAfter
  rw [List.range'_eq_map_range, List.map_map]
  congr 1
  funext i
  rw [Function.comp_apply, Nat.zero_add, Nat.add_comm]

theorem traceOver_onPath (h : w.Follows p c.family.overhead view)
    (passable : p.Passable c.family.overhead) (count : Nat) {hops : Nat}
    (fits : hops + count < 256) (near : hops < p.distance) (passed : Passed p c view hops t) :
    (p.distance ≤ hops + count ∧ ∃ t', w.traceOver (ttlsAfter hops count) t = .ok .reached t' ∧
      Arrived w p c view (UInt8.ofNat p.distance) t') ∨
    (hops + count < p.distance ∧ ∃ t', w.traceOver (ttlsAfter hops count) t =
      .ok .tooManyHops t' ∧ Passed p c view (hops + count) t') := by
  induction count generalizing hops t with
  | zero => exact .inr ⟨near, t, rfl, passed⟩
  | succ count ih =>
    have ttl : (UInt8.ofNat (hops + 1)).toNat = hops + 1 := by
      rw [UInt8.toNat_ofNat', Nat.mod_eq_of_lt (by omega)]
    have split : ttlsAfter hops (count + 1) =
        UInt8.ofNat (hops + 1) :: ttlsAfter (hops + 1) count := by
      unfold ttlsAfter
      rw [List.range'_succ, List.map_cons]
    obtain ⟨s₁, set, hopLimit, queue⟩ := h.setTtl (UInt8.ofNat (hops + 1)) t.world
    have positive : 0 < UInt8.ofNat (hops + 1) := by
      rw [UInt8.lt_iff_toNat_lt, ttl]
      exact Nat.succ_pos hops
    have low : p.mtu c.mtu (UInt8.ofNat (hops + 1)).toNat ≤ t.session.mtu := by
      rw [ttl, passed.mtu]
      exact Path.mtu_succ_le
    obtain ⟨as, ex⟩ := w.probeTtlFrom_exec (UInt8.ofNat (hops + 1)) maxTtlAttempts
      { t with world := s₁ }
    have probed := ex.onPath h passable positive (by omega)
      ⟨hopLimit, queue.trans passed.queue, passed.session⟩ low (by simp [maxTtlAttempts])
    rw [split]
    simp only [World.traceOver, Bind.bind, EStateM.bind, Step.world, set, World.probeTtl]
    rw [ttl] at probed
    obtain ⟨last, t', ended, arrived⟩ | ⟨far, t', ended, passed'⟩ := probed
    · rw [ended]
      refine .inl ⟨by omega, t', rfl, ?_⟩
      rw [← last]
      exact arrived
    · rw [ended]
      have rest := ih (by omega) far passed'
      rw [Nat.add_assoc, Nat.add_comm 1 count] at rest
      exact rest

end Probe

section Trace
variable {w : World σ} {p : Path} {c : SessionConfig} {view : PathView σ} {s : σ}

theorem passed_start (wide : c.family.overhead ≤ c.mtu) (empty : view.queue s = []) :
    Passed p c view 0 ⟨Session.start c, s⟩ where
  session := ⟨rfl, rfl, wide, UInt32.le_refl _, rfl, rfl⟩
  queue := empty
  mtu := rfl

theorem trace_of_traceOver {t t' : Tracing σ} {completion : Completion}
    (traced : w.traceOver t.session.ttls t = .ok completion t') :
    w.trace t = .ok (t'.session.summary completion) t' := by
  simp only [World.trace, Step.session, Bind.bind, EStateM.bind, traced]
  rfl

theorem trace_onPath (h : w.Follows p c.family.overhead view)
    (passable : p.Passable c.family.overhead) (wide : c.family.overhead ≤ c.mtu)
    (empty : view.queue s = []) :
    (p.distance ≤ c.maxTtl.toNat ∧ ∃ t', w.trace ⟨Session.start c, s⟩ =
      .ok (t'.session.summary .reached) t' ∧
        Arrived w p c view (UInt8.ofNat p.distance) t') ∨
    (c.maxTtl.toNat < p.distance ∧ ∃ t', w.trace ⟨Session.start c, s⟩ =
      .ok (t'.session.summary .tooManyHops) t' ∧ Passed p c view c.maxTtl.toNat t') := by
  have fits := c.maxTtl.toNat_lt
  have traced := traceOver_onPath h passable c.maxTtl.toNat (by omega) passable.far
    (passed_start wide empty)
  rw [Nat.zero_add] at traced
  have ttls : (Session.start c).ttls = ttlsAfter 0 c.maxTtl.toNat := ttls_eq _
  obtain ⟨near, t', ended, arrived⟩ | ⟨far, t', ended, passed⟩ := traced
  · rw [← ttls] at ended
    exact .inl ⟨near, t', trace_of_traceOver ended, arrived⟩
  · rw [← ttls] at ended
    exact .inr ⟨far, t', trace_of_traceOver ended, passed⟩

/-- The same path, seen through a transcript. -/
def PathView.told (view : PathView σ) : PathView (Transcript σ) :=
  ⟨fun x => view.hopLimit x.inner, fun x => view.queue x.inner⟩

theorem World.Follows.transcribed {overhead : UInt32} (h : w.Follows p overhead view) :
    w.transcribed.Follows p overhead view.told where
  tellable x := h.tellable x.inner
  now x := h.now x.inner
  setTtl ttl x := by
    obtain ⟨s', set, same⟩ := h.setTtl ttl x.inner
    exact ⟨_, Transcript.perform_ok set, same⟩
  send payload port x := by
    obtain ⟨s', notes, sent, same⟩ := h.send payload port x.inner
    exact ⟨_, notes, Transcript.perform_ok sent, same⟩
  awaitReadable limit x := by
    obtain ⟨readable, s', awaited, same⟩ := h.awaitReadable limit x.inner
    exact ⟨readable, _, Transcript.perform_ok awaited, same⟩
  receiveReply x := by
    obtain ⟨s', answered, same⟩ := h.receiveReply x.inner
    exact ⟨_, Transcript.perform_ok answered, same⟩
  readEmpty x empty := by
    obtain ⟨s', read, same⟩ := h.readEmpty x.inner empty
    exact ⟨_, Transcript.perform_ok read, same⟩
  read x n rest queued := by
    obtain ⟨s', read, same⟩ := h.read x.inner n rest queued
    exact ⟨_, Transcript.perform_ok read, same⟩
  resolve a x := h.resolve a x.inner
  publish e x := h.publish e x.inner

/-- A round of a drain that decodes a hop leaves its notification as the last one read. -/
theorem lastRead_readOne {ttl : UInt8} {t t' : Tracing (Transcript σ)} {n : Notification}
    {hop : Hop} {s' : σ} (read : w.receiveNotification t.world.inner = .ok (some n) s')
    (round : w.transcribed.readOne ttl t = .ok (some (some hop)) t') :
    lastRead t'.world.past = some n := by
  rw [World.transcribed_readOne, read] at round
  simp only at round
  cases decoded : t.session.decode ttl n with
  | error e session => simp [decoded] at round
  | ok found session =>
    cases found with
    | none => simp [decoded] at round
    | some found =>
      obtain ⟨names, asked, named⟩ := w.transcribed_name session.mode found.responder
        ⟨.receiveNotification (.ok (some n)) :: t.world.past, s'⟩
      simp only [decoded, named, EStateM.Result.ok.injEq] at round
      obtain ⟨-, rfl⟩ := round
      change lastRead (names ++ .receiveNotification (.ok (some n)) :: t.world.past) = some n
      rw [lastRead_append_resolves asked]
      rfl

/-- A trace of an honest path reaches a target that is near enough, and reports its distance,
the way back as its refusal tells it, and the MTU of the path. Of a path that is longer it
reports the MTU of the hops it has probed. -/
theorem trace_honestPath (h : w.Follows p c.family.overhead view)
    (passable : p.Passable c.family.overhead) (wide : c.family.overhead ≤ c.mtu)
    (empty : view.queue s = []) :
    (p.distance ≤ c.maxTtl.toNat → ∃ n t',
      w.trace ⟨Session.start c, s⟩ = .ok
        ⟨p.mtu c.mtu p.distance, some (UInt8.ofNat p.distance), n.receivedTtl.map returnHops,
          .reached⟩ t' ∧
      lastRead (w.transcribed.trace.transcript ⟨Session.start c, s⟩) = some n ∧
      n.isRefusal = true) ∧
    (c.maxTtl.toNat < p.distance → ∃ t',
      w.trace ⟨Session.start c, s⟩ = .ok
        ⟨p.mtu c.mtu c.maxTtl.toNat, none, none, .tooManyHops⟩ t') := by
  have still : view.told.queue ⟨[], s⟩ = [] := empty
  have traced := trace_onPath h.transcribed passable wide still
  have plain := w.trace_eq ⟨Session.start c, s⟩
  obtain ⟨near, t', ended, mtu, hopsTo, n, hop, t₀, queued, isRefusal, back, round⟩ |
    ⟨far, t', ended, passed⟩ := traced
  · have ended : w.transcribed.trace (Tracing.unspoken ⟨Session.start c, s⟩) = _ := ended
    rw [ended] at plain
    refine ⟨fun _ => ⟨n, t'.untold, ?_, ?_, isRefusal⟩, fun far => by omega⟩
    · rw [plain, untoldResult, Session.summary, mtu, hopsTo, back]
    · obtain ⟨s', read, -⟩ := h.read t₀.world.inner n [] queued
      unfold Step.transcript
      rw [ended]
      exact lastRead_readOne read round
  · have ended : w.transcribed.trace (Tracing.unspoken ⟨Session.start c, s⟩) = _ := ended
    rw [ended] at plain
    refine ⟨fun near => by omega, fun _ => ⟨t'.untold, ?_⟩⟩
    rw [plain, untoldResult, Session.summary, passed.mtu, passed.session.hopsTo,
      passed.session.hopsFrom]

end Trace

/-- What a path leaves open about its answers, by the number of the probe. -/
structure Circumstances where
  clock : Nat → Instant
  received : Nat → Instant
  receivedTtl : Nat → Option UInt8
  offender : Nat → Option IpAddress

/-- The error a router or the target sends. -/
def Answer.error? (a : Answer) (offender : Option IpAddress) : Option ExtendedError :=
  match a with
  | .tooBig mtu => some ⟨.icmp, .messageTooBig, 3, 4, mtu, offender⟩
  | .refused => some ⟨.icmp, .connectionRefused, 3, 3, 0, offender⟩
  | .expired => some ⟨.icmp, .hostUnreachable, 11, 0, 0, offender⟩
  | .silence => none

structure PathNetwork where
  hopLimit : UInt8
  queue : List Notification
  probes : Nat

namespace PathNetwork

def start : PathNetwork := ⟨0, [], 0⟩

def view : PathView PathNetwork := ⟨hopLimit, queue⟩

/-- What a path puts on the queue for one probe. -/
def notes (p : Path) (overhead : UInt32) (c : Circumstances) (s : PathNetwork)
    (payload : Payload) (port : UInt16) : List Notification :=
  let answer := p.answer s.hopLimit.toNat (payload.length + overhead.toNat)
  match answer.error? (c.offender s.probes) with
  | none => []
  | some e => [{
      received := c.received s.probes
      port := some port
      payload := payload.bytes.take ProbeHeader.size
      error := some e
      receivedTtl := c.receivedTtl s.probes }]

/-- The notes are what the answer of the path puts on the queue. -/
theorem queues_notes (p : Path) (overhead : UInt32) (c : Circumstances) (s : PathNetwork)
    (payload : Payload) (port : UInt16) :
    (p.answer s.hopLimit.toNat (payload.length + overhead.toNat)).Queues payload port
      (s.notes p overhead c payload port) := by
  unfold notes
  cases p.answer s.hopLimit.toNat (payload.length + overhead.toNat) with
  | tooBig mtu => exact .inr ⟨_, rfl, rfl, rfl, _, rfl, rfl, rfl⟩
  | refused => exact .inr ⟨_, rfl, rfl, rfl, _, rfl, rfl⟩
  | expired => exact .inr ⟨_, rfl, rfl, rfl, _, rfl, rfl, rfl⟩
  | silence => exact .inl ⟨rfl, rfl⟩

def receive (s : PathNetwork) : EStateM.Result Failure PathNetwork (Option Notification) :=
  match s.queue with
  | [] => .ok none s
  | n :: queue => .ok (some n) { s with queue }

theorem length_queue_lt {s s' : PathNetwork} {n : Notification}
    (h : receive s = .ok (some n) s') : s'.queue.length < s.queue.length := by
  unfold receive at h
  split at h
  · simp at h
  · next rest queued =>
    simp only [EStateM.Result.ok.injEq] at h
    obtain ⟨-, rfl⟩ := h
    rw [queued]
    exact Nat.lt_succ_self _

end PathNetwork

/-- A network that is nothing but a path. -/
def pathNetwork (p : Path) (overhead : UInt32) (c : Circumstances) : Network PathNetwork where
  now s := (c.clock s.probes, s)
  setTtl ttl s := .ok () { s with hopLimit := ttl }
  send payload port s := .ok () { s with
    queue := s.queue ++ s.notes p overhead c payload port
    probes := s.probes + 1 }
  awaitReadable _ s := .ok (!s.queue.isEmpty) s
  receiveReply s := .ok none s
  receiveNotification := PathNetwork.receive
  pending s := s.queue.length
  pending_lt := PathNetwork.length_queue_lt

/-- Every path has a world that follows it, whatever the path leaves open. -/
theorem pathNetwork_follows (p : Path) (overhead : UInt32) {c : Circumstances}
    (tellable : ∀ k, (c.clock k).Tellable) :
    ((pathNetwork p overhead c).attendedBy (Audience.silent _)).Follows p overhead
      PathNetwork.view where
  tellable s := tellable s.probes
  now s := ⟨rfl, rfl⟩
  setTtl ttl s := ⟨_, rfl, rfl, rfl⟩
  send payload port s := by
    refine ⟨_, _, rfl, rfl, rfl, ?_⟩
    exact PathNetwork.queues_notes p overhead c s payload port
  awaitReadable limit s := ⟨_, _, rfl, rfl, rfl⟩
  receiveReply s := ⟨_, rfl, rfl, rfl⟩
  readEmpty s empty := by
    refine ⟨s, ?_, rfl, rfl⟩
    change PathNetwork.receive s = _
    unfold PathNetwork.receive
    rw [show s.queue = [] from empty]
  read s n rest queued := by
    refine ⟨{ s with queue := rest }, ?_, rfl, rfl⟩
    change PathNetwork.receive s = _
    unfold PathNetwork.receive
    rw [show s.queue = n :: rest from queued]
  resolve a s := ⟨rfl, rfl⟩
  publish e s := ⟨rfl, rfl⟩

namespace ThreeHops

/-- A silent router, a bottleneck and a target. -/
def path : Path where
  distance := 3
  limit i := if i = 2 then 1400 else 1500
  silent i := i = 1

def circumstances : Circumstances where
  clock _ := Instant.ofParts 1 0
  received k := Instant.ofParts (k + 1) 0
  receivedTtl _ := some 62
  offender _ := none

def world : World PathNetwork :=
  (pathNetwork path (Family.overhead .v4) circumstances).attendedBy (Audience.silent _)

def config (maxTtl : UInt8) : SessionConfig := { SessionConfig.default with mtu := 1500, maxTtl }

theorem follows : world.Follows path (Family.overhead .v4) PathNetwork.view := by
  have tellable : (Instant.ofParts 1 0).Tellable := by
    unfold Instant.Tellable
    decide
  exact pathNetwork_follows _ _ fun _ => tellable

theorem passable : path.Passable (Family.overhead .v4) where
  far := by decide
  wide i _ _ := by
    unfold path
    simp only
    split <;> decide

end ThreeHops

theorem trace_honestPath_threeHops :
    (∃ (n : Notification) (t' : Tracing PathNetwork),
      ThreeHops.world.trace ⟨Session.start (ThreeHops.config 3), PathNetwork.start⟩ =
        .ok ⟨1400, some 3, n.receivedTtl.map returnHops, .reached⟩ t') ∧
    ∃ t', ThreeHops.world.trace ⟨Session.start (ThreeHops.config 2), PathNetwork.start⟩ =
      .ok ⟨1400, none, none, .tooManyHops⟩ t' := by
  have far : ThreeHops.path.mtu 1500 2 = 1400 := by decide
  have whole : ThreeHops.path.mtu 1500 3 = 1400 := by decide
  constructor
  · obtain ⟨n, t', traced, -, -⟩ := (trace_honestPath (c := ThreeHops.config 3)
      (s := PathNetwork.start) ThreeHops.follows ThreeHops.passable (by decide) rfl).1 (by decide)
    exact ⟨n, t', whole ▸ traced⟩
  · obtain ⟨t', traced⟩ := (trace_honestPath (c := ThreeHops.config 2)
      (s := PathNetwork.start) ThreeHops.follows ThreeHops.passable (by decide) rfl).2 (by decide)
    exact ⟨t', far ▸ traced⟩

end HopTrace
