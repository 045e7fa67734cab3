import HopTrace.Proofs.Decoding
import HopTrace.Proofs.HopCounts
import HopTrace.Proofs.Path

/-!
# One probe of an honest path

A probe fills a packet of the size of the path MTU. What the path answers is alone on the
error queue, is matched with the probe by its echoed header, or by its record where the
payload is too short for one, and the drain that reads it leaves the queue empty again.
`ProbeOnPath` lists the four ways this can go.
-/
namespace HopTrace

variable {σ : Type}

/-- An echo is matched with its probe, by the header or else by the record of the probe. -/
theorem identify_echo {s : Session} {n : Notification} {slot : Slot} {ttl : UInt8}
    {now : Instant} {length : Nat} (positive : 0 < ttl) (tellable : now.Tellable)
    (port : n.port = some (slot.port s.basePort))
    (payload : n.payload = Payload.leading ⟨ProbeHeader.ofSend ttl now, length⟩)
    (recorded : s.history.get? slot = some ⟨ttl, now⟩) :
    ∃ p, s.identify n = .ok p ∧ p.ttl = some ttl := by
  have record : (s.takeRecord n.port).1 = some ⟨ttl, now⟩ := by
    unfold Session.takeRecord
    rw [port, Option.bind_some, Slot.ofPort_port]
    exact recorded
  obtain ⟨sent, time⟩ := ProbeHeader.sent_ofSend ttl tellable
  have read := Payload.read_leading ⟨ProbeHeader.ofSend ttl now, length⟩
  rw [← payload] at read
  unfold Session.identify
  rw [record]
  by_cases long : ProbeHeader.size ≤ length
  · rw [if_pos long] at read
    exact ⟨_, MatchedProbe.identify_trusted _ read
      (ProbeHeader.trustedTtl_ofSend positive tellable) time, rfl⟩
  · rw [if_neg long] at read
    exact ⟨_, MatchedProbe.identify_unread _ read, rfl⟩

/-- What an answer to a probe of `ttl` changes in a session. -/
def Answer.learn (a : Answer) (ttl : UInt8) (back : Option UInt8) (s : Session) : Session :=
  match a with
  | .tooBig mtu => { s with mtu }
  | .refused => { s with hopsTo := some ttl, hopsFrom := back }
  | .expired | .silence => s

/-- What a drain makes of an answer. -/
def Answer.outcome : Answer → DrainOutcome
  | .tooBig _ => .mtuChanged
  | .refused => .reached
  | .expired => .progress
  | .silence => .exhausted

/-- A session that has not yet heard from the target, between two probes. -/
structure Session.Searches (s : Session) (c : SessionConfig) : Prop where
  family : s.family = c.family
  capacity : s.capacity = payloadLength c.mtu c.family.overhead
  overhead : c.family.overhead ≤ s.mtu
  initial : s.mtu ≤ c.mtu
  hopsTo : s.hopsTo = none
  hopsFrom : s.hopsFrom = none

theorem Session.Searches.of_history {s s' : Session} {c : SessionConfig} (h : s.Searches c)
    (same : s' = { s with history := s'.history }) : s'.Searches c := by
  rw [same]
  exact ⟨h.family, h.capacity, h.overhead, h.initial, h.hopsTo, h.hopsFrom⟩

/-- A probe fills a packet of the size of the path MTU. -/
theorem Session.Searches.size {s : Session} {c : SessionConfig} (h : s.Searches c) (ttl : UInt8)
    (now : Instant) :
    (s.payload ttl now).length + c.family.overhead.toNat = s.mtu.toNat := by
  have low := UInt32.le_iff_toNat_le.mp h.overhead
  have high := UInt32.le_iff_toNat_le.mp h.initial
  unfold Session.payload
  rw [h.family, h.capacity]
  unfold payloadLength
  simp only
  omega

section Classify
variable {a : Answer} {e : ExtendedError}

theorem ofStatus?_answer (told : a.Tells e) (sentHops back : Option UInt8) (ttl : UInt8) :
    DrainOutcome.ofStatus? (classify e sentHops back ttl) =
      if a = .refused then some .reached else none := by
  unfold classify
  cases a with
  | tooBig mtu =>
    rw [told.1]
    rfl
  | refused =>
    rw [show e.code = .connectionRefused from told]
    rfl
  | expired =>
    rw [told.1]
    simp [told.2, DrainOutcome.ofStatus?]
  | silence => exact told.elim

theorem learn_answer {s : Session} (told : a.Tells e) (lower : ∀ m, a = .tooBig m → m < s.mtu)
    (fresh : s.hopsTo = none) (sentHops back : Option UInt8) (ttl : UInt8) :
    s.learn (classify e sentHops back ttl) ttl back = a.learn ttl back s := by
  unfold classify
  cases a with
  | tooBig mtu =>
    rw [told.1]
    simp only [Session.learn, Session.clampMtu, told.2, Answer.learn, if_pos (lower mtu rfl)]
  | refused =>
    rw [show e.code = .connectionRefused from told]
    simp only [Session.learn, Session.setHops, fresh, Option.isNone_none, if_true, Answer.learn]
  | expired =>
    rw [told.1]
    simp only [told.2, if_true, Session.learn, Answer.learn]
  | silence => exact told.elim

/-- How a drain ends that read an answer and then nothing. -/
theorem atEnd_answer {s : Session} {initial : UInt32} (told : a.Tells e) (going : a ≠ .refused)
    (lower : ∀ m, a = .tooBig m → m < initial) (same : s.mtu = initial) {ttl : UInt8}
    {back : Option UInt8} :
    DrainOutcome.atEnd initial (a.learn ttl back s).mtu true = a.outcome := by
  unfold DrainOutcome.atEnd
  cases a with
  | tooBig mtu => exact if_pos (lower mtu rfl)
  | refused => exact absurd rfl going
  | expired =>
    simp only [Answer.learn, same]
    rw [if_neg (UInt32.lt_irrefl _)]
    rfl
  | silence => exact told.elim

end Classify

section Follows
variable {w : World σ} {p : Path} {overhead : UInt32} {view : PathView σ}
variable {ttl : UInt8} {t : Tracing σ} {n : Notification}

theorem World.Follows.name (h : w.Follows p overhead view) (mode : AddressMode) (r : Responder)
    (s : σ) : view.Same s (w.name mode r s).2 := by
  unfold World.name
  split
  · split
    · split
      · exact ⟨rfl, rfl⟩
      · exact h.resolve _ s
    · exact ⟨rfl, rfl⟩
  · exact ⟨rfl, rfl⟩

theorem World.Follows.readOne_empty (h : w.Follows p overhead view) (ttl : UInt8)
    (empty : view.queue t.world = []) :
    ∃ t', w.readOne ttl t = .ok none t' ∧ t'.session = t.session ∧
      view.Same t.world t'.world := by
  obtain ⟨s', read, same⟩ := h.readEmpty t.world empty
  refine ⟨{ t with world := s' }, ?_, rfl, same⟩
  unfold World.readOne
  rw [read]

/-- The round of a drain that reads the answer to the last probe. -/
theorem World.Follows.readOne (h : w.Follows p overhead view) {e : ExtendedError}
    {probe : MatchedProbe} (queued : view.queue t.world = [n])
    (found : t.session.identify n = .ok probe) (error : n.error = some e) :
    ∃ hop t', w.readOne ttl t = .ok (some (some hop)) t' ∧
      hop.status = classify e probe.ttl (n.receivedTtl.map returnHops) ttl ∧
      t'.session = (t.session.taken n).learn hop.status (probe.ttl.getD ttl)
        (n.receivedTtl.map returnHops) ∧
      view.hopLimit t'.world = view.hopLimit t.world ∧ view.queue t'.world = [] := by
  obtain ⟨s', read, hopLimit, rest⟩ := h.read t.world n [] queued
  have decoded := t.session.decode_eq ttl n
  simp only [found, error] at decoded
  have named := h.name ((t.session.taken n).learn (probe.hop ttl n e).status
    (probe.ttl.getD ttl) (n.receivedTtl.map returnHops)).mode (probe.hop ttl n e).responder s'
  have told := named.trans (h.publish (.hop { probe.hop ttl n e with
    responder := (w.name ((t.session.taken n).learn (probe.hop ttl n e).status
      (probe.ttl.getD ttl) (n.receivedTtl.map returnHops)).mode
        (probe.hop ttl n e).responder s').1 }) _)
  unfold World.readOne World.decode
  simp only [read, decoded]
  exact ⟨_, _, rfl, rfl, rfl, told.1.trans hopLimit, told.2.trans rest⟩

theorem World.Follows.drain_empty (h : w.Follows p overhead view) (ttl : UInt8)
    (empty : view.queue t.world = []) :
    ∃ t', w.drain ttl t = .ok .exhausted t' ∧ t'.session = t.session ∧
      view.Same t.world t'.world := by
  obtain ⟨t', read, session, same⟩ := h.readOne_empty ttl empty
  refine ⟨t', ?_, session, same⟩
  unfold World.drain
  rw [World.drainFrom_eq, read]
  simp [session, DrainOutcome.atEnd]

/-- A drain reads the answer and ends, by the target or by the empty queue. -/
theorem World.Follows.drain_answer (h : w.Follows p overhead view) {a : Answer}
    {e : ExtendedError} {probe : MatchedProbe} (queued : view.queue t.world = [n])
    (found : t.session.identify n = .ok probe) (known : probe.ttl = some ttl)
    (error : n.error = some e) (told : a.Tells e)
    (lower : ∀ m, a = .tooBig m → m < t.session.mtu) (fresh : t.session.hopsTo = none) :
    ∃ t', w.drain ttl t = .ok a.outcome t' ∧
      t'.session = a.learn ttl (n.receivedTtl.map returnHops) (t.session.taken n) ∧
      view.hopLimit t'.world = view.hopLimit t.world ∧ view.queue t'.world = [] ∧
      (a = .refused → ∃ hop, w.readOne ttl t = .ok (some (some hop)) t') := by
  obtain ⟨hop, t₁, read, status, session, hopLimit, empty⟩ := h.readOne queued found error
  have stops := ofStatus?_answer told probe.ttl (n.receivedTtl.map returnHops) ttl
  rw [known, Option.getD_some, status,
    learn_answer told (by rw [t.session.taken_eq n]; exact lower)
      (by rw [t.session.taken_eq n]; exact fresh)] at session
  unfold World.drain
  rw [World.drainFrom_eq, read]
  simp only [status, stops]
  by_cases refused : a = .refused
  · rw [if_pos refused]
    refine ⟨t₁, ?_, session, hopLimit, empty, fun _ => ⟨hop, rfl⟩⟩
    rw [refused]
    rfl
  · rw [if_neg refused]
    obtain ⟨t₂, read₂, session₂, same⟩ := h.readOne_empty ttl empty
    refine ⟨t₂, ?_, session₂.trans session, same.1.trans hopLimit, same.2.trans empty,
      fun yes => absurd yes refused⟩
    simp only
    rw [World.drainFrom_eq, read₂]
    simp only [session₂, session]
    rw [atEnd_answer told refused lower (by rw [t.session.taken_eq n])]

theorem isRefusal_of_tells {e : ExtendedError} (error : n.error = some e)
    (told : Answer.refused.Tells e) : n.isRefusal = true := by
  unfold Notification.isRefusal
  rw [error, Option.any_some]
  exact decide_eq_true told

/-- What a drain makes of the answer to a probe that has just been sent. -/
theorem World.Follows.drain (h : w.Follows p overhead view) {a : Answer} {slot : Slot}
    {now : Instant} {length : Nat} {notes : List Notification} (positive : 0 < ttl)
    (tellable : now.Tellable) (recorded : t.session.history.get? slot = some ⟨ttl, now⟩)
    (queued : view.queue t.world = notes)
    (queues : a.Queues ⟨ProbeHeader.ofSend ttl now, length⟩ (slot.port t.session.basePort) notes)
    (lower : ∀ m, a = .tooBig m → m < t.session.mtu) (fresh : t.session.hopsTo = none) :
    ∃ history back t', w.drain ttl t = .ok a.outcome t' ∧
      t'.session = a.learn ttl back { t.session with history } ∧
      view.hopLimit t'.world = view.hopLimit t.world ∧ view.queue t'.world = [] ∧
      (a = .refused → ∃ n hop, view.queue t.world = [n] ∧ n.isRefusal = true ∧
        n.receivedTtl.map returnHops = back ∧ w.readOne ttl t = .ok (some (some hop)) t') := by
  cases queues with
  | inl quiet =>
    obtain ⟨rfl, rfl⟩ := quiet
    obtain ⟨t', drained, session, same⟩ := h.drain_empty ttl queued
    exact ⟨t.session.history, none, t', drained, session, same.1, same.2.trans queued,
      fun refused => by cases refused⟩
  | inr told =>
    obtain ⟨n, rfl, answers⟩ := told
    obtain ⟨e, error, tells⟩ := answers.error
    obtain ⟨probe, found, known⟩ := identify_echo positive tellable answers.port
      (answers.payload.trans (Payload.take_bytes _)) recorded
    obtain ⟨t', drained, session, hopLimit, empty, refusal⟩ :=
      h.drain_answer queued found known error tells lower fresh
    refine ⟨(t.session.taken n).history, n.receivedTtl.map returnHops, t', drained, ?_, hopLimit,
      empty, ?_⟩
    · rw [session, ← t.session.taken_eq n]
    · intro refused
      obtain ⟨hop, read⟩ := refusal refused
      exact ⟨n, hop, queued, isRefusal_of_tells error (refused ▸ tells), rfl, read⟩

theorem World.Follows.shoot (h : w.Follows p overhead view) (ttl : UInt8) (slot : Slot) :
    ∃ s' notes, w.shoot ttl slot t =
        .ok true ⟨t.session.record slot ttl (w.now t.world).1, s'⟩ ∧
      view.hopLimit s' = view.hopLimit t.world ∧ view.queue s' = view.queue t.world ++ notes ∧
      (p.answer (view.hopLimit t.world).toNat
        ((t.session.payload ttl (w.now t.world).1).length + overhead.toNat)).Queues
          (t.session.payload ttl (w.now t.world).1) (slot.port t.session.basePort) notes := by
  obtain ⟨hopLimit, queue⟩ := h.now t.world
  obtain ⟨s', notes, sent, hopLimit', queue', queues⟩ :=
    h.send (t.session.payload ttl (w.now t.world).1) (slot.port t.session.basePort)
      (w.now t.world).2
  rw [hopLimit] at hopLimit' queues
  rw [queue] at queue'
  refine ⟨s', notes, ?_, hopLimit', queue', queues⟩
  have same : (t.session.record slot ttl (w.now t.world).1).payload ttl (w.now t.world).1 =
      t.session.payload ttl (w.now t.world).1 := rfl
  rw [World.shoot_eq, same]
  unfold World.trySend
  rw [sent]

/-- Nobody replies, so what a probe brings is read from the error queue. -/
theorem World.Follows.collect (h : w.Follows p overhead view) (ttl : UInt8) :
    ∃ s', view.Same t.world s' ∧ ∀ outcome t', w.drain ttl { t with world := s' } = .ok outcome t' →
      w.collect ttl t = .ok (.decoded outcome) t' := by
  obtain ⟨readable, s₁, awaited, same₁⟩ := h.awaitReadable replyWait t.world
  obtain ⟨s₂, answered, same₂⟩ := h.receiveReply s₁
  refine ⟨s₂, same₁.trans same₂, ?_⟩
  intro outcome t' drained
  unfold World.collect
  simp only [Bind.bind, EStateM.bind, Step.world, awaited, answered, drained]
  rfl

/-- The first datagram of a probe is accepted. -/
theorem World.sendProbe_of_shoot {w : World σ} {ttl : UInt8} {t t₁ : Tracing σ}
    (shot : w.shoot ttl t.session.history.cursor t = .ok true t₁) :
    w.sendProbe ttl t = w.collect ttl { t₁ with session := t₁.session.advance } := by
  have launched : w.launch ttl t.session.history.cursor maxSendAttempts t = .ok .sent t₁ := by
    rw [maxSendAttempts, World.launch_succ]
    simp only [Bind.bind, EStateM.bind, shot]
    rfl
  unfold World.sendProbe
  simp only [Step.session, Step.update, Bind.bind, EStateM.bind, launched]

end Follows

section Probe
variable {w : World σ} {p : Path} {c : SessionConfig} {view : PathView σ}
variable {ttl : UInt8} {t : Tracing σ}

/-- Between two probes of `ttl`, with nothing left to read. -/
structure Tracing.Searches (t : Tracing σ) (view : PathView σ) (c : SessionConfig)
    (ttl : UInt8) : Prop where
  hopLimit : view.hopLimit t.world = ttl
  queue : view.queue t.world = []
  session : t.session.Searches c

/-- What the path answers to the next probe. -/
def Tracing.answer (t : Tracing σ) (p : Path) (ttl : UInt8) : Answer :=
  p.answer ttl.toNat t.session.mtu.toNat

/-- One probe brings its answer, and the drain that follows reads it. -/
theorem World.Follows.sendProbe (h : w.Follows p c.family.overhead view) (positive : 0 < ttl)
    (searches : t.Searches view c ttl) :
    ∃ history back t', w.sendProbe ttl t = .ok (.decoded (t.answer p ttl).outcome) t' ∧
      t'.session = (t.answer p ttl).learn ttl back { t.session with history } ∧
      view.hopLimit t'.world = ttl ∧ view.queue t'.world = [] ∧
      (t.answer p ttl = .refused → ∃ n hop t₀, view.queue t₀.world = [n] ∧
        n.isRefusal = true ∧ n.receivedTtl.map returnHops = back ∧
        w.readOne ttl t₀ = .ok (some (some hop)) t') := by
  obtain ⟨s₁, notes, shot, hopLimit, queue, queues⟩ :=
    h.shoot (t := t) ttl t.session.history.cursor
  rw [searches.hopLimit, searches.session.size] at queues
  rw [searches.queue, List.nil_append] at queue
  rw [World.sendProbe_of_shoot shot]
  obtain ⟨s₂, same, collected⟩ := h.collect ttl
    (t := ⟨(t.session.record t.session.history.cursor ttl (w.now t.world).1).advance, s₁⟩)
  have recorded : ((t.session.record t.session.history.cursor ttl
      (w.now t.world).1).advance).history.get? t.session.history.cursor =
        some ⟨ttl, (w.now t.world).1⟩ := by
    change (t.session.history.record _ _ _).get? _ = _
    rw [History.get?_record, if_pos rfl]
  have lower : ∀ m, t.answer p ttl = .tooBig m → m < t.session.mtu := by
    intro m big
    obtain ⟨i, bottleneck, answer⟩ | ⟨-, -, answer⟩ | ⟨-, -, answer | answer⟩ :=
      p.answer_cases ttl.toNat t.session.mtu.toNat
    · cases big.symm.trans answer
      exact UInt32.lt_iff_toNat_lt.mpr (Path.bottleneck_eq_some bottleneck).2.2
    · cases big.symm.trans answer
    · cases big.symm.trans answer
    · cases big.symm.trans answer
  obtain ⟨history, back, t', drained, session, hopLimit', empty, refusal⟩ :=
    h.drain (t := ⟨_, s₂⟩) positive (h.tellable t.world) recorded (same.2.trans queue) queues
      lower searches.session.hopsTo
  refine ⟨history, back, t', collected _ _ drained, session, ?_, empty, ?_⟩
  · exact ((hopLimit'.trans same.1).trans hopLimit).trans searches.hopLimit
  · intro refused
    obtain ⟨n, hop, queued, isRefusal, counts, read⟩ := refusal refused
    exact ⟨n, hop, _, queued, isRefusal, counts, read⟩

/-- The last hop has answered, and the session says so. -/
def Arrived (w : World σ) (p : Path) (c : SessionConfig) (view : PathView σ) (ttl : UInt8)
    (t : Tracing σ) : Prop :=
  t.session.mtu = p.mtu c.mtu p.distance ∧ t.session.hopsTo = some ttl ∧
    ∃ n hop t₀, view.queue t₀.world = [n] ∧ n.isRefusal = true ∧
      t.session.hopsFrom = n.receivedTtl.map returnHops ∧
      w.readOne ttl t₀ = .ok (some (some hop)) t

/-- The hop has nothing more to say, and the path goes on. -/
structure Passed (p : Path) (c : SessionConfig) (view : PathView σ) (hops : Nat)
    (t : Tracing σ) : Prop where
  session : t.session.Searches c
  queue : view.queue t.world = []
  mtu : t.session.mtu = p.mtu c.mtu hops

/-- How one probe of an honest path can go, by what it brings. -/
inductive ProbeOnPath (w : World σ) (p : Path) (c : SessionConfig) (view : PathView σ)
    (ttl : UInt8) (t : Tracing σ) : ProbeOutcome → Tracing σ → Prop
  | tooBig {t'} : t'.session.mtu ≠ t.session.mtu → t'.Searches view c ttl →
      p.mtu c.mtu ttl.toNat ≤ t'.session.mtu →
      ProbeOnPath w p c view ttl t (.decoded .mtuChanged) t'
  | arrived {t'} : t'.session.mtu = t.session.mtu → ttl.toNat = p.distance →
      Arrived w p c view ttl t' → ProbeOnPath w p c view ttl t (.decoded .reached) t'
  | passed {t'} : t'.session.mtu = t.session.mtu → ttl.toNat < p.distance →
      Passed p c view ttl.toNat t' → ProbeOnPath w p c view ttl t (.decoded .progress) t'
  | silent {t'} : t'.session.mtu = t.session.mtu → ttl.toNat < p.distance →
      Passed p c view ttl.toNat t' → view.hopLimit t'.world = ttl →
      ProbeOnPath w p c view ttl t (.decoded .exhausted) t'

theorem World.Follows.probe (h : w.Follows p c.family.overhead view)
    (passable : p.Passable c.family.overhead) (positive : 0 < ttl)
    (near : ttl.toNat ≤ p.distance) (searches : t.Searches view c ttl)
    (low : p.mtu c.mtu ttl.toNat ≤ t.session.mtu) :
    ∃ outcome t', w.sendProbe ttl t = .ok outcome t' ∧
      ProbeOnPath w p c view ttl t outcome t' := by
  obtain ⟨history, back, t', sent, session, hopLimit, queue, refusal⟩ :=
    h.sendProbe positive searches
  refine ⟨_, t', sent, ?_⟩
  have unchanged : { t.session with history }.Searches c := searches.session.of_history rfl
  have cases := p.answer_cases ttl.toNat t.session.mtu.toNat
  rw [Nat.min_eq_left near] at cases
  obtain ⟨i, big, answer⟩ | ⟨passes, arrived, answer⟩ | ⟨passes, far, answer | answer⟩ := cases
  · obtain ⟨first, last, small⟩ := Path.bottleneck_eq_some big
    have answer : t.answer p ttl = .tooBig (p.limit i) := answer
    have lower : p.limit i < t.session.mtu := UInt32.lt_iff_toNat_lt.mpr small
    rw [answer] at session ⊢
    refine .tooBig ?_ ⟨hopLimit, queue, ?_⟩ ?_
    · rw [session]
      exact UInt32.ne_of_lt lower
    · rw [session]
      exact { unchanged with
        overhead := passable.wide i first (Nat.le_trans last near)
        initial := UInt32.le_trans (UInt32.le_of_lt lower) searches.session.initial }
    · rw [session]
      exact Path.mtu_le_limit first last
  · have mtu := Path.mtu_eq_of_bottleneck searches.session.initial low passes
    have answer : t.answer p ttl = .refused := answer
    have last : ttl.toNat = p.distance := Nat.le_antisymm near arrived
    obtain ⟨n, hop, t₀, queued, isRefusal, counts, read⟩ := refusal answer
    rw [answer] at session ⊢
    have same : t'.session.mtu = t.session.mtu := by rw [session]; rfl
    refine .arrived same last ⟨?_, ?_, n, hop, t₀, queued, isRefusal, ?_, read⟩
    · rw [same, ← last]
      exact mtu
    · rw [session]
      rfl
    · rw [session]
      exact counts.symm
  · have mtu := Path.mtu_eq_of_bottleneck searches.session.initial low passes
    have answer : t.answer p ttl = .silence := answer
    rw [answer] at session ⊢
    have same : t'.session.mtu = t.session.mtu := by rw [session]; rfl
    exact .silent same far ⟨session ▸ unchanged, queue, same.trans mtu⟩ hopLimit
  · have mtu := Path.mtu_eq_of_bottleneck searches.session.initial low passes
    have answer : t.answer p ttl = .expired := answer
    rw [answer] at session ⊢
    have same : t'.session.mtu = t.session.mtu := by rw [session]; rfl
    exact .passed same far ⟨session ▸ unchanged, queue, same.trans mtu⟩

end Probe

end HopTrace
