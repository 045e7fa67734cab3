import HopTrace.Proofs.ErrorQueue

/-!
# The conversation of one probe

One call of the probe engine talks with the network in a fixed form. It hands over a datagram,
and if that is refused it drains the error queue and tries again, ten times at most. Once a
datagram is accepted it waits, looks for a reply and, without one, drains the error queue.
Any failure ends the conversation on the spot, and so does a drain that ended the trace.

The form is described on transcripts and sessions only. `DrainTalk`, `LaunchTalk` and
`Conversation` say which exchanges a drain, a launch and a whole call consist of, for the
answers that were given, and what comes of them. The latest exchange stands first.
-/
namespace HopTrace

variable {σ : Type}

/-- A result without the world it was obtained in. -/
def sessionResult {α : Type} :
    EStateM.Result Failure (Tracing σ) α → EStateM.Result Failure Session α
  | .ok a t => .ok a t.session
  | .error e t => .error e t.session

theorem sessionResult_untoldResult {α : Type}
    (r : EStateM.Result Failure (Tracing (Transcript σ)) α) :
    sessionResult (untoldResult r) = sessionResult r := by
  cases r <;> rfl

/-- What is exchanged for a notification that is read, decoded and published. -/
inductive World.Decodes (w : World σ) (ttl : UInt8) (s : Session) (n : Notification) :
    List Exchange → Prop
  | told {event} (names : List Exchange) : w.Reports ttl s n event →
      (∀ x ∈ names, ∃ a name, x = Exchange.resolve a name) →
      w.Decodes ttl s n (.event event :: (names ++ [.receiveNotification (.ok (some n))]))

/-- What a drain exchanges, whose path MTU was `initial` at the start. It reads notifications
up to the first one after which the trace does not go on, or up to the end of the queue. -/
inductive DrainTalk (w : World σ) (ttl : UInt8) (initial : UInt32) :
    Bool → Session → List Exchange → EStateM.Result Failure Session DrainOutcome → Prop
  | unread {progress s e} :
      DrainTalk w ttl initial progress s [.receiveNotification (.error e)] (.error e s)
  | undecoded {progress s n e} : s.identify n = .error e →
      DrainTalk w ttl initial progress s [.receiveNotification (.ok (some n))]
        (.error e (s.after ttl n))
  | emptied {progress s} :
      DrainTalk w ttl initial progress s [.receiveNotification (.ok none)]
        (.ok (.atEnd initial s.mtu progress) s)
  | stopped {progress s n talk} : w.Decodes ttl s n talk → n.stops = true →
      DrainTalk w ttl initial progress s talk (.ok n.outcome (s.after ttl n))
  | going {progress s n talk later r} : w.Decodes ttl s n talk → n.stops = false →
      DrainTalk w ttl initial true (s.after ttl n) later r →
      DrainTalk w ttl initial progress s (later ++ talk) r

/-- What one round of a drain exchanges. -/
def RoundTalk (w : World σ) (ttl : UInt8) (s : Session) (talk : List Exchange) :
    EStateM.Result Failure Session (Option (Option Hop)) → Prop
  | .error e s' => (talk = [.receiveNotification (.error e)] ∧ s' = s) ∨
      ∃ n, talk = [.receiveNotification (.ok (some n))] ∧ s.identify n = .error e ∧
        s' = s.after ttl n
  | .ok none s' => talk = [.receiveNotification (.ok none)] ∧ s' = s
  | .ok (some none) s' => ∃ n, w.Decodes ttl s n talk ∧ n.stops = true ∧
      n.outcome = .exhausted ∧ s' = s.after ttl n
  | .ok (some (some hop)) s' => ∃ n, w.Decodes ttl s n talk ∧
      DrainOutcome.ofStatus? hop.status = (if n.stops then some n.outcome else none) ∧
      s' = s.after ttl n

section Drain
variable {w : World σ} {ttl : UInt8}

/-- What a drain makes of the status of a hop is known from its notification. -/
theorem ofStatus?_hop (p : MatchedProbe) (ttl : UInt8) {n : Notification} {e : ExtendedError}
    (error : n.error = some e) :
    DrainOutcome.ofStatus? (p.hop ttl n e).status =
      if n.stops then some n.outcome else none := by
  unfold MatchedProbe.hop Notification.stops Notification.outcome
  rw [ofStatus?_classify, error, Option.all_some]

/-- The session after a round of a drain is known without the world, and so is what the round
has exchanged, up to the names that were looked up. -/
theorem World.readOne_talk {t : Tracing (Transcript σ)}
    {r : EStateM.Result Failure (Tracing (Transcript σ)) (Option (Option Hop))}
    (round : w.transcribed.readOne ttl t = r) :
    ∃ talk, (finalState r).world.past = talk ++ t.world.past ∧
      RoundTalk w ttl t.session talk (sessionResult r) := by
  subst round
  rw [w.transcribed_readOne]
  cases w.receiveNotification t.world.inner with
  | error e s => exact ⟨[_], rfl, .inl ⟨rfl, rfl⟩⟩
  | ok found s =>
    cases found with
    | none => exact ⟨[_], rfl, rfl, rfl⟩
    | some n =>
      dsimp only
      rw [Session.decode_eq]
      cases found : t.session.identify n with
      | error e => exact ⟨[_], rfl, .inr ⟨n, rfl, found, (Session.after_unidentified found).symm⟩⟩
      | ok p =>
        cases error : n.error with
        | none =>
          have after : t.session.taken n = t.session.after ttl n :=
            (t.session.after_uninformed error).symm
          refine ⟨[_, _], rfl, n, ?_, ?_, ?_, after⟩
          · exact .told [] (.uninformed error) (List.forall_mem_nil _)
          · rw [Notification.stops, error, Option.all_none]
          · rw [Notification.outcome, error]
        | some e =>
          have after : (t.session.taken n).learn (p.hop ttl n e).status (p.ttl.getD ttl)
              (n.receivedTtl.map returnHops) = t.session.after ttl n :=
            (Session.after_informed found error).symm
          obtain ⟨names, asked, named⟩ := w.transcribed_name t.session.mode
            (p.hop ttl n e).responder ⟨.receiveNotification (.ok (some n)) :: t.world.past, s⟩
          -- The responder is named for the mode of the session, which decoding keeps.
          dsimp only
          rw [after, (Session.SameSetup.after ttl t.session n).mode, named]
          refine ⟨.event (.hop { p.hop ttl n e with responder := (w.name t.session.mode
            (p.hop ttl n e).responder s).1 }) ::
            (names ++ [.receiveNotification (.ok (some n))]), ?_, n, ?_, ?_, rfl⟩
          · simp [World.transcribed]
          · exact .told names (.informed found error) asked
          · exact ofStatus?_hop p ttl error

theorem DrainExec.drainTalk {initial : UInt32} {progress : Bool} {t : Tracing (Transcript σ)}
    {r : EStateM.Result Failure (Tracing (Transcript σ)) DrainOutcome}
    (h : DrainExec w.transcribed ttl initial progress t r) :
    ∃ talk, (finalState r).world.past = talk ++ t.world.past ∧
      DrainTalk w ttl initial progress t.session talk (sessionResult r) := by
  induction h with
  | failed round =>
    obtain ⟨talk, past, spoken⟩ := World.readOne_talk round
    refine ⟨talk, past, ?_⟩
    obtain ⟨rfl, same⟩ | ⟨n, rfl, unknown, learned⟩ := spoken
    · rw [sessionResult, same]
      exact .unread
    · rw [sessionResult, learned]
      exact .undecoded unknown
  | emptied round =>
    obtain ⟨talk, past, rfl, same⟩ := World.readOne_talk round
    refine ⟨_, past, ?_⟩
    rw [sessionResult, same]
    exact .emptied
  | uninformed round =>
    obtain ⟨talk, past, n, decoded, stops, outcome, learned⟩ := World.readOne_talk round
    refine ⟨talk, past, ?_⟩
    rw [sessionResult, learned, ← outcome]
    exact .stopped decoded stops
  | stopped round status =>
    obtain ⟨talk, past, n, decoded, known, learned⟩ := World.readOne_talk round
    refine ⟨talk, past, ?_⟩
    rw [status] at known
    rw [sessionResult, learned]
    cases stops : n.stops with
    | true =>
      rw [stops, if_pos rfl] at known
      injection known with outcome
      rw [outcome]
      exact .stopped decoded stops
    | false =>
      rw [stops] at known
      cases known
  | decoded round status _ ih =>
    obtain ⟨talk, past, n, decoded, known, learned⟩ := World.readOne_talk round
    obtain ⟨later, rest, spoken⟩ := ih
    refine ⟨later ++ talk, ?_, ?_⟩
    · rw [rest, List.append_assoc]
      exact congrArg _ past
    · rw [learned] at spoken
      cases stops : n.stops with
      | true =>
        rw [status, stops] at known
        cases known
      | false => exact .going decoded stops spoken

theorem World.drain_talk {t : Tracing (Transcript σ)}
    {r : EStateM.Result Failure (Tracing (Transcript σ)) DrainOutcome}
    (drained : w.transcribed.drain ttl t = r) :
    ∃ talk, (finalState r).world.past = talk ++ t.world.past ∧
      DrainTalk w ttl t.session.mtu false t.session talk (sessionResult r) :=
  drained ▸ (w.transcribed.drain_exec ttl t).drainTalk

/-- A drain changes nothing but what notifications change. -/
theorem DrainTalk.setup {initial : UInt32} {progress : Bool} {s : Session}
    {talk : List Exchange} {r : EStateM.Result Failure Session DrainOutcome}
    (h : DrainTalk w ttl initial progress s talk r) : s.SameSetup (finalState r) := by
  induction h with
  | unread => exact .refl _
  | undecoded _ => exact .after ttl _ _
  | emptied => exact .refl _
  | stopped _ _ => exact .after ttl _ _
  | going _ _ _ ih => exact (Session.SameSetup.after ttl _ _).trans ih

end Drain

/-- The datagram that is sent when the clock reads `now`, and what the network answers. Its
payload fills the path MTU of that moment, as far as there is room for it. -/
def Session.shot (s : Session) (ttl : UInt8) (port : UInt16) (now : Instant)
    (answer : Except Failure Unit) : List Exchange :=
  [.send ⟨.ofSend ttl now, min (s.mtu.toNat - s.family.overhead.toNat) s.capacity⟩ port answer,
    .now now]

/-- What one attempt to send a probe exchanges. -/
def ShotTalk (ttl : UInt8) (slot : Slot) (s : Session) (talk : List Exchange) :
    EStateM.Result Failure Session Bool → Prop
  | .ok true s' => ∃ now, talk = s.shot ttl (slot.port s.basePort) now (.ok ()) ∧
      s' = s.record slot ttl now
  | .ok false s' => ∃ now cause,
      talk = s.shot ttl (slot.port s.basePort) now (.error (.probeFailed cause)) ∧
        s' = s.record slot ttl now
  | .error e s' => (∀ cause, e ≠ .probeFailed cause) ∧
      ∃ now, talk = s.shot ttl (slot.port s.basePort) now (.error e) ∧ s' = s.record slot ttl now

theorem World.shoot_talk {w : World σ} {ttl : UInt8} {slot : Slot} {t : Tracing (Transcript σ)}
    {r : EStateM.Result Failure (Tracing (Transcript σ)) Bool}
    (shot : w.transcribed.shoot ttl slot t = r) :
    ∃ talk, (finalState r).world.past = talk ++ t.world.past ∧
      ShotTalk ttl slot t.session talk (sessionResult r) := by
  subst shot
  rw [World.shoot_eq, World.transcribed_trySend]
  split
  · exact ⟨_, rfl, _, rfl, rfl⟩
  · exact ⟨_, rfl, _, _, rfl, rfl⟩
  · next e _ other _ => exact ⟨_, rfl, other, _, rfl, rfl⟩

/-- The trace does not go on after a drain that comes to this. -/
def DrainOutcome.ends : DrainOutcome → Bool
  | .reached | .hardError => true
  | .mtuChanged | .progress | .exhausted => false

theorem DrainOutcome.ends_eq (outcome : DrainOutcome) : outcome.ends = outcome.isTerminal := by
  cases outcome <;> rfl

/-- A refused datagram and the drain after it. -/
structure Rebuff where
  session : Session
  now : Instant
  cause : IoFailure
  drained : List Exchange
  ending : EStateM.Result Failure Session DrainOutcome

namespace Rebuff

def talk (r : Rebuff) (ttl : UInt8) (port : UInt16) : List Exchange :=
  r.drained ++ r.session.shot ttl port r.now (.error (.probeFailed r.cause))

/-- The drain is one of the session in which the probe has been recorded. -/
def Made (r : Rebuff) (w : World σ) (ttl : UInt8) (slot : Slot) : Prop :=
  DrainTalk w ttl r.session.mtu false (r.session.record slot ttl r.now) r.drained r.ending

/-- The drain did not fail and the trace goes on after it. -/
def passed (r : Rebuff) : Bool :=
  match r.ending with
  | .ok outcome _ => !outcome.ends
  | .error _ _ => false

/-- The session of the next attempt. -/
def next (r : Rebuff) (slot : Slot) : Session := (finalState r.ending).clear slot

end Rebuff

/-- Refused datagrams, one after another, after all of which the trace goes on. -/
inductive Rebuffed (w : World σ) (ttl : UInt8) (slot : Slot) (port : UInt16) :
    Session → List Rebuff → List Exchange → Session → Prop
  | none {s} : Rebuffed w ttl slot port s [] [] s
  | more {r rebuffs talk s'} : r.Made w ttl slot → r.passed = true →
      Rebuffed w ttl slot port (r.next slot) rebuffs talk s' →
      Rebuffed w ttl slot port r.session (r :: rebuffs) (talk ++ r.talk ttl port) s'

/-- What the attempts to send a probe exchange if at most `attempts` are made. -/
inductive LaunchTalk (w : World σ) (ttl : UInt8) (slot : Slot) (port : UInt16) (attempts : Nat)
    (s : Session) : List Rebuff → List Exchange → EStateM.Result Failure Session Launch → Prop
  | refused {rebuffs talk s'} : Rebuffed w ttl slot port s rebuffs talk s' →
      rebuffs.length = attempts →
      LaunchTalk w ttl slot port attempts s rebuffs talk (.ok .refused s')
  | unsent {rebuffs talk s' now e} : Rebuffed w ttl slot port s rebuffs talk s' →
      rebuffs.length < attempts → (∀ cause, e ≠ .probeFailed cause) →
      LaunchTalk w ttl slot port attempts s rebuffs
        (s'.shot ttl port now (.error e) ++ talk) (.error e (s'.record slot ttl now))
  | sent {rebuffs talk s' now} : Rebuffed w ttl slot port s rebuffs talk s' →
      rebuffs.length < attempts →
      LaunchTalk w ttl slot port attempts s rebuffs
        (s'.shot ttl port now (.ok ()) ++ talk) (.ok .sent (s'.record slot ttl now))
  | undrained {rebuffs talk r e s'} : Rebuffed w ttl slot port s rebuffs talk r.session →
      rebuffs.length < attempts → r.Made w ttl slot → r.ending = .error e s' →
      LaunchTalk w ttl slot port attempts s (rebuffs ++ [r]) (r.talk ttl port ++ talk)
        (.error e s')
  | ended {rebuffs talk r outcome s'} : Rebuffed w ttl slot port s rebuffs talk r.session →
      rebuffs.length < attempts → r.Made w ttl slot → r.ending = .ok outcome s' →
      outcome.ends = true →
      LaunchTalk w ttl slot port attempts s (rebuffs ++ [r]) (r.talk ttl port ++ talk)
        (.ok (.ended outcome) (s'.clear slot))

/-- How long a reply is waited for. -/
def oneSecond : Span := ⟨1000000000⟩

/-- What is exchanged for a probe that is on its way. -/
inductive CollectTalk (w : World σ) (ttl : UInt8) (s : Session) :
    List Exchange → EStateM.Result Failure Session ProbeOutcome → Prop
  | unawaited {e} : CollectTalk w ttl s [.awaitReadable oneSecond (.error e)] (.error e s)
  | unanswered {readable e} :
      CollectTalk w ttl s
        [.receiveReply (.error e), .awaitReadable oneSecond (.ok readable)] (.error e s)
  | replied {readable size} :
      CollectTalk w ttl s [.event (.replyReceived ttl), .receiveReply (.ok (some size)),
        .awaitReadable oneSecond (.ok readable)] (.ok .replyReceived s)
  | undrained {readable talk e s'} : DrainTalk w ttl s.mtu false s talk (.error e s') →
      CollectTalk w ttl s
        (talk ++ [.receiveReply (.ok none), .awaitReadable oneSecond (.ok readable)]) (.error e s')
  | drained {readable talk outcome s'} : DrainTalk w ttl s.mtu false s talk (.ok outcome s') →
      CollectTalk w ttl s
        (talk ++ [.receiveReply (.ok none), .awaitReadable oneSecond (.ok readable)])
        (.ok (.decoded outcome) s')

/-- What one call of the probe engine exchanges. It makes ten attempts at most. -/
inductive Conversation (w : World σ) (ttl : UInt8) (slot : Slot) (port : UInt16) (s : Session) :
    List Rebuff → List Exchange → EStateM.Result Failure Session ProbeOutcome → Prop
  | failed {rebuffs talk e s'} :
      LaunchTalk w ttl slot port 10 s rebuffs talk (.error e s') →
      Conversation w ttl slot port s rebuffs talk (.error e s')
  | ended {rebuffs talk outcome s'} :
      LaunchTalk w ttl slot port 10 s rebuffs talk (.ok (.ended outcome) s') →
      Conversation w ttl slot port s rebuffs talk (.ok (.decoded outcome) s'.advance)
  | refused {rebuffs talk s'} :
      LaunchTalk w ttl slot port 10 s rebuffs talk (.ok .refused s') →
      Conversation w ttl slot port s rebuffs (.event (.sendFailed ttl) :: talk)
        (.ok .sendFailed s'.advance)
  | sent {rebuffs talk s' later r} :
      LaunchTalk w ttl slot port 10 s rebuffs talk (.ok .sent s') →
      CollectTalk w ttl s'.advance later r →
      Conversation w ttl slot port s rebuffs (later ++ talk) r

section Launch
variable {w : World σ} {ttl : UInt8} {slot : Slot} {port : UInt16} {attempts : Nat}

/-- One more refused datagram before the others. -/
theorem LaunchTalk.more {r : Rebuff} {rebuffs : List Rebuff} {talk : List Exchange}
    {result : EStateM.Result Failure Session Launch} (made : r.Made w ttl slot)
    (passed : r.passed = true)
    (h : LaunchTalk w ttl slot port attempts (r.next slot) rebuffs talk result) :
    LaunchTalk w ttl slot port (attempts + 1) r.session (r :: rebuffs)
      (talk ++ r.talk ttl port) result := by
  cases h with
  | refused before all => exact .refused (.more made passed before) (congrArg _ all)
  | unsent before few other =>
    rw [List.append_assoc]
    exact .unsent (.more made passed before) (Nat.succ_lt_succ few) other
  | sent before few =>
    rw [List.append_assoc]
    exact .sent (.more made passed before) (Nat.succ_lt_succ few)
  | undrained before few last failed =>
    rw [List.append_assoc, ← List.cons_append]
    exact .undrained (.more made passed before) (Nat.succ_lt_succ few) last failed
  | ended before few last ended terminal =>
    rw [List.append_assoc, ← List.cons_append]
    exact .ended (.more made passed before) (Nat.succ_lt_succ few) last ended terminal

/-- A datagram is refused and the error queue drained. -/
theorem World.rebuff_of {t t₁ : Tracing (Transcript σ)}
    {r : EStateM.Result Failure (Tracing (Transcript σ)) DrainOutcome}
    (shot : w.transcribed.shoot ttl slot t = .ok false t₁)
    (drained : w.transcribed.drain ttl t₁ = r) :
    ∃ rebuff : Rebuff, rebuff.session = t.session ∧ rebuff.Made w ttl slot ∧
      rebuff.ending = sessionResult r ∧ (finalState r).world.past =
        rebuff.talk ttl (slot.port t.session.basePort) ++ t.world.past := by
  obtain ⟨_, before, now, cause, rfl, recorded⟩ := World.shoot_talk shot
  obtain ⟨talk, past, drains⟩ := World.drain_talk drained
  rw [recorded] at drains
  refine ⟨⟨t.session, now, cause, talk, _⟩, rfl, drains, rfl, ?_⟩
  rw [past, Rebuff.talk, List.append_assoc]
  exact congrArg _ before

theorem LaunchExec.launchTalk {t : Tracing (Transcript σ)}
    {result : EStateM.Result Failure (Tracing (Transcript σ)) Launch}
    (h : LaunchExec w.transcribed ttl slot attempts t result)
    (aimed : slot.port t.session.basePort = port) :
    ∃ rebuffs talk, (finalState result).world.past = talk ++ t.world.past ∧
      LaunchTalk w ttl slot port attempts t.session rebuffs talk (sessionResult result) := by
  induction h with
  | refused => exact ⟨[], [], rfl, .refused .none rfl⟩
  | failed shot =>
    obtain ⟨_, past, other, now, rfl, recorded⟩ := World.shoot_talk shot
    rw [aimed, ← List.append_nil (Session.shot _ _ _ _ _)] at past
    rw [sessionResult, recorded]
    exact ⟨[], _, past, .unsent .none (Nat.zero_lt_succ _) other⟩
  | sent shot =>
    obtain ⟨_, past, now, rfl, recorded⟩ := World.shoot_talk shot
    rw [aimed, ← List.append_nil (Session.shot _ _ _ _ _)] at past
    rw [sessionResult, recorded]
    exact ⟨[], _, past, .sent .none (Nat.zero_lt_succ _)⟩
  | undrained shot drained =>
    obtain ⟨r, same, made, ending, past⟩ := World.rebuff_of shot drained
    rw [aimed, ← List.append_nil (Rebuff.talk _ _ _)] at past
    rw [← same]
    exact ⟨[r], _, past, .undrained .none (Nat.zero_lt_succ _) made ending⟩
  | ended shot drained terminal =>
    obtain ⟨r, same, made, ending, past⟩ := World.rebuff_of shot drained
    rw [aimed, ← List.append_nil (Rebuff.talk _ _ _)] at past
    rw [← same]
    exact ⟨[r], _, past, .ended .none (Nat.zero_lt_succ _) made ending
      ((DrainOutcome.ends_eq _).trans terminal)⟩
  | retried shot drained going _ ih =>
    obtain ⟨r, same, made, ending, past⟩ := World.rebuff_of shot drained
    rw [aimed] at past
    have passed : r.passed = true := by
      unfold Rebuff.passed
      rw [ending]
      exact congrArg Bool.not ((DrainOutcome.ends_eq _).trans going)
    have next : r.next slot = _ := congrArg (fun e => (finalState e).clear slot) ending
    -- The drain keeps the base port, so the next datagram goes to the same port.
    have basePort := made.setup.basePort
    rw [ending, same] at basePort
    obtain ⟨rebuffs, talk, rest, launched⟩ := ih (aimed ▸ congrArg slot.port basePort)
    rw [← same]
    refine ⟨r :: rebuffs, talk ++ r.talk ttl port, ?_, .more made passed ?_⟩
    · rw [rest, List.append_assoc]
      exact congrArg _ past
    · rw [next]
      exact launched

theorem World.asked {t t₁ t₂ : Tracing (Transcript σ)} {readable : Bool} {reply : Option Nat}
    (awaited : Step.world (w.transcribed.awaitReadable replyWait) t = .ok readable t₁)
    (answered : Step.world w.transcribed.receiveReply t₁ = .ok reply t₂) :
    t₂.session = t.session ∧
      t₂.world.past = [.receiveReply (.ok reply), .awaitReadable oneSecond (.ok readable)] ++
        t.world.past := by
  have same₁ : t₁.session = t.session := session_world awaited
  have same₂ : t₂.session = t₁.session := session_world answered
  refine ⟨same₂.trans same₁, ?_⟩
  rw [past_perform_ok answered, past_perform_ok awaited]
  rfl

theorem CollectExec.collectTalk {t : Tracing (Transcript σ)}
    {r : EStateM.Result Failure (Tracing (Transcript σ)) ProbeOutcome}
    (h : CollectExec w.transcribed ttl t r) :
    ∃ talk, (finalState r).world.past = talk ++ t.world.past ∧
      CollectTalk w ttl t.session talk (sessionResult r) := by
  cases h with
  | unawaited awaited =>
    have same := session_world awaited
    rw [finalState_error] at same
    rw [sessionResult, same]
    exact ⟨[_], past_perform_error awaited, .unawaited⟩
  | unanswered awaited answered =>
    have same := (session_world answered).trans (session_world awaited)
    have past := past_perform_error answered
    rw [past_perform_ok awaited] at past
    rw [finalState_error] at same
    rw [sessionResult, same]
    exact ⟨[_, _], past, .unanswered⟩
  | replied awaited answered =>
    obtain ⟨same, past⟩ := World.asked awaited answered
    rw [sessionResult, same]
    exact ⟨[_, _, _], congrArg _ past, .replied⟩
  | undrained awaited answered drained =>
    obtain ⟨same, past⟩ := World.asked awaited answered
    obtain ⟨talk, later, drains⟩ := World.drain_talk drained
    rw [same] at drains
    rw [past, ← List.append_assoc] at later
    exact ⟨_, later, .undrained drains⟩
  | drained awaited answered drained =>
    obtain ⟨same, past⟩ := World.asked awaited answered
    obtain ⟨talk, later, drains⟩ := World.drain_talk drained
    rw [same] at drains
    rw [past, ← List.append_assoc] at later
    exact ⟨_, later, .drained drains⟩

/-- Every call of the probe engine is a conversation of the fixed form. -/
theorem World.sendProbe_talk (w : World σ) (ttl : UInt8) (t : Tracing σ) :
    ∃ rebuffs, Conversation w ttl t.session.history.cursor
      (t.session.history.cursor.port t.session.basePort) t.session rebuffs
      ((w.transcribed.sendProbe ttl).transcript t) (sessionResult (w.sendProbe ttl t)) := by
  rw [w.sendProbe_eq, sessionResult_untoldResult, Step.transcript]
  have launched {result} (h : w.transcribed.launch ttl t.session.history.cursor maxSendAttempts
      t.unspoken = result) :
      ∃ rebuffs, LaunchTalk w ttl t.session.history.cursor
        (t.session.history.cursor.port t.session.basePort) 10 t.session rebuffs
        (finalState result).world.past (sessionResult result) := by
    obtain ⟨rebuffs, talk, past, spoken⟩ := (h ▸ w.transcribed.launch_exec ttl
      t.session.history.cursor maxSendAttempts t.unspoken).launchTalk rfl
    rw [past.trans (List.append_nil talk)]
    exact ⟨rebuffs, spoken⟩
  have h := w.transcribed.sendProbe_exec ttl t.unspoken
  generalize w.transcribed.sendProbe ttl t.unspoken = result at h ⊢
  cases h with
  | failed h => exact (launched h).imp fun _ spoken => .failed spoken
  | ended h => exact (launched h).imp fun _ spoken => .ended spoken
  | refused h => exact (launched h).imp fun _ spoken => .refused spoken
  | sent h collected =>
    obtain ⟨rebuffs, spoken⟩ := launched h
    obtain ⟨later, past, last⟩ := collected.collectTalk
    rw [past]
    exact ⟨rebuffs, .sent spoken last⟩

end Launch

end HopTrace
