import HopTrace.Drain

/-!
# Sending one probe

A probe is sent up to ten times. A refusal is usually explained by the error queue, so it
is drained before the next attempt, whose payload is built anew for the path MTU known by
then. The slot and the port stay the same for all attempts and the cursor moves on by one
however the attempts end.

Once a probe is on its way the trace waits one second for the socket to become readable,
whatever the wait answers looks for a datagram from the target, and without one drains
the error queue.
-/
namespace HopTrace

inductive ProbeOutcome where
  /-- The error queue was drained. -/
  | decoded (outcome : DrainOutcome)
  | replyReceived
  | sendFailed
  deriving DecidableEq, Repr

def ProbeOutcome.isTerminal : ProbeOutcome → Bool
  | .decoded outcome => outcome.isTerminal
  | .replyReceived | .sendFailed => true

/-- How the attempts to send a probe end. -/
inductive Launch where
  | sent
  /-- A drain between two attempts ended the trace. -/
  | ended (outcome : DrainOutcome)
  | refused
  deriving DecidableEq, Repr

def maxSendAttempts : Nat := 10

def replyWait : Span := Span.ofSeconds 1

variable {σ : Type}

/-- Whether the network accepted the payload. Every failure but a refused probe is the
failure of the trace. -/
def World.trySend (w : World σ) (payload : Payload) (port : UInt16) : Step σ Bool := fun t =>
  match w.send payload port t.world with
  | .ok () world => .ok true { t with world }
  | .error (.probeFailed _) world => .ok false { t with world }
  | .error e world => .error e { t with world }

def World.launch (w : World σ) (ttl : UInt8) (slot : Slot) : Nat → Step σ Launch
  | 0 => pure .refused
  | attempts + 1 => do
    let now ← Step.sense w.now
    Step.update (·.record slot ttl now)
    let session ← Step.session
    if ← w.trySend (session.payload ttl now) (slot.port session.basePort) then
      return .sent
    let outcome ← w.drain ttl
    Step.update (·.clear slot)
    if outcome.isTerminal then
      return .ended outcome
    w.launch ttl slot attempts

/-- What a probe that is on its way brings. -/
def World.collect (w : World σ) (ttl : UInt8) : Step σ ProbeOutcome := do
  let _ ← Step.world (w.awaitReadable replyWait)
  match ← Step.world w.receiveReply with
  | some _ =>
    Step.publish w (.replyReceived ttl)
    return .replyReceived
  | none => return .decoded (← w.drain ttl)

def World.sendProbe (w : World σ) (ttl : UInt8) : Step σ ProbeOutcome := do
  let slot := (← Step.session).history.cursor
  let launch ← w.launch ttl slot maxSendAttempts
  Step.update Session.advance
  match launch with
  | .sent => w.collect ttl
  | .ended outcome => return .decoded outcome
  | .refused =>
    Step.publish w (.sendFailed ttl)
    return .sendFailed

theorem World.neverRaises_trySend (w : World σ) (payload : Payload) (port : UInt16) :
    Step.NeverRaises (w.trySend payload port) := by
  intro t
  unfold World.trySend
  split <;> exact UInt32.le_refl _

theorem World.neverRaises_launch (w : World σ) (ttl : UInt8) (slot : Slot) (attempts : Nat) :
    Step.NeverRaises (w.launch ttl slot attempts) := by
  induction attempts with
  | zero => exact Step.neverRaises_pure _
  | succ n ih =>
    refine (Step.neverRaises_sense _).bind fun now => ?_
    refine (Step.neverRaises_update fun s =>
      UInt32.le_of_eq (s.mtu_record slot ttl now)).bind fun _ => ?_
    refine Step.neverRaises_session.bind fun session => ?_
    refine (w.neverRaises_trySend _ _).bind fun accepted => ?_
    cases accepted with
    | true => exact Step.neverRaises_pure _
    | false =>
      refine (w.neverRaises_drain ttl).bind fun outcome => ?_
      refine (Step.neverRaises_update fun s =>
        UInt32.le_of_eq (s.mtu_clear slot)).bind fun _ => ?_
      cases outcome.isTerminal with
      | true => exact Step.neverRaises_pure _
      | false => exact ih

theorem World.neverRaises_collect (w : World σ) (ttl : UInt8) :
    Step.NeverRaises (w.collect ttl) := by
  refine (Step.neverRaises_world _).bind fun _ => ?_
  refine (Step.neverRaises_world _).bind fun reply => ?_
  cases reply with
  | some _ => exact (Step.neverRaises_publish _ _).bind fun _ => Step.neverRaises_pure _
  | none => exact (w.neverRaises_drain ttl).bind fun _ => Step.neverRaises_pure _

theorem World.neverRaises_sendProbe (w : World σ) (ttl : UInt8) :
    Step.NeverRaises (w.sendProbe ttl) := by
  refine Step.neverRaises_session.bind fun session => ?_
  refine (w.neverRaises_launch ttl _ _).bind fun launch => ?_
  refine (Step.neverRaises_update fun s => UInt32.le_of_eq s.mtu_advance).bind fun _ => ?_
  cases launch with
  | sent => exact w.neverRaises_collect ttl
  | ended _ => exact Step.neverRaises_pure _
  | refused => exact (Step.neverRaises_publish _ _).bind fun _ => Step.neverRaises_pure _

end HopTrace
