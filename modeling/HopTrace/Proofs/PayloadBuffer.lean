import HopTrace.Proofs.PayloadLengths
import Mathlib.Data.List.Induction

/-!
# The buffer the payloads are built in

All payloads of a session are built in one buffer, which is allocated with the session and is
as long as its first payload can be. For each payload the front that the path MTU leaves room
for is blanked, and the header is copied over it. Here the buffer is kept byte for byte, and a
slice that ends outside of its buffer is refused, so that nothing can go wrong unseen.

The invariant that carries all calls is about lengths alone: the estimate of the path MTU is
the least of the first one and all that it was clamped to, so the room for a payload never
grows beyond the buffer. What the buffer holds does not matter, since every byte of a payload
is written before the payload is handed out.
-/
namespace HopTrace

/-- The first `n` bytes of a buffer and the others. A shorter buffer has no such slice. -/
def slice? (n : Nat) (buffer : List UInt8) : Option (List UInt8 × List UInt8) :=
  if n ≤ buffer.length then some (buffer.take n, buffer.drop n) else none

theorem slice?_of_le {n : Nat} {buffer : List UInt8} (inside : n ≤ buffer.length) :
    slice? n buffer = some (buffer.take n, buffer.drop n) :=
  if_pos inside

namespace ProbeHeader

/-- Copies the header to the front of a buffer, as much of it as there is room for. -/
def copyTo? (h : ProbeHeader) (buffer : List UInt8) : Option (List UInt8) := do
  let (_, kept) ← slice? (min buffer.length size) buffer
  let (copied, _) ← slice? (min buffer.length size) h.encode
  return copied ++ kept

/-- The header followed by zeros, of which the first `length` bytes are taken. -/
def padded (h : ProbeHeader) (length : Nat) : List UInt8 :=
  (h.encode ++ List.replicate length 0).take length

/-- The two slices that are copied between are always there. -/
theorem copyTo?_eq (h : ProbeHeader) (buffer : List UInt8) :
    h.copyTo? buffer = some (h.write buffer) := by
  have copied : h.encode.take (min buffer.length size) = h.encode.take buffer.length := by
    rw [← List.take_take, List.take_of_length_le (Nat.le_of_eq h.length_encode)]
  have kept : buffer.drop (min buffer.length size) = buffer.drop size := by
    rcases Nat.le_total size buffer.length with long | short
    · rw [Nat.min_eq_right long]
    · rw [Nat.min_eq_left short, List.drop_length, List.drop_eq_nil_of_le short]
  have source : min buffer.length size ≤ h.encode.length := by
    rw [length_encode]
    exact Nat.min_le_right _ _
  unfold copyTo? write
  rw [slice?_of_le (Nat.min_le_left _ _), slice?_of_le source, copied, kept]
  rfl

@[simp] theorem length_padded (h : ProbeHeader) (length : Nat) :
    (h.padded length).length = length := by
  simp [padded]

theorem write_blank (h : ProbeHeader) (length : Nat) :
    h.write (List.replicate length 0) = h.padded length := by
  have rest : (List.replicate length (0 : UInt8)).take (length - size) =
      List.replicate (length - size) 0 := by
    rw [List.take_replicate, Nat.min_eq_left (Nat.sub_le _ _)]
  unfold write padded
  rw [List.take_append, length_encode, rest, List.length_replicate, List.drop_replicate]

end ProbeHeader

/-- What is kept of a payload as header and length is what goes on the wire. -/
theorem Payload.bytes_eq_padded (p : Payload) : p.bytes = p.header.padded p.length :=
  p.header.write_blank p.length

inductive HistoryCall where
  | record (slot : Slot) (ttl : UInt8) (sent : Instant)
  | take (slot : Slot)
  | clear (slot : Slot)
  | advance
  | cursor
  deriving DecidableEq, Repr

inductive HistoryAnswer where
  | done
  | taken (record : Option ProbeRecord)
  | cursor (slot : Slot)
  deriving DecidableEq, Repr

def History.answer (h : History) : HistoryCall → HistoryAnswer × History
  | .record slot ttl sent => (.done, h.record slot ttl sent)
  | .take slot => (.taken (h.take slot).1, (h.take slot).2)
  | .clear slot => (.done, h.clear slot)
  | .advance => (.done, h.advance)
  | .cursor => (.cursor h.cursor, h)

/-- What can be asked of a session. -/
inductive SessionCall where
  | clampMtu (mtu : UInt32)
  | setHops (hopsTo : UInt8) (hopsFrom : Option UInt8)
  | history (call : HistoryCall)
  | payload (ttl : UInt8) (sent : Instant)
  deriving DecidableEq, Repr

inductive SessionAnswer where
  | done
  | lowered (lowered : Bool)
  | history (answer : HistoryAnswer)
  | payload (bytes : List UInt8)
  deriving DecidableEq, Repr

/-- A session with the buffer that its payloads are built in. -/
structure BufferedSession where
  session : Session
  buffer : List UInt8
  deriving DecidableEq, Repr

namespace BufferedSession

def start (c : SessionConfig) : BufferedSession where
  session := Session.start c
  buffer := List.replicate (payloadLength c.mtu c.family.overhead) 0

/-- The room for a payload. -/
def room (b : BufferedSession) : Nat := payloadLength b.session.mtu b.session.family.overhead

/-- Builds a payload in the front of the buffer. What was there is blanked first. -/
def payload? (b : BufferedSession) (ttl : UInt8) (sent : Instant) :
    Option (List UInt8 × BufferedSession) := do
  let (front, rest) ← slice? (min b.room b.buffer.length) b.buffer
  let bytes ← (ProbeHeader.ofSend ttl sent).copyTo? (front.map fun _ => 0)
  return (bytes, { b with buffer := bytes ++ rest })

def answer? (b : BufferedSession) : SessionCall → Option (SessionAnswer × BufferedSession)
  | .clampMtu mtu =>
    some (.lowered (mtu < b.session.mtu), { b with session := b.session.clampMtu mtu })
  | .setHops hopsTo hopsFrom =>
    some (.done, { b with session := b.session.setHops hopsTo hopsFrom })
  | .history call =>
    let (answer, history) := b.session.history.answer call
    some (.history answer, { b with session := { b.session with history } })
  | .payload ttl sent => do
    let (bytes, b) ← b.payload? ttl sent
    return (.payload bytes, b)

/-- The answers to calls made one after another. -/
def answerAll? (b : BufferedSession) :
    List SessionCall → Option (List SessionAnswer × BufferedSession)
  | [] => some ([], b)
  | call :: calls => do
    let (answer, b) ← b.answer? call
    let (answers, b) ← b.answerAll? calls
    return (answer :: answers, b)

end BufferedSession

/-! ## What the calls add up to -/

def SessionCall.clamp? : SessionCall → Option UInt32
  | .clampMtu mtu => some mtu
  | _ => none

def SessionCall.history? : SessionCall → Option HistoryCall
  | .history call => some call
  | _ => none

/-- The least of the initial path MTU and all that the estimate was clamped to. -/
def leastMtu (c : SessionConfig) (calls : List SessionCall) : UInt32 :=
  (calls.filterMap SessionCall.clamp?).foldl min c.mtu

/-- The history that the calls concerning it make of an empty one. -/
def historyAfter (calls : List SessionCall) : History :=
  (calls.filterMap SessionCall.history?).foldl (fun h call => (h.answer call).2) History.empty

/-- The answer to a call, given the calls before it. A clamp is answered by whether it lowers
the estimate, and a payload is a header and zeros, of as many bytes as the estimate leaves
beside the headers of the packet. -/
def owed (c : SessionConfig) (earlier : List SessionCall) : SessionCall → SessionAnswer
  | .clampMtu mtu =>
    .lowered (leastMtu c (earlier ++ [.clampMtu mtu]) < leastMtu c earlier)
  | .setHops _ _ => .done
  | .history call => .history ((historyAfter earlier).answer call).1
  | .payload ttl sent => .payload ((ProbeHeader.ofSend ttl sent).padded
      ((leastMtu c earlier).toNat - c.family.overhead.toNat))

section Calls
variable {c : SessionConfig} {earlier : List SessionCall} {call : SessionCall}

theorem leastMtu_clamp (c : SessionConfig) (earlier : List SessionCall) (mtu : UInt32) :
    leastMtu c (earlier ++ [.clampMtu mtu]) = min (leastMtu c earlier) mtu := by
  simp [leastMtu, SessionCall.clamp?]

theorem leastMtu_other (other : call.clamp? = none) :
    leastMtu c (earlier ++ [call]) = leastMtu c earlier := by
  simp [leastMtu, other]

theorem historyAfter_history (earlier : List SessionCall) (call : HistoryCall) :
    historyAfter (earlier ++ [.history call]) = ((historyAfter earlier).answer call).2 := by
  simp [historyAfter, SessionCall.history?]

theorem historyAfter_other (other : call.history? = none) :
    historyAfter (earlier ++ [call]) = historyAfter earlier := by
  simp [historyAfter, other]

theorem leastMtu_le (c : SessionConfig) (calls : List SessionCall) : leastMtu c calls ≤ c.mtu := by
  induction calls using List.reverseRecOn with
  | nil => exact UInt32.le_refl _
  | append_singleton earlier call ih =>
    cases call with
    | clampMtu mtu =>
      rw [leastMtu_clamp]
      exact UInt32.le_trans (Std.min_le_left ..) ih
    | _ =>
      rw [leastMtu_other rfl]
      exact ih

end Calls

/-- What holds of a session and its buffer after some calls. -/
structure BufferedSession.Follows (c : SessionConfig) (earlier : List SessionCall)
    (b : BufferedSession) : Prop where
  configured : b.session.ConfiguredBy c
  mtu : b.session.mtu = leastMtu c earlier
  history : b.session.history = historyAfter earlier
  length : b.buffer.length = payloadLength c.mtu c.family.overhead

namespace BufferedSession.Follows
variable {c : SessionConfig} {earlier : List SessionCall} {call : SessionCall}
variable {b : BufferedSession}

theorem start (c : SessionConfig) : Follows c [] (start c) where
  configured := .start c
  mtu := rfl
  history := rfl
  length := by simp [BufferedSession.start]

/-- A call that teaches the session something about the path. -/
theorem learn (h : Follows c earlier b) (other : call.history? = none) (status : HopStatus)
    (hops : UInt8) (backHops : Option UInt8)
    (mtu : (b.session.learn status hops backHops).mtu = leastMtu c (earlier ++ [call])) :
    Follows c (earlier ++ [call]) { b with session := b.session.learn status hops backHops } where
  configured := h.configured.learn status hops backHops
  mtu := mtu
  history := by
    rw [historyAfter_other other, ← h.history]
    exact b.session.history_learn status hops backHops
  length := h.length

theorem rebuffer (h : Follows c earlier b) (other : call.clamp? = none ∧ call.history? = none)
    {buffer : List UInt8} (length : buffer.length = b.buffer.length) :
    Follows c (earlier ++ [call]) { b with buffer } where
  configured := h.configured
  mtu := by
    rw [leastMtu_other other.1]
    exact h.mtu
  history := by
    rw [historyAfter_other other.2]
    exact h.history
  length := length.trans h.length

theorem room_eq (h : Follows c earlier b) :
    b.room = (leastMtu c earlier).toNat - c.family.overhead.toNat := by
  unfold room payloadLength
  rw [h.mtu, h.configured.family]

/-- The estimate never rises, so the buffer never cuts a payload short. -/
theorem room_le (h : Follows c earlier b) : b.room ≤ b.buffer.length := by
  rw [h.room_eq, h.length]
  exact payloadLength_mono (leastMtu_le c earlier) _

theorem payload?_eq (h : Follows c earlier b) (ttl : UInt8) (sent : Instant) :
    b.payload? ttl sent = some ((ProbeHeader.ofSend ttl sent).padded b.room,
      { b with buffer := (ProbeHeader.ofSend ttl sent).padded b.room ++ b.buffer.drop b.room }) := by
  have inside := h.room_le
  have blanked : (b.buffer.take b.room).map (fun _ => (0 : UInt8)) = List.replicate b.room 0 := by
    rw [List.map_const', List.length_take, Nat.min_eq_left inside]
  unfold payload?
  rw [Nat.min_eq_left inside, slice?_of_le inside]
  simp only [Option.bind_eq_bind, Option.bind_some]
  rw [ProbeHeader.copyTo?_eq, blanked, ProbeHeader.write_blank]
  rfl

/-- The payload that is kept as a header and a length has the bytes that the buffer gets. -/
theorem bytes_payload (h : Follows c earlier b) (ttl : UInt8) (sent : Instant) :
    (b.session.payload ttl sent).bytes = (ProbeHeader.ofSend ttl sent).padded b.room := by
  rw [Payload.bytes_eq_padded]
  unfold Session.payload
  dsimp only
  rw [h.configured.capacity, ← h.length]
  exact congrArg _ (Nat.min_eq_left h.room_le)

/-- Every call is answered as it should be. -/
theorem answered (h : Follows c earlier b) (call : SessionCall) :
    ∃ b', b.answer? call = some (owed c earlier call, b') ∧ Follows c (earlier ++ [call]) b' := by
  cases call with
  | clampMtu mtu =>
    have lower : mtu < leastMtu c earlier ↔
        min (leastMtu c earlier) mtu < leastMtu c earlier := by
      rw [Std.min_eq_if]
      grind
    refine ⟨{ b with session := b.session.clampMtu mtu }, ?_, ?_⟩
    · simp only [answer?, owed, h.mtu, leastMtu_clamp, lower]
    · refine h.learn rfl (.pathMtu mtu) 0 none ?_
      rw [leastMtu_clamp, ← h.mtu]
      exact b.session.mtu_clampMtu mtu
  | setHops hopsTo hopsFrom =>
    refine ⟨{ b with session := b.session.setHops hopsTo hopsFrom }, rfl, ?_⟩
    refine h.learn rfl .reached hopsTo hopsFrom ?_
    rw [leastMtu_other rfl, ← h.mtu]
    exact b.session.mtu_setHops hopsTo hopsFrom
  | history call =>
    refine ⟨{ b with session := { b.session with history := (b.session.history.answer call).2 } },
      ?_, ⟨⟨h.configured.family, h.configured.basePort, h.configured.capacity⟩, ?_, ?_, h.length⟩⟩
    · simp only [answer?, owed, h.history]
    · rw [leastMtu_other rfl]
      exact h.mtu
    · rw [historyAfter_history, ← h.history]
  | payload ttl sent =>
    have built : b.answer? (.payload ttl sent) =
        some (.payload ((ProbeHeader.ofSend ttl sent).padded b.room), { b with
          buffer := (ProbeHeader.ofSend ttl sent).padded b.room ++ b.buffer.drop b.room }) := by
      rw [answer?, h.payload?_eq]
      rfl
    have kept : ((ProbeHeader.ofSend ttl sent).padded b.room ++ b.buffer.drop b.room).length =
        b.buffer.length := by
      rw [List.length_append, ProbeHeader.length_padded, List.length_drop,
        Nat.add_sub_cancel' h.room_le]
    refine ⟨_, built.trans ?_, h.rebuffer ⟨rfl, rfl⟩ kept⟩
    rw [h.room_eq]
    rfl

/-- By induction on the calls still to come, with the calls before them in the invariant. -/
theorem answeredAll (h : Follows c earlier b) (calls : List SessionCall) :
    ∃ answers b', b.answerAll? calls = some (answers, b') ∧ Follows c (earlier ++ calls) b' ∧
      ∀ i : Nat, answers[i]? = calls[i]?.map (owed c (earlier ++ calls.take i)) := by
  induction calls generalizing earlier b with
  | nil => exact ⟨[], b, rfl, by simpa using h, by simp⟩
  | cons call calls ih =>
    obtain ⟨b₁, first, h₁⟩ := h.answered call
    obtain ⟨answers, b₂, rest, h₂, owing⟩ := ih h₁
    refine ⟨owed c earlier call :: answers, b₂, ?_, by simpa using h₂, ?_⟩
    · rw [answerAll?, first]
      simp only [Option.bind_eq_bind, Option.bind_some, rest]
      rfl
    · intro i
      cases i with
      | zero => simp
      | succ i => simpa using owing i

end BufferedSession.Follows

/-- Whatever is asked of a session, in whatever order, no slice leaves its buffer and every
call is answered as it should be in view of the calls before it. The estimate is the least of
the first one and all that it was clamped to, the buffer always has room for the payload, and
the payload that a session names by its header and length has exactly these bytes. -/
theorem session_answers (c : SessionConfig) (calls : List SessionCall) :
    ∃ answers b, (BufferedSession.start c).answerAll? calls = some (answers, b) ∧
      (∀ i : Nat, answers[i]? = calls[i]?.map (owed c (calls.take i))) ∧
      b.session.mtu = leastMtu c calls ∧
      b.session.mtu.toNat - c.family.overhead.toNat ≤ b.buffer.length ∧
      ∀ ttl sent, (b.session.payload ttl sent).bytes =
        (ProbeHeader.ofSend ttl sent).padded
          (b.session.mtu.toNat - c.family.overhead.toNat) := by
  obtain ⟨answers, b, made, h, owing⟩ := (BufferedSession.Follows.start c).answeredAll calls
  have room : b.room = b.session.mtu.toNat - c.family.overhead.toNat := by
    unfold BufferedSession.room payloadLength
    rw [h.configured.family]
  refine ⟨answers, b, made, ?_, h.mtu, ?_, ?_⟩
  · simpa using owing
  · rw [← room]
    exact h.room_le
  · intro ttl sent
    rw [← room]
    exact h.bytes_payload ttl sent

namespace Reused

def config : SessionConfig := ⟨.v4, 44444, 46, 30, .host⟩

def calls : List SessionCall :=
  [.payload 255 ⟨1999999999⟩, .clampMtu 34, .clampMtu 40, .payload 3 ⟨1999999999⟩]

def answers : List SessionAnswer :=
  [.payload [0, 0, 0, 255, 0, 0, 0, 0, 0, 0, 0, 1, 0, 15, 66, 63, 0, 0], .lowered true,
    .lowered false, .payload [0, 0, 0, 3, 0, 0]]

end Reused

/-- A long payload, and a short one that is built where the long one was. -/
theorem session_answers_reused :
    ∃ b, (BufferedSession.start Reused.config).answerAll? Reused.calls =
        some (Reused.answers, b) ∧
      b.session.mtu = 34 ∧
      (b.session.payload 7 ⟨0⟩).bytes = [0, 0, 0, 7, 0, 0] := by
  obtain ⟨answers, b, made, owing, mtu, -, payload⟩ := session_answers Reused.config Reused.calls
  have same : answers = Reused.answers := by
    apply List.ext_getElem?
    intro i
    rw [owing i]
    rcases i with _ | _ | _ | _ | i <;> rfl
  have mtu : b.session.mtu = 34 := mtu.trans (by decide)
  refine ⟨b, same ▸ made, mtu, ?_⟩
  rw [payload, mtu]
  decide

end HopTrace
