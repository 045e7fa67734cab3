import HopTrace.Payload
import Mathlib.Algebra.Group.Nat.Defs

/-!
# Headers that come back

A header is written in front of a payload and read from what a router returns of it. Reading
undoes writing, as long as the payload is long enough to hold the header. A header that was
written by a host whose clock is right is always trusted, and the time it names is one the
host can represent.
-/
namespace HopTrace

theorem ofBigEndian_concat (bytes : List UInt8) (b : UInt8) :
    ofBigEndian (bytes ++ [b]) = ofBigEndian bytes * 256 + b.toNat := by
  simp [ofBigEndian]

theorem ofBigEndian_bigEndian (width n : Nat) :
    ofBigEndian (bigEndian width n) = n % 256 ^ width := by
  induction width generalizing n with
  | zero => simp [bigEndian, ofBigEndian, Nat.mod_one]
  | succ width ih =>
    calc ofBigEndian (bigEndian (width + 1) n)
        = n / 256 % 256 ^ width * 256 + n % 256 := by
          rw [bigEndian, ofBigEndian_concat, ih, UInt8.toNat_ofNat']
      _ = n % (256 * 256 ^ width) := by
          rw [Nat.mod_mul]
          omega
      _ = n % 256 ^ (width + 1) := by rw [Nat.pow_succ']

namespace ProbeHeader

/-- Reading undoes encoding. -/
theorem read_encode (h : ProbeHeader) : read h.encode = some h := by
  have ttl : h.encode.take 4 = bigEndian 4 h.ttl.toNat := by simp [encode]
  have seconds : (h.encode.drop 4).take 8 = bigEndian 8 h.seconds.toNat := by simp [encode]
  have micros : (h.encode.drop 12).take 4 = bigEndian 4 h.micros.toNat := by
    have front : (bigEndian 4 h.ttl.toNat ++ bigEndian 8 h.seconds.toNat).length = 12 := by simp
    rw [encode, List.drop_left' front, List.take_of_length_le (by simp)]
  have ttlFits : h.ttl.toNat % 256 ^ 4 = h.ttl.toNat := Nat.mod_eq_of_lt h.ttl.toNat_lt
  have secondsFit : h.seconds.toNat % 256 ^ 8 = h.seconds.toNat :=
    Nat.mod_eq_of_lt h.seconds.toNat_lt
  have microsFit : h.micros.toNat % 256 ^ 4 = h.micros.toNat := Nat.mod_eq_of_lt h.micros.toNat_lt
  unfold read
  rw [length_encode, if_neg (Nat.lt_irrefl _), ttl, seconds, micros, ofBigEndian_bigEndian,
    ofBigEndian_bigEndian, ofBigEndian_bigEndian, ttlFits, secondsFit, microsFit,
    UInt32.ofNat_toNat, UInt64.ofNat_toNat, UInt32.ofNat_toNat]

/-- What a header must be for its ttl to be trusted. -/
theorem trustedTtl_eq_some_iff {h : ProbeHeader} {ttl : UInt8} :
    h.trustedTtl = some ttl ↔
      h.seconds ≠ 0 ∧ 0 < h.ttl.toNat ∧ h.ttl.toNat ≤ 255 ∧ ttl = h.ttl.toUInt8 := by
  have zero : h.ttl = 0 ↔ h.ttl.toNat = 0 := UInt32.toNat_inj.symm
  have large : h.ttl > 255 ↔ 255 < h.ttl.toNat := UInt32.lt_iff_toNat_lt
  unfold trustedTtl
  split
  · next judged =>
    rw [zero, large] at judged
    constructor
    · intro absent
      cases absent
    · intro ⟨seconds, low, high, _⟩
      have ttl : h.ttl.toNat = 0 ∨ 255 < h.ttl.toNat := judged.resolve_left seconds
      omega
  · next judged =>
    rw [zero, large, not_or, not_or] at judged
    constructor
    · intro trusted
      injection trusted with trusted
      exact ⟨judged.1, by omega, by omega, trusted.symm⟩
    · intro trusted
      rw [trusted.2.2.2]

theorem trustedTtl_pos {h : ProbeHeader} {ttl : UInt8}
    (trusted : h.trustedTtl = some ttl) : 0 < ttl := by
  obtain ⟨-, low, high, rfl⟩ := trustedTtl_eq_some_iff.mp trusted
  rw [UInt8.lt_iff_toNat_lt, UInt32.toNat_toUInt8, Nat.mod_eq_of_lt (by omega)]
  exact low

theorem sent_eq_none_iff (h : ProbeHeader) :
    h.sent = none ↔ 2 ^ 63 ≤ h.seconds.toNat + h.micros.toNat / 1000000 := by
  have seconds : Instant.seconds
      ⟨h.seconds.toNat * nanosPerSecond + h.micros.toNat * nanosPerMicro⟩ =
        ((h.seconds.toNat + h.micros.toNat / 1000000 : Nat) : Int) := by
    unfold Instant.seconds nanosPerSecond nanosPerMicro
    simp only
    rw [Int.fdiv_eq_ediv_of_nonneg _ (by omega)]
    omega
  unfold ProbeHeader.sent
  simp only [Instant.Representable, seconds]
  generalize h.seconds.toNat + h.micros.toNat / 1000000 = total
  split
  · next fits =>
    constructor
    · intro absent
      cases absent
    · intro late
      omega
  · next late =>
    constructor
    · intro _
      omega
    · intro _
      rfl

end ProbeHeader

/-- A full second after the start of 1970, and no later than the host can represent. -/
def Instant.Tellable (t : Instant) : Prop :=
  (nanosPerSecond : Int) ≤ t.sinceEpoch ∧ t.Representable

namespace ProbeHeader
variable {ttl : UInt8} {now : Instant}

theorem seconds_ofSend (ttl : UInt8) (h : now.Tellable) :
    (ofSend ttl now).seconds.toNat = now.sinceEpoch.toNat / nanosPerSecond ∧
      0 < now.sinceEpoch.toNat / nanosPerSecond ∧
      now.sinceEpoch.toNat / nanosPerSecond < 2 ^ 63 := by
  obtain ⟨late, -, early⟩ := h
  unfold Instant.seconds at early
  rw [Int.fdiv_eq_ediv_of_nonneg _ (by unfold nanosPerSecond; omega)] at early
  unfold nanosPerSecond at late early ⊢
  have low : 0 < now.sinceEpoch.toNat / 1000000000 := by omega
  have high : now.sinceEpoch.toNat / 1000000000 < 2 ^ 63 := by omega
  refine ⟨?_, low, high⟩
  unfold ofSend nanosPerSecond
  rw [UInt64.toNat_ofNat', Nat.mod_eq_of_lt (by omega)]

theorem micros_ofSend (ttl : UInt8) (now : Instant) :
    (ofSend ttl now).micros.toNat < 1000000 := by
  unfold ofSend nanosPerSecond nanosPerMicro
  rw [UInt32.toNat_ofNat']
  have low : now.sinceEpoch.toNat % 1000000000 / 1000 < 1000000 := by omega
  exact Nat.lt_of_le_of_lt (Nat.mod_le _ _) low

theorem trustedTtl_ofSend (positive : 0 < ttl) (h : now.Tellable) :
    (ofSend ttl now).trustedTtl = some ttl := by
  obtain ⟨seconds, low, -⟩ := seconds_ofSend ttl h
  have small := ttl.toNat_lt
  have kept : (ofSend ttl now).ttl.toNat = ttl.toNat := UInt8.toNat_toUInt32 ttl
  rw [trustedTtl_eq_some_iff, kept]
  refine ⟨?_, UInt8.lt_iff_toNat_lt.mp positive, by omega, ?_⟩
  · intro zero
    rw [zero, UInt64.toNat_zero] at seconds
    omega
  · unfold ofSend
    rw [UInt8.toUInt8_toUInt32]

theorem sent_ofSend (ttl : UInt8) (h : now.Tellable) :
    ∃ sent, (ofSend ttl now).sent = some sent := by
  obtain ⟨seconds, -, high⟩ := seconds_ofSend ttl h
  have micros := micros_ofSend ttl now
  cases found : (ofSend ttl now).sent with
  | some sent => exact ⟨sent, rfl⟩
  | none =>
    have late := (sent_eq_none_iff _).mp found
    omega

end ProbeHeader

/-- What a router returns of a payload is enough to read the header, unless the payload is
too short to hold one. -/
theorem Payload.read_leading (p : Payload) :
    ProbeHeader.read p.leading = if ProbeHeader.size ≤ p.length then some p.header else none := by
  unfold Payload.leading
  split
  · next long =>
    rw [List.take_of_length_le (by simpa using long)]
    exact p.header.read_encode
  · next short =>
    rw [ProbeHeader.read_eq_none_iff, List.length_take]
    omega

end HopTrace
