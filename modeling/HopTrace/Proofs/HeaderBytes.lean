import HopTrace.Proofs.Correlation
import Mathlib.Data.List.Induction

/-!
# The bytes of a header

A header is sixteen bytes in front of a payload, and each of them is known by its place: the
first four are the ttl, the next eight the seconds and the last four the microseconds, the
most significant byte first. Writing a header changes these places and no others.

Reading and writing undo each other in both directions. What is read from a written buffer is
the header that was written, and what is written of a header that was read are the bytes it
was read from, whatever they are.
-/
namespace HopTrace

/-- The byte at place `i` of a number that is written in `width` bytes. -/
def byteAt (width n i : Nat) : UInt8 := UInt8.ofNat (n / 256 ^ (width - 1 - i))

theorem byteAt_div (width n : Nat) {i : Nat} (inside : i < width) :
    byteAt width (n / 256) i = byteAt (width + 1) n i := by
  have places : width + 1 - 1 - i = width - 1 - i + 1 := by omega
  unfold byteAt
  rw [places, Nat.pow_succ', Nat.div_div_eq_div_mul]

theorem byteAt_last (width n : Nat) : byteAt (width + 1) n width = UInt8.ofNat n := by
  simp [byteAt]

theorem getElem?_bigEndian (width n i : Nat) :
    (bigEndian width n)[i]? = if i < width then some (byteAt width n i) else none := by
  induction width generalizing n with
  | zero => simp [bigEndian]
  | succ width ih =>
    rw [bigEndian]
    rcases Nat.lt_trichotomy i width with inside | rfl | outside
    · rw [List.getElem?_append_left (by simpa using inside), ih, if_pos inside,
        if_pos (by omega), byteAt_div width n inside]
    · rw [List.getElem?_append_right (by simp), length_bigEndian, Nat.sub_self, if_pos (by omega),
        byteAt_last]
      rfl
    · rw [List.getElem?_eq_none (by simp; omega), if_neg (by omega)]

theorem ofBigEndian_lt {width : Nat} {bytes : List UInt8} (length : bytes.length = width) :
    ofBigEndian bytes < 256 ^ width := by
  subst length
  induction bytes using List.reverseRecOn with
  | nil => simp [ofBigEndian]
  | append_singleton bytes b ih =>
    have small := b.toNat_lt
    rw [ofBigEndian_concat, List.length_append, List.length_singleton, Nat.pow_succ]
    omega

/-- Writing undoes reading. -/
theorem bigEndian_ofBigEndian {width : Nat} {bytes : List UInt8} (length : bytes.length = width) :
    bigEndian width (ofBigEndian bytes) = bytes := by
  subst length
  induction bytes using List.reverseRecOn with
  | nil => rfl
  | append_singleton bytes b ih =>
    have small := b.toNat_lt
    have front : (ofBigEndian bytes * 256 + b.toNat) / 256 = ofBigEndian bytes := by omega
    have last : UInt8.ofNat (ofBigEndian bytes * 256 + b.toNat) = b := by
      apply UInt8.toNat_inj.mp
      rw [UInt8.toNat_ofNat']
      omega
    rw [List.length_append, List.length_singleton, bigEndian, ofBigEndian_concat, front, last, ih]

namespace ProbeHeader

/-- The byte at place `i` of a header. -/
def layout (ttl seconds micros i : Nat) : UInt8 :=
  if i < 4 then byteAt 4 ttl i
  else if i < 12 then byteAt 8 seconds (i - 4)
  else byteAt 4 micros (i - 12)

theorem getElem?_encode (h : ProbeHeader) {i : Nat} (inside : i < size) :
    h.encode[i]? = some (layout h.ttl.toNat h.seconds.toNat h.micros.toNat i) := by
  unfold encode layout
  unfold size at inside
  rw [List.append_assoc]
  by_cases first : i < 4
  · rw [List.getElem?_append_left (by simpa using first), getElem?_bigEndian, if_pos first,
      if_pos first]
  · rw [List.getElem?_append_right (by simpa using first), length_bigEndian, if_neg first]
    by_cases second : i < 12
    · rw [List.getElem?_append_left (by simp; omega), getElem?_bigEndian, if_pos (by omega),
        if_pos second]
    · rw [List.getElem?_append_right (by simp; omega), length_bigEndian, getElem?_bigEndian,
        if_pos (by omega), if_neg second, Nat.sub_sub]

/-- Writing a header changes the places it takes, as far as the buffer has them. -/
theorem getElem?_write (h : ProbeHeader) (buffer : List UInt8) (i : Nat) :
    (h.write buffer)[i]? =
      if i < min size buffer.length then
        some (layout h.ttl.toNat h.seconds.toNat h.micros.toNat i)
      else buffer[i]? := by
  have front : (h.encode.take buffer.length).length = min size buffer.length := by
    rw [List.length_take, length_encode, Nat.min_comm]
  unfold write
  rw [List.getElem?_append, front]
  split
  · next inside =>
    rw [List.getElem?_take_of_lt (by omega), h.getElem?_encode (by omega)]
  · next outside =>
    rw [List.getElem?_drop]
    by_cases short : buffer.length ≤ i
    · rw [List.getElem?_eq_none short, List.getElem?_eq_none (by omega)]
    · congr 1
      omega

/-- Whatever a header is read from is what it is written as. -/
theorem encode_of_read {bytes : List UInt8} {h : ProbeHeader} (found : read bytes = some h) :
    h.encode = bytes.take size := by
  have long : size ≤ bytes.length := by
    apply Nat.le_of_not_lt
    intro short
    rw [read_eq_none_iff.mpr short] at found
    cases found
  unfold read at found
  rw [if_neg (by omega), Option.some.injEq] at found
  unfold size at long
  -- Each field is as wide as the bytes it is read from.
  have ttl : (bytes.take 4).length = 4 := by simp; omega
  have seconds : ((bytes.drop 4).take 8).length = 8 := by simp; omega
  have micros : ((bytes.drop 12).take 4).length = 4 := by simp; omega
  have whole : bytes.take size =
      bytes.take 4 ++ (bytes.drop 4).take 8 ++ (bytes.drop 12).take 4 := by
    rw [← List.take_add, ← List.take_add]
    rfl
  rw [← found, encode, UInt32.toNat_ofNat_of_lt' (ofBigEndian_lt ttl),
    UInt64.toNat_ofNat_of_lt' (ofBigEndian_lt seconds),
    UInt32.toNat_ofNat_of_lt' (ofBigEndian_lt micros), bigEndian_ofBigEndian ttl,
    bigEndian_ofBigEndian seconds, bigEndian_ofBigEndian micros, whole]

theorem encode_injective : Function.Injective encode := by
  intro h h' same
  have found := read_encode h
  rw [same, read_encode] at found
  injection found with found
  exact found.symm

theorem take_write {h : ProbeHeader} {buffer : List UInt8} (long : size ≤ buffer.length) :
    (h.write buffer).take size = h.encode := by
  have whole : h.encode.take buffer.length = h.encode :=
    List.take_of_length_le (by simpa using long)
  unfold write
  rw [whole, List.take_left' h.length_encode]

/-- A written header is read from its own bytes, whatever follows them. -/
theorem read_written {h : ProbeHeader} {buffer bytes : List UInt8} (long : size ≤ buffer.length)
    (continued : (h.write buffer).take size <+: bytes) : read bytes = some h := by
  rw [take_write long] at continued
  have front : bytes.take size = h.encode := by
    have taken := List.prefix_iff_eq_take.mp continued
    rw [length_encode] at taken
    exact taken.symm
  rw [← read_take, front, read_encode]

/-- The fields of a header that is sent with a time it can tell. -/
theorem fields_ofSend (ttl : UInt8) {now : Instant} (tellable : now.Tellable) :
    (ofSend ttl now).ttl.toNat = ttl.toNat ∧
      (ofSend ttl now).seconds.toNat = now.seconds.toNat ∧
      (ofSend ttl now).micros.toNat = now.nanos / nanosPerMicro := by
  obtain ⟨seconds, -, -⟩ := seconds_ofSend ttl tellable
  have late := tellable.1
  unfold nanosPerSecond at late
  refine ⟨UInt8.toNat_toUInt32 ttl, ?_, ?_⟩
  · rw [seconds]
    unfold Instant.seconds nanosPerSecond
    rw [Int.fdiv_eq_ediv_of_nonneg _ (by omega)]
    omega
  · unfold ofSend Instant.nanos nanosPerSecond nanosPerMicro
    rw [Int.fmod_eq_emod_of_nonneg _ (by omega), UInt32.toNat_ofNat', Nat.mod_eq_of_lt (by omega)]
    omega

/-- A header that was written in front of a buffer, with all that is read of it later. Its
bytes stand at their places, as far as the buffer has them, and nothing else has changed. From
sixteen bytes on it is read again, also where other bytes follow, and names its ttl and its
time to the microsecond. In the other direction, every sixteen bytes are read as a header that
is written as these very bytes, and no two headers are written alike. -/
theorem wire_roundTrip {ttl : UInt8} {now : Instant} (positive : 0 < ttl)
    (tellable : now.Tellable) (buffer : List UInt8) :
    ((ofSend ttl now).write buffer).length = buffer.length ∧
    (∀ i : Nat, ((ofSend ttl now).write buffer)[i]? =
      if i < min size buffer.length then
        some (layout ttl.toNat now.seconds.toNat (now.nanos / nanosPerMicro) i)
      else buffer[i]?) ∧
    (size ≤ buffer.length → ∀ bytes, ((ofSend ttl now).write buffer).take size <+: bytes →
      read bytes = some (ofSend ttl now)) ∧
    (buffer.length < size → read ((ofSend ttl now).write buffer) = none) ∧
    (ofSend ttl now).trustedTtl = some ttl ∧
    (ofSend ttl now).sent = some now.wholeMicros ∧
    (∀ bytes : List UInt8, size ≤ bytes.length → ∃ h, read bytes = some h ∧
      ∀ other : List UInt8, size ≤ other.length → (h.write other).take size = bytes.take size) ∧
    Function.Injective encode := by
  obtain ⟨ttlField, secondsField, microsField⟩ := fields_ofSend ttl tellable
  refine ⟨length_write _ _, ?_, ?_, ?_, trustedTtl_ofSend positive tellable,
    sent_ofSend_eq ttl tellable, ?_, encode_injective⟩
  · intro i
    rw [getElem?_write, ttlField, secondsField, microsField]
  · intro long bytes continued
    exact read_written long continued
  · intro short
    rw [read_eq_none_iff, length_write]
    exact short
  · intro bytes long
    cases found : read bytes with
    | none =>
      have short := read_eq_none_iff.mp found
      omega
    | some h =>
      refine ⟨h, rfl, ?_⟩
      intro other room
      rw [take_write room, encode_of_read found]

/-- The last microsecond of a second, in a buffer that is longer than the header. -/
theorem wire_roundTrip_lastMicro :
    (0 : UInt8) < 255 ∧ Instant.Tellable ⟨1999999999⟩ ∧
      (ofSend 255 ⟨1999999999⟩).write (List.replicate 18 170) =
        [0, 0, 0, 255, 0, 0, 0, 0, 0, 0, 0, 1, 0, 15, 66, 63, 170, 170] ∧
      read ((ofSend 255 ⟨1999999999⟩).write (List.replicate 18 170)) = some ⟨255, 1, 999999⟩ ∧
      (ofSend 255 ⟨1999999999⟩).sent = some ⟨1999999000⟩ := by
  have tellable : Instant.Tellable ⟨1999999999⟩ := ⟨by decide, by decide⟩
  have positive : (0 : UInt8) < 255 := by decide
  obtain ⟨-, -, back, -, -, sent, -, -⟩ := wire_roundTrip positive tellable (List.replicate 18 170)
  have header : ofSend 255 ⟨1999999999⟩ = ⟨255, 1, 999999⟩ := by decide
  refine ⟨positive, tellable, by decide, ?_, sent⟩
  rw [back (by decide) _ (List.take_prefix _ _), header]

end ProbeHeader

end HopTrace
