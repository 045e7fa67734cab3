import HopTrace.Instant

/-!
# The history of outstanding probes

A ring of sixty-four slots, one probe to a slot. The slot of a probe is the offset of its
destination port from the base port, so that a notification naming the port finds the
probe. Recording into an occupied slot forgets the older probe; taking a record empties
its slot, so a probe is found at most once. The cursor says which slot the next probe
uses.
-/
namespace HopTrace

def historySize : Nat := 64

abbrev Slot := Fin historySize

namespace Slot

/-- The slot of a probe sent to `port`. Ports wrap around, and so does the offset. -/
def ofPort (port base : UInt16) : Option Slot :=
  let offset := (port - base).toNat
  if h : offset < historySize then some ⟨offset, h⟩ else none

def port (slot : Slot) (base : UInt16) : UInt16 := base + UInt16.ofNat slot.val

def next (slot : Slot) : Slot := ⟨(slot.val + 1) % historySize, Nat.mod_lt _ (by decide)⟩

def first : Slot := ⟨0, by decide⟩

end Slot

structure ProbeRecord where
  ttl : UInt8
  sent : Instant
  deriving DecidableEq, Repr

structure History where
  records : Vector (Option ProbeRecord) historySize
  cursor : Slot
  deriving DecidableEq, Repr

namespace History

def empty : History := ⟨Vector.replicate historySize none, Slot.first⟩

instance : Inhabited History := ⟨empty⟩

def get? (h : History) (slot : Slot) : Option ProbeRecord := h.records[slot]

def advance (h : History) : History := { h with cursor := h.cursor.next }

def record (h : History) (slot : Slot) (ttl : UInt8) (sent : Instant) : History :=
  { h with records := h.records.set slot (some ⟨ttl, sent⟩) }

def clear (h : History) (slot : Slot) : History :=
  { h with records := h.records.set slot none }

def take (h : History) (slot : Slot) : Option ProbeRecord × History :=
  (h.get? slot, h.clear slot)

/-- The occupied slots in order. -/
def live (h : History) : List (Slot × ProbeRecord) :=
  (List.finRange historySize).filterMap fun slot => (h.get? slot).map fun r => (slot, r)

@[simp] theorem get?_empty (slot : Slot) : empty.get? slot = none := by
  simp [get?, empty]

@[simp] theorem get?_advance (h : History) (slot : Slot) :
    h.advance.get? slot = h.get? slot := rfl

theorem get?_record (h : History) (a b : Slot) (ttl : UInt8) (sent : Instant) :
    (h.record a ttl sent).get? b = if a = b then some ⟨ttl, sent⟩ else h.get? b := by
  simp [get?, record, Vector.getElem_set, Fin.ext_iff]

theorem get?_clear (h : History) (a b : Slot) :
    (h.clear a).get? b = if a = b then none else h.get? b := by
  simp [get?, clear, Vector.getElem_set, Fin.ext_iff]

@[simp] theorem cursor_record (h : History) (slot : Slot) (ttl : UInt8) (sent : Instant) :
    (h.record slot ttl sent).cursor = h.cursor := rfl

@[simp] theorem cursor_clear (h : History) (slot : Slot) : (h.clear slot).cursor = h.cursor := rfl

@[simp] theorem cursor_advance (h : History) : h.advance.cursor = h.cursor.next := rfl

end History

end HopTrace
