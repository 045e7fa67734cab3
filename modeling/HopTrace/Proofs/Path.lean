import HopTrace.Network
import HopTrace.Proofs.Header

/-!
# Paths of routers

A path is a line of routers that ends at a target. A router drops a packet that is too big
for the link behind it and says so, drops a packet whose hop limit is spent and says so
unless it is silent, and the target refuses what reaches it. Hops are counted from one.

A world follows a path if nothing in it fails, no datagram ever comes from the target, and
every probe is answered as the path says. Everything else about its answers is left open:
who sends them, when, and how many hops they say they have travelled.
-/
namespace HopTrace

structure Path where
  /-- The hop that is the target. -/
  distance : Nat
  /-- The size of the largest packet that gets past a hop. -/
  limit : Nat → UInt32
  /-- The hops that do not say when a hop limit is spent. -/
  silent : Nat → Bool

/-- What a probe brings on a path. -/
inductive Answer where
  | tooBig (mtu : UInt32)
  | refused
  | expired
  | silence
  deriving DecidableEq, Repr

namespace Path

/-- The first of the hops up to `reach` that a packet is too big for. -/
def bottleneck (p : Path) (reach size : Nat) : Option Nat :=
  (List.range' 1 reach).find? fun i => (p.limit i).toNat < size

def answer (p : Path) (hopLimit size : Nat) : Answer :=
  match p.bottleneck (min hopLimit p.distance) size with
  | some i => .tooBig (p.limit i)
  | none =>
    if p.distance ≤ hopLimit then .refused
    else if p.silent hopLimit then .silence
    else .expired

/-- The largest packet, up to `initial`, that gets past the first hops. -/
def mtu (p : Path) (initial : UInt32) : (hops : Nat) → UInt32
  | 0 => initial
  | hops + 1 => min (p.mtu initial hops) (p.limit (hops + 1))

/-- There is a target, and every hop lets the headers pass. -/
structure Passable (p : Path) (overhead : UInt32) : Prop where
  far : 1 ≤ p.distance
  wide : ∀ i, 1 ≤ i → i ≤ p.distance → overhead ≤ p.limit i

section
variable {p : Path}

theorem le_mtu_iff (initial m : UInt32) (hops : Nat) :
    m ≤ p.mtu initial hops ↔ m ≤ initial ∧ ∀ i, 1 ≤ i → i ≤ hops → m ≤ p.limit i := by
  induction hops with
  | zero =>
    constructor
    · intro h
      exact ⟨h, fun i low high => absurd (Nat.le_trans low high) (by decide)⟩
    · exact And.left
  | succ hops ih =>
    rw [Path.mtu, Std.LawfulOrderInf.le_min_iff, ih]
    constructor
    · intro ⟨⟨first, before⟩, last⟩
      refine ⟨first, fun i low high => ?_⟩
      cases Nat.lt_or_eq_of_le high with
      | inl earlier => exact before i low (Nat.le_of_lt_succ earlier)
      | inr same => exact same ▸ last
    · intro ⟨first, all⟩
      exact ⟨⟨first, fun i low high => all i low (Nat.le_succ_of_le high)⟩,
        all (hops + 1) (Nat.succ_pos hops) (Nat.le_refl _)⟩

theorem mtu_le_limit {initial : UInt32} {hops i : Nat} (low : 1 ≤ i) (high : i ≤ hops) :
    p.mtu initial hops ≤ p.limit i :=
  ((le_mtu_iff initial _ hops).mp (UInt32.le_refl _)).2 i low high

theorem mtu_succ_le {initial : UInt32} {hops : Nat} :
    p.mtu initial (hops + 1) ≤ p.mtu initial hops :=
  ((Std.LawfulOrderInf.le_min_iff _ _ _).mp (UInt32.le_refl _)).1

theorem bottleneck_eq_some {reach size i : Nat} (h : p.bottleneck reach size = some i) :
    1 ≤ i ∧ i ≤ reach ∧ (p.limit i).toNat < size := by
  have small := List.find?_some h
  have m := List.mem_range'_1.mp (List.mem_of_find?_eq_some h)
  exact ⟨m.1, by omega, of_decide_eq_true small⟩

theorem bottleneck_eq_none {reach size : Nat} (h : p.bottleneck reach size = none) :
    ∀ i, 1 ≤ i → i ≤ reach → size ≤ (p.limit i).toNat := by
  intro i low high
  have passes := List.find?_eq_none.mp h i (List.mem_range'_1.mpr ⟨low, by omega⟩)
  rw [decide_eq_true_eq] at passes
  omega

theorem answer_cases (p : Path) (hopLimit size : Nat) :
    (∃ i, p.bottleneck (min hopLimit p.distance) size = some i ∧
      p.answer hopLimit size = .tooBig (p.limit i)) ∨
    (p.bottleneck (min hopLimit p.distance) size = none ∧ p.distance ≤ hopLimit ∧
      p.answer hopLimit size = .refused) ∨
    (p.bottleneck (min hopLimit p.distance) size = none ∧ hopLimit < p.distance ∧
      (p.answer hopLimit size = .silence ∨ p.answer hopLimit size = .expired)) := by
  unfold Path.answer
  cases p.bottleneck (min hopLimit p.distance) size with
  | some i => exact .inl ⟨i, rfl, rfl⟩
  | none =>
    simp only
    by_cases arrived : p.distance ≤ hopLimit
    · rw [if_pos arrived]
      exact .inr (.inl ⟨trivial, arrived, rfl⟩)
    · rw [if_neg arrived]
      refine .inr (.inr ⟨trivial, Nat.lt_of_not_le arrived, ?_⟩)
      cases p.silent hopLimit with
      | true => exact .inl rfl
      | false => exact .inr rfl

/-- A packet that passes the first hops is no bigger than their MTU, and one that is no
smaller either has found it. -/
theorem mtu_eq_of_bottleneck {initial mtu : UInt32} {reach : Nat} (first : mtu ≤ initial)
    (low : p.mtu initial reach ≤ mtu) (passes : p.bottleneck reach mtu.toNat = none) :
    mtu = p.mtu initial reach := by
  have high : mtu ≤ p.mtu initial reach := by
    rw [le_mtu_iff]
    refine ⟨first, fun i hi hr => ?_⟩
    exact UInt32.le_iff_toNat_le.mpr (bottleneck_eq_none passes i hi hr)
  exact UInt32.le_antisymm high low

end

end Path

/-- The notification says what a router or the target has to say. -/
def Answer.Tells : Answer → ExtendedError → Prop
  | .tooBig mtu, e => e.code = .messageTooBig ∧ e.info = mtu
  | .refused, e => e.code = .connectionRefused
  | .expired, e => e.code = .hostUnreachable ∧ e.isTimeExceeded = true
  | .silence, _ => False

/-- The notification answers the probe sent to `port`, and echoes the front of it. -/
structure Notification.Answers (n : Notification) (a : Answer) (payload : Payload)
    (port : UInt16) : Prop where
  port : n.port = some port
  payload : n.payload = payload.bytes.take 16
  error : ∃ e, n.error = some e ∧ a.Tells e

/-- What an answer puts on the error queue. -/
def Answer.Queues (a : Answer) (payload : Payload) (port : UInt16) (notes : List Notification) :
    Prop :=
  (a = .silence ∧ notes = []) ∨ ∃ n, notes = [n] ∧ n.Answers a payload port

/-- The parts of a world that a path speaks of. -/
structure PathView (σ : Type) where
  hopLimit : σ → UInt8
  queue : σ → List Notification

/-- Nothing that a path speaks of has changed. -/
def PathView.Same {σ : Type} (view : PathView σ) (s s' : σ) : Prop :=
  view.hopLimit s' = view.hopLimit s ∧ view.queue s' = view.queue s

theorem PathView.Same.trans {σ : Type} {view : PathView σ} {s₁ s₂ s₃ : σ} (h : view.Same s₁ s₂)
    (h' : view.Same s₂ s₃) : view.Same s₁ s₃ :=
  ⟨h'.1.trans h.1, h'.2.trans h.2⟩

/-- The world is the one of a host whose clock is right, at the near end of a path. -/
structure World.Follows {σ : Type} (w : World σ) (p : Path) (overhead : UInt32)
    (view : PathView σ) : Prop where
  tellable : ∀ s, (w.now s).1.Tellable
  now : ∀ s, view.Same s (w.now s).2
  setTtl : ∀ ttl s, ∃ s', w.setTtl ttl s = .ok () s' ∧
    view.hopLimit s' = ttl ∧ view.queue s' = view.queue s
  send : ∀ payload port s, ∃ s' notes, w.send payload port s = .ok () s' ∧
    view.hopLimit s' = view.hopLimit s ∧ view.queue s' = view.queue s ++ notes ∧
    (p.answer (view.hopLimit s).toNat (payload.length + overhead.toNat)).Queues payload port notes
  awaitReadable : ∀ limit s, ∃ readable s', w.awaitReadable limit s = .ok readable s' ∧
    view.Same s s'
  receiveReply : ∀ s, ∃ s', w.receiveReply s = .ok none s' ∧ view.Same s s'
  readEmpty : ∀ s, view.queue s = [] →
    ∃ s', w.receiveNotification s = .ok none s' ∧ view.Same s s'
  read : ∀ s n rest, view.queue s = n :: rest →
    ∃ s', w.receiveNotification s = .ok (some n) s' ∧
      view.hopLimit s' = view.hopLimit s ∧ view.queue s' = rest
  resolve : ∀ a s, view.Same s (w.resolve a s).2
  publish : ∀ e s, view.Same s (w.publish e s)

end HopTrace
