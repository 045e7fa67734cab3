import HopTrace.Proofs.HeaderTime
import HopTrace.Tracer

/-!
# What a trace keeps up in its world

An invariant of the world alone, whatever the world consists of. It is checked at each single
operation, with what may hold instead where the operation fails, and then holds wherever a
trace can end. As with the invariants of transcripts, a comparison of the trace with itself
carries it through the loops.
-/
namespace HopTrace

variable {σ α : Type}

/-- Every operation keeps `J` up, and leads to `F` if it fails. -/
structure World.Upholds (w : World σ) (J : σ → Prop) (F : Failure → σ → Prop) : Prop where
  now : ∀ {s}, J s → J (w.now s).2
  setTtl : ∀ {s} ttl, J s → Ends J F (w.setTtl ttl s)
  send : ∀ {s} payload port, J s → Ends J F (w.send payload port s)
  /-- A trace survives a datagram that is refused. -/
  refused : ∀ {s} cause, F (.probeFailed cause) s → J s
  awaitReadable : ∀ {s} limit, J s → Ends J F (w.awaitReadable limit s)
  receiveReply : ∀ {s}, J s → Ends J F (w.receiveReply s)
  receiveNotification : ∀ {s}, J s → Ends J F (w.receiveNotification s)
  undecoded : ∀ {s}, J s → F .unrepresentableTime s
  resolve : ∀ {s} a, J s → J (w.resolve a s).2
  publish : ∀ {s} e, J s → J (w.publish e s)

namespace World.Upholds
variable {w : World σ} {J : σ → Prop} {F : Failure → σ → Prop} {t : Tracing σ}

theorem ends_world {act : EStateM Failure σ α} (ended : Ends J F (act t.world)) :
    Ends (J ·.world) (F · ·.world) (Step.world act t) := by
  unfold Step.world
  generalize act t.world = r at ended
  cases r <;> exact ended

theorem ends_readOne (h : w.Upholds J F) (ttl : UInt8) (hJ : J t.world) :
    Ends (J ·.world) (F · ·.world) (w.readOne ttl t) := by
  have ended := h.receiveNotification hJ
  unfold World.readOne World.decode
  generalize w.receiveNotification t.world = read at ended
  cases read with
  | error e s => exact ended
  | ok found s =>
    cases found with
    | none => exact ended
    | some n =>
      dsimp only
      cases decoded : t.session.decode ttl n with
      | error e session =>
        obtain ⟨unidentified, -⟩ := Session.decode_failed decoded
        obtain ⟨rfl, -⟩ := (t.session.identify_eq_error_iff n e).mp unidentified
        exact h.undecoded ended
      | ok hop session =>
        cases hop with
        | none => exact h.publish _ ended
        | some hop => exact h.publish _ (w.name_preserves J h.resolve ended)

theorem ends_shoot (h : w.Upholds J F) (ttl : UInt8) (slot : Slot) (hJ : J t.world) :
    Ends (J ·.world) (F · ·.world) (w.shoot ttl slot t) := by
  have ended := h.send ((t.session.record slot ttl (w.now t.world).1).payload ttl (w.now t.world).1)
    (slot.port t.session.basePort) (h.now hJ)
  rw [World.shoot_eq]
  unfold World.trySend
  generalize w.send _ _ (w.now t.world).2 = sent at ended
  cases sent with
  | ok _ s => exact ended
  | error e s =>
    cases e with
    | probeFailed cause => exact h.refused cause ended
    | io cause => exact ended
    | unrepresentableTime => exact ended

theorem carries (h : w.Upholds J F) (ttl : UInt8) :
    w.Carries ttl (J ·.world) (F · ·.world) where
  readOne hJ := h.ends_readOne ttl hJ
  shoot slot hJ := h.ends_shoot ttl slot hJ
  awaitReadable hJ := ends_world (h.awaitReadable _ hJ)
  receiveReply hJ := ends_world (h.receiveReply hJ)
  publish e _ hJ := h.publish e hJ
  clear _ hJ := hJ
  advance hJ := hJ

/-- A trace keeps up what every operation keeps up. -/
theorem ends_traceWith (h : w.Upholds J F) (c : SessionConfig) {s : σ} (hJ : J s) :
    Ends J F (w.traceWith c s) := by
  have ends : Ends (J ·.world) (F · ·.world) (w.trace ⟨Session.start c, s⟩) :=
    World.Carries.trace (fun ttl _ => h.carries ttl)
      (fun ttl _ _ hJ => ends_world (h.setTtl ttl hJ)) hJ
  unfold World.traceWith
  generalize w.trace ⟨Session.start c, s⟩ = r at ends
  cases r with
  | ok summary t => exact ends
  | error e t => exact ends

end World.Upholds

end HopTrace
