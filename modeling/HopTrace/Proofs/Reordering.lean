import HopTrace.Proofs.ErrorQueue

/-!
# Notifications in another order

Nothing promises that notifications arrive in the order in which the probes went out. As
long as none of them ends the trace and no two point to the same slot, the order is of no
consequence to a drain: no notification finds the session changed in anything that its own
hop depends on, and what all of them leave behind is the same.
-/
namespace HopTrace

variable {σ : Type}

theorem History.ext_get? {h h' : History} (records : ∀ slot, h.get? slot = h'.get? slot)
    (cursor : h.cursor = h'.cursor) : h = h' := by
  have same : h.records = h'.records := Vector.ext fun i small => records ⟨i, small⟩
  cases h
  cases h'
  simp only at same cursor
  rw [same, cursor]

/-- A session is determined by what no notification changes and what they do change. -/
theorem Session.SameSetup.eq {s s' : Session} (h : s.SameSetup s') (mtu : s.mtu = s'.mtu)
    (records : ∀ slot, s.history.get? slot = s'.history.get? slot) (hopsTo : s.hopsTo = s'.hopsTo)
    (hopsFrom : s.hopsFrom = s'.hopsFrom) : s = s' := by
  have history := History.ext_get? records h.cursor.symm
  have family := h.family
  have basePort := h.basePort
  have maxTtl := h.maxTtl
  have mode := h.mode
  have capacity := h.capacity
  cases s
  cases s'
  simp_all

theorem foldl_min_perm {mtus mtus' : List UInt32} (perm : mtus.Perm mtus') (mtu : UInt32) :
    mtus.foldl min mtu = mtus'.foldl min mtu := by
  apply perm.foldl_eq'
  intro a _ b _ c
  simp only [Std.min_eq_if]
  grind

section Report
variable {w : World σ} {names : IpAddress → Option String}

/-- The event for a notification, with the responder named as it would be in `x`. -/
def World.report (w : World σ) (ttl : UInt8) (s : Session) (x : σ) (n : Notification) : Event :=
  match n.error, s.identify n with
  | some e, .ok p =>
    .hop { p.hop ttl n e with responder := (w.name s.mode (Responder.ofError e) x).1 }
  | _, _ => .noInfo

/-- A notification that does not end the trace is reported as a hop. -/
theorem World.report_of_going (w : World σ) (ttl : UInt8) {s : Session} (x : σ)
    {n : Notification} (going : n.stops = false) (timely : ¬n.Overflows) :
    ∃ hop, w.report ttl s x n = .hop hop ∧ hop.ttl = ttl := by
  obtain ⟨p, found⟩ := s.identify_ok timely
  unfold World.report
  cases error : n.error with
  | none =>
    rw [Notification.stops, error] at going
    cases going
  | some e =>
    rw [found]
    exact ⟨_, rfl, rfl⟩

/-- With a pure resolver the name does not depend on when it is looked up. -/
theorem World.name_pure (lookup : ∀ a s, (w.resolve a s).1 = names a) (mode : AddressMode)
    (r : Responder) (x y : σ) : (w.name mode r x).1 = (w.name mode r y).1 := by
  unfold World.name
  split
  · split
    · split
      · rfl
      · simp only [lookup]
    · rfl
  · rfl

theorem World.Reports.eq_report {ttl : UInt8} {s : Session} {n : Notification} {event : Event}
    (lookup : ∀ a s, (w.resolve a s).1 = names a) (h : w.Reports ttl s n event) (x : σ) :
    event = w.report ttl s x n := by
  unfold World.report
  cases h with
  | uninformed error => rw [error]
  | @informed p e y found error =>
    simp only [error, found]
    rw [World.name_pure lookup _ _ x y]

/-- The record that a notification consumes is the one in the slot it points to. -/
theorem Session.takeRecord_eq (s : Session) (n : Notification) :
    (s.takeRecord n.port).1 = (n.slot? s.basePort).bind s.history.get? := by
  unfold Session.takeRecord Notification.slot?
  cases n.port.bind (Slot.ofPort · s.basePort) <;> rfl

/-- A notification is matched as before when another one has been read that points elsewhere. -/
theorem Session.identify_after {s : Session} {ttl : UInt8} {m n : Notification}
    (apart : ∀ slot, n.slot? s.basePort = some slot → m.slot? s.basePort ≠ some slot) :
    (s.after ttl m).identify n = s.identify n := by
  unfold Session.identify
  rw [Session.takeRecord_eq, Session.takeRecord_eq, (SameSetup.after ttl s m).basePort]
  cases points : n.slot? s.basePort with
  | none => rfl
  | some slot => rw [Option.bind_some, Option.bind_some, get?_after, if_neg (apart slot points)]

theorem World.report_after {s : Session} {ttl : UInt8} {m n : Notification} (x : σ)
    (apart : ∀ slot, n.slot? s.basePort = some slot → m.slot? s.basePort ≠ some slot) :
    w.report ttl (s.after ttl m) x n = w.report ttl s x n := by
  unfold World.report
  rw [Session.identify_after apart, (Session.SameSetup.after ttl s m).mode]

/-- Each notification of a batch is reported as if it were the only one. -/
theorem World.ReportsAll.eq_map {ttl : UInt8} {s : Session} {read : List Notification}
    {events : List Event} (lookup : ∀ a s, (w.resolve a s).1 = names a)
    (h : w.ReportsAll ttl s read events)
    (apart : (read.filterMap (Notification.slot? s.basePort)).Nodup) (x : σ) :
    events = read.map (w.report ttl s x) := by
  induction h with
  | nil => rfl
  | @cons s n event read events first _ ih =>
    have setup := Session.SameSetup.after ttl s n
    have others : (read.filterMap (Notification.slot? s.basePort)).Nodup := by
      cases points : n.slot? s.basePort with
      | none => rwa [List.filterMap_cons_none points] at apart
      | some slot =>
        rw [List.filterMap_cons_some points] at apart
        exact (List.nodup_cons.mp apart).2
    have elsewhere : ∀ m ∈ read, ∀ slot,
        m.slot? s.basePort = some slot → n.slot? s.basePort ≠ some slot := by
      intro m mem slot there here
      rw [List.filterMap_cons_some here] at apart
      exact (List.nodup_cons.mp apart).1 (List.mem_filterMap.mpr ⟨m, mem, there⟩)
    have rest := ih (setup.basePort ▸ others)
    rw [first.eq_report lookup x, rest, List.map_cons, List.cons.injEq]
    refine ⟨rfl, List.map_congr_left fun m mem => ?_⟩
    exact World.report_after x (elsewhere m mem)

end Report

section Batch
variable {w : World σ} {queue : σ → List (Except Failure Notification)}
variable {names : IpAddress → Option String} {batch batch' : List Notification}

/-- A queue of notifications that do not end the trace is taken whole. -/
theorem portion_of_going (going : ∀ n ∈ batch, n.stops = false) :
    portion (batch.map .ok) = ⟨batch, .emptied, []⟩ := by
  induction batch with
  | nil => rfl
  | cons n batch ih =>
    obtain ⟨here, rest⟩ := List.forall_mem_cons.mp going
    rw [List.map_cons, portion, here, ih rest]
    rfl

/-- The sessions after two drains that took the same notifications are the same. -/
theorem Portion.Drained.session_eq {ttl : UInt8} {t t' u u' : Tracing σ}
    {past past' : List Exchange}
    (h : Portion.Drained ⟨batch, .emptied, []⟩ w queue ttl t t' past)
    (h' : Portion.Drained ⟨batch', .emptied, []⟩ w queue ttl u u' past')
    (same : t.session = u.session) (perm : batch.Perm batch') : t'.session = u'.session := by
  have unstopped : ∀ n, Ending.emptied = .stopped n → n.isRefusal = false := by
    intro n stopped
    cases stopped
  have kept := h.kept (.inr unstopped)
  have kept' := h'.kept (.inr unstopped)
  have setup := h.setup
  have mtu := h.mtu
  have slots := h.slots
  rw [same] at kept setup mtu slots
  have between : t'.session.SameSetup u'.session := ⟨
    h'.setup.family.trans setup.family.symm, h'.setup.basePort.trans setup.basePort.symm,
    h'.setup.maxTtl.trans setup.maxTtl.symm, h'.setup.mode.trans setup.mode.symm,
    h'.setup.capacity.trans setup.capacity.symm, h'.setup.cursor.trans setup.cursor.symm⟩
  apply between.eq
  case mtu =>
    rw [mtu, h'.mtu]
    exact foldl_min_perm (perm.filterMap _) _
  case records =>
    intro slot
    rw [slots slot, h'.slots slot]
    simp only [perm.mem_iff]
  case hopsTo => exact kept.1.trans kept'.1.symm
  case hopsFrom => exact kept.2.trans kept'.2.symm

/-- Draining does not depend on the order of a batch. Both orders have the same outcome and
leave the same session, and each notification is published as the same hop. -/
theorem drain_perm (h : w.ReadsFrom queue) (lookup : ∀ a s, (w.resolve a s).1 = names a)
    (ttl : UInt8) {s : Session} {x y : σ} (queued : queue x = batch.map .ok)
    (queued' : queue y = batch'.map .ok) (perm : batch.Perm batch')
    (going : ∀ n ∈ batch, n.stops = false)
    (apart : (batch.filterMap (Notification.slot? s.basePort)).Nodup)
    (timely : ∀ n ∈ batch, ¬n.Overflows) :
    ∃ outcome t u report, w.drain ttl ⟨s, x⟩ = .ok outcome t ∧ w.drain ttl ⟨s, y⟩ = .ok outcome u ∧
      t.session = u.session ∧ (∀ n ∈ batch, ∃ hop, report n = .hop hop ∧ hop.ttl = ttl) ∧
      published ((w.transcribed.drain ttl).transcript ⟨s, x⟩) = batch.map report ∧
      published ((w.transcribed.drain ttl).transcript ⟨s, y⟩) = batch'.map report ∧
      (published ((w.transcribed.drain ttl).transcript ⟨s, x⟩)).Perm
        (published ((w.transcribed.drain ttl).transcript ⟨s, y⟩)) := by
  have going' : ∀ n ∈ batch', n.stops = false := fun n m => going n (perm.mem_iff.mpr m)
  have timely' : ∀ n ∈ batch', ¬n.Overflows := fun n m => timely n (perm.mem_iff.mpr m)
  have apart' : (batch'.filterMap (Notification.slot? s.basePort)).Nodup :=
    (perm.filterMap _).nodup_iff.mp apart
  obtain ⟨-, t, drained, effect⟩ := drain_portion h ttl ⟨s, x⟩
    (by rw [queued, portion_of_going going]; exact timely)
  obtain ⟨-, u, drained', effect'⟩ := drain_portion h ttl ⟨s, y⟩
    (by rw [queued', portion_of_going going']; exact timely')
  rw [queued, portion_of_going going] at drained effect
  rw [queued', portion_of_going going'] at drained' effect'
  have session : t.session = u.session := effect.session_eq effect' rfl perm
  have first := effect.events.eq_map lookup apart x
  have second := effect'.events.eq_map lookup apart' x
  refine ⟨_, t, u, w.report ttl s x, drained, ?_, session, ?_, first, second, ?_⟩
  · rw [drained', session, perm.isEmpty_eq]
    rfl
  · exact fun n m => w.report_of_going ttl x (going n m) (timely n m)
  · rw [first, second]
    exact perm.map _

end Batch

namespace Shuffled
open Simulation

/-- An error about the probe in the first slot. -/
def first : Notification :=
  ⟨⟨2000000000⟩, some 44444, [], some ⟨.icmp, .messageTooBig, 3, 4, 1400, none⟩, some 62⟩

/-- An error about the probe in the second slot. -/
def second : Notification :=
  ⟨⟨2000000000⟩, some 44445, [], some ⟨.icmp, .messageTooBig, 3, 4, 1300, none⟩, some 61⟩

def network (batch : List Notification) : ScriptedNetwork :=
  (ScriptedNetwork.start ⟨2000000000⟩ [] fun _ => none).enqueue (batch.map .ok)

def world : World ScriptedNetwork := scriptedNetwork.attendedBy (Audience.silent _)

def session : Session :=
  (Session.start { SessionConfig.default with mtu := 1500 }).record Slot.first 3 ⟨1000000000⟩

end Shuffled

theorem drain_perm_shuffled :
    [Shuffled.first, Shuffled.second].Perm [Shuffled.second, Shuffled.first] ∧
      ∃ t u, Shuffled.world.drain 3 ⟨Shuffled.session, Shuffled.network
          [Shuffled.first, Shuffled.second]⟩ = .ok .mtuChanged t ∧
        Shuffled.world.drain 3 ⟨Shuffled.session, Shuffled.network
          [Shuffled.second, Shuffled.first]⟩ = .ok .mtuChanged u ∧
        t.session = u.session := by
  have perm : [Shuffled.first, Shuffled.second].Perm [Shuffled.second, Shuffled.first] :=
    List.Perm.swap ..
  have going : ∀ n ∈ [Shuffled.first, Shuffled.second], n.stops = false := by decide
  have timely : ∀ n ∈ [Shuffled.first, Shuffled.second], ¬n.Overflows := by
    intro n m
    apply Notification.not_overflows_of_unechoed
    rcases List.mem_cons.mp m with rfl | m
    · rfl
    · rw [List.mem_singleton.mp m]
      rfl
  obtain ⟨outcome, t, u, report, drained, drained', session, -⟩ :=
    drain_perm (w := Shuffled.world) (s := Shuffled.session)
      (x := Shuffled.network [Shuffled.first, Shuffled.second])
      (y := Shuffled.network [Shuffled.second, Shuffled.first])
      Simulation.scriptedNetwork_readsFrom (fun _ _ => rfl) 3 rfl rfl perm going (by decide) timely
  have changed : answer? (Shuffled.world.drain 3 ⟨Shuffled.session, Shuffled.network
      [Shuffled.first, Shuffled.second]⟩) = some .mtuChanged := by decide +kernel
  rw [drained] at changed
  injection changed with changed
  subst changed
  exact ⟨perm, t, u, drained, drained', session⟩

end HopTrace
