import HopTrace.Proofs.Climb
import HopTrace.Proofs.Spelling

/-!
# The hop limits of a run

What the host is told of the hop limit, for each version of the protocol, and what it
answers. A climb of the trace shows in the settings as 1, 2, 3 and so on, of which only the
last can have been refused. While a probe is on its way, the limits for all versions that
concern the target are the same, and those for the other version are never set.

The host knows its options by numbers, and it is by these that a hop limit is told here.
-/
namespace HopTrace

/-- The versions of the protocol that concern a target: its own, and version 4 besides where
a version 6 address stands for one of version 4. -/
inductive Concerns : IpAddress → IpVersion → Prop
  | v4 (ip) : Concerns (.v4 ip) .v4
  | v6 (ip) : Concerns (.v6 ip) .v6
  | mapped (upper lower : UInt16) :
      Concerns (.v6 ⟨#v[0, 0, 0, 0, 0, 0xffff, upper, lower]⟩) .v4

theorem concerns_iff {target : IpAddress} {version : IpVersion} :
    Concerns target version ↔ version ∈ (Family.ofTarget target).hopLimits := by
  constructor
  · intro own
    cases own with
    | v4 ip => exact List.mem_cons_self
    | v6 ip =>
      change .v6 ∈ (Family.v6 ip.isMapped).hopLimits
      cases ip.isMapped <;> exact List.mem_cons_self
    | mapped upper lower => exact List.mem_cons_of_mem _ List.mem_cons_self
  · intro m
    rcases target with ip | ip
    · cases List.mem_singleton.mp m
      exact .v4 ip
    · cases version with
      | v6 => exact .v6 ip
      | v4 =>
        cases mapped : ip.isMapped with
        | true =>
          obtain ⟨upper, lower, rfl⟩ := Ipv6.isMapped_iff.mp mapped
          exact .mapped upper lower
        | false =>
          have limits : (Family.ofTarget (.v6 ip)).hopLimits = [.v6] := by
            simp only [Family.ofTarget, mapped, Family.hopLimits]
          rw [limits] at m
          cases List.mem_singleton.mp m

/-- The hop limit of a version, by the level and the number of the option: `IP_TTL` and
`IPV6_UNICAST_HOPS`. -/
def IpVersion.hopLimitOption : IpVersion → Nat × Nat
  | .v4 => (0, 2)
  | .v6 => (41, 16)

theorem SocketOption.hopLimitOption_iff {option : SocketOption} {version : IpVersion} :
    (option.level, option.number) = version.hopLimitOption ↔ option = .hopLimit version := by
  rcases option with (v | v | v) | v <;> cases v <;> cases version <;> decide

/-- What the host is told of the hop limit for a version, and its answer. -/
def SystemExchange.setting? (version : IpVersion) :
    SystemExchange → Option (Nat × Except Errno Unit)
  | .setOption option value answer =>
    if (option.level, option.number) = version.hopLimitOption then some (value, answer) else none
  | _ => none

theorem setting?_feature (version : IpVersion) (feature : SocketFeature) (value : Nat)
    (answer : Except Errno Unit) :
    (SystemExchange.setOption (.feature feature) value answer).setting? version = none := by
  apply if_neg
  rw [SocketOption.hopLimitOption_iff]
  intro same
  cases same

/-- The hop limits that were set for a version, the latest first. -/
def settings (version : IpVersion) (past : List SystemExchange) :
    List (Nat × Except Errno Unit) :=
  past.filterMap (·.setting? version)

/-- The hop limit in force is the last one that was accepted. -/
def hopLimit? (version : IpVersion) (past : List SystemExchange) : Option Nat :=
  ((settings version past).find? (·.2.isOk)).map Prod.fst

/-- The hop limits from `n` down to 1, all accepted. -/
def rungs (n : Nat) : List (Nat × Except Errno Unit) := (List.range' 1 n).reverse.map (·, .ok ())

theorem rungs_succ (n : Nat) : rungs (n + 1) = (n + 1, .ok ()) :: rungs n := by
  unfold rungs
  rw [List.range'_concat]
  simp [Nat.add_comm]

theorem map_fst_rungs (n : Nat) : (rungs n).map Prod.fst = (List.range' 1 n).reverse := by
  simp [rungs, Function.comp_def]

theorem snd_of_mem_rungs {n : Nat} {s : Nat × Except Errno Unit} (m : s ∈ rungs n) :
    s.2 = .ok () := by
  obtain ⟨value, -, rfl⟩ := List.mem_map.mp m
  rfl

section Settings
variable {version : IpVersion} {new past : List SystemExchange} {n : Nat}

theorem settings_append (version : IpVersion) (new past : List SystemExchange) :
    settings version (new ++ past) = settings version new ++ settings version past :=
  List.filterMap_append

theorem settings_eq_nil (silent : ∀ y ∈ new, y.setting? version = none) :
    settings version new = [] :=
  List.filterMap_eq_nil_iff.mpr silent

theorem hopLimit?_of_rungs (climbed : settings version past = rungs (n + 1)) :
    hopLimit? version past = some (n + 1) := by
  unfold hopLimit?
  rw [climbed, rungs_succ]
  rfl

theorem settings_singleton (version version' : IpVersion) (value : Nat)
    (answer : Except Errno Unit) :
    settings version [.setOption (.hopLimit version') value answer] =
      if version' = version then [(value, answer)] else [] := by
  by_cases same : version' = version
  · simp [settings, SystemExchange.setting?, SocketOption.hopLimitOption_iff, same]
  · simp [settings, SystemExchange.setting?, SocketOption.hopLimitOption_iff, same]

/-- How a hop limit that is set for several versions shows in the settings of one of them. -/
inductive SetTo (value : Nat) : Except Failure Unit → List (Nat × Except Errno Unit) → Prop
  | accepted (answer) : SetTo value answer [(value, .ok ())]
  | refused (f e) : SetTo value (.error f) [(value, .error e)]
  | spared (f) : SetTo value (.error f) []

theorem settings_settled {versions : List IpVersion} {value : Nat} {answer : Except Failure Unit}
    (h : Settled (fun version => .setOption (.hopLimit version) value) versions answer new)
    (distinct : versions.Nodup) (version : IpVersion) :
    (version ∉ versions → settings version new = []) ∧
      (version ∈ versions → SetTo value answer (settings version new)) := by
  induction h with
  | done => simp [settings]
  | refused i rest e f =>
    rw [settings_singleton]
    by_cases same : i = version
    · rw [if_pos same]
      constructor
      · intro other
        exact absurd (same ▸ List.mem_cons_self) other
      · intro _
        exact .refused f e
    · rw [if_neg same]
      exact ⟨fun _ => rfl, fun _ => .spared f⟩
  | @granted rest answer new i later ih =>
    obtain ⟨first, distinct⟩ := List.nodup_cons.mp distinct
    obtain ⟨absent, present⟩ := ih distinct
    rw [settings_append, settings_singleton]
    by_cases same : i = version
    · subst same
      rw [if_pos rfl, absent first, List.nil_append]
      constructor
      · intro other
        exact absurd List.mem_cons_self other
      · intro _
        exact .accepted answer
    · rw [if_neg same, List.append_nil]
      constructor
      · intro other
        exact absent fun m => other (List.mem_cons_of_mem i m)
      · intro m
        rcases List.mem_cons.mp m with equal | m
        · exact absurd equal.symm same
        · exact present m

theorem nodup_hopLimits (family : Family) : family.hopLimits.Nodup := by
  rcases family with _ | (_ | _) <;> decide

/-- Nothing but the setting of a hop limit sets one. -/
theorem settings_spells {target : IpAddress} {x : Exchange} (h : Spells target x new)
    (level : x.setsTtl = false) (version : IpVersion) : settings version new = [] := by
  cases h with
  | setTtl _ => cases level
  | send mirrored => cases mirrored <;> rfl
  | receiveReply _ only => exact settings_eq_nil (only.all fun _ => rfl)
  | receiveNotification _ only => exact settings_eq_nil (only.all fun _ => rfl)
  | @timedNotification new _ reading only =>
    have clock : settings version (.now reading :: new) = settings version new := rfl
    rw [clock]
    exact settings_eq_nil (only.all fun _ => rfl)
  | _ => rfl

end Settings

section Spelled
variable {target : IpAddress} {start sys : List SystemExchange} {past : List Exchange} {n : Nat}
variable {version : IpVersion}

theorem Spelled.settings (h : Spelled target start past sys) (climb : Climb n past)
    (fresh : HopTrace.settings version start = []) (own : Concerns target version) :
    HopTrace.settings version sys = rungs n := by
  induction h generalizing n with
  | start =>
    cases climb
    exact fresh
  | @cons past sys x new _ spells ih =>
    rw [settings_append]
    cases climb with
    | higher ttl climb next =>
      rw [ih climb, rungs_succ]
      cases spells with
      | setTtl settled =>
        have set := (settings_settled settled (nodup_hopLimits _) version).2 (concerns_iff.mp own)
        generalize HopTrace.settings version new = found at set
        cases set with
        | accepted =>
          rw [next]
          rfl
    | level _ climb carries =>
      have level := Exchange.setsTtl_of_ttl? carries
      rw [ih climb, settings_spells spells level, List.nil_append]
    | silent _ climb level _ => rw [ih climb, settings_spells spells level, List.nil_append]

/-- No hop limit is set for a version that does not concern the target. -/
theorem Spelled.settings_other (h : Spelled target start past sys)
    (fresh : HopTrace.settings version start = []) (other : ¬Concerns target version) :
    HopTrace.settings version sys = [] := by
  induction h with
  | start => exact fresh
  | @cons past sys x new _ spells ih =>
    rw [settings_append, ih, List.append_nil]
    cases x with
    | setTtl ttl answer =>
      cases spells with
      | setTtl settled =>
        have absent := (settings_settled settled (nodup_hopLimits _) version).1
        exact absent fun m => other (concerns_iff.mpr m)
    | _ => exact settings_spells spells rfl version

theorem Spelled.inForce (h : Spelled target start past sys) (climb : Climb n past)
    (positive : 0 < n) (fresh : HopTrace.settings version start = [])
    (own : Concerns target version) : hopLimit? version sys = some n := by
  have climbed := h.settings climb fresh own
  cases n with
  | zero => exact absurd positive (Nat.lt_irrefl 0)
  | succ n => exact hopLimit?_of_rungs climbed

/-- The settings that a climb leaves: 1, 2, 3 and so on, the last possibly refused. -/
structure Consecutive (n : Nat) (settings : List (Nat × Except Errno Unit)) : Prop where
  values : settings.map Prod.fst = (List.range' 1 n).reverse
  granted : ∀ s ∈ settings.tail, s.2 = .ok ()

theorem consecutive_rungs (n : Nat) : Consecutive n (rungs n) where
  values := map_fst_rungs n
  granted _ m := snd_of_mem_rungs (List.mem_of_mem_tail m)

theorem consecutive_cons_rungs (n : Nat) (answer : Except Errno Unit) :
    Consecutive (n + 1) ((n + 1, answer) :: rungs n) where
  values := by
    have values := map_fst_rungs (n + 1)
    rw [rungs_succ] at values
    exact values
  granted _ m := snd_of_mem_rungs m

theorem Spelled.consecutive (h : Spelled target start past sys) (climbed : Climbed n past)
    (fresh : HopTrace.settings version start = []) (own : Concerns target version) :
    ∃ m, m ≤ n ∧ Consecutive m (HopTrace.settings version sys) := by
  cases climbed with
  | stood climb =>
    refine ⟨n, Nat.le_refl n, ?_⟩
    rw [h.settings climb fresh own]
    exact consecutive_rungs n
  | @slipped n past ttl e climb next =>
    cases h with
    | @cons past sys x new before spells =>
      rw [settings_append, before.settings climb fresh own]
      cases spells with
      | setTtl settled =>
        have set := (settings_settled settled (nodup_hopLimits _) version).2 (concerns_iff.mp own)
        generalize HopTrace.settings version new = found at set
        rw [next] at set
        cases set with
        | accepted => exact ⟨n + 1, Nat.le_refl _, consecutive_cons_rungs n _⟩
        | refused f cause => exact ⟨n + 1, Nat.le_refl _, consecutive_cons_rungs n _⟩
        | spared f => exact ⟨n, Nat.le_succ n, consecutive_rungs n⟩

end Spelled

end HopTrace
