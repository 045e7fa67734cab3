import HopTrace.Proofs.Headroom
import HopTrace.Proofs.Runs
import HopTrace.Simulation.Kernel

/-!
# Which address is traced

The host answers the name of a target with addresses of both versions in an order of its own.
The preference for one version takes its addresses out of the list, in their order and as often
as they are there, and leaves those of the other version. The first one that is taken is traced.
A mapped address is one of version 6, so a trace with a preference for version 6 may still walk
a path of version 4.

`Selects` has one constructor for each thing that may come of a name.
-/
namespace HopTrace

/-- The addresses that a preference allows. -/
inductive IpPreference.Admits : IpPreference → IpAddress → Prop
  | ipv4 (ip : Ipv4) : Admits .ipv4Only (.v4 ip)
  | ipv6 (ip : Ipv6) : Admits .ipv6Only (.v6 ip)
  | any (a : IpAddress) : Admits .system a

/-- A list of addresses and, each in its order, those of version 4 and those of version 6. -/
inductive SplitByVersion : List IpAddress → List IpAddress → List IpAddress → Prop
  | nil : SplitByVersion [] [] []
  | ipv4 {all v4s v6s} (ip : Ipv4) : SplitByVersion all v4s v6s →
      SplitByVersion (.v4 ip :: all) (.v4 ip :: v4s) v6s
  | ipv6 {all v4s v6s} (ip : Ipv6) : SplitByVersion all v4s v6s →
      SplitByVersion (.v6 ip :: all) v4s (.v6 ip :: v6s)

namespace IpPreference
variable {p : IpPreference} {a : IpAddress} {all : List IpAddress}

theorem admits_eq_true_iff : p.admits a = true ↔ p.Admits a := by
  constructor
  · intro admitted
    cases p with
    | system => exact .any a
    | ipv4Only =>
      cases a with
      | v4 ip => exact .ipv4 ip
      | v6 ip => cases admitted
    | ipv6Only =>
      cases a with
      | v4 ip => cases admitted
      | v6 ip => exact .ipv6 ip
  · intro admitted
    cases admitted <;> rfl

theorem splitByVersion_keep (all : List IpAddress) :
    SplitByVersion all (keep .ipv4Only all) (keep .ipv6Only all) := by
  induction all with
  | nil => exact .nil
  | cons a rest ih =>
    cases a with
    | v4 ip => exact .ipv4 ip ih
    | v6 ip => exact .ipv6 ip ih

theorem keep_eq_nil_iff : p.keep all = [] ↔ ∀ a ∈ all, ¬p.Admits a := by
  unfold keep
  rw [List.filter_eq_nil_iff]
  simp only [admits_eq_true_iff]

/-- The first address that is kept is the first one that is allowed. -/
theorem keep_eq_cons {rest : List IpAddress} (kept : p.keep all = a :: rest) :
    ∃ before after, all = before ++ a :: after ∧ (∀ b ∈ before, ¬p.Admits b) ∧ p.Admits a := by
  obtain ⟨before, after, split, others, admitted, -⟩ := List.filter_eq_cons_iff.mp kept
  simp only [admits_eq_true_iff] at others admitted
  exact ⟨before, after, split, others, admitted⟩

theorem keep_append_cons {before after : List IpAddress} (others : ∀ b ∈ before, ¬p.Admits b)
    (admitted : p.Admits a) : p.keep (before ++ a :: after) = a :: p.keep after := by
  have none : p.keep before = [] := keep_eq_nil_iff.mpr others
  unfold keep at none ⊢
  rw [List.filter_append, none, List.nil_append,
    List.filter_cons_of_pos (admits_eq_true_iff.mpr admitted)]

theorem count_keep (admitted : p.Admits a) : (p.keep all).count a = all.count a :=
  List.count_filter (admits_eq_true_iff.mpr admitted)

theorem not_mem_keep (refused : ¬p.Admits a) : a ∉ p.keep all := fun kept =>
  refused (admits_eq_true_iff.mp (mem_keep.mp kept).2)

end IpPreference

namespace SplitByVersion
variable {all v4s v6s : List IpAddress}

/-- No address is lost and none is doubled. -/
theorem perm (h : SplitByVersion all v4s v6s) : (v4s ++ v6s).Perm all := by
  induction h with
  | nil => exact .nil
  | ipv4 ip _ ih => exact ih.cons _
  | ipv6 ip _ ih => exact List.perm_middle.trans (ih.cons _)

end SplitByVersion

variable {σ : Type}

/-- What comes of the name of a target. No host is asked about a name with a NUL character. -/
inductive Host.Selects (h : Host σ) (s : Settings) (state : σ) :
    EStateM.Result RunFailure σ IpAddress → Prop
  | unasked : Char.ofNat 0 ∈ s.target.toList →
      h.Selects s state (.error (.lookup s.target .nulCharacter) state)
  | refused {code state'} : Char.ofNat 0 ∉ s.target.toList →
      h.names.forward s.target state = .error code state' →
      h.Selects s state (.error (.lookup s.target (.refused code)) state')
  | unusable {all state'} : Char.ofNat 0 ∉ s.target.toList →
      h.names.forward s.target state = .ok all state' →
      (∀ a ∈ all, ¬s.preference.Admits a) →
      h.Selects s state (.error (.noAddress s.target s.preference) state')
  | selected {before a after state'} : Char.ofNat 0 ∉ s.target.toList →
      h.names.forward s.target state = .ok (before ++ a :: after) state' →
      (∀ b ∈ before, ¬s.preference.Admits b) → s.preference.Admits a →
      h.Selects s state (.ok a state')

namespace Host
variable (h : Host σ) (s : Settings) (state : σ)

/-- A target is resolved by what the host answers about its name. -/
theorem resolveTarget_eq : h.resolveTarget s state =
    if Char.ofNat 0 ∈ s.target.toList then .error (.lookup s.target .nulCharacter) state
    else
      match h.names.forward s.target state with
      | .error code state' => .error (.lookup s.target (.refused code)) state'
      | .ok all state' =>
        match s.preference.keep all with
        | [] => .error (.noAddress s.target s.preference) state'
        | a :: _ => .ok a state' := by
  unfold resolveTarget NameService.lookup
  simp only [List.contains_iff_mem]
  by_cases nul : Char.ofNat 0 ∈ s.target.toList
  · simp only [if_pos nul]
  · simp only [if_neg nul]
    cases h.names.forward s.target state with
    | error code state' => rfl
    | ok all state' =>
      dsimp only
      cases s.preference.keep all <;> rfl

theorem selects_iff {result : EStateM.Result RunFailure σ IpAddress} :
    h.Selects s state result ↔ h.resolveTarget s state = result := by
  rw [resolveTarget_eq]
  constructor
  · intro selects
    cases selects with
    | unasked nul => rw [if_pos nul]
    | refused plain answered => rw [if_neg plain, answered]
    | unusable plain answered none =>
      rw [if_neg plain, answered]
      simp only [IpPreference.keep_eq_nil_iff.mpr none]
    | selected plain answered others admitted =>
      rw [if_neg plain, answered]
      simp only [IpPreference.keep_append_cons others admitted]
  · rintro rfl
    split
    · next nul => exact .unasked nul
    · next plain =>
      cases answered : h.names.forward s.target state with
      | error code state' => exact .refused plain answered
      | ok all state' =>
        dsimp only
        cases kept : s.preference.keep all with
        | nil => exact .unusable plain answered (IpPreference.keep_eq_nil_iff.mp kept)
        | cons a rest =>
          obtain ⟨before, after, rfl, others, admitted⟩ := IpPreference.keep_eq_cons kept
          exact .selected plain answered others admitted

/-- A target is resolved unless its name cannot be looked up or has no address that is allowed. -/
theorem exists_resolveTarget_iff : (∃ a state', h.resolveTarget s state = .ok a state') ↔
    Char.ofNat 0 ∉ s.target.toList ∧ ∃ all state', h.names.forward s.target state = .ok all state' ∧
      ∃ a ∈ all, s.preference.Admits a := by
  constructor
  · rintro ⟨a, state', resolved⟩
    cases (h.selects_iff s state).mpr resolved with
    | selected plain answered _ admitted =>
      exact ⟨plain, _, _, answered, a, by simp, admitted⟩
  · rintro ⟨plain, all, state', answered, a, m, admitted⟩
    have kept : a ∈ s.preference.keep all :=
      IpPreference.mem_keep.mpr ⟨m, IpPreference.admits_eq_true_iff.mpr admitted⟩
    obtain ⟨first, rest, split⟩ := List.exists_cons_of_ne_nil (List.ne_nil_of_mem kept)
    refine ⟨first, state', ?_⟩
    rw [resolveTarget_eq, if_neg plain, answered]
    simp only [split]

theorem selected_admits {a : IpAddress} {state' : σ}
    (resolved : h.resolveTarget s state = .ok a state') : s.preference.Admits a := by
  cases (h.selects_iff s state).mpr resolved with
  | selected _ _ _ admitted => exact admitted

end Host

/-- The target of a run that comes to trace one is an address that its host has given and its
preference allows. -/
theorem RunExec.started {h : Host σ} {s : Settings} {r : Running σ} {tracer : Tracer}
    {events : List Event} {result : EStateM.Result RunFailure (Running σ) Unit}
    (ex : RunExec h s r (some tracer) events result) :
    (∃ state', h.resolveTarget s r.host = .ok tracer.target state') ∧
      tracer.config.family = Family.ofTarget tracer.target := by
  have traced {target : IpAddress} {r₁ : Running σ}
      (resolved : Running.onHost (h.resolveTarget s) r = .ok target r₁)
      (built : (s.request target).build = .ok tracer) :
      (∃ state', h.resolveTarget s r.host = .ok tracer.target state') ∧
        tracer.config.family = Family.ofTarget tracer.target := by
    obtain ⟨_, -, same, config⟩ := TraceRequest.build_eq_ok built
    have same : tracer.target = target := same
    rw [same, config]
    exact ⟨⟨_, Running.onHost_eq_ok resolved⟩, rfl⟩
  cases ex with
  | unconnected resolved built _ => exact traced resolved built
  | failed resolved built _ _ => exact traced resolved built
  | finished resolved built _ _ => exact traced resolved built

/-- The preference selects the version, and with it the family that a target is traced in. -/
theorem IpPreference.Admits.family {p : IpPreference} {a : IpAddress} (h : p.Admits a) :
    (p = .ipv4Only → Family.ofTarget a = .v4) ∧ (p = .ipv6Only → Family.ofTarget a ≠ .v4) := by
  cases h with
  | ipv4 ip => exact ⟨fun _ => rfl, nofun⟩
  | ipv6 ip => exact ⟨nofun, fun _ => nofun⟩
  | any a => exact ⟨nofun, nofun⟩

/-- A target is resolved to the first of its addresses that the preference allows, in the order
of the host, and to nothing exactly if no address is allowed or the lookup fails. The preferences
for one version split the addresses of both: each keeps its own in their order, and together they
keep each as often as it was there. So the family of a tracer that is started is the one of
version 4 under the preference for it, and never under the preference for version 6. -/
theorem target_selected {σ : Type} (h : Host σ) (s : Settings) :
    (∀ state result, h.Selects s state result ↔ h.resolveTarget s state = result) ∧
    (∀ state, (∃ a state', h.resolveTarget s state = .ok a state') ↔
      Char.ofNat 0 ∉ s.target.toList ∧
        ∃ all state', h.names.forward s.target state = .ok all state' ∧
          ∃ a ∈ all, s.preference.Admits a) ∧
    (∀ all : List IpAddress,
      SplitByVersion all (IpPreference.keep .ipv4Only all) (IpPreference.keep .ipv6Only all) ∧
      IpPreference.keep .system all = all ∧
      (∀ p : IpPreference, (p.keep all).Sublist all ∧
        (∀ a, p.Admits a → (p.keep all).count a = all.count a) ∧
        ∀ a, ¬p.Admits a → a ∉ p.keep all) ∧
      (IpPreference.keep .ipv4Only all ++ IpPreference.keep .ipv6Only all).Perm all) ∧
    ∀ (r : Running σ) tracer events result, RunExec h s r (some tracer) events result →
      (∃ state', h.resolveTarget s r.host = .ok tracer.target state') ∧
      (s.preference = .ipv4Only → tracer.config.family = .v4) ∧
      (s.preference = .ipv6Only → tracer.config.family ≠ .v4) := by
  refine ⟨fun state result => h.selects_iff s state, h.exists_resolveTarget_iff s, ?_, ?_⟩
  · intro all
    have split := IpPreference.splitByVersion_keep all
    refine ⟨split, IpPreference.keep_system all, ?_, split.perm⟩
    intro p
    exact ⟨List.filter_sublist, fun a => IpPreference.count_keep,
      fun a => IpPreference.not_mem_keep⟩
  · intro r tracer events result ex
    obtain ⟨⟨state', resolved⟩, family⟩ := ex.started
    have admits := h.selected_admits s r.host resolved
    rw [family]
    exact ⟨⟨state', resolved⟩, admits.family⟩

namespace MixedAddresses
open Simulation

def near : Ipv4 := .ofOctets 192 0 2 1

def far : Ipv4 := .ofOctets 192 0 2 2

/-- A name with addresses of both versions, on a host without sockets. -/
def host : Host ScriptedKernel where
  kernel := scriptedKernel
  names :=
    { forward := fun _ => .ok [.v6 far.mapped, .v4 near, .v4 far, .v4 near]
      reverse := fun _ s => (none, s) }
  errorBacklog_reverse_le _ _ := Nat.le_refl _

def kernel : ScriptedKernel := .start ⟨1000000000⟩ [] (some Errno.accessDenied) fun _ => none

def setup (preference : IpPreference) : Settings where
  target := "target"
  port := 0
  preference
  packetLength := none
  maxHops := 30
  mode := .host
  verbose := false
  logFormat := .pretty
  logFilter := ""
  logSpanEvents := .off

/-- The tracer for an address. -/
def tracer (target : IpAddress) : Tracer where
  target
  config :=
    { SessionConfig.default with
      family := Family.ofTarget target
      mtu := (Family.ofTarget target).defaultMtu
      maxTtl := 30 }

theorem started_ipv4Only : ∃ events result, RunExec host (setup .ipv4Only)
    (Running.start kernel) (some (tracer (.v4 near))) events result :=
  ⟨_, _, .unconnected rfl rfl rfl⟩

theorem started_ipv6Only : ∃ events result, RunExec host (setup .ipv6Only)
    (Running.start kernel) (some (tracer (.v6 far.mapped))) events result :=
  ⟨_, _, .unconnected rfl rfl rfl⟩

end MixedAddresses

open MixedAddresses in
/-- The mapped address stands first and is traced as one of version 6. The preference for
version 4 passes it over, and keeps the address that is there twice. -/
theorem target_selected_mixedAddresses :
    host.resolveTarget (setup .ipv4Only) kernel = .ok (.v4 near) kernel ∧
    host.resolveTarget (setup .ipv6Only) kernel = .ok (.v6 far.mapped) kernel ∧
    (IpPreference.keep .ipv4Only [.v6 far.mapped, .v4 near, .v4 far, .v4 near]).count (.v4 near) =
      2 ∧
    (tracer (.v4 near)).config.family = .v4 ∧
    (tracer (.v6 far.mapped)).config.family ≠ .v4 := by
  obtain ⟨selects, -, split, started⟩ := target_selected host (setup .ipv4Only)
  obtain ⟨selects', -, -, started'⟩ := target_selected host (setup .ipv6Only)
  obtain ⟨events, result, ex⟩ := started_ipv4Only
  obtain ⟨events', result', ex'⟩ := started_ipv6Only
  have passed : ∀ b ∈ [IpAddress.v6 far.mapped], ¬IpPreference.Admits .ipv4Only b := by
    rintro _ (_ | ⟨_, ⟨⟩⟩) ⟨⟩
  have plain : Char.ofNat 0 ∉ "target".toList := by decide
  have answered : host.names.forward "target" kernel =
      .ok ([.v6 far.mapped] ++ .v4 near :: [.v4 far, .v4 near]) kernel := rfl
  have answered' : host.names.forward "target" kernel =
      .ok ([] ++ .v6 far.mapped :: [.v4 near, .v4 far, .v4 near]) kernel := rfl
  obtain ⟨-, -, kept, -⟩ := split [.v6 far.mapped, .v4 near, .v4 far, .v4 near]
  refine ⟨(selects _ _).mp ?_, (selects' _ _).mp ?_, ?_,
    (started _ _ _ _ ex).2.1 rfl, (started' _ _ _ _ ex').2.2 rfl⟩
  · exact .selected plain answered passed (.ipv4 near)
  · exact .selected plain answered' (List.forall_mem_nil _) (.ipv6 far.mapped)
  · exact ((kept .ipv4Only).2.1 _ (.ipv4 near)).trans (by decide)

end HopTrace
