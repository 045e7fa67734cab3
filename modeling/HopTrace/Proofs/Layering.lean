import HopTrace.Proofs.DestinationSyntax
import HopTrace.Proofs.ProgramName

/-!
# Where settings come from

A setting is what the command line gives, else what the configuration file gives, else the
default. What the command line gives is therefore the same whatever the file says. The port may
stand in the destination, which counts as given, though the option for it counts first. The two
options for the display of addresses make one choice together, and a switch gives nothing unless
it is on.

The name of the program counts as an option. Together they ask for at most one version of the
protocol, so that none has to be preferred to another.

A file that gives nothing is as good as none, however many sections it has.
-/
namespace HopTrace

open CommandLine (Arguments)

/-- The value that two layers and a default give a setting. -/
inductive Chosen {α : Type} (given configured : Option α) (default : α) : α → Prop
  | given {a : α} : given = some a → Chosen given configured default a
  | configured {a : α} : given = none → configured = some a → Chosen given configured default a
  | default : given = none → configured = none → Chosen given configured default default

section Layered
variable {α : Type} {given configured configured' : Option α} {default a a' : α}

theorem chosen_layered : Chosen given configured default (layered given configured default) := by
  cases given with
  | some a => exact .given rfl
  | none =>
    cases configured with
    | some a => exact .configured rfl rfl
    | none => exact .default rfl rfl

/-- What is given does not depend on the layers below. -/
theorem Chosen.eq_of_given (h : Chosen given configured default a)
    (h' : Chosen given configured' default a') (some : given.isSome = true) : a = a' := by
  obtain ⟨b, rfl⟩ := Option.isSome_iff_exists.mp some
  cases h with
  | given same =>
    cases h' with
    | given same' => exact Option.some.inj (same.symm.trans same')
    | configured no => cases no
    | default no => cases no
  | configured no => cases no
  | default no => cases no

/-- A layer may repeat the default. -/
theorem layered_default (given : Option α) (default : α) :
    layered given (some default) default = layered given none default := by
  cases given <;> rfl

/-- A section that is absent is replaced by one that gives the default or nothing, which comes to
the same. -/
theorem layered_getD {σ : Type} {read : σ → Option α} {base : σ}
    (same : (read base).getD default = default) (part : Option σ) :
    layered given (read (part.getD base)) default = layered given (part.bind read) default := by
  cases part with
  | some entries => rfl
  | none =>
    cases given with
    | some a => rfl
    | none => exact same

/-- Without a default nothing is chosen. -/
theorem orElse_eq_layered (given configured : Option α) :
    (given.orElse fun _ => configured) = layered (given.map some) (configured.map some) none := by
  cases given <;> cases configured <;> rfl

end Layered

/-- A switch that is off gives nothing. -/
theorem switch_eq_layered (on : Bool) (configured : Option Bool) (default : Bool) :
    (if on then true else configured.getD default) =
      layered (if on then some true else none) configured default := by
  cases on <;> rfl

/-- What may be given for each setting but the target. -/
structure Layer where
  port : Option UInt16 := none
  preference : Option IpPreference := none
  packetLength : Option UInt32 := none
  maxHops : Option UInt8 := none
  mode : Option AddressMode := none
  verbose : Option Bool := none
  logFormat : Option LogFormat := none
  logFilter : Option String := none
  logSpanEvents : Option LogSpanEvents := none
  deriving DecidableEq, Repr

/-- No preference stands for two versions at once. -/
def preferenceOf : (ipv4 ipv6 : Bool) → Option IpPreference
  | true, false => some .ipv4Only
  | false, true => some .ipv6Only
  | _, _ => none

def modeOf : (numeric both : Bool) → Option AddressMode
  | false, false => none
  | true, false => some .ip
  | false, true => some .hostIp
  | true, true => some .ipHost

/-- What the command line gives, in its options and in its destination. -/
def CommandLine.Arguments.layer (a : Arguments) (d : Destination) : Layer where
  port := a.port.or d.port
  preference := preferenceOf a.ipv4 a.ipv6
  packetLength := a.packetLength
  maxHops := a.maxHops
  mode := modeOf a.numeric a.both
  verbose := if a.verbose then some true else none
  logFormat := a.logFormat
  logFilter := a.logFilter
  logSpanEvents := a.logSpanEvents

/-- What a file gives, in the entries of the sections that are present. -/
def ConfigFile.layer (file : ConfigFile) : Layer where
  port := file.trace.bind TraceSection.port
  preference := file.trace.bind TraceSection.preference
  packetLength := file.trace.bind TraceSection.packetLength
  maxHops := file.trace.bind TraceSection.maxHops
  mode := file.dns.bind DnsSection.mode
  verbose := file.log.bind LogSection.verbose
  logFormat := file.log.bind LogSection.format
  logFilter := file.log.bind LogSection.filter
  logSpanEvents := file.log.bind LogSection.spanEvents

namespace Settings

/-- Each setting comes from the first of two layers that gives it, or is the default. -/
structure Follows (given configured : Layer) (s : Settings) : Prop where
  port : Chosen given.port configured.port 44444 s.port
  preference : Chosen given.preference configured.preference .system s.preference
  packetLength : Chosen (given.packetLength.map some) (configured.packetLength.map some) none
    s.packetLength
  maxHops : Chosen given.maxHops configured.maxHops 30 s.maxHops
  mode : Chosen given.mode configured.mode .host s.mode
  verbose : Chosen given.verbose configured.verbose false s.verbose
  logFormat : Chosen given.logFormat configured.logFormat .pretty s.logFormat
  logFilter : Chosen given.logFilter configured.logFilter "tracepath=debug" s.logFilter
  logSpanEvents : Chosen given.logSpanEvents configured.logSpanEvents .off s.logSpanEvents

/-- Two settings are the same in everything that a layer gives. -/
structure AgreeOn (given : Layer) (s s' : Settings) : Prop where
  port : given.port.isSome → s.port = s'.port
  preference : given.preference.isSome → s.preference = s'.preference
  packetLength : given.packetLength.isSome → s.packetLength = s'.packetLength
  maxHops : given.maxHops.isSome → s.maxHops = s'.maxHops
  mode : given.mode.isSome → s.mode = s'.mode
  verbose : given.verbose.isSome → s.verbose = s'.verbose
  logFormat : given.logFormat.isSome → s.logFormat = s'.logFormat
  logFilter : given.logFilter.isSome → s.logFilter = s'.logFilter
  logSpanEvents : given.logSpanEvents.isSome → s.logSpanEvents = s'.logSpanEvents

theorem Follows.agreeOn {given configured configured' : Layer} {s s' : Settings}
    (h : s.Follows given configured) (h' : s'.Follows given configured') : AgreeOn given s s' where
  port := h.port.eq_of_given h'.port
  preference := h.preference.eq_of_given h'.preference
  packetLength some := h.packetLength.eq_of_given h'.packetLength (by rwa [Option.isSome_map])
  maxHops := h.maxHops.eq_of_given h'.maxHops
  mode := h.mode.eq_of_given h'.mode
  verbose := h.verbose.eq_of_given h'.verbose
  logFormat := h.logFormat.eq_of_given h'.logFormat
  logFilter := h.logFilter.eq_of_given h'.logFilter
  logSpanEvents := h.logSpanEvents.eq_of_given h'.logSpanEvents

/-- The settings of two layers. -/
def combined (given configured : Layer) (target : String) : Settings where
  target
  port := layered given.port configured.port 44444
  preference := layered given.preference configured.preference .system
  packetLength := layered (given.packetLength.map some) (configured.packetLength.map some) none
  maxHops := layered given.maxHops configured.maxHops 30
  mode := layered given.mode configured.mode .host
  verbose := layered given.verbose configured.verbose false
  logFormat := layered given.logFormat configured.logFormat .pretty
  logFilter := layered given.logFilter configured.logFilter "tracepath=debug"
  logSpanEvents := layered given.logSpanEvents configured.logSpanEvents .off

theorem follows_combined (given configured : Layer) (target : String) :
    (combined given configured target).Follows given configured where
  port := chosen_layered
  preference := chosen_layered
  packetLength := chosen_layered
  maxHops := chosen_layered
  mode := chosen_layered
  verbose := chosen_layered
  logFormat := chosen_layered
  logFilter := chosen_layered
  logSpanEvents := chosen_layered

end Settings

namespace CommandLine.Arguments

theorem mode_eq (a : Arguments) : a.mode = modeOf a.numeric a.both := by
  unfold mode
  cases a.numeric <;> cases a.both <;> rfl

/-- One version is never preferred to another that is asked for. -/
theorem preference_eq {a : Arguments} (one : ¬(a.ipv4 = true ∧ a.ipv6 = true)) :
    a.preference = preferenceOf a.ipv4 a.ipv6 := by
  unfold preference
  cases ipv4 : a.ipv4 <;> cases ipv6 : a.ipv6 <;> first | rfl | exact absurd ⟨ipv4, ipv6⟩ one

end CommandLine.Arguments

namespace Settings
variable {a : Arguments} {file : ConfigFile} {d : Destination} {s : Settings}

/-- The preference is stated as it is read, since both versions may be asked for. -/
theorem ofLayers_eq (split : a.splitDestination = .ok d) : Settings.ofLayers a file =
    .ok (combined { a.layer d with preference := a.preference } file.layer d.host) := by
  unfold Settings.ofLayers
  rw [split]
  refine congrArg Except.ok (Settings.mk.injEq .. ▸ ⟨rfl, ?_, ?_, ?_, ?_, ?_, ?_, ?_, ?_, ?_⟩)
  · rw [Arguments.layer, Option.or_eq_orElse]
    exact layered_getD rfl file.trace
  · exact layered_getD rfl file.trace
  · rw [orElse_eq_layered]
    obtain ⟨trace, -, -⟩ := file
    cases trace <;> rfl
  · exact layered_getD rfl file.trace
  · rw [Arguments.mode_eq]
    exact layered_getD rfl file.dns
  · rw [switch_eq_layered]
    exact layered_getD rfl file.log
  · exact layered_getD rfl file.log
  · exact layered_getD rfl file.log
  · exact layered_getD rfl file.log

theorem combined_default (given : Layer) (target : String) :
    combined given ConfigFile.default.layer target = combined given {} target := by
  unfold combined
  rw [Settings.mk.injEq]
  exact ⟨rfl, layered_default .., layered_default .., rfl, layered_default ..,
    layered_default .., layered_default .., layered_default .., layered_default ..,
    layered_default ..⟩

/-- A file that gives nothing makes the settings that hold without a file. -/
theorem ofLayers_silent (silent : file.layer = {}) :
    Settings.ofLayers a file = Settings.ofLayers a ConfigFile.default := by
  cases split : a.splitDestination with
  | error e =>
    rw [ofLayers_eq_error_iff.mpr split, ofLayers_eq_error_iff.mpr split]
  | ok d => rw [ofLayers_eq split, ofLayers_eq split, silent, combined_default]

/-- A document of empty sections is such a file. -/
example : ConfigFile.parse "[trace]\n[dns]\n[log]\n" = .ok ⟨some {}, some {}, some {}⟩ := by cbv

theorem exists_splitDestination (settled : Settings.ofLayers a file = .ok s) :
    ∃ text d, a.destination = some text ∧ d.WrittenAs text ∧ a.splitDestination = .ok d := by
  cases split : a.splitDestination with
  | error e =>
    rw [ofLayers_eq_error_iff.mpr split] at settled
    cases settled
  | ok d =>
    obtain ⟨text, given, written⟩ := splitDestination_eq_ok_iff.mp split
    exact ⟨text, d, given, written, rfl⟩

theorem ofLayers_follows (one : ¬(a.ipv4 = true ∧ a.ipv6 = true))
    (split : a.splitDestination = .ok d) (file : ConfigFile) :
    ∃ s, Settings.ofLayers a file = .ok s ∧ s.target = d.host ∧
      s.Follows (a.layer d) file.layer := by
  refine ⟨_, ofLayers_eq split, rfl, ?_⟩
  rw [Arguments.preference_eq one]
  exact follows_combined (a.layer d) file.layer d.host

end Settings

/-- The program's name and the options together ask for at most one version, or the command line
is refused. If the settings can be made, they follow the command line, the file and the defaults,
and what the command line gives is the same with any other file. Without a file, with one that is
empty and with one whose sections are all empty, the outcome is the same. -/
theorem settings_layers (a : Arguments) (program : Option (List UInt8)) :
    ((∃ e, a.withProgram program = .error e) ↔
      a.AsksFor program .v4 ∧ a.AsksFor program .v6) ∧
    (∀ e, a.withProgram program = .error e → e = .familyConflict ∧ e.exitCode = 2) ∧
    (∀ b, a.withProgram program = .ok b →
      a.Completes program b ∧ ¬(b.ipv4 = true ∧ b.ipv6 = true) ∧
      ∀ file s, Settings.ofLayers b file = .ok s →
        ∃ text d, b.destination = some text ∧ d.WrittenAs text ∧ s.target = d.host ∧
          s.Follows (b.layer d) file.layer ∧
          ∀ file', ∃ s', Settings.ofLayers b file' = .ok s' ∧ s'.target = s.target ∧
            s.AgreeOn (b.layer d) s') ∧
    Settings.ofLayers a {} = Settings.ofLayers a ConfigFile.default ∧
    Settings.ofLayers a ⟨some {}, some {}, some {}⟩ = Settings.ofLayers a ConfigFile.default := by
  refine ⟨?_, ?_, ?_, Settings.ofLayers_silent rfl, Settings.ofLayers_silent rfl⟩
  · simp only [Arguments.withProgram_eq_error_iff, exists_and_left, exists_eq, and_true]
  · intro e refused
    obtain ⟨-, rfl⟩ := Arguments.withProgram_eq_error_iff.mp refused
    exact ⟨rfl, rfl⟩
  · intro b completed
    have one := Arguments.Completes.not_both completed
    refine ⟨.of_withProgram completed, one, ?_⟩
    intro file s settled
    obtain ⟨text, d, given, written, split⟩ := Settings.exists_splitDestination settled
    obtain ⟨s₁, settled₁, target, follows⟩ := Settings.ofLayers_follows one split file
    obtain rfl : s = s₁ := Except.ok.inj (settled.symm.trans settled₁)
    refine ⟨text, d, given, written, target, follows, ?_⟩
    intro file'
    obtain ⟨s', settled', target', follows'⟩ := Settings.ofLayers_follows one split file'
    exact ⟨s', settled', target'.trans target.symm, follows.agreeOn follows'⟩

namespace Named

def arguments : Arguments := { destination := some "h/80" }

def completed : Arguments := { arguments with ipv6 := true }

def file : ConfigFile :=
  { trace := some { preference := some .ipv4Only, maxHops := some 9, port := some 1 } }

def settings : Settings :=
  ⟨"h", 80, .ipv6Only, none, 9, .host, false, .pretty, "tracepath=debug", .off⟩

end Named

open Named in
/-- The name of the program counts more than what the file says. -/
theorem settings_layers_named :
    arguments.withProgram (some (Arguments.pathOf "/opt/tracepath6/.")) = .ok completed ∧
      Settings.ofLayers completed file = .ok settings ∧
      ∃ d s', Settings.ofLayers completed {} = .ok s' ∧
        settings.Follows (completed.layer d) file.layer ∧
        settings.AgreeOn (completed.layer d) s' := by
  obtain ⟨-, -, follows, -⟩ :=
    settings_layers arguments (some (Arguments.pathOf "/opt/tracepath6/."))
  obtain ⟨-, -, layers⟩ := follows completed rfl
  obtain ⟨-, d, -, -, -, chosen, others⟩ := layers file settings rfl
  obtain ⟨s', settled, -, agree⟩ := others {}
  exact ⟨rfl, rfl, d, s', settled, chosen, agree⟩

end HopTrace
