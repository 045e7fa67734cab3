import HopTrace.Config.Search

/-!
# Where the configuration is found

The search for a configuration looks at one place after another: a file of the current directory,
the base directories, a file below them. It ends at the first file that exists, also if that
file cannot be read, and at base directories that are unknown. A file that is named is the only
place there is.

`Finds` lists the places that are looked at and says what comes of it. What comes of it is
settled by these places: elsewhere there may be anything.
-/
namespace HopTrace

open CommandLine (Arguments)

/-- Where the search may look. -/
inductive ConfigPlace where
  | file (path : String)
  | directories
  deriving DecidableEq, Repr

/-- The files of the current directory, in the order in which they are tried. -/
def currentFiles : List String := ["tracepath.toml", ".tracepath.toml"]

/-- The files of the home directory, of the configuration directory and of the directory of the
program in it, in the order in which they are tried. -/
def BaseDirectories.files (d : BaseDirectories) : List String :=
  [joinPath d.home "tracepath.toml", joinPath d.home ".tracepath.toml",
   joinPath d.config "tracepath.toml", joinPath d.config ".tracepath.toml",
   joinPath (joinPath d.config "tracepath") "tracepath.toml",
   joinPath (joinPath d.config "tracepath") ".tracepath.toml"]

theorem candidatesIn_current : candidatesIn "" = currentFiles := by
  have here (name : String) : joinPath "" name = name := by simp [joinPath]
  simp only [candidatesIn, List.map_cons, List.map_nil, here, currentFiles]

/-- What reading the file under a path comes to. Only what can be opened is read, only what can be
read is text, and only the text is parsed. -/
inductive FileState.Reads (path : String) : FileState → Except ConfigFault ConfigFile → Prop
  | absent (cause) : Reads path (.absent cause) (.error (.cannotOpen path (.refused cause)))
  | closed (cause) : Reads path (.closed cause) (.error (.cannotOpen path (.refused cause)))
  | unreadable (cause) : Reads path (.unreadable cause) (.error (.cannotRead cause))
  | binary : Reads path .binary (.error .notText)
  | malformed {content e line column} : ConfigFile.parse content = .error e →
      Toml.lineColumn content.toList e.offset = (line, column) →
      Reads path (.text content) (.error (.document e.fault line column))
  | parsed {content file} : ConfigFile.parse content = .ok file →
      Reads path (.text content) (.ok file)

namespace ConfigSources

/-- There is nothing under the path. -/
def Lacks (sources : ConfigSources) (path : String) : Prop :=
  ∃ cause, sources.file path = .absent cause

/-- What the file under a path comes to. No file has a NUL character in its path. -/
inductive Holds (sources : ConfigSources) (path : String) : Except ConfigFault ConfigFile → Prop
  | nowhere : Char.ofNat 0 ∈ path.toList →
      Holds sources path (.error (.cannotOpen path .nulCharacter))
  | read {r} : Char.ofNat 0 ∉ path.toList → (sources.file path).Reads path r →
      Holds sources path r

/-- The first of the paths under which there is a file, behind those under which there is none. -/
structure IsFirst (sources : ConfigSources) (paths before : List String) (path : String) :
    Prop where
  tried : before ++ [path] <+: paths
  lacks : ∀ p ∈ before, sources.Lacks p
  present : ¬sources.Lacks path

/-- The places that are looked at for a configuration, in their order, and what comes of it. -/
inductive Finds (sources : ConfigSources) (a : Arguments) :
    List ConfigPlace → Except ConfigFault ConfigFile → Prop
  | named {path r} : a.configFile = some path → sources.Holds path r →
      Finds sources a [.file path] r
  | current {before path r} : a.configFile = none →
      sources.IsFirst currentFiles before path → sources.Holds path r →
      Finds sources a ((before ++ [path]).map .file) r
  | homeless : a.configFile = none → (∀ p ∈ currentFiles, sources.Lacks p) →
      sources.directories = none →
      Finds sources a (currentFiles.map .file ++ [.directories]) (.error .noHome)
  | below {d before path r} : a.configFile = none → (∀ p ∈ currentFiles, sources.Lacks p) →
      sources.directories = some d → sources.IsFirst d.files before path →
      sources.Holds path r →
      Finds sources a (currentFiles.map .file ++ .directories :: (before ++ [path]).map .file) r
  | nowhere {d} : a.configFile = none → (∀ p ∈ currentFiles, sources.Lacks p) →
      sources.directories = some d → (∀ p ∈ d.files, sources.Lacks p) →
      Finds sources a (currentFiles.map .file ++ .directories :: d.files.map .file)
        (.ok ConfigFile.default)

/-- What is at the place is the same in both. -/
def SameAt (sources sources' : ConfigSources) : ConfigPlace → Prop
  | .file path => sources'.file path = sources.file path
  | .directories => sources'.directories = sources.directories

variable {sources sources' : ConfigSources} {a : Arguments} {path : String}
variable {paths before : List String} {r : Except ConfigFault ConfigFile}

theorem lacks_iff : sources.Lacks path ↔ (sources.file path).isPresent = false := by
  unfold Lacks
  cases sources.file path <;> simp [FileState.isPresent]

theorem not_lacks_iff : ¬sources.Lacks path ↔ (sources.file path).isPresent = true := by
  rw [lacks_iff, Bool.not_eq_false]

theorem Lacks.sameAt (lacks : sources.Lacks path) (same : sources.SameAt sources' (.file path)) :
    sources'.Lacks path := by
  obtain ⟨cause, state⟩ := lacks
  exact ⟨cause, Eq.trans same state⟩

/-! ## One file -/

theorem holds_iff : sources.Holds path r ↔ sources.read path = r := by
  have parses (content : String) :
      FileState.Reads path (.text content) (ConfigFile.ofText content) := by
    unfold ConfigFile.ofText
    cases parsed : ConfigFile.parse content with
    | ok file => exact .parsed parsed
    | error e => exact .malformed parsed rfl
  unfold read
  constructor
  · intro h
    cases h with
    | nowhere nul => rw [if_pos (List.contains_iff_mem.mpr nul)]
    | read plain reads =>
      rw [if_neg (mt List.contains_iff_mem.mp plain)]
      generalize sources.file path = state at reads
      cases reads with
      | absent | closed | unreadable | binary => rfl
      | malformed parsed position => simp only [ConfigFile.ofText, parsed, position]
      | parsed parsed => simp only [ConfigFile.ofText, parsed]
  · rintro rfl
    split
    · next nul => exact .nowhere (List.contains_iff_mem.mp nul)
    · next plain =>
      refine .read (mt List.contains_iff_mem.mpr plain) ?_
      cases sources.file path with
      | absent cause => exact .absent cause
      | closed cause => exact .closed cause
      | unreadable cause => exact .unreadable cause
      | binary => exact .binary
      | text content => exact parses content

theorem Holds.sameAt (holds : sources.Holds path r)
    (same : sources.SameAt sources' (.file path)) : sources'.Holds path r := by
  have same : sources'.file path = sources.file path := same
  cases holds with
  | nowhere nul => exact .nowhere nul
  | read plain reads => exact .read plain (same ▸ reads)

/-- The message about a file that cannot be opened names it. -/
theorem Holds.names (holds : sources.Holds path r)
    (unopened : Char.ofNat 0 ∈ path.toList ∨ sources.Lacks path ∨
      ∃ cause, sources.file path = .closed cause) :
    ∃ e, r = .error e ∧ e.chain.head? = some ("config file not found: " ++ path) := by
  cases holds with
  | nowhere _ => exact ⟨_, rfl, rfl⟩
  | read plain reads =>
    rcases unopened with nul | ⟨cause, state⟩ | ⟨cause, state⟩
    · exact absurd nul plain
    · rw [state] at reads
      cases reads with
      | absent => exact ⟨_, rfl, rfl⟩
    · rw [state] at reads
      cases reads with
      | closed => exact ⟨_, rfl, rfl⟩

/-! ## The first of several files -/

theorem lacks_or_isFirst (sources : ConfigSources) (paths : List String) :
    (∀ p ∈ paths, sources.Lacks p) ∨ ∃ before path, sources.IsFirst paths before path := by
  induction paths with
  | nil => exact .inl nofun
  | cons first rest ih =>
    by_cases lacks : sources.Lacks first
    · rcases ih with none | ⟨before, path, h⟩
      · exact .inl (List.forall_mem_cons.mpr ⟨lacks, none⟩)
      · refine .inr ⟨first :: before, path, ?_, ?_, h.present⟩
        · exact List.cons_prefix_cons.mpr ⟨rfl, h.tried⟩
        · exact List.forall_mem_cons.mpr ⟨lacks, h.lacks⟩
    · exact .inr ⟨[], first, ⟨rest, rfl⟩, nofun, lacks⟩

theorem readFirst_of_lacks (none : ∀ p ∈ paths, sources.Lacks p) :
    sources.readFirst paths = .ok Option.none := by
  have missed : paths.find? (fun p => (sources.file p).isPresent) = Option.none := by
    rw [List.find?_eq_none]
    intro p m
    rw [lacks_iff.mp (none p m)]
    decide
  unfold readFirst
  rw [missed]

theorem IsFirst.readFirst (h : sources.IsFirst paths before path) :
    sources.readFirst paths = some <$> sources.read path := by
  obtain ⟨⟨after, listed⟩, lacks, present⟩ := h
  have found : paths.find? (fun p => (sources.file p).isPresent) = some path := by
    rw [List.find?_eq_some_iff_append]
    refine ⟨not_lacks_iff.mp present, before, after, ?_, ?_⟩
    · rw [← listed, List.append_assoc, List.singleton_append]
    · intro p m
      rw [lacks_iff.mp (lacks p m)]
      rfl
  unfold ConfigSources.readFirst
  rw [found]

theorem IsFirst.mem (h : sources.IsFirst paths before path) : path ∈ paths :=
  h.tried.subset (by simp)

theorem IsFirst.sameAt (h : sources.IsFirst paths before path)
    (same : ∀ p ∈ before ++ [path], sources.SameAt sources' (.file p)) :
    sources'.IsFirst paths before path where
  tried := h.tried
  lacks p m := (h.lacks p m).sameAt (same p (List.mem_append_left _ m))
  present lacks := by
    have back : sources'.SameAt sources (.file path) := Eq.symm (same path (by simp))
    exact h.present (lacks.sameAt back)

/-! ## The search -/

theorem configFile_of_none (unnamed : a.configFile = none) : sources.configFile a =
    (do return (← sources.search).getD ConfigFile.default) := by
  unfold configFile
  rw [unnamed]

theorem search_of_current (h : sources.IsFirst currentFiles before path) :
    sources.search = some <$> sources.read path := by
  unfold search
  rw [candidatesIn_current, h.readFirst]
  cases sources.read path <;> rfl

theorem search_of_lacks (none : ∀ p ∈ currentFiles, sources.Lacks p) : sources.search =
    match sources.directories with
    | Option.none => .error .noHome
    | some d => sources.readFirst d.files := by
  have candidates (d : BaseDirectories) : d.candidates = d.files := rfl
  unfold search
  rw [candidatesIn_current, readFirst_of_lacks none]
  simp only [candidates]
  cases sources.directories <;> rfl

/-- A file that was found is not the same as none. -/
theorem map_some_ne (x : Except ConfigFault ConfigFile) : some <$> x ≠ .ok none := by
  cases x <;> nofun

theorem search_eq_none_iff : sources.search = .ok none ↔
    ∃ d, sources.directories = some d ∧ ∀ p ∈ currentFiles ++ d.files, sources.Lacks p := by
  rcases sources.lacks_or_isFirst currentFiles with lacks | ⟨before, path, first⟩
  · rw [search_of_lacks lacks]
    cases sources.directories with
    | none => simp
    | some d =>
      rcases sources.lacks_or_isFirst d.files with lacks' | ⟨before, path, first⟩
      · simp only [readFirst_of_lacks lacks', true_iff]
        exact ⟨d, rfl, List.forall_mem_append.mpr ⟨lacks, lacks'⟩⟩
      · simp only [first.readFirst, map_some_ne, false_iff, Option.some.injEq]
        rintro ⟨_, rfl, lacks'⟩
        exact first.present (lacks' path (List.mem_append_right _ first.mem))
  · simp only [search_of_current first, map_some_ne, false_iff]
    rintro ⟨_, _, lacks⟩
    exact first.present (lacks path (List.mem_append_left _ first.mem))

theorem Finds.configFile {places : List ConfigPlace} (h : sources.Finds a places r) :
    sources.configFile a = r := by
  cases h with
  | named named holds =>
    unfold ConfigSources.configFile
    rw [named]
    exact holds_iff.mp holds
  | current unnamed first holds =>
    rw [configFile_of_none unnamed, search_of_current first, holds_iff.mp holds]
    cases r <;> rfl
  | homeless unnamed lacks unknown =>
    rw [configFile_of_none unnamed, search_of_lacks lacks, unknown]
    rfl
  | below unnamed lacks known first holds =>
    rw [configFile_of_none unnamed, search_of_lacks lacks, known]
    simp only [first.readFirst, holds_iff.mp holds]
    cases r <;> rfl
  | nowhere unnamed lacks known lacks' =>
    rw [configFile_of_none unnamed, search_of_lacks lacks, known]
    simp only [readFirst_of_lacks lacks']
    rfl

theorem exists_finds (sources : ConfigSources) (a : Arguments) :
    ∃ places r, sources.Finds a places r := by
  have holds (path : String) : sources.Holds path (sources.read path) := holds_iff.mpr rfl
  cases named : a.configFile with
  | some path => exact ⟨_, _, .named named (holds path)⟩
  | none =>
    rcases sources.lacks_or_isFirst currentFiles with lacks | ⟨before, path, first⟩
    · cases known : sources.directories with
      | none => exact ⟨_, _, .homeless named lacks known⟩
      | some d =>
        rcases sources.lacks_or_isFirst d.files with lacks' | ⟨before, path, first⟩
        · exact ⟨_, _, .nowhere named lacks known lacks'⟩
        · exact ⟨_, _, .below named lacks known first (holds path)⟩
    · exact ⟨_, _, .current named first (holds path)⟩

/-- The search goes the same way where it finds the same places. -/
theorem Finds.sameAt {places : List ConfigPlace} (h : sources.Finds a places r)
    (same : ∀ place ∈ places, sources.SameAt sources' place) : sources'.Finds a places r := by
  cases h with
  | named named holds => exact .named named (holds.sameAt (same _ (by simp)))
  | current unnamed first holds =>
    rw [List.forall_mem_map] at same
    exact .current unnamed (first.sameAt same) (holds.sameAt (same _ (by simp)))
  | homeless unnamed lacks unknown =>
    rw [List.forall_mem_append, List.forall_mem_map, List.forall_mem_singleton] at same
    exact .homeless unnamed (fun p m => (lacks p m).sameAt (same.1 p m)) (Eq.trans same.2 unknown)
  | below unnamed lacks known first holds =>
    rw [List.forall_mem_append, List.forall_mem_map, List.forall_mem_cons, List.forall_mem_map]
      at same
    exact .below unnamed (fun p m => (lacks p m).sameAt (same.1 p m)) (Eq.trans same.2.1 known)
      (first.sameAt same.2.2) (holds.sameAt (same.2.2 _ (by simp)))
  | nowhere unnamed lacks known lacks' =>
    rw [List.forall_mem_append, List.forall_mem_map, List.forall_mem_cons, List.forall_mem_map]
      at same
    exact .nowhere unnamed (fun p m => (lacks p m).sameAt (same.1 p m)) (Eq.trans same.2.1 known)
      fun p m => (lacks' p m).sameAt (same.2.2 p m)

/-- The base directories matter if no file is named and the current directory has none. -/
theorem Finds.directories_mem_iff {places : List ConfigPlace} (h : sources.Finds a places r) :
    .directories ∈ places ↔ a.configFile = none ∧ ∀ p ∈ currentFiles, sources.Lacks p := by
  cases h with
  | named named _ => simp [named]
  | current unnamed first _ =>
    refine ⟨by simp, fun h => ?_⟩
    exact absurd (h.2 _ first.mem) first.present
  | homeless unnamed lacks _ => exact ⟨fun _ => ⟨unnamed, lacks⟩, fun _ => by simp⟩
  | below unnamed lacks _ _ _ => exact ⟨fun _ => ⟨unnamed, lacks⟩, fun _ => by simp⟩
  | nowhere unnamed lacks _ _ => exact ⟨fun _ => ⟨unnamed, lacks⟩, fun _ => by simp⟩

theorem settings_eq (sources : ConfigSources) (a : Arguments) : sources.settings a =
    match sources.configFile a with
    | .error fault => .error fault
    | .ok file => (Settings.ofLayers a file).mapError .destination := by
  unfold settings
  generalize sources.configFile a = r
  cases r with
  | error fault => rfl
  | ok file =>
    simp only [Bind.bind, Except.bind]
    generalize Settings.ofLayers a file = settled
    cases settled <;> rfl

end ConfigSources

/-- The configuration is what comes of the places that are looked at, one after another, until a
file exists. It is the same wherever these places are the same, and so are the settings. What is
wrong with it is wrong with the settings, and otherwise they are laid over just what was found.
The base directories are among the places just if no file is named and the current directory has
none. A file that is named and cannot be opened is named by the message. The defaults take the
place of a configuration when the base directories are known and there is no file at all. -/
theorem configFile_search (sources : ConfigSources) (a : Arguments) :
    (∃ places r, sources.Finds a places r) ∧
    (∀ places r, sources.Finds a places r →
      sources.configFile a = r ∧
      (∀ fault, r = .error fault → sources.settings a = .error fault) ∧
      (∀ file, r = .ok file →
        sources.settings a = (Settings.ofLayers a file).mapError .destination) ∧
      (.directories ∈ places ↔
        a.configFile = none ∧ ∀ p ∈ currentFiles, sources.Lacks p) ∧
      ∀ sources', (∀ place ∈ places, sources.SameAt sources' place) →
        sources'.configFile a = r ∧ sources'.settings a = sources.settings a) ∧
    (∀ path, a.configFile = some path →
      (Char.ofNat 0 ∈ path.toList ∨ sources.Lacks path ∨
        ∃ cause, sources.file path = .closed cause) →
      ∃ e, sources.configFile a = .error e ∧
        e.chain.head? = some ("config file not found: " ++ path)) ∧
    (a.configFile = none →
      sources.configFile a = (·.getD ConfigFile.default) <$> sources.search) ∧
    (sources.search = .ok none ↔
      ∃ d, sources.directories = some d ∧ ∀ p ∈ currentFiles ++ d.files, sources.Lacks p) := by
  refine ⟨sources.exists_finds a, ?_, ?_, ?_, ConfigSources.search_eq_none_iff⟩
  · intro places r finds
    have found := finds.configFile
    refine ⟨found, ?_, ?_, finds.directories_mem_iff, ?_⟩
    · rintro fault rfl
      rw [sources.settings_eq, found]
    · rintro file rfl
      rw [sources.settings_eq, found]
    · intro sources' same
      have found' := (finds.sameAt same).configFile
      refine ⟨found', ?_⟩
      rw [sources.settings_eq, sources'.settings_eq, found, found']
  · intro path named unopened
    have holds : sources.Holds path (sources.configFile a) := by
      unfold ConfigSources.configFile
      rw [named]
      exact ConfigSources.holds_iff.mpr rfl
    exact holds.names unopened
  · intro unnamed
    rw [ConfigSources.configFile_of_none unnamed]
    cases sources.search <;> rfl

namespace AtHome

def directories : BaseDirectories := ⟨"/home/u", "/home/u/.config"⟩

/-- A directory stands in the place of the hidden file at home. -/
def sources (visible later : FileState) : ConfigSources where
  file path :=
    if path = "/home/u/tracepath.toml" then visible
    else if path = "/home/u/.tracepath.toml" then .unreadable Errno.isDirectory
    else if path = "/home/u/.config/tracepath.toml" then later
    else .absent Errno.notFound
  directories := some directories

def missing : FileState := .absent Errno.notFound

def nineHops : FileState := .text "[trace]\nmax-hops = 9\n"

def fourHops : FileState := .text "[trace]\nmax-hops = 4\n"

/-- The settings that are not made anywhere have their defaults. -/
def settings (maxHops : UInt8) : Settings :=
  ⟨"h", 44444, .system, none, maxHops, .host, false, .pretty, "tracepath=debug", .off⟩

def arguments : Arguments := { destination := some "h" }

/-- The file that comes later in the search is named. -/
def named : Arguments := { arguments with configFile := some "/home/u/.config/tracepath.toml" }

theorem files : directories.files = ["/home/u/tracepath.toml", "/home/u/.tracepath.toml",
    "/home/u/.config/tracepath.toml", "/home/u/.config/.tracepath.toml",
    "/home/u/.config/tracepath/tracepath.toml", "/home/u/.config/tracepath/.tracepath.toml"] := by
  decide +kernel

theorem parse_of_toOption {content : String} {file : ConfigFile}
    (read : (ConfigFile.parse content).toOption = some file) :
    ConfigFile.parse content = .ok file := by
  cases parsed : ConfigFile.parse content with
  | error e =>
    rw [parsed] at read
    cases read
  | ok file' =>
    rw [parsed] at read
    cases read
    rfl

section
variable (visible later : FileState)

theorem lacks_current : ∀ p ∈ currentFiles, (sources visible later).Lacks p := by
  simp [currentFiles, ConfigSources.lacks_iff, sources, FileState.isPresent]

theorem finds_hidden : (sources missing later).Finds arguments
    [.file "tracepath.toml", .file ".tracepath.toml", .directories,
      .file "/home/u/tracepath.toml", .file "/home/u/.tracepath.toml"]
    (.error (.cannotRead Errno.isDirectory)) := by
  have first : (sources missing later).IsFirst directories.files ["/home/u/tracepath.toml"]
      "/home/u/.tracepath.toml" := by
    refine ⟨?_, ?_, ?_⟩
    · rw [files]
      exact ⟨_, rfl⟩
    · simp [ConfigSources.lacks_iff, sources, missing, FileState.isPresent]
    · simp [ConfigSources.lacks_iff, sources, FileState.isPresent]
  exact .below rfl (lacks_current missing later) rfl first (.read (by decide) (.unreadable _))

theorem finds_visible : (sources nineHops later).Finds arguments
    [.file "tracepath.toml", .file ".tracepath.toml", .directories,
      .file "/home/u/tracepath.toml"]
    (.ok { trace := some { maxHops := some 9 } }) := by
  have first : (sources nineHops later).IsFirst directories.files [] "/home/u/tracepath.toml" := by
    refine ⟨?_, nofun, ?_⟩
    · rw [files]
      exact ⟨_, rfl⟩
    · simp [ConfigSources.lacks_iff, sources, nineHops, FileState.isPresent]
  exact .below rfl (lacks_current nineHops later) rfl first
    (.read (by decide) (.parsed (parse_of_toOption (by decide +kernel))))

theorem finds_named : (sources visible fourHops).Finds named
    [.file "/home/u/.config/tracepath.toml"] (.ok { trace := some { maxHops := some 4 } }) :=
  .named rfl (.read (by decide) (.parsed (parse_of_toOption (by decide +kernel))))

end

end AtHome

open AtHome in
/-- What is wrong at home is reported, whether or not a file would have been found later. A file
that comes first or is named settles the hops, whatever the others say. -/
theorem configFile_search_atHome :
    (sources missing fourHops).settings arguments = .error (.cannotRead Errno.isDirectory) ∧
    (sources missing missing).settings arguments = .error (.cannotRead Errno.isDirectory) ∧
    (sources nineHops fourHops).settings arguments = .ok (settings 9) ∧
    (sources nineHops missing).settings arguments = .ok (settings 9) ∧
    (sources nineHops fourHops).settings named = .ok (settings 4) := by
  obtain ⟨-, hidden, -⟩ := configFile_search (sources missing fourHops) arguments
  obtain ⟨-, visible, -⟩ := configFile_search (sources nineHops fourHops) arguments
  obtain ⟨-, chosen, -⟩ := configFile_search (sources nineHops fourHops) named
  obtain ⟨-, broken, -, -, others⟩ := hidden _ _ (finds_hidden fourHops)
  obtain ⟨-, -, laid, -, others'⟩ := visible _ _ (finds_visible fourHops)
  obtain ⟨-, -, laid', -⟩ := chosen _ _ (finds_named nineHops)
  have broken := broken _ rfl
  have laid : _ = Except.ok (settings 9) := laid _ rfl
  have later := (others (sources missing missing) (by simp [ConfigSources.SameAt, sources])).2
  have later' := (others' (sources nineHops missing) (by simp [ConfigSources.SameAt, sources])).2
  exact ⟨broken, later.trans broken, laid, later'.trans laid, laid' _ rfl⟩

end HopTrace
