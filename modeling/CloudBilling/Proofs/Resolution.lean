import CloudBilling.Files.Tree
import CloudBilling.Settings
import Mathlib.Data.List.Forall2

/-!
# The first problem of settings

Resolving settings makes the base directory and after that only looks at files, so every source is
judged in the state of the file system in which the base directory was made.  Each step has a
condition under which it succeeds and, for each of its checks in turn, a condition under which that
check is the one that halts it; one of these conditions always holds.  The settings resolve exactly
if every step succeeds, and else the halt is that of the first check that fails, whatever the
sources behind it are.
-/

namespace CloudBilling

variable {σ : Type}

namespace FileSystem

/-- Asking what stands at a path, and where that is, leaves the state of a file system as it is. -/
structure LookingKeepsState (files : FileSystem (StateM σ)) : Prop where
  kind : ∀ path state, ((files.kind? path).run state).2 = state
  place : ∀ path state, ((files.canonicalize path).run state).2 = state

/-- What stands at a path in a state. -/
def kindIn (files : FileSystem (StateM σ)) (state : σ) (path : String) : Option FileKind :=
  ((files.kind? path).run state).1

/-- The absolute path of what stands at a path in a state. -/
def placeIn (files : FileSystem (StateM σ)) (state : σ) (path : String) :
    Except FileFault String :=
  ((files.canonicalize path).run state).1

variable {files : FileSystem (StateM σ)}

theorem LookingKeepsState.run_kind? (looking : files.LookingKeepsState) (path : String)
    (state : σ) : (files.kind? path).run state = (files.kindIn state path, state) :=
  Prod.ext rfl (looking.kind path state)

theorem LookingKeepsState.run_canonicalize (looking : files.LookingKeepsState) (path : String)
    (state : σ) : (files.canonicalize path).run state = (files.placeIn state path, state) :=
  Prod.ext rfl (looking.place path state)

end FileSystem

theorem FileTree.lookingKeepsState_fileSystem : fileSystem.LookingKeepsState :=
  ⟨fun _ _ => rfl, fun _ _ => rfl⟩

namespace Settings

/-! ## Loaders on a file system with a state -/

section Runs

variable {α β : Type} {part former : Loader (StateM σ) α} {next : α → Loader (StateM σ) β}
  {operation : StateM σ α} {trial : StateM σ (Except FileFault α)}
  {start after : σ} {value : α} {halt : Halt} {fault : FileFault} {message : String}

theorem run_bind_of_ok (reached : former.run.run start = (.ok value, after)) :
    (former >>= next).run.run start = (next value).run.run after := by
  show StateT.run (former.run >>= ExceptT.bindCont next) start = _
  rw [StateT.run_bind, reached]
  rfl

theorem run_bind_of_error (halted : former.run.run start = (.error halt, after)) :
    (former >>= next).run.run start = (.error halt, after) := by
  show StateT.run (former.run >>= ExceptT.bindCont next) start = _
  rw [StateT.run_bind, halted]
  rfl

theorem run_liftM (reached : operation.run start = (value, after)) :
    (liftM operation : Loader (StateM σ) α).run.run start = (.ok value, after) := by
  show StateT.run (Except.ok <$> operation) start = _
  rw [StateT.run_map, reached]
  rfl

theorem run_attempt_of_ok (reached : trial.run start = (.ok value, after)) :
    (attempt message trial).run.run start = (.ok value, after) :=
  run_bind_of_ok (run_liftM reached)

theorem run_attempt_of_error (failed : trial.run start = (.error fault, after)) :
    (attempt message trial).run.run start =
      (.error (.reported ⟨message, [fault.message]⟩), after) :=
  run_bind_of_ok (run_liftM failed)

theorem run_within_of_ok (reached : part.run.run start = (.ok value, after)) :
    (within message part).run.run start = (.ok value, after) := by
  show StateT.run (part.run >>= _) start = _
  rw [StateT.run_bind, reached]
  rfl

theorem run_within_of_error (halted : part.run.run start = (.error halt, after)) :
    (within message part).run.run start = (.error (halt.within message), after) := by
  show StateT.run (part.run >>= _) start = _
  rw [StateT.run_bind, halted]
  rfl

end Runs

variable {files : FileSystem (StateM σ)} {start made : σ} {path base : String} {halt : Halt}

/-! ## The base directory -/

/-- Nothing but a directory stands at a path. -/
def Free (files : FileSystem (StateM σ)) (start : σ) (path : String) : Prop :=
  ∀ kind, files.kindIn start path = some kind → kind = .directory

/-- The base directory is made as far as it is missing, and then it has an absolute path. -/
structure BaseStands (files : FileSystem (StateM σ)) (start : σ) (path base : String)
    (made : σ) : Prop where
  free : Free files start path
  created : (files.createDirectories path).run start = (.ok (), made)
  placed : files.placeIn made path = .ok base

/-- What the base directory halts with. -/
inductive BaseHalts (files : FileSystem (StateM σ)) (start : σ) (path : String) : Halt → Prop
  | taken : ¬ Free files start path →
      BaseHalts files start path
        (.ofMessage s!"Base data directory path {path} exists, but is not a directory!")
  | uncreated {fault : FileFault} {made : σ} : Free files start path →
      (files.createDirectories path).run start = (.error fault, made) →
      BaseHalts files start path
        (.reported ⟨"Failed to create missing base data directory.", [fault.message]⟩)
  | unplaced {fault : FileFault} {made : σ} : Free files start path →
      (files.createDirectories path).run start = (.ok (), made) →
      files.placeIn made path = .error fault →
      BaseHalts files start path
        (.reported ⟨"Failed to canonicalize base data directory path.", [fault.message]⟩)

theorem baseStands_or_baseHalts (files : FileSystem (StateM σ)) (start : σ) (path : String) :
    (∃ base made, BaseStands files start path base made) ∨
      ∃ halt, BaseHalts files start path halt := by
  by_cases free : Free files start path
  · cases created : (files.createDirectories path).run start with
    | mk outcome made =>
        cases outcome with
        | error fault => exact .inr ⟨_, .uncreated free created⟩
        | ok =>
            cases placed : files.placeIn made path with
            | error fault => exact .inr ⟨_, .unplaced free created placed⟩
            | ok base => exact .inl ⟨base, made, free, created, placed⟩
  · exact .inr ⟨_, .taken free⟩

/-- Where nothing but a directory stands at the path, the base directory is made. -/
theorem run_resolveBase_of_free (looking : files.LookingKeepsState)
    (free : Free files start path) :
    (resolveBase files path).run.run start =
      (do
        attempt "Failed to create missing base data directory." (files.createDirectories path)
        attempt "Failed to canonicalize base data directory path."
          (files.canonicalize path) : Loader (StateM σ) String).run.run start := by
  rw [resolveBase, run_bind_of_ok (run_liftM (looking.run_kind? path start))]
  cases found : files.kindIn start path with
  | none => rfl
  | some kind =>
      obtain rfl := free kind found
      rfl

theorem BaseStands.run_resolveBase (looking : files.LookingKeepsState)
    (stands : BaseStands files start path base made) :
    (resolveBase files path).run.run start = (.ok base, made) := by
  rw [run_resolveBase_of_free looking stands.free,
    run_bind_of_ok (run_attempt_of_ok stands.created)]
  exact run_attempt_of_ok (stands.placed ▸ looking.run_canonicalize path made)

theorem BaseHalts.run_resolveBase (looking : files.LookingKeepsState)
    (halts : BaseHalts files start path halt) :
    ∃ after, (resolveBase files path).run.run start = (.error halt, after) := by
  cases halts with
  | taken taken =>
      simp only [Free, not_forall] at taken
      obtain ⟨kind, found, other⟩ := taken
      refine ⟨start, ?_⟩
      rw [resolveBase, run_bind_of_ok (run_liftM (looking.run_kind? path start)), found]
      cases kind with
      | directory => exact (other rfl).elim
      | file | other => rfl
  | uncreated free failed =>
      rw [run_resolveBase_of_free looking free]
      exact ⟨_, run_bind_of_error (run_attempt_of_error failed)⟩
  | unplaced free created failed =>
      rw [run_resolveBase_of_free looking free, run_bind_of_ok (run_attempt_of_ok created)]
      exact ⟨_, run_attempt_of_error (failed ▸ looking.run_canonicalize path _)⟩

/-! ## What is logged -/

variable {draft : Draft} {console file : LevelFilter}

/-- Both level filters are valid, and the log file has a name. -/
structure LoggingStands (draft : Draft) (console file : LevelFilter) : Prop where
  console : LevelFilter.read draft.consoleFilter = .ok console
  file : LevelFilter.read draft.fileFilter = .ok file
  named : ∃ c ∈ draft.logFileName.toList, Text.isBlank c = false

/-- What the settings about logging halt with. -/
inductive LoggingHalts (draft : Draft) : Halt → Prop
  | console {halt : Halt} : LevelFilter.read draft.consoleFilter = .error halt →
      LoggingHalts draft (halt.within "Failed to parse field console_output_level_filter")
  | file {console : LevelFilter} {halt : Halt} :
      LevelFilter.read draft.consoleFilter = .ok console →
      LevelFilter.read draft.fileFilter = .error halt →
      LoggingHalts draft (halt.within "Failed to parse field log_file_output_level_filter")
  | unnamed {console file : LevelFilter} :
      LevelFilter.read draft.consoleFilter = .ok console →
      LevelFilter.read draft.fileFilter = .ok file →
      (∀ c ∈ draft.logFileName.toList, Text.isBlank c = true) →
      LoggingHalts draft (.ofMessage "Field log_file_name must not be empty.")

theorem isAllBlank_eq_false_iff {text : String} :
    Text.isAllBlank text = false ↔ ∃ c ∈ text.toList, Text.isBlank c = false := by
  rw [Text.isAllBlank, List.all_eq_false]
  simp

theorem LoggingStands.resolveLogging_eq (stands : LoggingStands draft console file) :
    resolveLogging draft = .ok (console, file) := by
  have named : Text.isAllBlank draft.logFileName = false :=
    isAllBlank_eq_false_iff.mpr stands.named
  simp [resolveLogging, stands.console, stands.file, named, Except.mapError, bind, Except.bind,
    pure, Except.pure]

theorem LoggingHalts.resolveLogging_eq (halts : LoggingHalts draft halt) :
    resolveLogging draft = .error halt := by
  cases halts with
  | console failed =>
      simp [resolveLogging, failed, Except.mapError, bind, Except.bind]
  | file console failed =>
      simp [resolveLogging, console, failed, Except.mapError, bind, Except.bind]
  | unnamed console file blank =>
      have unnamed : Text.isAllBlank draft.logFileName = true := List.all_eq_true.mpr blank
      simp [resolveLogging, console, file, unnamed, Except.mapError, bind, Except.bind,
        throw, throwThe, MonadExceptOf.throw]

theorem LoggingStands.with_sources (stands : LoggingStands draft console file)
    (others : List (String × String)) :
    LoggingStands { draft with sources := others } console file :=
  ⟨stands.console, stands.file, stands.named⟩

theorem LoggingHalts.with_sources (halts : LoggingHalts draft halt)
    (others : List (String × String)) : LoggingHalts { draft with sources := others } halt := by
  cases halts with
  | console failed => exact .console failed
  | file console failed => exact .file console failed
  | unnamed console file blank => exact .unnamed console file blank

theorem loggingStands_or_loggingHalts (draft : Draft) :
    (∃ console file, LoggingStands draft console file) ∨ ∃ halt, LoggingHalts draft halt := by
  cases console : LevelFilter.read draft.consoleFilter with
  | error halt => exact .inr ⟨_, .console console⟩
  | ok consoleFilter =>
      cases file : LevelFilter.read draft.fileFilter with
      | error halt => exact .inr ⟨_, .file console file⟩
      | ok fileFilter =>
          cases blank : Text.isAllBlank draft.logFileName with
          | true => exact .inr ⟨_, .unnamed console file (List.all_eq_true.mp blank)⟩
          | false =>
              exact .inl ⟨consoleFilter, fileFilter, console, file,
                isAllBlank_eq_false_iff.mp blank⟩

/-! ## One source -/

/-- The names of the sources that documents can be from. -/
def sourceNames : List String :=
  ["configController", "multicloud", "configfile", "helm"]

theorem ofName_eq_unknown_iff {name : String} :
    Source.ofName name = .unknown ↔ name ∉ sourceNames := by
  simp only [sourceNames, List.mem_cons, List.not_mem_nil, or_false, not_or]
  unfold Source.ofName
  split_ifs <;> simp_all

theorem name_ofName {name : String} (known : name ∈ sourceNames) :
    (Source.ofName name).name = name := by
  simp only [sourceNames, List.mem_cons, List.not_mem_nil, or_false] at known
  rcases known with rfl | rfl | rfl | rfl <;> decide

variable {entry : String × String} {sourceFile : SourceFile} {index : Nat}

/-- An entry names a source and a file that exists and has an absolute path. -/
structure SourceStands (files : FileSystem (StateM σ)) (made : σ) (base : String)
    (entry : String × String) (file : SourceFile) : Prop where
  known : entry.1 ∈ sourceNames
  named : file.source.name = entry.1
  exists_file : files.kindIn made (resolvePath base entry.2) = some .file
  placed : files.placeIn made (resolvePath base entry.2) = .ok file.path

/-- What the entry at a position of the sources halts with. -/
inductive SourceHalts (files : FileSystem (StateM σ)) (made : σ) (base : String) (index : Nat)
    (entry : String × String) : Halt → Prop
  | unknown : entry.1 ∉ sourceNames →
      SourceHalts files made base index entry
        (.ofMessage s!"Unknown integration source \"{entry.1}\" in sources[{index}].")
  | missing : entry.1 ∈ sourceNames →
      files.kindIn made (resolvePath base entry.2) ≠ some .file →
      SourceHalts files made base index entry (.ofMessage
        s!"Integration file for sources[{index}] does not exist: {resolvePath base entry.2}.")
  | unplaced {fault : FileFault} : entry.1 ∈ sourceNames →
      files.kindIn made (resolvePath base entry.2) = some .file →
      files.placeIn made (resolvePath base entry.2) = .error fault →
      SourceHalts files made base index entry (.reported
        ⟨s!"Failed to canonicalize integration file path for sources[{index}].",
          [fault.message]⟩)

theorem sourceStands_or_sourceHalts (files : FileSystem (StateM σ)) (made : σ) (base : String)
    (index : Nat) (entry : String × String) :
    (∃ file, SourceStands files made base entry file) ∨
      ∃ halt, SourceHalts files made base index entry halt := by
  by_cases known : entry.1 ∈ sourceNames
  · by_cases found : files.kindIn made (resolvePath base entry.2) = some .file
    · cases placed : files.placeIn made (resolvePath base entry.2) with
      | error fault => exact .inr ⟨_, .unplaced known found placed⟩
      | ok path =>
          exact .inl ⟨⟨Source.ofName entry.1, path⟩, known, name_ofName known, found, placed⟩
    · exact .inr ⟨_, .missing known found⟩
  · exact .inr ⟨_, .unknown known⟩

/-- An entry with the name of a source is about the file at its path. -/
theorem run_resolveSource_of_known (looking : files.LookingKeepsState)
    (known : entry.1 ∈ sourceNames) (index : Nat) :
    (resolveSource files base index entry.1 entry.2).run.run made =
      if files.kindIn made (resolvePath base entry.2) ≠ some .file then
        (.error (.ofMessage
          s!"Integration file for sources[{index}] does not exist: {resolvePath base entry.2}."),
          made)
      else
        (do
          let path ← attempt
            s!"Failed to canonicalize integration file path for sources[{index}]."
            (files.canonicalize (resolvePath base entry.2))
          return ⟨Source.ofName entry.1, path⟩ : Loader (StateM σ) SourceFile).run.run made := by
  have named : Source.ofName entry.1 ≠ .unknown := mt ofName_eq_unknown_iff.mp (not_not_intro known)
  simp only [resolveSource, if_neg named]
  rw [run_bind_of_ok (run_liftM (looking.run_kind? _ made))]
  split <;> rfl

theorem SourceStands.run_resolveSource (looking : files.LookingKeepsState)
    (stands : SourceStands files made base entry sourceFile) (index : Nat) :
    (resolveSource files base index entry.1 entry.2).run.run made = (.ok sourceFile, made) := by
  have source : Source.ofName entry.1 = sourceFile.source := by
    rw [← stands.named, Source.ofName_name]
  rw [run_resolveSource_of_known looking stands.known, if_neg (not_not_intro stands.exists_file),
    run_bind_of_ok (run_attempt_of_ok (stands.placed ▸ looking.run_canonicalize _ made)), source]
  rfl

theorem SourceHalts.run_resolveSource (looking : files.LookingKeepsState)
    (halts : SourceHalts files made base index entry halt) :
    (resolveSource files base index entry.1 entry.2).run.run made = (.error halt, made) := by
  cases halts with
  | unknown unknown =>
      rw [resolveSource, if_pos (ofName_eq_unknown_iff.mpr unknown)]
      rfl
  | missing known missing =>
      rw [run_resolveSource_of_known looking known, if_pos missing]
  | unplaced known found failed =>
      rw [run_resolveSource_of_known looking known, if_neg (not_not_intro found)]
      exact run_bind_of_error
        (run_attempt_of_error (failed ▸ looking.run_canonicalize _ made))

/-! ## All sources -/

variable {entries front rest : List (String × String)} {sources : List SourceFile}

/-- What sources halt with, when the first of them is at a position: every entry before the one that
halts stands. -/
inductive SourcesHalt (files : FileSystem (StateM σ)) (made : σ) (base : String) (index : Nat)
    (entries : List (String × String)) : Halt → Prop
  | first (front : List (String × String)) {rest : List (String × String)}
      {entry : String × String} {halt : Halt} :
      entries = front ++ entry :: rest →
      (∀ earlier ∈ front, ∃ file, SourceStands files made base earlier file) →
      SourceHalts files made base (index + front.length) entry halt →
      SourcesHalt files made base index entries halt

theorem SourcesHalt.append (halts : SourcesHalt files made base index entries halt)
    (others : List (String × String)) :
    SourcesHalt files made base index (entries ++ others) halt := by
  obtain ⟨front, rfl, stand, fails⟩ := halts
  exact .first front (List.append_assoc front (_ :: _) others) stand fails

theorem SourcesHalt.cons (stands : SourceStands files made base entry sourceFile)
    (halts : SourcesHalt files made base (index + 1) entries halt) :
    SourcesHalt files made base index (entry :: entries) halt := by
  obtain ⟨front, rfl, stand, fails⟩ := halts
  refine .first (entry :: front) rfl ?_ ?_
  · exact List.forall_mem_cons.mpr ⟨⟨sourceFile, stands⟩, stand⟩
  · rwa [List.length_cons, Nat.add_comm _ 1, ← Nat.add_assoc]

theorem exists_sources_iff :
    (∃ sources, List.Forall₂ (SourceStands files made base) entries sources) ↔
      ∀ entry ∈ entries, ∃ file, SourceStands files made base entry file := by
  induction entries with
  | nil => simp
  | cons entry rest ih =>
      rw [List.forall_mem_cons, ← ih]
      constructor
      · rintro ⟨_, stand⟩
        obtain ⟨file, sources, stands, standBehind, rfl⟩ := List.forall₂_cons_left_iff.mp stand
        exact ⟨⟨file, stands⟩, sources, standBehind⟩
      · rintro ⟨⟨file, stands⟩, sources, stand⟩
        exact ⟨file :: sources, .cons stands stand⟩

theorem sourcesStand_or_sourcesHalt (files : FileSystem (StateM σ)) (made : σ) (base : String)
    (index : Nat) (entries : List (String × String)) :
    (∃ sources, List.Forall₂ (SourceStands files made base) entries sources) ∨
      ∃ halt, SourcesHalt files made base index entries halt := by
  induction entries generalizing index with
  | nil => exact .inl ⟨[], .nil⟩
  | cons entry rest ih =>
      rcases sourceStands_or_sourceHalts files made base index entry with
        ⟨file, stands⟩ | ⟨halt, halts⟩
      · rcases ih (index + 1) with ⟨sources, stand⟩ | ⟨halt, halts⟩
        · exact .inl ⟨file :: sources, .cons stands stand⟩
        · exact .inr ⟨halt, halts.cons stands⟩
      · exact .inr ⟨halt, .first [] rfl (List.forall_mem_nil _) halts⟩

/-- An entry that does not stand halts the sources, or one before it does; those behind it do not
matter. -/
theorem sourcesHalt_of_not_stand (fails : ¬ ∃ file, SourceStands files made base entry file)
    (index : Nat) (front : List (String × String)) :
    ∃ halt, ∀ rest, SourcesHalt files made base index (front ++ entry :: rest) halt := by
  rcases sourcesStand_or_sourcesHalt files made base index (front ++ [entry]) with
    stand | ⟨halt, halts⟩
  · exact (fails (exists_sources_iff.mp stand entry (by simp))).elim
  · refine ⟨halt, fun rest => ?_⟩
    rw [List.append_cons]
    exact halts.append rest

theorem run_resolveSources_cons (looking : files.LookingKeepsState)
    (stands : SourceStands files made base entry sourceFile) (index : Nat)
    (rest : List (String × String)) :
    (resolveSources files base index (entry :: rest)).run.run made =
      (do
        let others ← resolveSources files base (index + 1) rest
        return sourceFile :: others : Loader (StateM σ) (List SourceFile)).run.run made := by
  rw [resolveSources, run_bind_of_ok (stands.run_resolveSource looking index)]

theorem run_resolveSources_of_stand (looking : files.LookingKeepsState)
    (stand : List.Forall₂ (SourceStands files made base) entries sources) (index : Nat) :
    (resolveSources files base index entries).run.run made = (.ok sources, made) := by
  induction stand generalizing index with
  | nil => rfl
  | cons stands _ ih =>
      rw [run_resolveSources_cons looking stands, run_bind_of_ok (ih (index + 1))]
      rfl

theorem SourcesHalt.run_resolveSources (looking : files.LookingKeepsState)
    (halts : SourcesHalt files made base index entries halt) :
    (resolveSources files base index entries).run.run made = (.error halt, made) := by
  obtain ⟨front, rfl, stand, fails⟩ := halts
  -- Each entry before the one that halts moves the position on by one.
  induction front generalizing index with
  | nil =>
      rw [List.nil_append, resolveSources]
      exact run_bind_of_error (fails.run_resolveSource looking)
  | cons earlier front ih =>
      obtain ⟨⟨file, stands⟩, standBehind⟩ := List.forall_mem_cons.mp stand
      rw [List.length_cons, Nat.add_comm _ 1, ← Nat.add_assoc] at fails
      rw [List.cons_append, run_resolveSources_cons looking stands]
      exact run_bind_of_error (ih standBehind fails)

/-! ## Settings -/

variable {filePath : String} {settings : Settings}

/-- What resolving settings halts with: the base directory comes first, then what is said about
logging, and then the sources in order. -/
inductive Halts (files : FileSystem (StateM σ)) (start : σ) (draft : Draft) : Halt → Prop
  | base {halt : Halt} : BaseHalts files start draft.baseDirectory halt →
      Halts files start draft (halt.within "Failed to resolve base_paths table.")
  | logging {base : String} {made : σ} {halt : Halt} :
      BaseStands files start draft.baseDirectory base made → LoggingHalts draft halt →
      Halts files start draft (halt.within "Failed to resolve logging table.")
  | sources {base : String} {made : σ} {console file : LevelFilter} {halt : Halt} :
      BaseStands files start draft.baseDirectory base made → LoggingStands draft console file →
      SourcesHalt files made base 0 draft.sources halt →
      Halts files start draft (halt.within "Failed to resolve integrations table.")

/-- Settings are what a draft resolves to, and the state is the one in which the base directory was
made. -/
structure Resolves (files : FileSystem (StateM σ)) (start : σ) (filePath : String) (draft : Draft)
    (settings : Settings) (made : σ) : Prop where
  base : BaseStands files start draft.baseDirectory settings.baseDirectory made
  logging : LoggingStands draft settings.consoleFilter settings.fileFilter
  sources : List.Forall₂ (SourceStands files made settings.baseDirectory) draft.sources
    settings.sources
  filePath : settings.filePath = filePath
  logDirectory : settings.logDirectory = resolvePath settings.baseDirectory draft.logDirectory
  logFileName : settings.logFileName = draft.logFileName

theorem resolves_or_halts (files : FileSystem (StateM σ)) (start : σ) (filePath : String)
    (draft : Draft) :
    (∃ settings made, Resolves files start filePath draft settings made) ∨
      ∃ halt, Halts files start draft halt := by
  rcases baseStands_or_baseHalts files start draft.baseDirectory with
    ⟨base, made, stands⟩ | ⟨halt, halts⟩
  · rcases loggingStands_or_loggingHalts draft with ⟨console, file, logging⟩ | ⟨halt, halts⟩
    · rcases sourcesStand_or_sourcesHalt files made base 0 draft.sources with
        ⟨sources, stand⟩ | ⟨halt, halts⟩
      · exact .inl ⟨⟨filePath, base, console, file, resolvePath base draft.logDirectory,
          draft.logFileName, sources⟩, made, stands, logging, stand, rfl, rfl, rfl⟩
      · exact .inr ⟨_, .sources stands logging halts⟩
    · exact .inr ⟨_, .logging stands halts⟩
  · exact .inr ⟨_, .base halts⟩

theorem run_resolveLogging {outcome : Except Halt (LevelFilter × LevelFilter)}
    (reached : resolveLogging draft = outcome) (state : σ) :
    (ExceptT.mk (pure (resolveLogging draft)) :
      Loader (StateM σ) (LevelFilter × LevelFilter)).run.run state = (outcome, state) := by
  rw [reached]
  rfl

theorem Resolves.run_resolve (looking : files.LookingKeepsState)
    (resolves : Resolves files start filePath draft settings made) :
    (resolve files filePath draft).run.run start = (.ok settings, made) := by
  obtain ⟨base, logging, sources, rfl, logDirectory, logFileName⟩ := resolves
  rw [resolve, run_bind_of_ok (run_within_of_ok (base.run_resolveBase looking)),
    run_bind_of_ok (run_within_of_ok (run_resolveLogging logging.resolveLogging_eq made)),
    run_bind_of_ok (run_within_of_ok (run_resolveSources_of_stand looking sources 0)),
    ← logDirectory, ← logFileName]
  rfl

theorem Halts.run_resolve (looking : files.LookingKeepsState)
    (halts : Halts files start draft halt) (filePath : String) :
    ∃ after, (resolve files filePath draft).run.run start = (.error halt, after) := by
  rw [resolve]
  cases halts with
  | base halts =>
      obtain ⟨after, halted⟩ := halts.run_resolveBase looking
      exact ⟨after, run_bind_of_error (run_within_of_error halted)⟩
  | logging stands halts =>
      rw [run_bind_of_ok (run_within_of_ok (stands.run_resolveBase looking))]
      exact ⟨_, run_bind_of_error
        (run_within_of_error (run_resolveLogging halts.resolveLogging_eq _))⟩
  | sources stands logging halts =>
      rw [run_bind_of_ok (run_within_of_ok (stands.run_resolveBase looking)),
        run_bind_of_ok (run_within_of_ok (run_resolveLogging logging.resolveLogging_eq _))]
      exact ⟨_, run_bind_of_error (run_within_of_error (halts.run_resolveSources looking))⟩

/-- What resolving a draft comes to. -/
def outcomeFrom (files : FileSystem (StateM σ)) (start : σ) (filePath : String) (draft : Draft) :
    Except Halt Settings :=
  ((resolve files filePath draft).run.run start).1

theorem Resolves.outcomeFrom_eq (looking : files.LookingKeepsState)
    (resolves : Resolves files start filePath draft settings made) :
    outcomeFrom files start filePath draft = .ok settings := by
  rw [outcomeFrom, resolves.run_resolve looking]

theorem Halts.outcomeFrom_eq (looking : files.LookingKeepsState)
    (halts : Halts files start draft halt) (filePath : String) :
    outcomeFrom files start filePath draft = .error halt := by
  obtain ⟨after, halted⟩ := halts.run_resolve looking filePath
  rw [outcomeFrom, halted]

theorem outcomeFrom_eq_ok_iff (looking : files.LookingKeepsState) :
    outcomeFrom files start filePath draft = .ok settings ↔
      ∃ made, Resolves files start filePath draft settings made := by
  constructor
  · intro resolved
    rcases resolves_or_halts files start filePath draft with ⟨other, made, resolves⟩ | ⟨halt, halts⟩
    · obtain rfl := Except.ok.inj ((resolves.outcomeFrom_eq looking).symm.trans resolved)
      exact ⟨made, resolves⟩
    · cases (halts.outcomeFrom_eq looking filePath).symm.trans resolved
  · rintro ⟨made, resolves⟩
    exact resolves.outcomeFrom_eq looking

theorem outcomeFrom_eq_error_iff (looking : files.LookingKeepsState) :
    outcomeFrom files start filePath draft = .error halt ↔ Halts files start draft halt := by
  refine ⟨fun failed => ?_, fun halts => halts.outcomeFrom_eq looking filePath⟩
  rcases resolves_or_halts files start filePath draft with ⟨_, made, resolves⟩ | ⟨other, halts⟩
  · cases (resolves.outcomeFrom_eq looking).symm.trans failed
  · obtain rfl := Except.error.inj ((halts.outcomeFrom_eq looking filePath).symm.trans failed)
    exact halts

/-- Settings resolve exactly if each step by itself can succeed in the state where it comes. -/
theorem exists_outcomeFrom_eq_ok_iff (looking : files.LookingKeepsState) :
    (∃ settings, outcomeFrom files start filePath draft = .ok settings) ↔
      (∃ console file, LoggingStands draft console file) ∧
      ∃ base made, BaseStands files start draft.baseDirectory base made ∧
        ∀ entry ∈ draft.sources, ∃ file, SourceStands files made base entry file := by
  constructor
  · rintro ⟨settings, resolved⟩
    obtain ⟨made, resolves⟩ := (outcomeFrom_eq_ok_iff looking).mp resolved
    exact ⟨⟨_, _, resolves.logging⟩, _, made, resolves.base,
      exists_sources_iff.mp ⟨_, resolves.sources⟩⟩
  · rintro ⟨⟨console, file, logging⟩, base, made, stands, stand⟩
    obtain ⟨sources, stand⟩ := exists_sources_iff.mpr stand
    have resolves : Resolves files start filePath draft ⟨filePath, base, console, file,
        resolvePath base draft.logDirectory, draft.logFileName, sources⟩ made :=
      ⟨stands, logging, stand, rfl, rfl, rfl⟩
    exact ⟨_, resolves.outcomeFrom_eq looking⟩

/-- The sources behind one that does not stand have no influence. -/
theorem outcomeFrom_eq_of_not_stand (looking : files.LookingKeepsState)
    (stands : BaseStands files start draft.baseDirectory base made)
    (split : draft.sources = front ++ entry :: rest)
    (fails : ¬ ∃ file, SourceStands files made base entry file)
    (others : List (String × String)) :
    outcomeFrom files start filePath { draft with sources := front ++ entry :: others } =
      outcomeFrom files start filePath draft := by
  obtain ⟨halt, here, there⟩ : ∃ halt, Halts files start draft halt ∧
      Halts files start { draft with sources := front ++ entry :: others } halt := by
    rcases loggingStands_or_loggingHalts draft with ⟨console, file, logging⟩ | ⟨halt, halts⟩
    · obtain ⟨halt, halts⟩ := sourcesHalt_of_not_stand fails 0 front
      exact ⟨_, .sources stands logging (split ▸ halts rest),
        .sources stands (logging.with_sources _) (halts others)⟩
    · exact ⟨_, .logging stands halts, .logging stands (halts.with_sources _)⟩
  rw [here.outcomeFrom_eq looking, there.outcomeFrom_eq looking]

/-- Settings resolve exactly if the base directory can be made and has an absolute path, both level
filters are valid, the log file has a name, and every source has a known name and a file that exists
and has an absolute path; then the sources come in the order of the entries, one for each.  Else the
halt is that of the first check that fails, and the entries behind one that fails do not matter. -/
theorem resolve_halts_at_first_problem (looking : files.LookingKeepsState) (start : σ)
    (filePath : String) (draft : Draft) :
    let outcome := outcomeFrom files start filePath
    ((∃ settings, outcome draft = .ok settings) ↔
      (∃ console file, LoggingStands draft console file) ∧
      ∃ base made, BaseStands files start draft.baseDirectory base made ∧
        ∀ entry ∈ draft.sources, ∃ file, SourceStands files made base entry file) ∧
    (∀ settings, outcome draft = .ok settings ↔
      ∃ made, Resolves files start filePath draft settings made) ∧
    (∀ halt, outcome draft = .error halt ↔ Halts files start draft halt) ∧
    ∀ base made front entry rest others,
      BaseStands files start draft.baseDirectory base made →
      draft.sources = front ++ entry :: rest →
      (¬ ∃ file, SourceStands files made base entry file) →
      outcome { draft with sources := front ++ entry :: others } = outcome draft := by
  intro outcome
  refine ⟨exists_outcomeFrom_eq_ok_iff looking, fun settings => outcomeFrom_eq_ok_iff looking,
    fun halt => outcomeFrom_eq_error_iff looking, ?_⟩
  intro base made front entry rest others stands split fails
  exact outcomeFrom_eq_of_not_stand looking stands split fails others

/-- A source with a file that exists, one with an unknown name whose file is missing as well, and
one whose file is missing. -/
theorem resolve_halts_at_first_problem_unknown_source :
    let tree : FileTree := ⟨[(["data"], .directory), (["data", "a"], .file .empty)], []⟩
    let draft : Draft := ⟨"/data/.", "info", "", "logs", " log",
      [("helm", "\x7bBASE_DATA_DIRECTORY\x7d/a"), ("kubernetes", "b"), ("helm", "b")]⟩
    FileTree.fileSystem.LookingKeepsState ∧
      outcomeFrom FileTree.fileSystem tree "/settings" draft =
        .error (.reported ⟨"Failed to resolve integrations table.",
          ["Unknown integration source \"kubernetes\" in sources[1]."]⟩) := by
  intro tree draft
  have looking := FileTree.lookingKeepsState_fileSystem
  have here : FileTree.fileSystem.kindIn tree draft.baseDirectory = some .directory := by
    decide +kernel
  let made := ((FileTree.fileSystem.createDirectories draft.baseDirectory).run tree).2
  have base : BaseStands FileTree.fileSystem tree draft.baseDirectory "/data" made :=
    ⟨fun kind found => Option.some.inj (found.symm.trans here),
      Prod.ext (by decide +kernel) rfl, by decide +kernel⟩
  have logging : LoggingStands draft ⟨"info", [⟨none, none, none, 3⟩]⟩ ⟨"", []⟩ :=
    ⟨by decide +kernel, by decide +kernel, 'l', by decide, by decide⟩
  have first : SourceStands FileTree.fileSystem made "/data"
      ("helm", "\x7bBASE_DATA_DIRECTORY\x7d/a") ⟨.helm, "/data/a"⟩ :=
    ⟨by decide +kernel, by decide +kernel, by decide +kernel, by decide +kernel⟩
  have halts := Halts.sources base logging
    (.first [_] rfl (List.forall_mem_singleton.mpr ⟨_, first⟩)
      (.unknown (by decide +kernel)))
  obtain ⟨_, _, reports, _⟩ := resolve_halts_at_first_problem looking tree "/settings" draft
  exact ⟨looking, (reports _).mpr halts⟩

end Settings

end CloudBilling
