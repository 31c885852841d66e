import ViewGlue.Proofs.RunReports
import ViewGlue.Run.Execution

/-!
# Checks and dry runs

A check and a dry run with the same input arguments load the same project and report the same. The
dry run needs one thing more: for the primary target a directory for native sources, which no check
asks for (`dryRun_succeeds_iff`).
-/

namespace ViewGlue.Run

open Output (FileTree)

/-! ## Input arguments -/

/-- An argument that says what is read: the manifest, a platform, or an option that overrides the
manifest's. -/
inductive InputArgument where
  /-- The path of the manifest. -/
  | config (path : String)
  /-- A platform, by its name. -/
  | platform (name : String)
  /-- An option with its value. -/
  | override (entry : String)
  deriving DecidableEq, Repr

namespace InputArgument

/-- The option that an argument is given with. -/
def flag : InputArgument → Flag
  | config _ => .config
  | platform _ => .platform
  | override _ => .option

/-- The value of an argument. -/
def value : InputArgument → String
  | config path => path
  | platform name => name
  | override entry => entry

/-- An argument as it is written on a command line. -/
def written : InputArgument → List String
  | config path => ["--config", path]
  | platform name => ["--platform", name]
  | override entry => ["--option", entry]

/-- What input arguments add to the options read so far. -/
def readAll (draft : Draft) : List InputArgument → Except UsageError Draft
  | [] => .ok draft
  | argument :: rest =>
    if isValue argument.value then
      match draft.takeValue argument.flag argument.value with
      | .ok draft => readAll draft rest
      | .error error => .error error
    else .error (.missingValue argument.flag.name)

/-- Every command takes input arguments alike. -/
theorem takeArguments_written (command : Command) (draft : Draft)
    (arguments : List InputArgument) :
    takeArguments command draft none (arguments.flatMap written) =
      (readAll draft arguments).map (·.invocation command) := by
  induction arguments generalizing draft with
  | nil => rfl
  | cons argument rest ih =>
    have named : takeArguments command draft none ((argument :: rest).flatMap written) =
        takeArguments command draft (some argument.flag)
          (argument.value :: rest.flatMap written) := by
      cases argument <;> cases command <;> rfl
    rw [named, takeArguments, readAll]
    split
    · cases draft.takeValue argument.flag argument.value with
      | ok taken => exact ih taken
      | error _ => rfl
    · rfl

/-- No input argument asks for a dry run. -/
theorem takeValue_dryRun (draft : Draft) (argument : InputArgument) :
    Draft.takeValue { draft with dryRun := true } argument.flag argument.value =
      (draft.takeValue argument.flag argument.value).map ({ · with dryRun := true }) := by
  cases argument with
  | config path =>
    simp only [flag, value, Draft.takeValue]
    cases Draft.path .config draft.config path <;> rfl
  | platform name =>
    simp only [flag, value, Draft.takeValue]
    cases Platform.read name <;> rfl
  | override entry =>
    simp only [flag, value, Draft.takeValue]
    cases Options.readOverride entry <;> rfl

/-- Input arguments are read alike in a dry run. -/
theorem readAll_dryRun (draft : Draft) (arguments : List InputArgument) :
    readAll { draft with dryRun := true } arguments =
      (readAll draft arguments).map ({ · with dryRun := true }) := by
  induction arguments generalizing draft with
  | nil => rfl
  | cons argument rest ih =>
    rw [readAll, readAll, takeValue_dryRun]
    split
    · cases draft.takeValue argument.flag argument.value with
      | ok taken => exact ih taken
      | error _ => rfl
    · rfl

end InputArgument

open InputArgument

/-- A check reads its input arguments. -/
theorem readArguments_check (arguments : List InputArgument) :
    readArguments ("check" :: arguments.flatMap written) =
      (readAll {} arguments).map fun draft => .check draft.input (draft.format.getD .text) :=
  takeArguments_written .check {} arguments

/-- A dry run reads its input arguments. -/
theorem readArguments_dryRun (arguments : List InputArgument) :
    readArguments ("generate" :: "--dry-run" :: arguments.flatMap written) =
      (readAll {} arguments).map fun draft =>
        .generate draft.input (draft.output.getD ".") true := by
  have taken : readArguments ("generate" :: "--dry-run" :: arguments.flatMap written) =
      takeArguments .generate { dryRun := true } none (arguments.flatMap written) := by rfl
  rw [taken, takeArguments_written, show ({ dryRun := true } : Draft) =
    { ({} : Draft) with dryRun := true } from rfl, readAll_dryRun]
  cases readAll {} arguments <;> rfl

/-! ## Exit codes -/

/-- If the target needs a directory for native sources, the options name one. -/
def Loaded.HasDirectory (loaded : Loaded) : Prop :=
  loaded.project.target = .primary → ∃ directory, loaded.options.swiftOutput = .ok directory

/-- A report ends with success if it has no errors. -/
theorem exitCode_report_eq_zero_iff {lines : List ConsoleLine} {hasErrors : Bool} :
    (Ending.report lines hasErrors).exitCode = 0 ↔ hasErrors = false := by
  cases hasErrors <;> simp [Ending.report]

/-- A check ends with success if the project that is loaded has no errors. -/
theorem exitCode_check_eq_zero_iff {input : Input} {format : Format} {text : Option String} :
    (checkEnding input format text).exitCode = 0 ↔
      ∃ loaded, loadText input text = .ok loaded ∧
        (check loaded.project input.config).isValid = true := by
  rw [checkEnding]
  cases loadText input text with
  | error fault => simp [Ending.failure]
  | ok loaded =>
    cases format with
    | text => simp [exitCode_report_eq_zero_iff]
    | json => simp

/-- The destination is known if the directory that is needed is. -/
theorem exists_destination_iff {loaded : Loaded} {directory : String} :
    (∃ known, destination loaded directory = .ok known) ↔ loaded.HasDirectory := by
  rw [destination, Loaded.HasDirectory]
  split
  · rename_i primary
    cases loaded.options.swiftOutput <;> simp [Except.map, primary]
  · rename_i other
    simp [other]

/-- A known destination has the directory that the target needs. -/
theorem isSome_foreign_of_destination {loaded : Loaded} {directory : String} {known : Destination}
    (found : destination loaded directory = .ok known)
    (primary : loaded.project.target = .primary) :
    known.foreign.isSome = true := by
  rw [destination, if_pos primary] at found
  cases output : loaded.options.swiftOutput with
  | error _ =>
    rw [output] at found
    cases found
  | ok path =>
    rw [output] at found
    cases found
    rfl

/-- A dry run ends with success if a check of the same input does and the options name the
directory that the target needs. -/
theorem exitCode_execute_dryRun_iff (tree : FileTree) (input : Input) (format : Format)
    (directory : String) :
    (execute tree (.generate input directory true)).1.exitCode = 0 ↔
      (execute tree (.check input format)).1.exitCode = 0 ∧
        ∀ loaded, loadText input (tree.read? input.config) = .ok loaded → loaded.HasDirectory := by
  show _ ↔ (checkEnding input format (tree.read? input.config)).exitCode = 0 ∧ _
  rw [exitCode_check_eq_zero_iff, execute, loadForGenerating]
  cases loadText input (tree.read? input.config) with
  | error fault => simp [bind, Except.bind, Ending.failure]
  | ok loaded =>
    have valid : (∃ other, (Except.ok loaded : Except Manifest.Error Loaded) = .ok other ∧
        (check other.project input.config).isValid = true) ↔
          (check loaded.project input.config).isValid = true := by simp
    have directed : (∀ other, (Except.ok loaded : Except Manifest.Error Loaded) = .ok other →
        other.HasDirectory) ↔ loaded.HasDirectory := by simp
    rw [valid, directed]
    cases found : destination loaded directory with
    | error missing =>
      have none : ¬ loaded.HasDirectory := fun has => by
        obtain ⟨known, other⟩ := exists_destination_iff.2 has
        rw [found] at other
        cases other
      simp [bind, Except.bind, Except.mapError, found, Ending.failure, none]
    | ok known =>
      have has : loaded.HasDirectory := exists_destination_iff.1 ⟨known, found⟩
      have reports := allDiagnostics_eq_check (isSome_foreign_of_destination found) input.config
      have ends : (generateEnding (.ok (preview loaded.project known))).exitCode = 0 ↔
          (check loaded.project input.config).isValid = true := by
        show (Ending.report _ (Diagnostic.hasErrors
          (allDiagnostics loaded.project known))).exitCode = 0 ↔ _
        rw [exitCode_report_eq_zero_iff, reports, CheckReport.isValid, Bool.not_eq_true']
      simpa [bind, Except.bind, pure, Except.pure, Except.mapError, found, has] using ends

/-! ## Command lines -/

/-- What input arguments load from a file tree, if it can be loaded. -/
def loadArguments (tree : FileTree) (arguments : List InputArgument) : Option Loaded :=
  match readAll {} arguments with
  | .ok draft => (loadText draft.input (tree.read? draft.input.config)).toOption
  | .error _ => none

/-- With the same input arguments a dry run ends with success if a check does and the options name
the directory for native sources that the target needs. -/
theorem dryRun_succeeds_iff (tree : FileTree) (arguments : List InputArgument) :
    (executeArguments tree
        ("generate" :: "--dry-run" :: arguments.flatMap written)).1.exitCode = 0 ↔
      (executeArguments tree ("check" :: arguments.flatMap written)).1.exitCode = 0 ∧
        ∀ loaded ∈ loadArguments tree arguments, loaded.HasDirectory := by
  rw [executeArguments, executeArguments, readArguments_check, readArguments_dryRun, loadArguments]
  cases readAll {} arguments with
  | error fault => simp [Except.map, Ending.usage]
  | ok draft =>
    have runs := exitCode_execute_dryRun_iff tree draft.input (draft.format.getD .text)
      (draft.output.getD ".")
    cases outcome : loadText draft.input (tree.read? draft.input.config) with
    | error fault => simpa [outcome, Except.map, Except.toOption] using runs
    | ok loaded => simpa [outcome, Except.map, Except.toOption] using runs

/-- A manifest with a view for the primary target that names no directory for native sources. -/
def undirectedText : String :=
  "platforms = [\"native\"]\n\n" ++
  "[options]\n" ++
  "\"viewbridge.targetName\" = \"iosArm64\"\n\n" ++
  "[[files]]\n" ++
  "path = \"Maps.kt\"\n" ++
  "package = \"app\"\n\n" ++
  "[[files.declarations]]\n" ++
  "name = \"ShowMap\"\n" ++
  "visibility = \"public\"\n"

/-- The manifest in a directory of its own. -/
def undirectedTree : FileTree :=
  ⟨[(Output.Place.start.inside "bridge.toml", .file undirectedText)]⟩

/-- The manifest passes the check, and the dry run stops at the missing directory. -/
theorem check_misses_directory :
    (executeArguments undirectedTree ["check"]).1.exitCode = 0 ∧
      (executeArguments undirectedTree ["generate", "--dry-run"]).1.exitCode = 1 := by
  constructor
  · decide +kernel
  · decide +kernel

end ViewGlue.Run
