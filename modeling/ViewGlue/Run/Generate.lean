import ViewGlue.Foreign.Sources
import ViewGlue.Host.Sources
import ViewGlue.Output.Written
import ViewGlue.Run.Console

/-!
# Generating

Host sources go to one directory; the native sources of the primary target go to another, if
one is given. A dry run shows the files, and a real run writes them, the host's first.
-/

namespace ViewGlue.Run

open Output (FileTree Sources Written)

/-- Where generated sources go. -/
structure Destination where
  /-- The directory of host sources. -/
  host : String
  /-- Where native sources go, if they are wanted. -/
  foreign : Option String
  /-- The framework that native sources import. -/
  framework : Option String
  deriving DecidableEq, Repr

/-- The sources of a project, each with its directory. -/
def outputs (project : Project) (destination : Destination) : List (Sources × String) :=
  (Host.sources project, destination.host) ::
    (match project.target, destination.foreign with
     | .primary, some directory =>
       [(Foreign.sources destination.framework project, directory)]
     | _, _ => [])

/-- The diagnostics of a project and of its sources. -/
def allDiagnostics (project : Project) (destination : Destination) : List Diagnostic :=
  project.diagnostics ++ (outputs project destination).flatMap (·.1.diagnostics)

/-- A file that would be generated. -/
structure PreviewFile where
  /-- Where it would stand, its directory included. -/
  path : String
  /-- The text of the file. -/
  content : String
  deriving DecidableEq, Repr

/-- The sources of a language that were written. -/
structure WrittenSources where
  /-- The name of the language. -/
  language : String
  /-- The directory of its sources. -/
  directory : String
  /-- Which files were written and which were not. -/
  record : Written
  deriving DecidableEq, Repr

/-- What became of the files. -/
inductive Outcome where
  /-- A dry run shows them. -/
  | preview (files : List PreviewFile)
  /-- A real run wrote them, language by language. -/
  | written (sources : List WrittenSources)
  deriving DecidableEq, Repr

/-- What a run generated. -/
structure GenerateReport where
  /-- What was generated. -/
  target : BuildTarget
  /-- How many views there are. -/
  viewCount : Nat
  /-- How many factory groups there are. -/
  groupCount : Nat
  /-- The reports of the project and of all generators. -/
  diagnostics : List Diagnostic
  /-- What became of the files. -/
  outcome : Outcome
  deriving DecidableEq, Repr

/-- A language whose sources could not be written. -/
structure WriteFailure where
  /-- The name of the language. -/
  language : String
  deriving DecidableEq, Repr

/-- The wording of a failure to write. -/
def WriteFailure.message (failure : WriteFailure) : String :=
  "Failed to write " ++ failure.language ++ " sources"

namespace GenerateReport

/-- There are errors. -/
def hasErrors (report : GenerateReport) : Bool :=
  Diagnostic.hasErrors report.diagnostics

/-- The lines of diagnostics; information is left out. -/
def diagnosticLines (diagnostics : List Diagnostic) : List ConsoleLine :=
  (diagnostics.filter (·.severity ≠ .info)).map fun diagnostic => .warning diagnostic.text

/-- The lines about written sources. -/
def writtenLines (sources : WrittenSources) : List ConsoleLine :=
  [.newline,
   .heading (sources.language ++ " (" ++ sources.directory ++ ": " ++
    toString sources.record.written.length ++ " written, " ++
    toString sources.record.unchanged.length ++ " unchanged)")] ++
    sources.record.written.map .addedItem

/-- The lines about what became of the files. -/
def outcomeLines (report : GenerateReport) : List ConsoleLine :=
  match report.outcome with
  | .written sources =>
    [.keyValue "Target" report.target.name,
     .keyValue "Declarations"
      (toString report.viewCount ++ " in " ++ toString report.groupCount ++
        " factory groups")] ++
      sources.flatMap writtenLines ++
      (if report.hasErrors then
        let count := Diagnostic.errorCount report.diagnostics
        [.newline, .preformatted (toString count ++ " error" ++ plural count ++ " reported")]
      else [])
  | .preview files =>
    files.flatMap (fun file => [.divider file.path, .preformatted file.content]) ++
      [.divider "Summary",
       .preformatted (toString files.length ++ " files would be generated")]

/-- The lines of the report. -/
def lines (report : GenerateReport) : List ConsoleLine :=
  diagnosticLines report.diagnostics ++ report.outcomeLines

end GenerateReport

/-- The report of a run with this outcome. -/
def generateReport (project : Project) (destination : Destination) (outcome : Outcome) :
    GenerateReport where
  target := project.target
  viewCount := project.views.length
  groupCount := project.groups.length
  diagnostics := allDiagnostics project destination
  outcome := outcome

/-- The files that sources would be written to. -/
def previewSources (sources : Sources) (directory : String) : List PreviewFile :=
  sources.registry.entries.map fun entry => ⟨entry.fullPath directory, entry.content⟩

/-- A dry run. -/
def preview (project : Project) (destination : Destination) : GenerateReport :=
  generateReport project destination
    (.preview ((outputs project destination).flatMap fun output =>
      previewSources output.1 output.2))

/-- Writes sources to their directories. What was written before a failure stays. -/
def writeOutputs (tree : FileTree) :
    List (Sources × String) → Except WriteFailure (List WrittenSources) × FileTree
  | [] => (.ok [], tree)
  | (sources, directory) :: rest =>
    match tree.writeRegistry directory sources.registry with
    | (none, tree) => (.error ⟨sources.language⟩, tree)
    | (some record, tree) =>
      match writeOutputs tree rest with
      | (.error failure, tree) => (.error failure, tree)
      | (.ok others, tree) => (.ok (⟨sources.language, directory, record⟩ :: others), tree)

/-- A real run. -/
def generate (tree : FileTree) (project : Project) (destination : Destination) :
    Except WriteFailure GenerateReport × FileTree :=
  match writeOutputs tree (outputs project destination) with
  | (.error failure, tree) => (.error failure, tree)
  | (.ok sources, tree) => (.ok (generateReport project destination (.written sources)), tree)

end ViewGlue.Run
