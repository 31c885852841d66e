import ViewGlue.Discovery
import ViewGlue.Manifest.Basic
import ViewGlue.Run.Arguments
import ViewGlue.Run.Check
import ViewGlue.Run.Generate

/-!
# Executing command lines

A command reads a manifest, makes a project of it and checks it or generates its sources. The
exit code is 0 if all went well, 1 if there are errors or nothing could be done, and 2 if the
command line itself is wrong.
-/

namespace ViewGlue.Run

open Output (FileTree)

/-- What a command leaves behind besides files. -/
structure Ending where
  /-- Zero if all went well. -/
  exitCode : Nat
  /-- What stands on the standard output. -/
  output : String := ""
  /-- What stands on the error output. -/
  errors : String := ""
  deriving DecidableEq, Repr

namespace Ending

/-- The end of a command that could not start. -/
def usage (error : UsageError) : Ending :=
  { exitCode := 2, errors := "error: " ++ error.message ++ "\n" }

/-- The end of a command that could not be carried out. -/
def failure (message : String) : Ending :=
  { exitCode := 1, errors := "error: " ++ message ++ "\n" }

/-- The end of a command with a report, which has errors or not. -/
def report (lines : List ConsoleLine) (hasErrors : Bool) : Ending where
  exitCode := if hasErrors then 1 else 0
  output := Text.concat (lines.map ConsoleLine.output)
  errors := Text.concat (lines.map ConsoleLine.errors)

end Ending

/-- The output that names the program's version. -/
def versionText : String := "bridge 0.3.0\n"

/-- A project with the options it was made with. -/
structure Loaded where
  /-- The options, overrides included. -/
  options : Options
  /-- The project that was read. -/
  project : Project

/-- The project of a manifest. Platforms and options of the command line come before those of
the manifest. -/
def load (input : Input) (manifest : Manifest) : Except MissingOption Loaded := do
  let options := (Options.ofList manifest.options).merge input.overrides
  let platforms := if input.platforms.isEmpty then manifest.platforms else input.platforms
  let target ← options.buildTarget platforms
  return ⟨options, Discovery.project options (manifest.rounds.map (·.2)) target⟩

/-- The project of a manifest's text, which is absent if it could not be read. -/
def loadText (input : Input) (text : Option String) : Except Manifest.Error Loaded :=
  match text with
  | none => .error (.unreadable input.config)
  | some text =>
    match Manifest.parse text with
    | .error error => .error error
    | .ok manifest => (load input manifest).mapError .missingOption

/-- Where the sources of a loaded project go. The primary target needs a directory for native
sources. -/
def destination (loaded : Loaded) (directory : String) : Except MissingOption Destination :=
  if loaded.project.target = .primary then
    loaded.options.swiftOutput.map fun foreign =>
      ⟨directory, some foreign, loaded.options.framework?⟩
  else .ok ⟨directory, none, loaded.options.framework?⟩

/-- The project and the destination of a generating command. -/
def loadForGenerating (input : Input) (directory : String) (text : Option String) :
    Except Manifest.Error (Project × Destination) := do
  let loaded ← loadText input text
  let destination ← (destination loaded directory).mapError .missingOption
  return (loaded.project, destination)

/-- The end of a checking command. -/
def checkEnding (input : Input) (format : Format) (text : Option String) : Ending :=
  match loadText input text with
  | .error error => .failure error.message
  | .ok loaded =>
    let report := check loaded.project input.config
    match format with
    | .text => .report report.lines (!report.isValid)
    | .json =>
      { exitCode := if report.isValid then 0 else 1
        output := report.datum.render 0 ++ "\n" }

/-- The end of a generating command that ran. -/
def generateEnding : Except WriteFailure GenerateReport → Ending
  | .error failure => .failure failure.message
  | .ok report => .report report.lines report.hasErrors

/-- Executes what a command line asks for in a file tree. -/
def execute (tree : FileTree) : Invocation → Ending × FileTree
  | .version => ({ exitCode := 0, output := versionText }, tree)
  | .check input format => (checkEnding input format (tree.read? input.config), tree)
  | .generate input directory dryRun =>
    match loadForGenerating input directory (tree.read? input.config) with
    | .error error => (.failure error.message, tree)
    | .ok (project, destination) =>
      if dryRun then (generateEnding (.ok (preview project destination)), tree)
      else
        let (result, tree) := generate tree project destination
        (generateEnding result, tree)

/-- Executes a command line in a file tree. -/
def executeArguments (tree : FileTree) (arguments : List String) : Ending × FileTree :=
  match readArguments arguments with
  | .error error => (.usage error, tree)
  | .ok invocation => execute tree invocation

end ViewGlue.Run
