import ViewGlue.Foreign.Sources
import ViewGlue.Host.Sources
import ViewGlue.Record
import ViewGlue.Run.Console

/-!
# Checking

A check reports everything that generating would, without generating: the project's own
diagnostics, those of the host sources and, for the primary target, those of the native ones.
-/

namespace ViewGlue.Run

/-- What a check found. -/
structure CheckReport where
  /-- The path of the manifest. -/
  config : String
  /-- What would be generated. -/
  target : BuildTarget
  /-- The names of the views in the order of discovery. -/
  views : List String
  /-- The names of the factory groups. -/
  groups : List String
  /-- What is reported about declarations and views. -/
  diagnostics : List Diagnostic
  deriving DecidableEq, Repr

namespace CheckReport

/-- There are no errors. -/
def isValid (report : CheckReport) : Bool :=
  !Diagnostic.hasErrors report.diagnostics

/-- The line of a diagnostic. -/
def diagnosticLine (diagnostic : Diagnostic) : ConsoleLine :=
  match diagnostic.severity with
  | .info => .preformatted diagnostic.text
  | _ => .warning diagnostic.text

/-- The verdict. -/
def verdict (report : CheckReport) : String :=
  if report.isValid then "✓ " ++ report.config ++ " is valid"
  else
    let count := Diagnostic.errorCount report.diagnostics
    "✗ " ++ report.config ++ " has " ++ toString count ++ " error" ++ plural count

/-- The lines of the report. -/
def lines (report : CheckReport) : List ConsoleLine :=
  report.diagnostics.map diagnosticLine ++
    (if report.diagnostics.isEmpty then [] else [.newline]) ++
    [.preformatted report.verdict, .newline, .keyValue "Target" report.target.name,
     .heading ("Declarations (" ++ toString report.views.length ++ ")")] ++
    report.views.map .listItem ++
    [.heading ("Factory groups (" ++ toString report.groups.length ++ ")")] ++
    report.groups.map .listItem

/-- The record of the report. -/
def datum (report : CheckReport) : Datum :=
  .object
    [("config_path", .text report.config), ("target", .text report.target.name),
     ("declarations", .texts report.views), ("groups", .texts report.groups),
     ("diagnostics", .list (report.diagnostics.map (·.datum)))]

end CheckReport

/-- Checks a project. -/
def check (project : Project) (config : String) : CheckReport where
  config := config
  target := project.target
  views := project.views.map (·.name)
  groups := project.groupNames
  diagnostics :=
    project.diagnostics ++ (Host.sources project).diagnostics ++
      (if project.target = .primary then (Foreign.sources none project).diagnostics else [])

end ViewGlue.Run
