/-!
# Diagnostics

What the stages of a run report. An error means that something is left out; a warning and an
information do not.
-/

namespace ViewGlue

/-- How grave a diagnostic is. -/
inductive Severity where
  | error
  | warning
  | info
  deriving DecidableEq, Repr

/-- The written name of a severity. -/
def Severity.name : Severity → String
  | error => "error"
  | warning => "warning"
  | info => "info"

/-- A report about the input. -/
structure Diagnostic where
  /-- How grave it is. -/
  severity : Severity
  /-- The stage that reports. -/
  phase : String
  /-- The rule that it is about, if it has a name. -/
  code : Option String
  /-- The wording. -/
  message : String
  /-- The file that it is about. -/
  location : Option String
  deriving DecidableEq, Repr

namespace Diagnostic

/-- The diagnostic is an error. -/
def isError (diagnostic : Diagnostic) : Bool :=
  diagnostic.severity == .error

/-- The diagnostic is a warning. -/
def isWarning (diagnostic : Diagnostic) : Bool :=
  diagnostic.severity == .warning

/-- One line: severity, code in brackets, message, and place. -/
def text (diagnostic : Diagnostic) : String :=
  diagnostic.severity.name ++
    (match diagnostic.code with
     | some code => "[" ++ code ++ "]"
     | none => "") ++
    ": " ++ diagnostic.message ++
    (match diagnostic.location with
     | some location => " (at " ++ location ++ ")"
     | none => "")

/-- One of the diagnostics is an error. -/
def hasErrors (diagnostics : List Diagnostic) : Bool :=
  diagnostics.any isError

/-- How many diagnostics are errors. -/
def errorCount (diagnostics : List Diagnostic) : Nat :=
  diagnostics.countP isError

/-- How many diagnostics are warnings. -/
def warningCount (diagnostics : List Diagnostic) : Nat :=
  diagnostics.countP isWarning

end Diagnostic

end ViewGlue
