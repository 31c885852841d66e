import ViewGlue.Diagnostic
import ViewGlue.Naming
import ViewGlue.View

/-!
# Lints

Checks over all views of a run, made once every round is known. Each reports warnings and
leaves the views as they are.
-/

namespace ViewGlue

/-- A check over all views. -/
structure Lint where
  /-- The code of its warnings. -/
  name : String
  /-- What it warns of. -/
  description : String
  /-- The warnings about views in the order of discovery. -/
  check : List View → List Diagnostic

namespace Lint

/-- A warning about a view. -/
def warning (code : String) (view : View) (message : String) : Diagnostic where
  severity := .warning
  phase := "lint"
  code := some code
  message := view.name ++ ": " ++ message
  location := some view.file.path

namespace Duplicates

/-- How a view meets an earlier one of its name. -/
inductive Clash where
  /-- One of the earlier views in the group has the same parameter types. -/
  | sameMethod (first : View)
  /-- No earlier view in the group has the same parameter types. -/
  | overload (first : View)
  /-- The earlier views are in other groups. -/
  | otherGroup (first : View)

/-- The types of the data parameters. -/
def dataTypes (view : View) : List TypeExpr :=
  view.dataParameters.map (·.type)

/-- How a view meets the earlier views of its name, if there are any. -/
def clash? (earlier : List View) (view : View) : Option Clash :=
  match earlier with
  | [] => none
  | first :: _ =>
    match earlier.filter (·.group = view.group) with
    | [] => some (.otherGroup first)
    | groupFirst :: others =>
      if (groupFirst :: others).any (dataTypes · = dataTypes view) then
        some (.sameMethod groupFirst)
      else some (.overload groupFirst)

/-- The wording of a clash. -/
def Clash.message (view : View) : Clash → String
  | sameMethod first =>
    "factory method '" ++ Naming.createMethod view.name ++ "' in group '" ++ view.group ++
      "' is declared twice with identical parameter types (first in " ++ first.file.path ++ ")"
  | overload first =>
    "overload of '" ++ Naming.createMethod view.name ++ "' in group '" ++ view.group ++
      "' shares the delegate name '" ++ Naming.delegate view.name ++
      "' (first in " ++ first.file.path ++ ")"
  | otherGroup first =>
    "declared in groups '" ++ first.group ++ "' and '" ++ view.group ++
      "', which share the delegate name '" ++ Naming.delegate view.name ++
      "' (first in " ++ first.file.path ++ ")"

/-- The name of the check. -/
def lintName : String := "duplicate-factory-method"

/-- The warnings about views, where `earlier` come before them. -/
def warnings (earlier : List View) : List View → List Diagnostic
  | [] => []
  | view :: rest =>
    (match clash? (earlier.filter (·.name = view.name)) view with
     | some clash => [warning lintName view (clash.message view)]
     | none => []) ++
      warnings (earlier ++ [view]) rest

end Duplicates

/-- Views must not share a factory method or a delegate. -/
def duplicates : Lint where
  name := Duplicates.lintName
  description := "Detect declarations whose derived factory method or delegate names collide"
  check := Duplicates.warnings []

namespace UnqualifiedTarget

/-- The name of the check. -/
def lintName : String := "unqualified-render-target"

/-- The warning about a view whose own render target has no package. -/
def warning? (view : View) : Option Diagnostic :=
  match view.customTarget with
  | none => none
  | some target =>
    if '.' ∈ target.toList then none
    else
      some (warning lintName view
        ("custom render target '" ++ target ++
          "' is not fully qualified; resolving it in package '" ++ view.file.package ++ "'"))

end UnqualifiedTarget

/-- A render target of a view's own must name its package. -/
def unqualifiedTarget : Lint where
  name := UnqualifiedTarget.lintName
  description := "Require custom render targets to be fully-qualified references"
  check views := views.filterMap UnqualifiedTarget.warning?

/-- The checks that every run makes, in this order. -/
def builtin : List Lint := [duplicates, unqualifiedTarget]

end Lint

end ViewGlue
