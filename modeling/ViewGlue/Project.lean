import ViewGlue.Diagnostic
import ViewGlue.Naming
import ViewGlue.Platform
import ViewGlue.Text.Order
import ViewGlue.View

/-!
# Projects

What the generators work on: the views of a run with its build target and runtime package.
Groups and source files come in the order in which the views first name them.
-/

namespace ViewGlue

/-- All that is known once every declaration was read. -/
structure Project where
  /-- What is generated. -/
  target : BuildTarget
  /-- The views in the order of discovery. -/
  views : List View
  /-- The reports about declarations and views. -/
  diagnostics : List Diagnostic
  /-- The package that shared code comes from and goes to. -/
  runtime : RuntimePackage
  deriving DecidableEq

namespace Project

/-- The factory groups with their views. -/
def groups (project : Project) : List (String × List View) :=
  Text.groupsBy View.group project.views

/-- The source files with their views. -/
def sourceFiles (project : Project) : List (SourceFile × List View) :=
  Text.groupsBy View.file project.views

/-- The names of the factory groups. -/
def groupNames (project : Project) : List String :=
  project.groups.map (·.1)

end Project

end ViewGlue
