import ViewGlue.Host.CallSite
import ViewGlue.Host.Compositions
import ViewGlue.Host.Delegate
import ViewGlue.Host.Factory
import ViewGlue.Output.Registry
import ViewGlue.Project

/-!
# Host sources

The host files of a project. The common target has the accessors of the groups; every target
has a factory for each group, and the primary target also a delegate for each view and the call
sites of each source file.
-/

namespace ViewGlue.Host

/-- A generated host file. -/
inductive Generated where
  /-- The accessors of all groups. -/
  | compositions (part : Compositions)
  /-- The factory of a group. -/
  | factory (part : Factory)
  /-- The delegate of a view. -/
  | delegate (part : Delegate)
  /-- The functions for a source file. -/
  | callSite (part : CallSite)

namespace Generated

/-- The path of a generated file. -/
def path : Generated → String
  | compositions part => part.path
  | factory part => part.path
  | delegate part => part.path
  | callSite part => part.path

/-- The declarations of a generated file. -/
def file : Generated → File
  | compositions part => part.file
  | factory part => part.file
  | delegate part => part.file
  | callSite part => part.file

/-- The category of a generated file. -/
def category : Generated → Output.Category
  | compositions _ => .factory
  | factory _ => .factory
  | delegate _ => .delegate
  | callSite _ => .callSite

/-- The entry of a generated file. -/
def entry (generated : Generated) : Output.Entry :=
  ⟨generated.path, generated.file.renderGenerated, generated.category⟩

end Generated

/-- The accessors of a project's groups, which the common target has if there are groups. -/
def compositions (project : Project) : List Compositions :=
  if project.target = .common ∧ project.groups ≠ [] then
    [⟨project.groupNames, project.runtime⟩]
  else []

/-- The factories of a project's groups. -/
def factories (project : Project) : List Factory :=
  project.groups.map fun group =>
    .ofGroup project.target project.runtime group.1 group.2

/-- The delegates of a project's views. -/
def delegates (project : Project) : List Delegate :=
  project.views.map fun view => ⟨view, project.runtime⟩

/-- The call sites of a project's source files. -/
def callSites (project : Project) : List CallSite :=
  project.sourceFiles.map fun source =>
    .ofSource project.target project.runtime source.1 source.2

/-- The files of a project in the order in which they are registered. -/
def generated (project : Project) : List Generated :=
  (compositions project).map .compositions ++ (factories project).map .factory ++
    (if project.target = .primary then
      (delegates project).map .delegate ++ (callSites project).map .callSite
    else [])

/-- The host sources of a project. -/
def sources (project : Project) : Output.Sources :=
  let registry := Output.Registry.ofList ((generated project).map (·.entry))
  { language := "kotlin", extension := "kt", registry, diagnostics := registry.diagnostics }

end ViewGlue.Host
