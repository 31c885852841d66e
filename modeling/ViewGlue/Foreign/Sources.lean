import ViewGlue.Foreign.Artifacts
import ViewGlue.Output.Registry

/-!
# Native sources

The native files of a project. Only the primary target has any: a protocol and a binding class
for each group, then an observable object for each observed view.
-/

namespace ViewGlue.Foreign

/-- A generated native file. -/
inductive Generated where
  /-- The protocol of a group. -/
  | protocol (part : FactoryProtocol)
  /-- The binding class of a group. -/
  | binding (part : Binding)
  /-- The observable object of a view. -/
  | observable (part : Observable)

namespace Generated

/-- The path of a generated file. -/
def path : Generated → String
  | protocol part => part.path
  | binding part => part.path
  | observable part => part.path

/-- The declarations of a generated file. -/
def file : Generated → File
  | protocol part => part.file
  | binding part => part.file
  | observable part => part.file

/-- The entry of a generated file. -/
def entry (generated : Generated) : Output.Entry :=
  ⟨generated.path, generated.file.renderGenerated, .foreign⟩

end Generated

/-- The protocol and the binding class of each group. -/
def factories (modules : List String) (groups : List (String × List BridgedView)) :
    List Generated :=
  groups.flatMap fun group =>
    [.protocol ⟨group.1, group.2, modules⟩, .binding ⟨group.1, group.2, modules⟩]

/-- The observable objects of observed views. -/
def observables (modules : List String) (groups : List (String × List BridgedView)) :
    List Generated :=
  ((groups.flatMap (·.2)).filter (·.view.mode = .observed)).map fun bridged =>
    .observable ⟨bridged, modules⟩

/-- The groups that native files are generated for. -/
def targetGroups (project : Project) : List (String × List BridgedView) :=
  if project.target = .primary then bridgedGroups project else []

/-- The files of a project in the order in which they are registered. -/
def generated (modules : List String) (project : Project) : List Generated :=
  factories modules (targetGroups project) ++ observables modules (targetGroups project)

/-- The native sources of a project, importing a framework if one is given. -/
def sources (framework : Option String) (project : Project) : Output.Sources :=
  let registry :=
    Output.Registry.ofList ((generated framework.toList project).map (·.entry))
  { language := language
    extension := "swift"
    registry
    diagnostics :=
      (if project.target = .primary then bridgeDiagnostics project else []) ++
        registry.diagnostics }

end ViewGlue.Foreign
