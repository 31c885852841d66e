import ViewGlue.Proofs.Contributions
import ViewGlue.Proofs.GeneratedFiles

/-!
# No view is lost

Every declaration of a run becomes a view or is reported, and every view of a primary project can
be found in the host sources and either in the native ones or among the reports about them
(`no_view_is_lost`). No file that is generated for a view disappears silently: it is kept for its
path or reported as a collision.
-/

namespace ViewGlue

open Output

/-! ## Host sources -/

namespace Host

variable {project : Project} {before behind : List View} {view : View}

/-- A generated file has its entry among those that are registered. -/
theorem registered_of_mem_generated {part : Generated} (inside : part ∈ generated project) :
    Registry.Registered (sources project).registry ((generated project).map (·.entry))
      part.entry :=
  Registry.registered_of_mem (List.mem_map_of_mem inside)

/-- What the host sources have of a view that stands between other views: one method of the one
factory of its group, a delegate, and one function at the call sites of its source file. The
factory is kept; the others may collide with earlier files. -/
structure Accounts (project : Project) (before : List View) (view : View) (behind : List View) :
    Prop where
  /-- Exactly one file is the factory of the group; the view's method stands between those of its
  neighbours there, and no earlier file takes its path. -/
  factory : ∃ part, part.group = view.group ∧ Generated.factory part ∈ generated project ∧
    (∀ other, Generated.factory other ∈ generated project → other.group = view.group →
      other = part) ∧
    part.methods = (view.groupOf before).map (CreateMethod.ofView project.runtime) ++
      CreateMethod.ofView project.runtime view ::
        (view.groupOf behind).map (CreateMethod.ofView project.runtime) ∧
    part.interface.functions = part.methods.map (·.function part.scope) ∧
    (sources project).registry.find? part.path = some (Generated.factory part).entry
  /-- The delegate of the view is registered. -/
  delegate : Registry.Registered (sources project).registry
    ((generated project).map (·.entry)) (Generated.delegate ⟨view, project.runtime⟩).entry
  /-- The view's function stands between those of its neighbours in a file that is registered. -/
  callSite : ∃ part, part.source = view.file ∧
    part.functions = (view.fileOf before).map (⟨·, project.runtime⟩) ++
      ⟨view, project.runtime⟩ :: (view.fileOf behind).map (⟨·, project.runtime⟩) ∧
    Registry.Registered (sources project).registry ((generated project).map (·.entry))
      (Generated.callSite part).entry

/-- The host sources have something of every view of a primary project. -/
theorem accounts (primary : project.target = .primary)
    (place : project.views = before ++ view :: behind) : Accounts project before view behind := by
  have inside : view ∈ project.views := by simp [place]
  constructor
  · have group := Project.mem_groups_of_mem inside
    let part := Factory.ofGroup project.target project.runtime view.group
      (view.groupOf project.views)
    have generated : Generated.factory part ∈ generated project :=
      mem_generated_factory.2 ⟨_, group, rfl⟩
    refine ⟨part, rfl, generated, ?_, ?_, rfl, find?_factory generated⟩
    · intro other generated named
      obtain ⟨otherGroup, found, rfl⟩ := mem_generated_factory.1 generated
      rw [Project.eq_of_mem_groups group found named]
    · simp [part, Factory.ofGroup, primary, place, View.groupOf]
  · apply registered_of_mem_generated
    simp [generated, primary, delegates, inside]
  · have source := Project.mem_sourceFiles_of_mem inside
    let part := CallSite.ofSource project.target project.runtime view.file
      (view.fileOf project.views)
    have generated : Generated.callSite part ∈ generated project := by
      have listed : part ∈ callSites project := List.mem_map.2 ⟨_, source, rfl⟩
      simp [Host.generated, primary, listed]
    refine ⟨part, rfl, ?_, registered_of_mem_generated generated⟩
    simp [part, CallSite.ofSource, place, View.fileOf]

end Host

/-! ## Native sources -/

namespace Foreign

variable {framework : Option String} {project : Project} {before behind : List View}
  {view : View}

/-- A native file is generated and settled. -/
def IsRegistered (framework : Option String) (project : Project) (part : Generated) : Prop :=
  Registry.Registered (sources framework project).registry
    ((generated framework.toList project).map (·.entry)) part.entry

/-- The reports about other views and the collisions. -/
def otherReports (framework : Option String) (project : Project) (others : List View) :
    List Diagnostic :=
  others.filterMap BridgedView.report? ++ (sources framework project).registry.diagnostics

/-- What the native sources have of a view that stands between other views. If it can be bridged,
the protocol and the binding of its group have a function for it, an observed view has an
observable object, and nothing is reported about it; otherwise no file is about it and one error
is reported. -/
inductive Accounts (framework : Option String) (project : Project) (before : List View)
    (view : View) (behind : List View) : Prop where
  /-- The view can be bridged, and every artifact of its group has a function for it. -/
  | bridged {bridged : BridgedView} (maps : BridgedView.ofView view = .ok bridged)
      (protocol : ∃ part, part.group = view.group ∧
        (∀ other, Generated.protocol other ∈ generated framework.toList project →
          other.group = view.group → other = part) ∧
        IsRegistered framework project (.protocol part) ∧
        part.protocol.requirements =
          (bridgedOf view before).map FactoryProtocol.requirement ++
            FactoryProtocol.requirement bridged ::
              (bridgedOf view behind).map FactoryProtocol.requirement)
      (binding : ∃ part, part.group = view.group ∧
        (∀ other, Generated.binding other ∈ generated framework.toList project →
          other.group = view.group → other = part) ∧
        IsRegistered framework project (.binding part) ∧
        part.cls.functions = part.initializer ::
          ((bridgedOf view before).map part.method ++ part.method bridged ::
            (bridgedOf view behind).map part.method))
      (observable : view.mode = .observed →
        IsRegistered framework project (.observable ⟨bridged, framework.toList⟩))
      (unreported : (sources framework project).diagnostics.Perm
        (otherReports framework project (before ++ behind)))
  /-- The view cannot be bridged, so that it is missing everywhere and reported once. -/
  | leftOut {fault : Diagnostic} (grave : fault.isError = true)
      (code : fault.code = some "unmapped-type")
      (named : view.name.toList <+: fault.message.toList)
      (absent : ∀ part ∈ generated framework.toList project, ∀ bridged ∈ part.views,
        bridged.view ≠ view)
      (reported : (sources framework project).diagnostics.Perm
        (fault :: otherReports framework project (before ++ behind)))

/-- The bridge reports are those of the views, group by group. -/
theorem bridgeDiagnostics_perm (project : Project) :
    (bridgeDiagnostics project).Perm (project.views.filterMap BridgedView.report?) := by
  have grouped := (Text.flatMap_groupsBy_perm View.group project.views).filterMap
    BridgedView.report?
  have split : bridgeDiagnostics project =
      (project.groups.flatMap (·.2)).filterMap BridgedView.report? := by
    rw [List.filterMap_flatMap]
    rfl
  rw [split]
  exact grouped

/-- What is reported about a view stands among the bridge reports about the other views. -/
theorem bridgeDiagnostics_perm_of_reported (place : project.views = before ++ view :: behind)
    {fault : Diagnostic} (reported : BridgedView.report? view = some fault) :
    (bridgeDiagnostics project).Perm
      (fault :: (before ++ behind).filterMap BridgedView.report?) := by
  refine (bridgeDiagnostics_perm project).trans ?_
  rw [place]
  simp only [List.filterMap_append, List.filterMap_cons, reported]
  exact List.perm_middle

/-- The reports of a primary project are the bridge reports and the collisions. -/
theorem diagnostics_of_primary (primary : project.target = .primary) :
    (sources framework project).diagnostics =
      bridgeDiagnostics project ++ (sources framework project).registry.diagnostics := by
  simp [sources, primary]

/-- The reports of a primary project are those about its views and the collisions. -/
theorem diagnostics_perm (primary : project.target = .primary) :
    (sources framework project).diagnostics.Perm
      (otherReports framework project project.views) := by
  rw [diagnostics_of_primary primary]
  exact (bridgeDiagnostics_perm project).append_right _

/-- A generated native file is settled. -/
theorem isRegistered_of_mem {part : Generated}
    (inside : part ∈ generated framework.toList project) : IsRegistered framework project part :=
  Registry.registered_of_mem (List.mem_map_of_mem inside)

/-- A report about a view that cannot be bridged is an error that starts with its name. -/
theorem BridgedView.report?_eq_some {fault : Diagnostic} (reported : report? view = some fault) :
    fault.isError = true ∧ fault.code = some "unmapped-type" ∧
      view.name.toList <+: fault.message.toList := by
  unfold report? at reported
  split at reported
  · cases reported
  · obtain rfl := Option.some.inj reported
    exact ⟨rfl, rfl, by simp [leftOut, List.append_assoc]⟩

/-- The views of a view's group that can be bridged are a group of a primary project. -/
theorem mem_targetGroups_of_mem (primary : project.target = .primary)
    (inside : view ∈ project.views) :
    (view.group, bridgedOf view project.views) ∈ targetGroups project := by
  rw [targetGroups, if_pos primary]
  exact mem_bridgedGroups_of_mem inside

/-- A view that can be bridged stands between the others of its group that can be. -/
theorem bridgedOf_of_place (place : project.views = before ++ view :: behind)
    {bridged : BridgedView} (maps : BridgedView.ofView view = .ok bridged) :
    bridgedOf view project.views =
      bridgedOf view before ++ bridged :: bridgedOf view behind := by
  have shown := BridgedView.ofView?_eq_some_iff.2 maps
  simp [bridgedOf, View.groupOf, place, shown]

/-- A group has one protocol. -/
theorem protocol_eq_of_mem {group : String} {views : List BridgedView} {other : FactoryProtocol}
    (grouped : (group, views) ∈ targetGroups project)
    (found : Generated.protocol other ∈ generated framework.toList project)
    (named : other.group = group) : other = ⟨group, views, framework.toList⟩ := by
  obtain ⟨_, otherGrouped, rfl⟩ := mem_generated_protocol.1 found
  rw [eq_of_mem_targetGroups grouped otherGrouped named]

/-- A group has one binding. -/
theorem binding_eq_of_mem {group : String} {views : List BridgedView} {other : Binding}
    (grouped : (group, views) ∈ targetGroups project)
    (found : Generated.binding other ∈ generated framework.toList project)
    (named : other.group = group) : other = ⟨group, views, framework.toList⟩ := by
  obtain ⟨_, otherGrouped, rfl⟩ := mem_generated_binding.1 found
  rw [eq_of_mem_targetGroups grouped otherGrouped named]

/-- The native sources have a function for a view that can be bridged. -/
theorem accounts_of_ok (primary : project.target = .primary)
    (place : project.views = before ++ view :: behind) {bridged : BridgedView}
    (maps : BridgedView.ofView view = .ok bridged) :
    Accounts framework project before view behind := by
  have inside : view ∈ project.views := by simp [place]
  have grouped := mem_targetGroups_of_mem primary inside
  have members := bridgedOf_of_place place maps
  have shown : BridgedView.ofView? view = some bridged := BridgedView.ofView?_eq_some_iff.2 maps
  refine .bridged maps
    ⟨⟨view.group, bridgedOf view project.views, framework.toList⟩, rfl, ?_, ?_, ?_⟩
    ⟨⟨view.group, bridgedOf view project.views, framework.toList⟩, rfl, ?_, ?_, ?_⟩ ?_ ?_
  · exact fun other found named => protocol_eq_of_mem grouped found named
  · exact isRegistered_of_mem (mem_generated_protocol.2 ⟨_, grouped, rfl⟩)
  · simp [FactoryProtocol.protocol, members]
  · exact fun other found named => binding_eq_of_mem grouped found named
  · exact isRegistered_of_mem (mem_generated_binding.2 ⟨_, grouped, rfl⟩)
  · simp only [Binding.cls, members, List.map_append, List.map_cons]
  · intro observed
    rw [← BridgedView.view_of_ofView? shown] at observed
    exact isRegistered_of_mem
      (mem_generated_observable.2 ⟨⟨_, grouped, by simp [members]⟩, observed, rfl⟩)
  · have quiet : BridgedView.report? view = none :=
      BridgedView.report?_eq_none_iff.2 ⟨bridged, shown⟩
    have reports : (sources framework project).diagnostics.Perm
        (otherReports framework project project.views) := diagnostics_perm primary
    rw [place] at reports
    simpa [otherReports, quiet] using reports

/-- The native sources have nothing of a view that cannot be bridged, and report it. -/
theorem accounts_of_error (primary : project.target = .primary)
    (place : project.views = before ++ view :: behind) {unmapped : Unmapped}
    (fails : BridgedView.ofView view = .error unmapped) :
    Accounts framework project before view behind := by
  have reported : BridgedView.report? view = some (BridgedView.leftOut view unmapped) := by
    simp [BridgedView.report?, fails]
  obtain ⟨grave, code, named⟩ := BridgedView.report?_eq_some reported
  refine .leftOut grave code named ?_ ?_
  · rintro part generated bridged shown rfl
    have maps := ofView?_of_mem_views generated shown
    simp [BridgedView.ofView?_eq_some_iff, fails] at maps
  · rw [diagnostics_of_primary primary]
    exact (bridgeDiagnostics_perm_of_reported place reported).append_right _

/-- The native sources have something of every view of a primary project, or report it. -/
theorem accounts (framework : Option String) (primary : project.target = .primary)
    (place : project.views = before ++ view :: behind) :
    Accounts framework project before view behind := by
  cases outcome : BridgedView.ofView view with
  | ok bridged => exact accounts_of_ok primary place outcome
  | error unmapped => exact accounts_of_error primary place outcome

end Foreign

/-! ## All stages -/

/-- No declaration and no view is lost silently. Each declaration contributes a view or an error,
and the project has exactly these in the order of discovery; each view is accounted for in the
host sources and in the native sources; and in both every generated file is kept or reported as a
collision. -/
theorem no_view_is_lost (options : Options) (rounds : List (List Declaration))
    (framework : Option String) :
    let project := Discovery.project options rounds .primary
    let defaults := ReadingDefaults.ofOptions options
    let hostFiles := Host.sources project
    let nativeFiles := Foreign.sources framework project
    (∀ declaration ∈ rounds.flatten,
      Reading.Contributes declaration (Reading.verdict defaults declaration)) ∧
    project.views = Discovery.contributedViews defaults rounds.flatten ∧
    (∃ notices, (∀ notice ∈ notices, notice.isError = false) ∧
      project.diagnostics = Discovery.contributedReports defaults rounds.flatten ++ notices) ∧
    (∀ before view behind, project.views = before ++ view :: behind →
      Host.Accounts project before view behind ∧
        Foreign.Accounts framework project before view behind) ∧
    ((hostFiles.registry.kept ++ hostFiles.registry.collisions).Perm
        ((Host.generated project).map (·.entry)) ∧
      hostFiles.diagnostics = hostFiles.registry.collisions.map Registry.collision) ∧
    ((nativeFiles.registry.kept ++ nativeFiles.registry.collisions).Perm
        ((Foreign.generated framework.toList project).map (·.entry)) ∧
      nativeFiles.registry.diagnostics =
        nativeFiles.registry.collisions.map Registry.collision) := by
  intro project defaults hostFiles nativeFiles
  refine ⟨fun declaration _ => Reading.contributes_verdict defaults declaration,
    Discovery.views_project options rounds .primary, ⟨_, ?_,
    Discovery.diagnostics_project options rounds .primary⟩, ?_,
    ⟨Registry.kept_append_collisions_perm _, rfl⟩, Registry.kept_append_collisions_perm _, rfl⟩
  · intro notice inside
    obtain ⟨lint, builtin, reported⟩ := List.mem_flatMap.1 inside
    exact Lint.isError_of_mem_check builtin reported
  · intro before view behind place
    exact ⟨Host.accounts rfl place, Foreign.accounts framework rfl place⟩

/-- Two rounds of declarations: one that has a body already, one that can be bridged, and one with
a type parameter. -/
def mixedRounds : List (List Declaration) :=
  let file : SourceFile := ⟨"shared/Places.kt", "com.example"⟩
  [[{ name := "Drawn", isStub := false, file := some file },
    { name := "Map", file := some file
      parameters := [⟨some "title", .ofDotted "kotlin.String", []⟩] }],
   [{ name := "Slot", file := some file, typeParameters := ["T"]
      parameters := [⟨some "value", .variable "T" false, []⟩] }]]

/-- Two of the three declarations are views, of which each is accounted for beside the other. -/
theorem no_view_of_mixedRounds_is_lost :
    ∃ map slot, (Discovery.project {} mixedRounds .primary).views = [map, slot] ∧
      (map.name = "Map" ∧ slot.name = "Slot") ∧
      Host.Accounts (Discovery.project {} mixedRounds .primary) [map] slot [] ∧
      Foreign.Accounts none (Discovery.project {} mixedRounds .primary) [map] slot [] := by
  have whole := no_view_is_lost {} mixedRounds none
  exact ⟨_, _, rfl, ⟨rfl, rfl⟩, whole.2.2.2.1 [_] _ [] rfl⟩

end ViewGlue
