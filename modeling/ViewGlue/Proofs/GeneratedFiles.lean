import ViewGlue.Foreign.Sources
import ViewGlue.Host.Sources
import ViewGlue.Proofs.Bridging
import ViewGlue.Proofs.Grouping
import ViewGlue.Proofs.Registration
import ViewGlue.Proofs.SourcePaths

/-!
# Generated files

Which files a project generates: one factory, one protocol and one binding class for each factory
group. A factory is always kept, since no two of them have one path.
-/

namespace ViewGlue

open Output

/-- The views of the same factory group. -/
def View.groupOf (view : View) (views : List View) : List View :=
  views.filter (·.group = view.group)

/-- The views of the same source file. -/
def View.fileOf (view : View) (views : List View) : List View :=
  views.filter (·.file = view.file)

namespace Project

variable {project : Project} {view : View}

/-- The group of a view has the views of its group. -/
theorem mem_groups_of_mem (inside : view ∈ project.views) :
    (view.group, view.groupOf project.views) ∈ project.groups :=
  Text.mem_groupsBy.2 ⟨List.mem_map_of_mem inside, rfl⟩

/-- The source file of a view has the views of its file. -/
theorem mem_sourceFiles_of_mem (inside : view ∈ project.views) :
    (view.file, view.fileOf project.views) ∈ project.sourceFiles :=
  Text.mem_groupsBy.2 ⟨List.mem_map_of_mem inside, rfl⟩

/-- There is one group of a name. -/
theorem eq_of_mem_groups {group other : String × List View} (inside : group ∈ project.groups)
    (same : other ∈ project.groups) (named : other.1 = group.1) : other = group :=
  Text.eq_of_mem_groupsBy inside same named

/-- Each source file is listed once. -/
theorem eq_of_mem_sourceFiles {source other : SourceFile × List View}
    (inside : source ∈ project.sourceFiles) (same : other ∈ project.sourceFiles)
    (named : other.1 = source.1) : other = source :=
  Text.eq_of_mem_groupsBy inside same named

end Project

/-! ## Host files -/

namespace Host

/-- The file of a factory depends on its group. -/
theorem Factory.group_of_path {part other : Factory} (sameRuntime : part.runtime = other.runtime)
    (sameTarget : part.target = other.target) (samePath : part.path = other.path) :
    part.group = other.group := by
  rw [path, path, sameRuntime, sourcePath_right_inj, sameTarget] at samePath
  simpa [interfaceName, Naming.factoryInterface, String.append_left_inj,
    String.append_right_inj] using samePath

variable {project : Project}

/-- The generated factories are those of the groups. -/
theorem mem_generated_factory {part : Factory} :
    Generated.factory part ∈ generated project ↔
      ∃ group ∈ project.groups,
        part = .ofGroup project.target project.runtime group.1 group.2 := by
  simp only [generated, factories, List.mem_append, List.mem_map]
  constructor
  · rintro ((⟨_, -, impossible⟩ | ⟨_, ⟨group, inside, rfl⟩, same⟩) | later)
    · cases impossible
    · cases same
      exact ⟨group, inside, rfl⟩
    · split at later
      · simp at later
      · cases later
  · rintro ⟨group, inside, rfl⟩
    exact .inl (.inr ⟨_, ⟨group, inside, rfl⟩, rfl⟩)

/-- The factory of a group has a method for each of its views. -/
theorem methods_of_mem_generated {part : Factory}
    (inside : Generated.factory part ∈ generated project) (primary : project.target = .primary) :
    part.runtime = project.runtime ∧
      part.methods =
        (project.views.filter (·.group = part.group)).map
          (CreateMethod.ofView project.runtime) := by
  obtain ⟨group, grouped, rfl⟩ := mem_generated_factory.1 inside
  refine ⟨rfl, ?_⟩
  rw [Factory.ofGroup, if_pos primary, (Text.mem_groupsBy.1 grouped).2]

/-- The delegates of a primary project are those of its views. -/
theorem mem_generated_delegate (primary : project.target = .primary) {part : Delegate} :
    Generated.delegate part ∈ generated project ↔
      part.view ∈ project.views ∧ part.runtime = project.runtime := by
  obtain ⟨view, runtime⟩ := part
  simp only [generated, delegates, primary, if_true, List.mem_append, List.mem_map]
  constructor
  · rintro ((⟨_, -, impossible⟩ | ⟨_, -, impossible⟩) | ⟨_, ⟨other, inside, rfl⟩, same⟩ |
      ⟨_, -, impossible⟩)
    · cases impossible
    · cases impossible
    · cases same
      exact ⟨inside, rfl⟩
    · cases impossible
  · rintro ⟨inside, rfl⟩
    exact .inr (.inl ⟨_, ⟨view, inside, rfl⟩, rfl⟩)

/-- The call sites of a primary project are those of its source files. -/
theorem mem_generated_callSite (primary : project.target = .primary) {part : CallSite} :
    Generated.callSite part ∈ generated project ↔
      ∃ source ∈ project.sourceFiles,
        part = .ofSource project.target project.runtime source.1 source.2 := by
  simp only [generated, callSites, primary, if_true, List.mem_append, List.mem_map]
  constructor
  · rintro ((⟨_, -, impossible⟩ | ⟨_, -, impossible⟩) | ⟨_, -, impossible⟩ |
      ⟨_, ⟨source, inside, rfl⟩, same⟩)
    · cases impossible
    · cases impossible
    · cases impossible
    · cases same
      exact ⟨source, inside, rfl⟩
  · rintro ⟨source, inside, rfl⟩
    exact .inr (.inr ⟨_, ⟨source, inside, rfl⟩, rfl⟩)

/-- No two factories have one path. -/
theorem eq_of_path_factories {part other : Factory} (first : part ∈ factories project)
    (second : other ∈ factories project) (samePath : other.path = part.path) : other = part := by
  obtain ⟨group, grouped, rfl⟩ := List.mem_map.1 first
  obtain ⟨otherGroup, otherGrouped, rfl⟩ := List.mem_map.1 second
  have named : otherGroup.1 = group.1 :=
    Factory.group_of_path (by rfl) (by rfl) samePath
  rw [Project.eq_of_mem_groups grouped otherGrouped named]

/-- The files of a project that say what its groups are. -/
def groupFiles (project : Project) : List Generated :=
  (compositions project).map .compositions ++ (factories project).map .factory

/-- There is one file of accessors. -/
theorem eq_of_mem_compositions {part : Compositions} (inside : part ∈ compositions project) :
    project.target = .common ∧ part = ⟨project.groupNames, project.runtime⟩ := by
  unfold compositions at inside
  split at inside
  · rename_i present
    exact ⟨present.1, List.mem_singleton.1 inside⟩
  · cases inside

/-- The accessors and a factory stand at different paths. -/
theorem path_compositions_ne {accessors : Compositions} {part : Factory}
    (isAccessors : accessors ∈ compositions project) (isFactory : part ∈ factories project) :
    accessors.path ≠ part.path := by
  obtain ⟨group, -, rfl⟩ := List.mem_map.1 isFactory
  rw [(eq_of_mem_compositions isAccessors).2]
  intro same
  have names := congrArg String.toList (sourcePath_right_inj.1 same)
  simp [Factory.interfaceName, Naming.factoryInterface] at names

/-- No two files of groups have one path. -/
theorem eq_of_path_groupFiles {part other : Generated} (first : part ∈ groupFiles project)
    (second : other ∈ groupFiles project) (samePath : other.path = part.path) : other = part := by
  rcases List.mem_append.1 first with isAccessors | isFactory <;>
    rcases List.mem_append.1 second with alsoAccessors | alsoFactory
  · obtain ⟨accessors, listed, rfl⟩ := List.mem_map.1 isAccessors
    obtain ⟨others, alsoListed, rfl⟩ := List.mem_map.1 alsoAccessors
    rw [(eq_of_mem_compositions listed).2, (eq_of_mem_compositions alsoListed).2]
  · obtain ⟨accessors, listed, rfl⟩ := List.mem_map.1 isAccessors
    obtain ⟨factory, alsoListed, rfl⟩ := List.mem_map.1 alsoFactory
    exact absurd samePath.symm (path_compositions_ne listed alsoListed)
  · obtain ⟨factory, listed, rfl⟩ := List.mem_map.1 isFactory
    obtain ⟨accessors, alsoListed, rfl⟩ := List.mem_map.1 alsoAccessors
    exact absurd samePath (path_compositions_ne alsoListed listed)
  · obtain ⟨factory, listed, rfl⟩ := List.mem_map.1 isFactory
    obtain ⟨others, alsoListed, rfl⟩ := List.mem_map.1 alsoFactory
    rw [eq_of_path_factories listed alsoListed samePath]

/-- The files of groups are kept, since no two of them have one path and no others are registered
before them. -/
theorem find?_groupFiles {part : Generated} (inside : part ∈ groupFiles project) :
    (sources project).registry.find? part.path = some part.entry := by
  have first : part.entry ∈ (groupFiles project).map (·.entry) := List.mem_map_of_mem inside
  have unique : ∀ entry ∈ (groupFiles project).map (·.entry), entry.path = part.entry.path →
      entry = part.entry := by
    intro entry listed samePath
    obtain ⟨other, second, rfl⟩ := List.mem_map.1 listed
    rw [eq_of_path_groupFiles inside second samePath]
  have kept := Registry.find?_ofList_of_unique first unique
    ((if project.target = .primary then
      (delegates project).map Generated.delegate ++ (callSites project).map Generated.callSite
      else []).map (·.entry))
  rw [← List.map_append] at kept
  exact kept

/-- A factory is kept. -/
theorem find?_factory {part : Factory} (inside : Generated.factory part ∈ generated project) :
    (sources project).registry.find? part.path = some (Generated.factory part).entry := by
  obtain ⟨group, grouped, isPart⟩ := mem_generated_factory.1 inside
  have listed : part ∈ factories project := isPart ▸ List.mem_map_of_mem grouped
  have path : (Generated.factory part).path = part.path := rfl
  rw [← path]
  exact find?_groupFiles (List.mem_append_right _ (List.mem_map_of_mem listed))

end Host

/-! ## Native files -/

namespace Foreign

variable {project : Project} {view : View}

/-- The views of the same factory group that can be bridged. -/
def bridgedOf (view : View) (views : List View) : List BridgedView :=
  (view.groupOf views).filterMap BridgedView.ofView?

/-- The bridged views that a native file is about. -/
def Generated.views : Generated → List BridgedView
  | protocol part => part.views
  | binding part => part.views
  | observable part => [part.bridged]

/-- The bridged groups are the groups with the views that can be bridged. -/
theorem mem_bridgedGroups {group : String × List BridgedView} :
    group ∈ bridgedGroups project ↔
      ∃ other ∈ project.groups, group = (other.1, other.2.filterMap BridgedView.ofView?) := by
  simp [bridgedGroups, eq_comm]

/-- The group of a view has the views of its group that can be bridged. -/
theorem mem_bridgedGroups_of_mem (inside : view ∈ project.views) :
    (view.group, bridgedOf view project.views) ∈ bridgedGroups project :=
  mem_bridgedGroups.2 ⟨_, Project.mem_groups_of_mem inside, rfl⟩

/-- Native files are generated for bridged groups only. -/
theorem mem_bridgedGroups_of_target {group : String × List BridgedView}
    (inside : group ∈ targetGroups project) : group ∈ bridgedGroups project := by
  unfold targetGroups at inside
  split at inside
  · exact inside
  · cases inside

/-- A bridged group has the views of its name that can be bridged. -/
theorem views_of_mem_targetGroups {group : String × List BridgedView}
    (inside : group ∈ targetGroups project) :
    group.2 = (project.views.filter (·.group = group.1)).filterMap BridgedView.ofView? := by
  obtain ⟨source, grouped, rfl⟩ := mem_bridgedGroups.1 (mem_bridgedGroups_of_target inside)
  rw [(Text.mem_groupsBy.1 grouped).2]

/-- A bridged view in a group is a view of the project. -/
theorem view_mem_of_mem_targetGroups {group : String × List BridgedView}
    (listed : group ∈ targetGroups project) {bridged : BridgedView} (inside : bridged ∈ group.2) :
    bridged.view ∈ project.views := by
  rw [views_of_mem_targetGroups listed] at inside
  obtain ⟨view, grouped, maps⟩ := List.mem_filterMap.1 inside
  rw [BridgedView.view_of_ofView? maps]
  exact List.mem_of_mem_filter grouped

/-- There is one bridged group of a name. -/
theorem eq_of_mem_targetGroups {group other : String × List BridgedView}
    (inside : group ∈ targetGroups project) (same : other ∈ targetGroups project)
    (named : other.1 = group.1) : other = group := by
  obtain ⟨source, grouped, rfl⟩ := mem_bridgedGroups.1 (mem_bridgedGroups_of_target inside)
  obtain ⟨otherSource, otherGrouped, rfl⟩ :=
    mem_bridgedGroups.1 (mem_bridgedGroups_of_target same)
  rw [Project.eq_of_mem_groups grouped otherGrouped named]

/-- The generated protocols are those of the bridged groups. -/
theorem mem_generated_protocol {modules : List String} {part : FactoryProtocol} :
    Generated.protocol part ∈ generated modules project ↔
      ∃ group ∈ targetGroups project, part = ⟨group.1, group.2, modules⟩ := by
  simp [generated, factories, observables]

/-- The generated binding classes are those of the bridged groups. -/
theorem mem_generated_binding {modules : List String} {part : Binding} :
    Generated.binding part ∈ generated modules project ↔
      ∃ group ∈ targetGroups project, part = ⟨group.1, group.2, modules⟩ := by
  simp [generated, factories, observables]

/-- The generated observable objects are those of the observed views in the bridged groups. -/
theorem mem_generated_observable {modules : List String} {part : Observable} :
    Generated.observable part ∈ generated modules project ↔
      (∃ group ∈ targetGroups project, part.bridged ∈ group.2) ∧
        part.bridged.view.mode = .observed ∧ part.modules = modules := by
  obtain ⟨bridged, others⟩ := part
  simp only [generated, factories, observables, List.mem_append, List.mem_flatMap, List.mem_map,
    List.mem_filter, List.mem_cons, List.not_mem_nil, or_false, decide_eq_true_eq,
    Generated.observable.injEq, Observable.mk.injEq]
  constructor
  · rintro (⟨_, -, impossible | impossible⟩ | ⟨_, ⟨grouped, observed⟩, rfl, rfl⟩)
    · cases impossible
    · cases impossible
    · exact ⟨grouped, observed, rfl⟩
  · rintro ⟨grouped, observed, rfl⟩
    exact .inr ⟨bridged, ⟨grouped, observed⟩, rfl, rfl⟩

/-- Every view in a group was bridged. -/
theorem ofView?_of_mem_bridgedGroups {group : String × List BridgedView} {bridged : BridgedView}
    (grouped : group ∈ bridgedGroups project) (inside : bridged ∈ group.2) :
    BridgedView.ofView? bridged.view = some bridged := by
  obtain ⟨other, -, rfl⟩ := mem_bridgedGroups.1 grouped
  obtain ⟨view, -, maps⟩ := List.mem_filterMap.1 inside
  rw [BridgedView.view_of_ofView? maps, maps]

/-- Every view that a native file is about was bridged. -/
theorem ofView?_of_mem_views {modules : List String} {part : Generated} {bridged : BridgedView}
    (generated : part ∈ generated modules project) (inside : bridged ∈ part.views) :
    BridgedView.ofView? bridged.view = some bridged := by
  rcases List.mem_append.1 generated with isFactory | isObservable
  · obtain ⟨group, grouped, file⟩ := List.mem_flatMap.1 isFactory
    have shown : part.views = group.2 := by
      simp only [List.mem_cons, List.not_mem_nil, or_false] at file
      rcases file with rfl | rfl <;> rfl
    rw [shown] at inside
    exact ofView?_of_mem_bridgedGroups (mem_bridgedGroups_of_target grouped) inside
  · obtain ⟨only, found, rfl⟩ := List.mem_map.1 isObservable
    obtain rfl : bridged = only := List.mem_singleton.1 inside
    obtain ⟨group, grouped, member⟩ := List.mem_flatMap.1 (List.mem_filter.1 found).1
    exact ofView?_of_mem_bridgedGroups (mem_bridgedGroups_of_target grouped) member

end Foreign

end ViewGlue
