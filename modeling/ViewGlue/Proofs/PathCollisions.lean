import ViewGlue.Proofs.GeneratedFiles
import ViewGlue.Proofs.SourcePaths
import ViewGlue.View.Sketch

/-!
# Path collisions

Which files of a project come too late. `Host.Generated.Meets` and `Foreign.Generated.Meets` say
by names alone when a file takes the path of a later one, and `collisions_of_isNamed` says that
those files are rejected which an earlier one meets, and no others.
-/

namespace ViewGlue

open Output Text

/-- The package of the delegates consists of identifiers if that of the runtime does. -/
theorem RuntimePackage.isPackage_delegates {runtime : RuntimePackage}
    (isList : isDotted runtime.root = true) : IsPackage runtime.delegates := by
  right
  have letters : runtime.delegates.toList =
      runtime.root.toList ++ '.' :: "delegate".toList := by
    rw [RuntimePackage.delegates, String.toList_append]
    rfl
  rw [isDotted, letters, splitChars_append, List.all_append, Bool.and_eq_true]
  exact ⟨isList, by decide⟩

/-- The delegates have a package of their own. -/
theorem RuntimePackage.root_ne_delegates (runtime : RuntimePackage) :
    runtime.root ≠ runtime.delegates := by
  intro same
  have letters := congrArg (·.toList.length) same
  simp [RuntimePackage.delegates] at letters

/-- The views of a project have identifiers as their names and as those of their groups, and stand
in packages of identifiers. -/
structure Project.HasNamedViews (project : Project) : Prop where
  /-- Views are named by identifiers. -/
  views : ∀ view ∈ project.views, isIdentifier view.name = true
  /-- Groups are named by identifiers. -/
  groups : ∀ view ∈ project.views, isIdentifier view.group = true
  /-- The source files of the views have packages of identifiers. -/
  packages : ∀ view ∈ project.views, IsPackage view.file.package

/-- The names of a project are identifiers, and its packages consist of identifiers. -/
structure Project.IsNamed (project : Project) : Prop extends project.HasNamedViews where
  /-- The runtime stands in a package of identifiers. -/
  runtime : isDotted project.runtime.root = true

namespace Project.HasNamedViews

variable {project : Project}

/-- The groups have identifiers as their names. -/
theorem isIdentifier_group (named : project.HasNamedViews) {group : String × List View}
    (inside : group ∈ project.groups) : isIdentifier group.1 = true := by
  obtain ⟨view, found, same⟩ := List.mem_map.1 (mem_groupsBy.1 inside).1
  rw [← same]
  exact named.groups view found

/-- The source files have packages of identifiers. -/
theorem isPackage_source (named : project.HasNamedViews) {source : SourceFile × List View}
    (inside : source ∈ project.sourceFiles) : IsPackage source.1.package := by
  obtain ⟨view, found, same⟩ := List.mem_map.1 (mem_groupsBy.1 inside).1
  rw [← same]
  exact named.packages view found

end Project.HasNamedViews

namespace Project.IsNamed

variable {project : Project}

/-- The package of the delegates is below the package of the runtime. -/
theorem isPackage_delegates (named : project.IsNamed) : IsPackage project.runtime.delegates :=
  RuntimePackage.isPackage_delegates named.runtime

end Project.IsNamed

/-! ## Host files -/

namespace Host

namespace Generated

/-- The package whose directory a file stands in. -/
def package : Generated → String
  | compositions part => part.runtime.root
  | factory part => part.runtime.root
  | delegate part => part.runtime.delegates
  | callSite part => part.source.package

/-- The name of a file in its directory. -/
def fileName : Generated → String
  | compositions _ => "Compositions.kt"
  | factory part => part.interfaceName ++ part.target.fileSuffix ++ ".kt"
  | delegate part => part.interfaceName ++ ".kt"
  | callSite part => fileStem part.source.path ++ part.target.fileSuffix ++ ".kt"

/-- A file stands in the directory of its package under its name. -/
theorem path_eq_sourcePath (part : Generated) :
    part.path = sourcePath part.package part.fileName := by
  cases part <;> rfl

/-- A file takes the path of a later one: both are delegates of one view name, both are call sites
of one package and one stem, or the call sites are those of a source file that stands with the
factory and bears its name. -/
def Meets : Generated → Generated → Prop
  | delegate part, delegate other => part.view.name = other.view.name
  | callSite part, callSite other =>
    part.source.package = other.source.package ∧
      fileStem part.source.path = fileStem other.source.path
  | factory part, callSite other =>
    other.source.package = part.runtime.root ∧
      fileStem other.source.path = Naming.factoryInterface part.group
  | _, _ => False

instance : DecidableRel Meets
  | delegate part, delegate other =>
    inferInstanceAs (Decidable (part.view.name = other.view.name))
  | callSite part, callSite other =>
    inferInstanceAs (Decidable
      (part.source.package = other.source.package ∧
        fileStem part.source.path = fileStem other.source.path))
  | factory part, callSite other =>
    inferInstanceAs (Decidable
      (other.source.package = part.runtime.root ∧
        fileStem other.source.path = Naming.factoryInterface part.group))
  | compositions _, _ | delegate _, compositions _ | delegate _, factory _
  | delegate _, callSite _ | callSite _, compositions _ | callSite _, factory _
  | callSite _, delegate _ | factory _, compositions _ | factory _, factory _
  | factory _, delegate _ => .isFalse id

/-- What a file is generated for. -/
inductive Source (project : Project) : Generated → Prop where
  /-- For all groups; only the common target has this file. -/
  | compositions (common : project.target = .common) :
    Source project (.compositions ⟨project.groupNames, project.runtime⟩)
  /-- For a group, under every target. -/
  | factory {group : String × List View} (inside : group ∈ project.groups) :
    Source project (.factory (.ofGroup project.target project.runtime group.1 group.2))
  /-- For a view, under the primary target. -/
  | delegate (primary : project.target = .primary) {view : View} (inside : view ∈ project.views) :
    Source project (.delegate ⟨view, project.runtime⟩)
  /-- For a source file that declares views, under the primary target. -/
  | callSite (primary : project.target = .primary) {source : SourceFile × List View}
    (inside : source ∈ project.sourceFiles) :
    Source project (.callSite (.ofSource project.target project.runtime source.1 source.2))

end Generated

variable {project : Project}

/-- Every generated file is generated for something. -/
theorem source_of_mem_generated {part : Generated} (inside : part ∈ generated project) :
    part.Source project := by
  rcases List.mem_append.1 inside with shared | glue
  · rcases List.mem_append.1 shared with accessors | factories
    · obtain ⟨_, found, rfl⟩ := List.mem_map.1 accessors
      simp only [compositions] at found
      split at found
      · rename_i present
        obtain rfl := List.mem_singleton.1 found
        exact .compositions present.1
      · cases found
    · obtain ⟨_, found, rfl⟩ := List.mem_map.1 factories
      obtain ⟨group, grouped, rfl⟩ := List.mem_map.1 found
      exact .factory grouped
  · split at glue
    · rename_i primary
      rcases List.mem_append.1 glue with delegates | callSites
      · obtain ⟨_, found, rfl⟩ := List.mem_map.1 delegates
        obtain ⟨view, read, rfl⟩ := List.mem_map.1 found
        exact .delegate primary read
      · obtain ⟨_, found, rfl⟩ := List.mem_map.1 callSites
        obtain ⟨source, listed, rfl⟩ := List.mem_map.1 found
        exact .callSite primary listed
    · cases glue

/-- The files of a named project stand in packages. -/
theorem Generated.Source.isPackage (named : project.IsNamed) {part : Generated}
    (source : part.Source project) : IsPackage part.package := by
  cases source with
  | compositions => exact .inr named.runtime
  | factory => exact .inr named.runtime
  | delegate => exact named.isPackage_delegates
  | callSite _ inside => exact named.toHasNamedViews.isPackage_source inside

/-- The suffix of a target has no slash. -/
theorem slash_notMem_fileSuffix (target : BuildTarget) : '/' ∉ target.fileSuffix.toList := by
  cases target <;> decide

/-- The files of a project with named views have names without slashes. -/
theorem Generated.Source.slash_notMem (named : project.HasNamedViews) {part : Generated}
    (source : part.Source project) : '/' ∉ part.fileName.toList := by
  have suffix := slash_notMem_fileSuffix project.target
  cases source with
  | compositions =>
    show '/' ∉ "Compositions.kt".toList
    decide
  | factory inside =>
    have group := slash_notMem_of_isIdentifier (named.isIdentifier_group inside)
    simp [fileName, Factory.interfaceName, Factory.ofGroup, Naming.factoryInterface, group, suffix]
  | delegate _ inside =>
    have name := slash_notMem_of_isIdentifier (named.views _ inside)
    simp [fileName, Delegate.interfaceName, Naming.delegate, name]
  | callSite _ inside =>
    have stem := slash_notMem_fileStem
    simp [fileName, CallSite.ofSource, stem, suffix]

/-- Two files of a named project have one path if they have one name in one package. -/
theorem path_eq_iff (named : project.IsNamed) {part other : Generated}
    (source : part.Source project) (otherSource : other.Source project) :
    part.path = other.path ↔ part.package = other.package ∧ part.fileName = other.fileName := by
  rw [Generated.path_eq_sourcePath, Generated.path_eq_sourcePath]
  exact sourcePath_inj (source.isPackage named) (otherSource.isPackage named)
    (source.slash_notMem named.toHasNamedViews) (otherSource.slash_notMem named.toHasNamedViews)

/-- A delegate has the path of another delegate if their views have one name, and of no other
file. -/
theorem path_eq_delegate_iff (named : project.IsNamed) (primary : project.target = .primary)
    {part : Generated} (source : part.Source project) {view : View}
    (inside : view ∈ project.views) :
    part.path = (Generated.delegate ⟨view, project.runtime⟩).path ↔
      part.Meets (.delegate ⟨view, project.runtime⟩) := by
  rw [path_eq_iff named source (.delegate primary inside)]
  cases source with
  | compositions common => exact absurd (common.symm.trans primary) (by decide)
  | factory grouped => exact iff_of_false (fun same => project.runtime.root_ne_delegates same.1) id
  | delegate _ other =>
    simp [Generated.package, Generated.fileName, Generated.Meets, Delegate.interfaceName,
      Naming.delegate]
  | callSite _ listed =>
    -- The name of a delegate has one dot, that of call sites has two.
    refine iff_of_false (fun same => ?_) id
    have names := congrArg String.toList (String.append_left_inj _ |>.1 same.2)
    have dot := dot_notMem_of_isIdentifierChars (named.views view inside)
    have dots : '.' ∈ (view.name ++ "Delegate").toList := by
      rw [show (view.name ++ "Delegate").toList = _ from names.symm, CallSite.ofSource, primary,
        String.toList_append]
      refine List.mem_append_right _ ?_
      show '.' ∈ ".primary".toList
      decide
    simp [dot] at dots

/-- Call sites have the path of other call sites if their source files have one package and one
stem, of a factory if their source file stands with it and bears its name, and of no other
file. -/
theorem path_eq_callSite_iff (named : project.IsNamed) (primary : project.target = .primary)
    {part : Generated} (source : part.Source project) {listed : SourceFile × List View}
    (inside : listed ∈ project.sourceFiles) :
    part.path =
        (Generated.callSite
          (.ofSource project.target project.runtime listed.1 listed.2)).path ↔
      part.Meets (.callSite (.ofSource project.target project.runtime listed.1 listed.2)) := by
  cases source with
  | compositions common => exact absurd (common.symm.trans primary) (by decide)
  | factory grouped =>
    rw [path_eq_iff named (.factory grouped) (.callSite primary inside)]
    simp [Generated.package, Generated.fileName, Generated.Meets, Factory.ofGroup,
      Factory.interfaceName, CallSite.ofSource, eq_comm]
  | delegate _ other =>
    rw [eq_comm, path_eq_delegate_iff named primary (.callSite primary inside) other]
    exact Iff.rfl
  | callSite _ other =>
    rw [path_eq_iff named (.callSite primary other) (.callSite primary inside)]
    simp [Generated.package, Generated.fileName, Generated.Meets, CallSite.ofSource]

/-- No two files of groups have one path. -/
theorem groupFiles_apart (project : Project) :
    (groupFiles project).Pairwise fun other part => other.path ≠ part.path := by
  have keys : project.groups.Pairwise fun other group => other.1 ≠ group.1 :=
    List.pairwise_map.1 (nodup_keys_groupsBy View.group project.views)
  refine List.pairwise_append.2 ⟨?_, ?_, ?_⟩
  · rw [compositions]
    split <;> simp
  · rw [factories, List.map_map, List.pairwise_map]
    refine keys.imp fun differ same => differ ?_
    have named := Factory.group_of_path (by rfl) (by rfl) same
    exact named
  · intro accessors isAccessors factory isFactory
    obtain ⟨_, listed, rfl⟩ := List.mem_map.1 isAccessors
    obtain ⟨_, alsoListed, rfl⟩ := List.mem_map.1 isFactory
    exact path_compositions_ne listed alsoListed

/-- Files of groups never meet. -/
theorem not_meets_of_mem_groupFiles {other part : Generated} (inside : part ∈ groupFiles project) :
    ¬ other.Meets part := by
  rcases List.mem_append.1 inside with accessors | factory
  · obtain ⟨_, -, rfl⟩ := List.mem_map.1 accessors
    cases other <;> exact id
  · obtain ⟨_, -, rfl⟩ := List.mem_map.1 factory
    cases other <;> exact id

/-- A file has the path of a later one exactly if it meets it. -/
theorem paths_meet (named : project.IsNamed) :
    (generated project).Pairwise fun other part =>
      other.entry.path = part.entry.path ↔ other.Meets part := by
  have shared : (groupFiles project).Pairwise fun other part =>
      other.entry.path = part.entry.path ↔ other.Meets part :=
    (groupFiles_apart project).imp_of_mem fun _ inside apart =>
      iff_of_false apart (not_meets_of_mem_groupFiles inside)
  by_cases primary : project.target = .primary
  · have glue : ∀ part ∈ generated project, ∀ later ∈
        (delegates project).map Generated.delegate ++ (callSites project).map Generated.callSite,
        part.path = later.path ↔ part.Meets later := by
      intro part inside later isGlue
      have source := source_of_mem_generated inside
      rcases List.mem_append.1 isGlue with isDelegate | isCallSite
      · obtain ⟨_, found, rfl⟩ := List.mem_map.1 isDelegate
        obtain ⟨view, read, rfl⟩ := List.mem_map.1 found
        exact path_eq_delegate_iff named primary source read
      · obtain ⟨_, found, rfl⟩ := List.mem_map.1 isCallSite
        obtain ⟨listed, read, rfl⟩ := List.mem_map.1 found
        exact path_eq_callSite_iff named primary source read
    rw [generated, if_pos primary] at glue ⊢
    refine List.pairwise_append.2 ⟨shared, ?_, ?_⟩
    · exact List.pairwise_of_forall_mem_list fun part inside later isGlue =>
        glue part (List.mem_append_right _ inside) later isGlue
    · exact fun part inside later isGlue => glue part (List.mem_append_left _ inside) later isGlue
  · rw [generated, if_neg primary, List.append_nil]
    exact shared

/-- The rejected host files are those that an earlier one meets. -/
theorem collisions_sources (named : project.IsNamed) :
    (sources project).registry.collisions =
      (latecomers Generated.Meets [] (generated project)).map (·.entry) := by
  show (Registry.ofList ((generated project).map (·.entry))).collisions = _
  rw [Registry.collisions_ofList]
  exact latecomers_map (paths_meet named)

/-- Shared files alone are all kept. -/
theorem latecomers_of_not_primary (shared : project.target ≠ .primary) :
    latecomers Generated.Meets [] (generated project) = [] := by
  rw [generated, if_neg shared, List.append_nil]
  exact latecomers_eq_nil
    (List.pairwise_of_forall_mem_list fun _ _ _ inside => not_meets_of_mem_groupFiles inside)

end Host

/-! ## Native files -/

namespace Foreign

/-- A file takes the path of a later one: both are observable objects of one view name, or they are
the binding class of a group and the protocol of the group that is named for the class. -/
def Generated.Meets : Generated → Generated → Prop
  | binding part, protocol other => other.group = "Foreign" ++ part.group
  | protocol part, binding other => part.group = "Foreign" ++ other.group
  | observable part, observable other => part.bridged.view.name = other.bridged.view.name
  | _, _ => False

instance : DecidableRel Generated.Meets
  | .binding part, .protocol other =>
    inferInstanceAs (Decidable (other.group = "Foreign" ++ part.group))
  | .protocol part, .binding other =>
    inferInstanceAs (Decidable (part.group = "Foreign" ++ other.group))
  | .observable part, .observable other =>
    inferInstanceAs (Decidable (part.bridged.view.name = other.bridged.view.name))
  | .binding _, .binding _ | .binding _, .observable _ | .protocol _, .protocol _
  | .protocol _, .observable _ | .observable _, .binding _
  | .observable _, .protocol _ => .isFalse id

variable {project : Project} {modules : List String}

/-- No two bridged groups have one name. -/
theorem targetGroups_apart (project : Project) :
    (targetGroups project).Pairwise fun other group => other.1 ≠ group.1 := by
  have keys : project.groups.Pairwise fun other group => other.1 ≠ group.1 :=
    List.pairwise_map.1 (nodup_keys_groupsBy View.group project.views)
  rw [targetGroups]
  split
  · rw [bridgedGroups, List.pairwise_map]
    exact keys
  · exact .nil

/-- The files of a group have the path of another group's files exactly if they meet. -/
theorem path_eq_iff_of_group {group later : String × List BridgedView}
    (apart : group.1 ≠ later.1) {part other : Generated}
    (inside : part ∈ [.protocol ⟨group.1, group.2, modules⟩, .binding ⟨group.1, group.2, modules⟩])
    (behind : other ∈
      [.protocol ⟨later.1, later.2, modules⟩, .binding ⟨later.1, later.2, modules⟩]) :
    part.path = other.path ↔ part.Meets other := by
  simp only [List.mem_cons, List.not_mem_nil, or_false] at inside behind
  rcases inside with rfl | rfl <;> rcases behind with rfl | rfl <;>
    simp [Generated.path, Generated.Meets, FactoryProtocol.path, Binding.path,
      Naming.factoryAlias, Naming.bindingClass, String.append_left_inj, String.append_right_inj,
      apart, eq_comm]

/-- The files of groups have one path exactly if they meet. -/
theorem factories_meet (modules : List String) (project : Project) :
    (factories modules (targetGroups project)).Pairwise fun other part =>
      other.path = part.path ↔ other.Meets part := by
  refine List.pairwise_flatMap.2 ⟨fun group _ => ?_, ?_⟩
  · simp [Generated.path, Generated.Meets, FactoryProtocol.path, Binding.path,
      Naming.factoryAlias, Naming.bindingClass, String.append_left_inj]
  · exact (targetGroups_apart project).imp fun apart part inside other behind =>
      path_eq_iff_of_group apart inside behind

/-- The file of an observable object is named otherwise than those of a group. -/
theorem observable_apart (part : Observable) (name : String) :
    name ++ "Factory" ++ ".swift" ≠ part.path := by
  intro same
  have letters := congrArg (·.toList.reverse) same
  simp [Observable.path, Observable.className, Naming.observable] at letters

/-- A file has the path of a later one exactly if it meets it. -/
theorem paths_meet (modules : List String) (project : Project) :
    (generated modules project).Pairwise fun other part =>
      other.entry.path = part.entry.path ↔ other.Meets part := by
  refine List.pairwise_append.2 ⟨factories_meet modules project, ?_, ?_⟩
  · refine List.pairwise_of_forall_mem_list fun part inside later behind => ?_
    obtain ⟨_, -, rfl⟩ := List.mem_map.1 inside
    obtain ⟨_, -, rfl⟩ := List.mem_map.1 behind
    simp [Generated.entry, Generated.path, Generated.Meets, Observable.path, Observable.className,
      Naming.observable, String.append_left_inj]
  · intro part inside later behind
    obtain ⟨observed, -, rfl⟩ := List.mem_map.1 behind
    obtain ⟨group, -, isPart⟩ := List.mem_flatMap.1 inside
    simp only [List.mem_cons, List.not_mem_nil, or_false] at isPart
    rcases isPart with rfl | rfl
    · exact iff_of_false (observable_apart ⟨observed, modules⟩ group.1) id
    · exact iff_of_false (observable_apart ⟨observed, modules⟩ ("Foreign" ++ group.1)) id

/-- The rejected native files are those that an earlier one meets. -/
theorem collisions_sources (framework : Option String) (project : Project) :
    (sources framework project).registry.collisions =
      (latecomers Generated.Meets [] (generated framework.toList project)).map (·.entry) := by
  show (Registry.ofList ((generated framework.toList project).map (·.entry))).collisions = _
  rw [Registry.collisions_ofList]
  exact latecomers_map (paths_meet framework.toList project)

end Foreign

/-! ## Projects -/

/-- In a project of identifiers the rejected files of each language are those that an earlier one
meets. No host files meet unless the target is the primary one. -/
theorem collisions_of_isNamed {project : Project} (named : project.IsNamed)
    (framework : Option String) :
    ((Host.sources project).registry.collisions =
        (latecomers Host.Generated.Meets [] (Host.generated project)).map (·.entry) ∧
      (project.target ≠ .primary → (Host.sources project).diagnostics = [])) ∧
    (Foreign.sources framework project).registry.collisions =
      (latecomers Foreign.Generated.Meets []
        (Foreign.generated framework.toList project)).map (·.entry) := by
  refine ⟨⟨Host.collisions_sources named, fun shared => ?_⟩,
    Foreign.collisions_sources framework project⟩
  show (Host.sources project).registry.collisions.map Registry.collision = []
  rw [Host.collisions_sources named, Host.latecomers_of_not_primary shared]
  rfl

/-- A project in which every kind of path is taken twice: two views have one name and source files
of one stem, the group of the second is named for the binding class of the first, and the source
file of a third view bears the name of a factory. -/
def crowdedProject (target : BuildTarget) : Project :=
  .ofViews target ⟨"dev.viewbridge"⟩
    [((View.sketch "ShowMap").inGroup "Maps").inFile ⟨"src/Maps.kt", "com.example"⟩,
     ((View.sketch "ShowMap").inGroup "ForeignMaps").inFile ⟨"src/more/Maps.kt", "com.example"⟩,
     (View.sketch "ShowBadge").inFile ⟨"src/ComposeMapsFactory.kt", "dev.viewbridge"⟩]

/-- The crowded project consists of identifiers. -/
theorem isNamed_crowdedProject (target : BuildTarget) : (crowdedProject target).IsNamed where
  runtime := by cases target <;> decide
  views := by cases target <;> decide
  groups := by cases target <;> decide
  packages := by cases target <;> decide

/-- Three host files and two native ones of the crowded project come too late, and none where no
glue is generated. -/
theorem collisions_of_crowdedProject :
    (Host.sources (crowdedProject .primary)).registry.collisions.map (·.path) =
        ["dev/viewbridge/delegate/ShowMapDelegate.kt", "com/example/Maps.primary.kt",
          "dev/viewbridge/ComposeMapsFactory.primary.kt"] ∧
      (Foreign.sources none (crowdedProject .primary)).registry.collisions.map (·.path) =
        ["ForeignMapsFactory.swift", "ShowMapObservable.swift"] ∧
      (Host.sources (crowdedProject .other)).diagnostics = [] := by
  obtain ⟨⟨host, -⟩, native⟩ := collisions_of_isNamed (isNamed_crowdedProject .primary) none
  obtain ⟨⟨-, silent⟩, -⟩ := collisions_of_isNamed (isNamed_crowdedProject .other) none
  refine ⟨?_, ?_, silent (by decide)⟩
  · rw [host]
    rfl
  · rw [native]
    rfl

end ViewGlue
