import ViewGlue.Proofs.ArtifactAgreement
import ViewGlue.Proofs.ImportAgreement
import ViewGlue.Proofs.PathCollisions

/-!
# Agreement of build targets

The build targets of a project are generated apart from each other and compiled together. Their
factory files declare the same interfaces, one for each group, and stand at different paths. Every
composition value that a call site of the primary target reads is declared once among those of the
common target, with the interface of its group as its type (`targets_agree`).
-/

namespace ViewGlue

/-- The project for another build target. -/
def Project.forTarget (project : Project) (target : BuildTarget) : Project :=
  { project with target := target }

namespace Host

/-! ## Names in files -/

namespace Scope

/-- A text names a class in a file: it is the full name of the class, or its simple name, which no
other class of the file bears and which is imported if it has to be. -/
def Names (scope : Scope) (text : String) (name : QualifiedName) : Prop :=
  text = name.dotted ∨
    text = name.simple ∧ scope.owner? name.simple = some name ∧
      (scope.needsImport name = true → (name.package, name.simple) ∈ scope.imports.entries)

/-- What is written for a class names it. -/
theorem Distinct.names_write {scope : Scope} (distinct : scope.Distinct) (name : QualifiedName) :
    scope.Names (scope.write name) name := by
  by_cases bare : name.package = ""
  · exact .inl (by simp [write, QualifiedName.dotted, bare])
  · by_cases owned : scope.owner? name.simple = some name
    · refine .inr ⟨by simp [write, owned], owned, fun needed => ?_⟩
      have listed : name ∈ scope.owners := List.mem_of_find?_eq_some owned
      have imported : name ∈ scope.owners.filter scope.needsImport :=
        List.mem_filter.2 ⟨listed, needed⟩
      exact distinct.entries_imports.mem_iff.2 (List.mem_map.2 ⟨name, imported, rfl⟩)
    · exact .inl (by simp [write, bare, owned])

/-- A reference takes the simple name of its class or nothing. -/
theorem refer_cases (scope : Scope) (name : QualifiedName) :
    scope.refer name = scope ∨ scope.refer name = scope.take name := by
  unfold refer
  split
  · exact .inl rfl
  · exact .inr rfl

/-- References leave every simple name with one owner. -/
theorem Distinct.referAll {scope : Scope} (distinct : scope.Distinct)
    (names : List QualifiedName) : (scope.referAll names).Distinct := by
  induction names generalizing scope with
  | nil => exact distinct
  | cons name names ih =>
    have one : (scope.refer name).Distinct := by
      obtain same | taken := scope.refer_cases name
      · rw [same]
        exact distinct
      · rw [taken]
        exact distinct.take name
    exact ih one

/-- A file without declarations of its own has one owner for each simple name. -/
theorem distinct_referAll (package : String) (names : List QualifiedName) :
    (referAll ⟨package, []⟩ names).Distinct := by
  have bare : Distinct ⟨package, []⟩ := List.nodup_nil
  exact bare.referAll names

/-- References leave a file in its package. -/
theorem package_referAll (scope : Scope) (names : List QualifiedName) :
    (scope.referAll names).package = scope.package := by
  induction names generalizing scope with
  | nil => rfl
  | cons name names ih =>
    have one : (scope.refer name).package = scope.package := by
      obtain same | taken := scope.refer_cases name
      · rw [same]
      · rw [taken, (scope.extends_take name).package]
    exact (ih (scope.refer name)).trans one

/-- The owners of simple names are among the classes that were referred to. -/
theorem mem_owners_referAll {scope : Scope} {names : List QualifiedName} {owner : QualifiedName}
    (inside : owner ∈ (scope.referAll names).owners) : owner ∈ scope.owners ∨ owner ∈ names := by
  induction names generalizing scope with
  | nil => exact .inl inside
  | cons name names ih =>
    have rest : owner ∈ (scope.refer name).owners ∨ owner ∈ names := ih inside
    rcases rest with early | later
    · obtain same | taken := scope.refer_cases name
      · exact .inl (same ▸ early)
      · rw [taken, take] at early
        split at early
        · exact .inl early
        · refine (List.mem_append.1 early).imp_right fun last => ?_
          rw [List.mem_singleton.1 last]
          exact List.mem_cons_self
    · exact .inr (List.mem_cons_of_mem name later)

/-- A class is written by its simple name where no other class was referred to by that name. -/
theorem write_referAll_eq_simple {package : String} {names : List QualifiedName}
    {name : QualifiedName} (inside : name ∈ names)
    (alone : ∀ other ∈ names, other.simple = name.simple → other = name) :
    (referAll ⟨package, []⟩ names).write name = name.simple := by
  have settled : ((Draft.start package).referAll names).scope.Settles name :=
    Draft.settles_referAll inside
  rw [Draft.scope_referAll] at settled
  obtain bare | ⟨owner, owned⟩ := settled
  · simp [write, bare]
  · have listed := mem_owners_referAll (List.mem_of_find?_eq_some owned)
    have named : owner.simple = name.simple := by simpa using List.find?_some owned
    have same : owner = name := alone owner (listed.resolve_left List.not_mem_nil) named
    exact if_pos (.inr (same ▸ owned))

end Scope

/-! ## Declarations of files -/

/-- The interface that a declaration is. -/
def Node.interface? : Node → Option Interface
  | interface node => some node
  | _ => none

/-- The property that a declaration is. -/
def Node.property? : Node → Option Property
  | property node => some node
  | _ => none

/-- The interfaces that a file declares, in its package. -/
def File.interfaces (file : File) : List QualifiedName :=
  (file.nodes.filterMap Node.interface?).map fun node => ⟨file.scope.package, node.name⟩

/-- The properties that a file declares. -/
def File.properties (file : File) : List Property :=
  file.nodes.filterMap Node.property?

/-- The interfaces that a generated file declares if it is a factory. -/
def Generated.interfaces : Generated → List QualifiedName
  | factory part => part.file.interfaces
  | _ => []

/-- The interfaces that the factories of a project declare. -/
def factoryInterfaces (project : Project) : List QualifiedName :=
  (generated project).flatMap Generated.interfaces

/-- A factory stands in the package of the runtime. -/
theorem Factory.package_scope (part : Factory) : part.scope.package = part.runtime.root := by
  have declare (scope : Scope) (simple : String) :
      (scope.declare simple).package = scope.package :=
    (scope.extends_take ⟨scope.package, simple⟩).package
  rw [scope, Scope.package_referAll, declared]
  split <;> simp only [List.foldl_cons, List.foldl_nil, declare]

/-- The interface of a factory is the only one in its file. -/
theorem Factory.interface_file (part : Factory) :
    part.file.nodes.filterMap Node.interface? = [part.interface] := by
  unfold file
  split <;> rfl

/-- A factory declares the interface of its group. -/
theorem Factory.interfaces_file (part : Factory) :
    part.file.interfaces = [⟨part.runtime.root, Naming.factoryInterface part.group⟩] := by
  have package : part.file.scope.package = part.runtime.root := part.package_scope
  rw [File.interfaces, part.interface_file, package]
  rfl

/-- The factories of a project declare one interface for each group. -/
theorem factoryInterfaces_eq (project : Project) :
    factoryInterfaces project = project.groupNames.map fun group =>
      ⟨project.runtime.root, Naming.factoryInterface group⟩ := by
  have accessors : ((compositions project).map Generated.compositions).flatMap
      Generated.interfaces = [] := by
    simp [List.flatMap_map, Generated.interfaces]
  have glue : (if project.target = .primary then
      (delegates project).map Generated.delegate ++ (callSites project).map Generated.callSite
      else []).flatMap Generated.interfaces = [] := by
    split <;> simp [List.flatMap_map, Generated.interfaces]
  rw [factoryInterfaces, generated, List.flatMap_append, List.flatMap_append, accessors, glue,
    List.nil_append, List.append_nil, factories, List.map_map, List.flatMap_map]
  simp only [Generated.interfaces, Function.comp_def, Factory.interfaces_file, Factory.ofGroup,
    Project.groupNames, List.map_map, ← List.map_eq_flatMap]

/-- The factories of different targets stand at different paths. -/
theorem Factory.path_ne_of_target_ne {part other : Factory} (runtime : part.runtime = other.runtime)
    (apart : part.target ≠ other.target) : part.path ≠ other.path := by
  intro same
  rw [path, path, runtime, Output.sourcePath_right_inj] at same
  have letters := congrArg (·.toList.reverse) same
  -- The names differ in what stands before the extension: "ory", "primary" or "nonprimary".
  cases here : part.target <;> cases there : other.target <;>
    first
    | exact apart (here.trans there.symm)
    | simp [here, there, interfaceName, Naming.factoryInterface, BuildTarget.fileSuffix] at letters

variable {project : Project}

/-! ## Factories of a group -/

/-- What the factory of a group is for a build target: the one file of the group there, which is
kept and declares the interface of the group. Only for the primary target it has methods, one for
each view of the group in the order of discovery. -/
structure IsFactoryFor (project : Project) (target : BuildTarget) (group : String)
    (part : Factory) : Prop where
  /-- The file is generated. -/
  generated : .factory part ∈ generated (project.forTarget target)
  /-- No other file is a factory of the group. -/
  alone : ∀ other, .factory other ∈ Host.generated (project.forTarget target) →
    other.group = group → other = part
  /-- No earlier file takes its path. -/
  kept : (sources (project.forTarget target)).registry.find? part.path =
    some (Generated.factory part).entry
  /-- Its one interface is that of the group, in the package of the runtime. -/
  declares : part.file.interfaces = [⟨project.runtime.root, Naming.factoryInterface group⟩]
  /-- Nothing else in it is an interface. -/
  interface : part.file.nodes.filterMap Node.interface? = [part.interface]
  /-- The common target expects what the others bring. -/
  modifiers : part.interface.modifiers =
    ["public", if target = .common then "expect" else "actual"]
  /-- Only the primary target has methods, one for each view of the group. -/
  members : part.interface.functions =
    if target = .primary then
      (project.views.filter (·.group = group)).map fun view =>
        (CreateMethod.ofView project.runtime view).function part.scope
    else []

/-- The factories that are generated for a build target are those of their groups. -/
theorem isFactoryFor_of_mem_generated {target : BuildTarget} {part : Factory}
    (made : .factory part ∈ generated (project.forTarget target)) :
    IsFactoryFor project target part.group part := by
  obtain ⟨group, inside, isPart⟩ := mem_generated_factory.1 made
  have runtime : part.runtime = project.runtime := by rw [isPart]; rfl
  have buildTarget : part.target = target := by rw [isPart]; rfl
  have named : part.group = group.1 := by rw [isPart]; rfl
  have declares : part.file.interfaces = [⟨project.runtime.root,
      Naming.factoryInterface part.group⟩] := runtime ▸ part.interfaces_file
  have modifiers : part.interface.modifiers =
      ["public", if target = .common then "expect" else "actual"] := buildTarget ▸ rfl
  refine ⟨made, fun other found same => ?_, find?_factory made, declares, part.interface_file,
    modifiers, ?_⟩
  · obtain ⟨otherGroup, grouped, isOther⟩ := mem_generated_factory.1 found
    have groups : otherGroup = group :=
      Project.eq_of_mem_groups inside grouped (by rw [← named, ← same, isOther]; rfl)
    rw [isOther, isPart, groups]
  · have views : group.2 = project.views.filter (·.group = group.1) :=
      (Text.mem_groupsBy.1 inside).2
    show part.methods.map _ = _
    by_cases primary : target = .primary
    · simp [isPart, Factory.ofGroup, Project.forTarget, primary, views]
    · simp [isPart, Factory.ofGroup, Project.forTarget, primary]

/-! ## Reading the accessors -/

/-- The name of the composition value whose current value an expression is. -/
def Expr.current? : Expr → Option String
  | .member (.name written) field => if field = "current" then some written else none
  | _ => none

/-- The composition values that a statement reads. -/
def Statement.compositionsRead (statement : Statement) : List String :=
  statement.parts.filterMap Expr.current?

/-- The arguments of calls are names and read no composition value. -/
theorem Expr.filterMap_current?_names (names : List String) :
    (listParts (names.map Expr.name)).filterMap current? = [] := by
  induction names with
  | nil => rfl
  | cons name names ih => simpa [listParts, parts, current?] using ih

namespace Body

variable {scope : Scope} {body : Body}

/-- Creating the view reads no composition value. -/
theorem filterMap_current?_creation (body : Body) :
    body.creation.parts.filterMap Expr.current? = [] := by
  have other : Naming.createMethod body.view.name ≠ "current" := by
    simp [Naming.createMethod, String.ext_iff]
  have arguments := Expr.filterMap_current?_names body.dataNames
  simp only [creation, arguments_eq, Expr.parts, List.cons_append, List.nil_append,
    List.filterMap_cons, Expr.current?, other, if_false, arguments]

/-- Bringing view and delegate about reads no composition value. -/
theorem compositionsRead_creating (scope : Scope) (body : Body) :
    (creating scope body).flatMap Statement.compositionsRead = [] := by
  have created := filterMap_current?_creation body
  unfold creating
  split
  · simp [-List.filterMap_eq_nil_iff, retainedView, Statement.compositionsRead, Statement.parts,
      remembered, Expr.invoke, Expr.parts, Expr.listParts, List.filterMap_cons, Expr.current?,
      created]
  · simp [-List.filterMap_eq_nil_iff, rememberedView, Statement.compositionsRead, Statement.parts,
      remembered, Expr.invoke, Expr.parts, Expr.listParts, List.filterMap_cons, Expr.current?,
      created]

/-- Updating and showing the view reads no composition value. -/
theorem compositionsRead_closing (scope : Scope) (body : Body) :
    (closing scope body).flatMap Statement.compositionsRead = [] := by
  refine List.flatMap_eq_nil_iff.2 fun statement inside => ?_
  obtain ⟨parameter, -, rfl⟩ | rfl | rfl := mem_closing.1 inside
  · have other : Naming.updateMethod parameter.name ≠ "current" := by
      simp [Naming.updateMethod, String.ext_iff]
    simp [update, Statement.compositionsRead, Statement.parts, remembered, Expr.invoke,
      Expr.parts, Expr.listParts, Expr.current?, other]
  · rfl
  · unfold rendering modifier
    split
    · split <;> simp [Statement.compositionsRead, Statement.parts, Expr.parts, Expr.listParts,
        Expr.current?]
    · simp [Statement.compositionsRead, Statement.parts, Expr.parts, Expr.listParts,
        Expr.current?]

/-- A body reads one composition value, the accessor of the view's group. -/
theorem compositionsRead_statements (scope : Scope) (body : Body) :
    (body.statements scope).flatMap Statement.compositionsRead = [scope.write body.accessor] := by
  rw [statements_eq, List.flatMap_cons, List.flatMap_append, compositionsRead_creating,
    compositionsRead_closing]
  simp [Statement.compositionsRead, Statement.parts, Expr.parts, Expr.current?]

end Body

/-! ## Declaring the accessors -/

namespace Compositions

/-- The accessors are the properties of their file. -/
theorem properties_file (part : Compositions) :
    part.file.properties = part.groups.map part.accessor := by
  simp [File.properties, file, List.filterMap_map, Node.property?, Function.comp_def]

/-- Each group has one accessor. -/
theorem filter_properties_file {part : Compositions} (distinct : part.groups.Nodup)
    {group : String} (inside : group ∈ part.groups) :
    part.file.properties.filter (·.name = Naming.factoryAccessor group) =
      [part.accessor group] := by
  have named : ∀ other ∈ part.groups,
      decide ((part.accessor other).name = Naming.factoryAccessor group) = (other == group) := by
    intro other _
    simp [accessor, Naming.factoryAccessor, String.append_left_inj, String.append_right_inj,
      Bool.beq_eq_decide_eq]
  rw [properties_file, List.filter_map]
  have once : part.groups.filter (· == group) = [group] := by
    rw [List.filter_beq, List.count_eq_one_of_mem distinct inside]
    rfl
  have selected := List.filter_congr named
  simp only [Function.comp_def]
  rw [selected, once]
  rfl

end Compositions

/-- What the accessor of a group is: the one property of its name in the one file of accessors of
the common target, which is kept. Its type is that of composition values of the group's
interface. -/
structure IsAccessorOf (project : Project) (group : String) (accessors : Compositions) : Prop where
  /-- The file of accessors is generated. -/
  generated : .compositions accessors ∈ generated (project.forTarget .common)
  /-- There is no other file of accessors. -/
  alone : ∀ other, .compositions other ∈ Host.generated (project.forTarget .common) →
    other = accessors
  /-- No earlier file takes its path. -/
  kept : (sources (project.forTarget .common)).registry.find?
    (Output.sourcePath project.runtime.root "Compositions.kt") =
      some (Generated.compositions accessors).entry
  /-- It belongs to the package of the runtime. -/
  package : accessors.file.scope.package = project.runtime.root
  /-- One property in it is the accessor of the group. -/
  once : accessors.file.properties.filter (·.name = Naming.factoryAccessor group) =
    [accessors.accessor group]
  /-- The accessor gives the group's factory to compositions. -/
  type : (accessors.accessor group).type =
    "ProvidableCompositionLocal<" ++ Naming.factoryInterface group ++ ">"
  /-- The names in this type denote the right classes. -/
  names : accessors.file.scope.Names "ProvidableCompositionLocal" Symbols.compositionLocal ∧
    accessors.file.scope.Names (Naming.factoryInterface group)
      ⟨project.runtime.root, Naming.factoryInterface group⟩

namespace Compositions

/-- The classes that the accessors refer to: those of composition values and the interfaces. -/
def referred (part : Compositions) : List QualifiedName :=
  Symbols.compositionLocal :: Symbols.compositionLocalOf :: part.groups.map part.factoryInterface

/-- No interface has the simple name of a class of composition values. -/
theorem simple_factoryInterface_ne (part : Compositions) (group : String) :
    (part.factoryInterface group).simple ≠ Symbols.compositionLocal.simple ∧
      (part.factoryInterface group).simple ≠ Symbols.compositionLocalOf.simple := by
  constructor
  · intro same
    have letters := congrArg String.toList same
    simp [factoryInterface, Naming.factoryInterface, Symbols.compositionLocal] at letters
  · intro same
    have letters := congrArg String.toList same
    simp [factoryInterface, Naming.factoryInterface, Symbols.compositionLocalOf] at letters

/-- The classes that the accessors refer to have different simple names. -/
theorem eq_of_simple_eq {part : Compositions} {name other : QualifiedName}
    (inside : name ∈ part.referred) (listed : other ∈ part.referred)
    (same : other.simple = name.simple) : other = name := by
  have apart : Symbols.compositionLocal.simple ≠ Symbols.compositionLocalOf.simple := by decide
  have interfaces := part.simple_factoryInterface_ne
  simp only [referred, List.mem_cons, List.mem_map] at inside listed
  rcases inside with rfl | rfl | ⟨group, -, rfl⟩
  · rcases listed with rfl | rfl | ⟨otherGroup, -, rfl⟩
    · rfl
    · exact absurd same.symm apart
    · exact absurd same (interfaces otherGroup).1
  · rcases listed with rfl | rfl | ⟨otherGroup, -, rfl⟩
    · exact absurd same apart
    · rfl
    · exact absurd same (interfaces otherGroup).2
  · rcases listed with rfl | rfl | ⟨otherGroup, -, rfl⟩
    · exact absurd same.symm (interfaces group).1
    · exact absurd same.symm (interfaces group).2
    · have groups : otherGroup = group := by
        simpa [factoryInterface, Naming.factoryInterface, String.append_left_inj,
          String.append_right_inj] using same
      rw [groups]

/-- The classes that the accessors refer to are written by their simple names. -/
theorem write_of_mem_referred {part : Compositions} {name : QualifiedName}
    (inside : name ∈ part.referred) : part.scope.write name = name.simple :=
  Scope.write_referAll_eq_simple inside fun _ listed same => eq_of_simple_eq inside listed same

/-- The scope of the accessors has one owner for each simple name. -/
theorem distinct_scope (part : Compositions) : part.scope.Distinct :=
  Scope.distinct_referAll _ _

/-- The accessors stand in the package of the runtime. -/
theorem package_scope (part : Compositions) : part.scope.package = part.runtime.root :=
  Scope.package_referAll _ _

end Compositions

/-- Every group has its accessor. -/
theorem isAccessorOf_of_mem_groupNames {group : String} (inside : group ∈ project.groupNames) :
    IsAccessorOf project group ⟨project.groupNames, project.runtime⟩ := by
  let accessors : Compositions := ⟨project.groupNames, project.runtime⟩
  have groups : project.groups ≠ [] := by
    intro none
    rw [Project.groupNames, none] at inside
    cases inside
  have present : compositions (project.forTarget .common) = [accessors] :=
    if_pos ⟨rfl, groups⟩
  have listed : .compositions accessors ∈ groupFiles (project.forTarget .common) := by
    rw [groupFiles, present]
    exact List.mem_cons_self
  have distinct : accessors.groups.Nodup := Text.nodup_keys_groupsBy View.group project.views
  have value : accessors.scope.write Symbols.compositionLocal = "ProvidableCompositionLocal" :=
    Compositions.write_of_mem_referred List.mem_cons_self
  have referred : accessors.factoryInterface group ∈ accessors.referred :=
    List.mem_cons_of_mem _ (List.mem_cons_of_mem _ (List.mem_map_of_mem inside))
  have type : accessors.scope.write (accessors.factoryInterface group) =
      Naming.factoryInterface group := Compositions.write_of_mem_referred referred
  have generated : .compositions accessors ∈ generated (project.forTarget .common) :=
    List.mem_append_left _ listed
  have path : (Generated.compositions accessors).path =
      Output.sourcePath project.runtime.root "Compositions.kt" := rfl
  have kept := find?_groupFiles listed
  rw [path] at kept
  refine ⟨generated, fun other found => ?_, kept, accessors.package_scope,
    Compositions.filter_properties_file distinct inside, ?_, ?_, ?_⟩
  · cases source_of_mem_generated found
    rfl
  · rw [Compositions.accessor, value, type]
    rfl
  · rw [← value]
    exact accessors.distinct_scope.names_write Symbols.compositionLocal
  · have names := accessors.distinct_scope.names_write (accessors.factoryInterface group)
    rw [type] at names
    exact names

/-- The view of a function at a call site is in a group. -/
theorem group_mem_of_mem_functions {callSite : CallSite} {actual : ActualFunction}
    (generated : .callSite callSite ∈ generated (project.forTarget .primary))
    (inside : actual ∈ callSite.functions) :
    actual.runtime = project.runtime ∧ actual.view.group ∈ project.groupNames := by
  obtain ⟨source, listed, rfl⟩ := (mem_generated_callSite rfl).1 generated
  obtain ⟨view, found, rfl⟩ := List.mem_map.1 inside
  have views : source.2 = project.views.filter (·.file = source.1) :=
    (Text.mem_groupsBy.1 listed).2
  rw [views] at found
  have read : view ∈ project.views := List.mem_of_mem_filter found
  exact ⟨rfl, List.mem_map_of_mem (Project.mem_groups_of_mem read)⟩

/-! ## All targets -/

/-- The build targets of a project agree. For each of them the factory files declare the same
interfaces, one for each group; each group has one factory, whose interface has methods for the
primary target only; and the factories of different targets stand at different paths. The body of
every function at a call site of the primary target reads one composition value, the accessor of
the view's group, which the common target declares once with the interface of the same group as
its type. -/
theorem targets_agree (project : Project) :
    project.groupNames.Nodup ∧
    (∀ target, factoryInterfaces (project.forTarget target) =
      project.groupNames.map fun group =>
        ⟨project.runtime.root, Naming.factoryInterface group⟩) ∧
    (∀ target, ∀ group ∈ project.groupNames, ∃ part, IsFactoryFor project target group part) ∧
    (∀ target part, .factory part ∈ generated (project.forTarget target) →
      part.group ∈ project.groupNames) ∧
    (∀ target otherTarget part other, target ≠ otherTarget →
      .factory part ∈ generated (project.forTarget target) →
      .factory other ∈ generated (project.forTarget otherTarget) → part.path ≠ other.path) ∧
    ∀ callSite, .callSite callSite ∈ generated (project.forTarget .primary) →
      ∀ actual ∈ callSite.functions, actual.view.group ∈ project.groupNames ∧
        (actual.function callSite.scope).body =
          some ((actual.body.statements callSite.scope).map Statement.fragment) ∧
        ∃ text accessors,
          (actual.body.statements callSite.scope).flatMap Statement.compositionsRead = [text] ∧
          callSite.scope.Names text
            ⟨project.runtime.root, Naming.factoryAccessor actual.view.group⟩ ∧
          IsAccessorOf project actual.view.group accessors := by
  refine ⟨Text.nodup_keys_groupsBy View.group project.views,
    fun target => factoryInterfaces_eq (project.forTarget target), ?_, ?_, ?_, ?_⟩
  · intro target group inside
    obtain ⟨found, grouped, rfl⟩ := List.mem_map.1 inside
    have made : .factory (.ofGroup target project.runtime found.1 found.2) ∈
        generated (project.forTarget target) := mem_generated_factory.2 ⟨found, grouped, rfl⟩
    exact ⟨_, isFactoryFor_of_mem_generated made⟩
  · intro target part inside
    obtain ⟨group, grouped, rfl⟩ := mem_generated_factory.1 inside
    exact List.mem_map_of_mem grouped
  · intro target otherTarget part other apart inside behind
    obtain ⟨group, -, rfl⟩ := mem_generated_factory.1 inside
    obtain ⟨otherGroup, -, rfl⟩ := mem_generated_factory.1 behind
    exact Factory.path_ne_of_target_ne rfl apart
  · intro callSite inside actual listed
    obtain ⟨runtime, grouped⟩ := group_mem_of_mem_functions inside listed
    have distinct : callSite.scope.Distinct := Scope.distinct_referAll _ _
    have names := distinct.names_write actual.body.accessor
    refine ⟨grouped, rfl, _, _, actual.body.compositionsRead_statements callSite.scope, ?_,
      isAccessorOf_of_mem_groupNames grouped⟩
    rw [← runtime]
    exact names

end Host

end ViewGlue
