import Mathlib.Data.List.Pairwise
import ViewGlue.Proofs.Contributions
import ViewGlue.Proofs.RepeatedNames
import ViewGlue.Proofs.TargetAgreement

/-!
# Types of factory files

For the common target the factory of a group declares two types in the package of the runtime: an
interface, `Compose` before the name of the group, and an alias without it. Two types of a project
have one name exactly if the name of one group is `Compose` before the name of another
(`Host.nodup_factoryTypes_iff`). The files of the two groups have paths of their own, and the lints
look at the names of views, so nothing reports this (`factory_types_meet_unreported`).
-/

namespace ViewGlue

open Output (Registry)

namespace Naming

variable {group other : String}

/-- Groups have interfaces of different names. -/
theorem factoryInterface_inj : factoryInterface group = factoryInterface other ↔ group = other := by
  simp [factoryInterface, String.append_left_inj, String.append_right_inj]

/-- Groups have aliases of different names. -/
theorem factoryAlias_inj : factoryAlias group = factoryAlias other ↔ group = other := by
  simp [factoryAlias, String.append_left_inj]

/-- The interface of a group has the name of the alias of the group that is named `Compose` before
the name of the first. -/
theorem factoryInterface_eq_factoryAlias_iff :
    factoryInterface group = factoryAlias other ↔ other = "Compose" ++ group := by
  rw [factoryInterface, factoryAlias, String.append_left_inj, eq_comm]

/-- The interface of a group does not have the name of its alias. -/
theorem factoryInterface_ne_factoryAlias (group : String) :
    factoryInterface group ≠ factoryAlias group := by
  intro same
  have letters := congrArg String.length (factoryInterface_eq_factoryAlias_iff.1 same)
  simp at letters

end Naming

namespace Host

/-! ## Declared types -/

/-- The name of the type that a declaration introduces. -/
def Node.typeName? : Node → Option String
  | interface node => some node.name
  | typeAlias node => some node.name
  | _ => none

/-- The types that a file declares, in its package. -/
def File.types (file : File) : List QualifiedName :=
  (file.nodes.filterMap Node.typeName?).map fun name => ⟨file.scope.package, name⟩

/-- The types that a generated file declares if it is a factory. -/
def Generated.types : Generated → List QualifiedName
  | factory part => part.file.types
  | _ => []

/-- The types that the factories of a project declare, in the order of the files. -/
def factoryTypes (project : Project) : List QualifiedName :=
  (generated project).flatMap Generated.types

/-- The interface and the alias of a group. -/
def groupTypes (runtime : RuntimePackage) (group : String) : List QualifiedName :=
  [⟨runtime.root, Naming.factoryInterface group⟩, ⟨runtime.root, Naming.factoryAlias group⟩]

/-- The interface and the alias of a group are two types. -/
theorem nodup_groupTypes (runtime : RuntimePackage) (group : String) :
    (groupTypes runtime group).Nodup := by
  have differ := Naming.factoryInterface_ne_factoryAlias group
  simp [groupTypes, differ]

/-- Two groups have no type in common exactly if neither is named `Compose` before the name of the
other. -/
theorem disjoint_groupTypes_iff {runtime : RuntimePackage} {group other : String}
    (differ : group ≠ other) :
    (groupTypes runtime group).Disjoint (groupTypes runtime other) ↔
      other ≠ "Compose" ++ group ∧ group ≠ "Compose" ++ other := by
  have swapped : Naming.factoryAlias other = Naming.factoryInterface group ↔
      other = "Compose" ++ group := eq_comm.trans Naming.factoryInterface_eq_factoryAlias_iff
  simp [groupTypes, Naming.factoryInterface_inj, Naming.factoryAlias_inj,
    Naming.factoryInterface_eq_factoryAlias_iff, swapped, differ.symm, and_comm]

variable {project : Project}

/-- For the common target a factory declares the types of its group. -/
theorem Factory.types_file {part : Factory} (common : part.target = .common) :
    part.file.types = groupTypes part.runtime part.group := by
  have package : part.file.scope.package = part.runtime.root := part.package_scope
  have names : part.file.nodes.filterMap Node.typeName? =
      [Naming.factoryInterface part.group, Naming.factoryAlias part.group] := by
    rw [file, if_pos common]
    rfl
  rw [File.types, names, package]
  rfl

/-- The factories of a common project declare the types of its groups. -/
theorem factoryTypes_eq (common : project.target = .common) :
    factoryTypes project = project.groupNames.flatMap (groupTypes project.runtime) := by
  have notPrimary : project.target ≠ .primary := by simp [common]
  have accessors : ((compositions project).map Generated.compositions).flatMap
      Generated.types = [] := by
    simp [List.flatMap_map, Generated.types]
  have declared (group : String × List View) :
      (Factory.ofGroup project.target project.runtime group.1 group.2).file.types =
        groupTypes project.runtime group.1 :=
    Factory.types_file common
  rw [factoryTypes, generated, if_neg notPrimary, List.append_nil, List.flatMap_append, accessors,
    List.nil_append, factories, List.map_map, List.flatMap_map, Project.groupNames,
    List.flatMap_map]
  simp only [Function.comp_def, Generated.types, declared]

/-- The types of a common project have different names exactly if no group is named `Compose` before
the name of another. -/
theorem nodup_factoryTypes_iff (common : project.target = .common) :
    (factoryTypes project).Nodup ↔
      ∀ group ∈ project.groupNames, "Compose" ++ group ∉ project.groupNames := by
  have distinct : project.groupNames.Nodup := Text.nodup_keys_groupsBy View.group project.views
  have longer (group : String) : group ≠ "Compose" ++ group := by
    intro same
    simpa using congrArg String.length same
  rw [factoryTypes_eq common, List.nodup_flatMap]
  constructor
  · rintro ⟨-, apart⟩ group inside found
    have symmetric : Std.Symm (Function.onFun List.Disjoint (groupTypes project.runtime)) :=
      ⟨fun _ _ disjoint => List.disjoint_symm disjoint⟩
    have disjoint := apart.forall inside found (longer group)
    exact ((disjoint_groupTypes_iff (longer group)).1 disjoint).1 rfl
  · intro free
    refine ⟨fun group _ => nodup_groupTypes project.runtime group,
      distinct.pairwise_of_forall_ne fun group inside other found differ => ?_⟩
    refine (disjoint_groupTypes_iff differ).2 ⟨?_, ?_⟩
    · rintro rfl
      exact free group inside found
    · rintro rfl
      exact free other found inside

/-- The host files of a common project all have paths of their own. -/
theorem diagnostics_sources_of_common (common : project.target = .common) :
    (sources project).diagnostics = [] := by
  have notPrimary : project.target ≠ .primary := by simp [common]
  have paths : ((generated project).map (·.entry)).Pairwise fun other entry =>
      other.path ≠ entry.path := by
    rw [generated, if_neg notPrimary, List.append_nil, List.pairwise_map]
    exact groupFiles_apart project
  have quiet := Registry.collisions_eq_nil_iff.2 (List.pairwise_map.2 paths)
  show (Registry.ofList _).collisions.map Registry.collision = []
  rw [quiet, List.map_nil]

end Host

/-- What is known about the types of a common project and about its reports. The types are the
interface and the alias of each group, and they have different names exactly if no group is named
`Compose` before the name of another. Two types of one name are not reported: the generator of host
files reports nothing, and the session reports what each declaration contributes alone, one warning
about each view that has the name of an earlier one, and warnings about single render targets. -/
theorem factory_types_meet_unreported (options : Options) (rounds : List (List Declaration)) :
    let project := Discovery.project options rounds .common
    Host.factoryTypes project = project.groupNames.flatMap (Host.groupTypes project.runtime) ∧
    ((Host.factoryTypes project).Nodup ↔
      ∀ group ∈ project.groupNames, "Compose" ++ group ∉ project.groupNames) ∧
    (Host.sources project).diagnostics = [] ∧
    project.diagnostics =
      Discovery.contributedReports (.ofOptions options) rounds.flatten ++
        (Lint.duplicates.check project.views ++
          project.views.filterMap Lint.UnqualifiedTarget.warning?) ∧
    List.Forall₂ Lint.Duplicates.Warns (repeatedViews project.views)
      (Lint.duplicates.check project.views) := by
  intro project
  have lints : Lint.builtin.flatMap (·.check project.views) =
      Lint.duplicates.check project.views ++
        project.views.filterMap Lint.UnqualifiedTarget.warning? := by
    simp [Lint.builtin, Lint.unqualifiedTarget]
  have reports := Discovery.diagnostics_project options rounds .common
  refine ⟨Host.factoryTypes_eq rfl, Host.nodup_factoryTypes_iff rfl,
    Host.diagnostics_sources_of_common rfl, ?_, Lint.Duplicates.warns_check project.views⟩
  rw [← lints]
  exact reports

/-- Declarations of two views, in the group `Maps` and in the group `ComposeMaps`. -/
def prefixedRounds : List (List Declaration) :=
  let file : SourceFile := ⟨"shared/Maps.kt", "com.example"⟩
  let slot : DeclaredParameter := ⟨some "modifier", .ofDotted Reading.slotClass, []⟩
  [[{ name := "ShowMap", file := some file, bridge := { group := some "Maps" }
      parameters := [slot] },
    { name := "ShowTile", file := some file, bridge := { group := some "ComposeMaps" }
      parameters := [slot] }]]

/-- Types of one name go unreported: the groups `Maps` and `ComposeMaps` both declare
`ComposeMapsFactory`, and neither the session nor the generator of host files reports anything. -/
theorem prefixedRounds_meet_unreported :
    ¬∀ (options : Options) (rounds : List (List Declaration)),
      let project := Discovery.project options rounds .common
      (Host.factoryTypes project).Nodup ∨ project.diagnostics ≠ [] ∨
        (Host.sources project).diagnostics ≠ [] := by
  intro reported
  have groups : (Discovery.project {} prefixedRounds .common).groupNames =
      ["Maps", "ComposeMaps"] := by decide
  rcases reported {} prefixedRounds with distinct | session | generator
  · have free := (Host.nodup_factoryTypes_iff rfl).1 distinct
    rw [groups] at free
    exact free "Maps" (by decide) (by decide)
  · exact session (by decide)
  · exact generator (Host.diagnostics_sources_of_common rfl)

end ViewGlue
