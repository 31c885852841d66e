import Mathlib.Data.List.Flatten
import Mathlib.Data.List.Perm.Subperm
import ViewGlue.Proofs.ArtifactAgreement
import ViewGlue.Proofs.PathCollisions

/-!
# Removing a view

The files of a view are those of its group, those of its source file and its own. Removing the view
from a project that reports no collision changes no other file, in neither language, and makes no
other file appear or vanish (`removal_is_local`). A view that cannot be bridged leaves no trace in
the native files as long as its group has another view.
-/

namespace ViewGlue

open Output Text

/-- The project with other views. -/
def Project.withViews (project : Project) (views : List View) : Project :=
  { project with views := views }

/-! ## Registries -/

namespace Output.Registry

/-- Fewer files have fewer paths, so none of them collides where none did. -/
theorem collisions_eq_nil_of_subperm {entries others : List Entry}
    (fewer : (entries.map (·.path)).Subperm (others.map (·.path)))
    (quiet : (ofList others).collisions = []) : (ofList entries).collisions = [] := by
  obtain ⟨paths, same, kept⟩ := fewer
  have distinct : (others.map (·.path)).Nodup := collisions_eq_nil_iff.1 quiet
  have some : paths.Nodup := distinct.sublist kept
  exact collisions_eq_nil_iff.2 (same.nodup_iff.1 some)

/-- Every file of a registry is one of these or a file of another registry as it is. -/
def SharesBut (registry : Registry) (about : Entry → Prop) (other : Registry) : Prop :=
  ∀ entry ∈ registry.entries, about entry ∨ entry ∈ other.entries

/-- Files that are made elsewhere too are shared if no file collides there. -/
theorem sharesBut_ofList {α : Type} {written : α → Entry} {about : α → Prop} {made others : List α}
    (quiet : (ofList (others.map written)).collisions = [])
    (kept : ∀ part ∈ made, ¬ about part → part ∈ others) :
    (ofList (made.map written)).SharesBut (fun entry => ∃ part ∈ made, about part ∧
      written part = entry) (ofList (others.map written)) := by
  intro entry listed
  have registered : entry ∈ made.map written := mem_of_mem_entries listed
  obtain ⟨part, inside, rfl⟩ := List.mem_map.1 registered
  by_cases affected : about part
  · exact .inl ⟨part, inside, affected, rfl⟩
  · have elsewhere : written part ∈ others.map written :=
      List.mem_map_of_mem (kept part inside affected)
    exact .inr ((mem_entries_ofList_iff quiet).2 elsewhere)

end Output.Registry

/-! ## Fewer elements -/

section Subperm

variable {α β κ : Type} [DecidableEq κ] {elements others : List α}

/-- What is made of fewer elements one by one is less. -/
theorem subperm_flatMap (fewer : elements.Subperm others) (made : α → List β) :
    (elements.flatMap made).Subperm (others.flatMap made) := by
  obtain ⟨kept, same, sublist⟩ := fewer
  exact ⟨kept.flatMap made, same.flatMap_right made, sublist.flatMap made⟩

/-- Fewer elements have fewer images. -/
theorem subperm_map (fewer : elements.Subperm others) (image : α → β) :
    (elements.map image).Subperm (others.map image) := by
  obtain ⟨kept, same, sublist⟩ := fewer
  exact ⟨kept.map image, same.map image, sublist.map image⟩

/-- Fewer elements have fewer keys. -/
theorem keys_groupsBy_subperm (fewer : elements ⊆ others) (key : α → κ) :
    ((groupsBy key elements).map (·.1)).Subperm ((groupsBy key others).map (·.1)) :=
  (nodup_keys_groupsBy key elements).subperm (keys_groupsBy_subset fewer)

end Subperm

variable {project : Project} {before behind : List View} {view : View}

/-- Without one of them there are fewer views. -/
theorem views_without_sublist (place : project.views = before ++ view :: behind) :
    (before ++ behind).Sublist project.views := by
  rw [place]
  exact (List.sublist_cons_self view behind).append_left before

/-- Every other view is still there. -/
theorem mem_views_without (place : project.views = before ++ view :: behind) {other : View}
    (differs : other ≠ view) : other ∈ project.views ↔ other ∈ before ++ behind := by
  rw [place]
  simp [differs]

/-! ## Host files -/

namespace Host

/-- A file is about a view: it is the factory of the view's group, the delegate of the view, or has
the call sites of the view's source file. -/
def Generated.About (view : View) : Generated → Prop
  | compositions _ => False
  | factory part => part.group = view.group
  | delegate part => part.view = view
  | callSite part => part.source = view.file

/-- A file of a project is about a view. -/
def IsAbout (view : View) (project : Project) (entry : Entry) : Prop :=
  ∃ part ∈ generated project, part.About view ∧ part.entry = entry

/-- Files about other views are generated without a view exactly if they are with it. -/
theorem mem_generated_without (primary : project.target = .primary)
    (place : project.views = before ++ view :: behind) (part : Generated)
    (other : ¬ part.About view) :
    part ∈ generated project ↔ part ∈ generated (project.withViews (before ++ behind)) := by
  have stays : (project.withViews (before ++ behind)).target = .primary := primary
  cases part with
  | compositions part =>
    have none {project : Project} (primary : project.target = .primary) :
        .compositions part ∉ generated project := by
      intro inside
      cases source_of_mem_generated inside with
      | compositions common => exact absurd (common.symm.trans primary) (by decide)
    exact iff_of_false (none primary) (none stays)
  | factory part =>
    rw [mem_generated_factory, mem_generated_factory]
    refine exists_congr fun group => and_congr_left fun made => ?_
    have differs : group.1 ≠ view.group := by
      rw [made] at other
      exact other
    rw [Project.groups, place]
    exact mem_groupsBy_without differs
  | delegate part =>
    rw [mem_generated_delegate primary, mem_generated_delegate stays, mem_views_without place other]
    rfl
  | callSite part =>
    rw [mem_generated_callSite primary, mem_generated_callSite stays]
    refine exists_congr fun source => and_congr_left fun made => ?_
    have differs : source.1 ≠ view.file := by
      rw [made] at other
      exact other
    rw [Project.sourceFiles, place]
    exact mem_groupsBy_without differs

/-- The paths of a primary project follow from its groups, its views and its source files. -/
theorem paths_generated (primary : project.target = .primary) :
    (generated project).map (·.entry.path) =
      project.groupNames.map
          (fun group => (Factory.ofGroup .primary project.runtime group []).path) ++
        (project.views.map (fun view => (Delegate.mk view project.runtime).path) ++
          (project.sourceFiles.map (·.1)).map
            (fun source => (CallSite.ofSource .primary project.runtime source []).path)) := by
  have accessors : compositions project = [] := by simp [compositions, primary]
  rw [generated, accessors, if_pos primary]
  simp [factories, delegates, callSites, primary, Project.groupNames, Function.comp_def,
    Generated.entry, Generated.path]
  rfl

/-- Removing a view from a project without collisions brings about none. -/
theorem collisions_without (primary : project.target = .primary)
    (place : project.views = before ++ view :: behind)
    (quiet : (sources project).registry.collisions = []) :
    (sources (project.withViews (before ++ behind))).registry.collisions = [] := by
  have fewer : (before ++ behind).Sublist project.views := views_without_sublist place
  have groups := keys_groupsBy_subperm fewer.subset View.group
  have files := keys_groupsBy_subperm fewer.subset View.file
  have stays : (project.withViews (before ++ behind)).target = .primary := primary
  refine Registry.collisions_eq_nil_of_subperm ?_ quiet
  have paths := paths_generated primary
  have remaining := paths_generated stays
  rw [List.map_map, List.map_map]
  rw [← Function.comp_def] at paths remaining
  rw [paths, remaining]
  exact (subperm_map groups _).append ((fewer.map _).subperm.append (subperm_map files _))

end Host

/-! ## Native files -/

namespace Foreign

variable {modules : List String}

/-- A file is about a view: it is the protocol or the binding class of the view's group, or the
observable object of the view. -/
def Generated.About (view : View) : Generated → Prop
  | protocol part => part.group = view.group
  | binding part => part.group = view.group
  | observable part => part.bridged.view = view

/-- A file of a project is about a view. -/
def IsAbout (view : View) (modules : List String) (project : Project) (entry : Entry) : Prop :=
  ∃ part ∈ generated modules project, part.About view ∧ part.entry = entry

/-- Native files are generated for the groups with the views of theirs that can be bridged. -/
theorem mem_targetGroups_iff (primary : project.target = .primary)
    {group : String × List BridgedView} :
    group ∈ targetGroups project ↔
      group.1 ∈ project.views.map View.group ∧
        group.2 = (project.views.filter (·.group = group.1)).filterMap BridgedView.ofView? := by
  rw [targetGroups, if_pos primary, mem_bridgedGroups]
  constructor
  · rintro ⟨source, listed, rfl⟩
    obtain ⟨occurs, views⟩ := mem_groupsBy.1 listed
    exact ⟨occurs, congrArg (List.filterMap BridgedView.ofView?) views⟩
  · rintro ⟨occurs, views⟩
    exact ⟨(group.1, project.views.filter (·.group = group.1)), mem_groupsBy.2 ⟨occurs, rfl⟩,
      Prod.ext rfl views⟩

/-- The views in the groups are those that can be bridged. -/
theorem exists_mem_targetGroups_iff (primary : project.target = .primary) {bridged : BridgedView} :
    (∃ group ∈ targetGroups project, bridged ∈ group.2) ↔
      bridged.view ∈ project.views ∧ BridgedView.ofView? bridged.view = some bridged := by
  constructor
  · rintro ⟨group, listed, inside⟩
    exact ⟨view_mem_of_mem_targetGroups listed inside,
      ofView?_of_mem_bridgedGroups (mem_bridgedGroups_of_target listed) inside⟩
  · rintro ⟨read, maps⟩
    have grouped : bridged.view ∈ project.views.filter (·.group = bridged.view.group) :=
      List.mem_filter.2 ⟨read, by simp⟩
    have listed : (bridged.view.group, bridgedOf bridged.view project.views) ∈
        targetGroups project :=
      (mem_targetGroups_iff primary).2 ⟨List.mem_map_of_mem read, rfl⟩
    exact ⟨_, listed, List.mem_filterMap.2 ⟨bridged.view, grouped, maps⟩⟩

/-- Files about other views are generated without a view exactly if they are with it. -/
theorem mem_generated_without (modules : List String) (primary : project.target = .primary)
    (place : project.views = before ++ view :: behind) (part : Generated)
    (other : ¬ part.About view) :
    part ∈ generated modules project ↔
      part ∈ generated modules (project.withViews (before ++ behind)) := by
  have stays : (project.withViews (before ++ behind)).target = .primary := primary
  have groups : ∀ group : String × List BridgedView, group.1 ≠ view.group →
      (group ∈ targetGroups project ↔
        group ∈ targetGroups (project.withViews (before ++ behind))) := by
    intro group differs
    rw [mem_targetGroups_iff primary, mem_targetGroups_iff stays, Project.withViews, place]
    simp [differs, differs.symm]
  cases part with
  | protocol part =>
    rw [mem_generated_protocol, mem_generated_protocol]
    refine exists_congr fun group => and_congr_left fun made => groups group ?_
    rw [made] at other
    exact other
  | binding part =>
    rw [mem_generated_binding, mem_generated_binding]
    refine exists_congr fun group => and_congr_left fun made => groups group ?_
    rw [made] at other
    exact other
  | observable part =>
    have views := mem_views_without place other
    rw [mem_generated_observable, mem_generated_observable, exists_mem_targetGroups_iff primary,
      exists_mem_targetGroups_iff stays, views]
    rfl

/-- The observed views that can be bridged. -/
def observedViews (views : List View) : List BridgedView :=
  (views.filterMap BridgedView.ofView?).filter (·.view.mode = .observed)

/-- The paths of a group's files. -/
def groupPaths (group : String) : List String :=
  [Naming.factoryAlias group ++ ".swift", Naming.bindingClass group ++ ".swift"]

/-- The path of an observed view's file. -/
def observedPath (bridged : BridgedView) : String :=
  Naming.observable bridged.view.name ++ ".swift"

/-- The paths of native files follow from the groups and the observed views. -/
theorem paths_generated_perm (primary : project.target = .primary) (modules : List String) :
    ((generated modules project).map (·.entry.path)).Perm
      (project.groupNames.flatMap groupPaths ++
        (observedViews project.views).map observedPath) := by
  have groups : targetGroups project = bridgedGroups project := if_pos primary
  have ofGroups : (factories modules (targetGroups project)).map (·.entry.path) =
      project.groupNames.flatMap groupPaths := by
    rw [groups]
    simp [factories, bridgedGroups, Project.groupNames, List.flatMap_map, List.map_flatMap,
      Generated.entry, Generated.path, FactoryProtocol.path, Binding.path, groupPaths]
  have grouped : ((targetGroups project).flatMap (·.2)).Perm
      (project.views.filterMap BridgedView.ofView?) := by
    have views := (flatMap_groupsBy_perm View.group project.views).filterMap BridgedView.ofView?
    rw [List.filterMap_flatMap] at views
    rw [groups, bridgedGroups, List.flatMap_map]
    exact views
  have ofViews := (grouped.filter (·.view.mode = .observed)).map observedPath
  rw [generated, List.map_append, ofGroups, observables, List.map_map]
  exact ofViews.append_left _

/-- Removing a view from a project without collisions brings about none. -/
theorem collisions_without {framework : Option String} (primary : project.target = .primary)
    (place : project.views = before ++ view :: behind)
    (quiet : (sources framework project).registry.collisions = []) :
    (sources framework (project.withViews (before ++ behind))).registry.collisions = [] := by
  have fewer : (before ++ behind).Sublist project.views := views_without_sublist place
  have groups := subperm_flatMap (keys_groupsBy_subperm fewer.subset View.group) groupPaths
  have observed : ((observedViews (before ++ behind)).map observedPath).Sublist
      ((observedViews project.views).map observedPath) :=
    ((fewer.filterMap _).filter _).map observedPath
  have stays : (project.withViews (before ++ behind)).target = .primary := primary
  have paths := paths_generated_perm primary framework.toList
  have remaining := paths_generated_perm stays framework.toList
  have less := groups.append observed.subperm
  refine Registry.collisions_eq_nil_of_subperm ?_ quiet
  rw [List.map_map, List.map_map]
  exact remaining.subperm.trans (less.trans paths.symm.subperm)

/-- Without a view that cannot be bridged the groups are bridged as before, if its group has
another view. -/
theorem mem_targetGroups_without (primary : project.target = .primary)
    (place : project.views = before ++ view :: behind) (leftOut : BridgedView.ofView? view = none)
    (accompanied : ∃ other ∈ before ++ behind, other.group = view.group)
    (group : String × List BridgedView) :
    group ∈ targetGroups project ↔
      group ∈ targetGroups (project.withViews (before ++ behind)) := by
  have stays : (project.withViews (before ++ behind)).target = .primary := primary
  have views : (project.views.filter (·.group = group.1)).filterMap BridgedView.ofView? =
      ((before ++ behind).filter (·.group = group.1)).filterMap BridgedView.ofView? := by
    rw [place, List.filter_append, List.filter_append, List.filterMap_append,
      List.filterMap_append]
    by_cases inGroup : view.group = group.1 <;> simp [inGroup, leftOut]
  have names : group.1 ∈ project.views.map View.group ↔
      group.1 ∈ (before ++ behind).map View.group := by
    obtain ⟨other, inside, same⟩ := accompanied
    have stillThere : view.group ∈ (before ++ behind).map View.group :=
      same ▸ List.mem_map_of_mem inside
    rw [place]
    by_cases inGroup : group.1 = view.group
    · rw [inGroup]
      exact iff_of_true (by simp) stillThere
    · simp [inGroup]
  rw [mem_targetGroups_iff primary, mem_targetGroups_iff stays, views, names]
  rfl

/-- The native files follow from the bridged groups. -/
theorem mem_generated_congr {other : Project}
    (same : ∀ group, group ∈ targetGroups project ↔ group ∈ targetGroups other)
    {part : Generated} : part ∈ generated modules project ↔ part ∈ generated modules other := by
  cases part with
  | protocol part => simp only [mem_generated_protocol, same]
  | binding part => simp only [mem_generated_binding, same]
  | observable part => simp only [mem_generated_observable, same]

end Foreign

/-! ## Both languages -/

/-- Removing a view from a project for the primary target that reports no collision changes only
the files about it, in both languages and whatever else is reported then: every other file of the
project is still there as it is, and there are no others. If the view cannot be bridged and its
group has another view, the native files are the same. -/
theorem removal_is_local (framework : Option String) (primary : project.target = .primary)
    (place : project.views = before ++ view :: behind)
    (hostQuiet : ∀ diagnostic ∈ (Host.sources project).diagnostics,
      diagnostic.code ≠ some "path-collision")
    (nativeQuiet : ∀ diagnostic ∈ (Foreign.sources framework project).diagnostics,
      diagnostic.code ≠ some "path-collision") (diagnostics : List Diagnostic) :
    let without := { project.withViews (before ++ behind) with diagnostics := diagnostics }
    let host := (Host.sources project).registry
    let hostWithout := (Host.sources without).registry
    let native := (Foreign.sources framework project).registry
    let nativeWithout := (Foreign.sources framework without).registry
    (host.SharesBut (Host.IsAbout view project) hostWithout ∧
      hostWithout.SharesBut (Host.IsAbout view without) host) ∧
    (native.SharesBut (Foreign.IsAbout view framework.toList project) nativeWithout ∧
      nativeWithout.SharesBut (Foreign.IsAbout view framework.toList without) native) ∧
    (Foreign.BridgedView.ofView? view = none →
      (∃ other ∈ before ++ behind, other.group = view.group) →
      ∀ entry, entry ∈ native.entries ↔ entry ∈ nativeWithout.entries) := by
  intro without host hostWithout native nativeWithout
  have hostKept : host.collisions = [] := Registry.collisions_eq_nil_of_diagnostics hostQuiet
  have nativeKept : native.collisions = [] :=
    Registry.collisions_eq_nil_of_diagnostics fun diagnostic reported =>
      nativeQuiet diagnostic (List.mem_append_right _ reported)
  -- No generator looks at the diagnostics of a project, so these facts hold for any of them.
  have hostKeptWithout := Host.collisions_without primary place hostKept
  have nativeKeptWithout := Foreign.collisions_without primary place nativeKept
  have hostFiles := Host.mem_generated_without primary place
  have nativeFiles := Foreign.mem_generated_without framework.toList primary place
  refine ⟨⟨?_, ?_⟩, ⟨?_, ?_⟩, fun leftOut accompanied entry => ?_⟩
  · exact Registry.sharesBut_ofList hostKeptWithout fun part made other =>
      (hostFiles part other).1 made
  · exact Registry.sharesBut_ofList hostKept fun part made other => (hostFiles part other).2 made
  · exact Registry.sharesBut_ofList nativeKeptWithout fun part made other =>
      (nativeFiles part other).1 made
  · exact Registry.sharesBut_ofList nativeKept fun part made other =>
      (nativeFiles part other).2 made
  · have groups := Foreign.mem_targetGroups_without primary place leftOut accompanied
    have same : ∀ part, part ∈ Foreign.generated framework.toList project ↔
        part ∈ Foreign.generated framework.toList without :=
      fun _ => Foreign.mem_generated_congr groups
    have listed : entry ∈ native.entries ↔
        entry ∈ (Foreign.generated framework.toList project).map (·.entry) :=
      Registry.mem_entries_ofList_iff nativeKept
    have listedWithout : entry ∈ nativeWithout.entries ↔
        entry ∈ (Foreign.generated framework.toList without).map (·.entry) :=
      Registry.mem_entries_ofList_iff nativeKeptWithout
    rw [listed, listedWithout, List.mem_map, List.mem_map]
    simp only [same]

/-- The list cannot be bridged and shares its group with the two other views: without it their
files are the same, and so are all native files. -/
theorem removal_of_listSketch_is_local :
    let without : Project := .ofViews .primary ⟨"dev.viewbridge"⟩ [View.mapSketch, View.badgeSketch]
    (Host.sources Host.listProject).registry.SharesBut
        (Host.IsAbout Host.listSketch Host.listProject) (Host.sources without).registry ∧
      (Host.sources without).registry.entries.map (·.path) =
        ["dev/viewbridge/ComposeNativeViewFactory.primary.kt",
          "dev/viewbridge/delegate/ShowMapDelegate.kt",
          "dev/viewbridge/delegate/ShowBadgeDelegate.kt", "com/example/ShowMap.primary.kt",
          "com/example/ShowBadge.primary.kt"] ∧
      ∀ entry, entry ∈ (Foreign.sources none Host.listProject).registry.entries ↔
        entry ∈ (Foreign.sources none without).registry.entries := by
  have place : Host.listProject.views =
      [View.mapSketch] ++ Host.listSketch :: [View.badgeSketch] := rfl
  have hostQuiet : ∀ diagnostic ∈ (Host.sources Host.listProject).diagnostics,
      diagnostic.code ≠ some "path-collision" := by decide +kernel
  have nativeQuiet : ∀ diagnostic ∈ (Foreign.sources none Host.listProject).diagnostics,
      diagnostic.code ≠ some "path-collision" := by decide +kernel
  have leftOut : Foreign.BridgedView.ofView? Host.listSketch = none := by decide +kernel
  have accompanied : ∃ other ∈ [View.mapSketch] ++ [View.badgeSketch],
      other.group = Host.listSketch.group := ⟨View.mapSketch, List.mem_cons_self, rfl⟩
  obtain ⟨⟨shared, -⟩, -, same⟩ :=
    removal_is_local none rfl place hostQuiet nativeQuiet []
  exact ⟨shared, by decide +kernel, same leftOut accompanied⟩

end ViewGlue
