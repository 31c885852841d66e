import ViewGlue.Proofs.ManifestNames
import ViewGlue.Proofs.OutputPlaces
import ViewGlue.Proofs.Regeneration

/-!
# Paths below the output directory

Generated files stand below the directory they are written to if their paths lead down from it.
Source files have packages of identifiers, and no part of a package has a dot. But the package of
the runtime is an option that is taken as it is, and a slash in it may leave an empty name in the
path: the host files lead down exactly if there is none (`paths_lead_down_iff`). Where the option
starts with a slash, the files are written below the root (`slashed_runtime_leads_out`).
-/

namespace ViewGlue

open Output Text

namespace Output

/-- The parts of a package have no empty names between their slashes. -/
def IsContained (package : String) : Prop :=
  ∀ part ∈ packageParts package, "" ∉ splitAt (· == '/') part

instance : DecidablePred IsContained := fun package =>
  inferInstanceAs (Decidable (∀ part ∈ packageParts package, "" ∉ splitAt (· == '/') part))

/-! ## Names in paths -/

/-- A path that is joined from others has the names of all of them. -/
theorem splitAt_joinWith_slash {paths : List String} (some : paths ≠ []) :
    splitAt (· == '/') (joinWith "/" paths) = paths.flatMap (splitAt (· == '/')) := by
  induction paths with
  | nil => exact absurd rfl some
  | cons path paths ih =>
    cases paths with
    | nil => simp [joinWith]
    | cons next paths =>
      have rest := ih (List.cons_ne_nil next paths)
      rw [joinWith, splitAt_append_slash, rest, ← List.flatMap_cons]

/-- The path of a file has the names in the parts of its package before the file's name. -/
theorem names_sourcePath (package : String) {fileName : String} (plain : '/' ∉ fileName.toList) :
    splitAt (· == '/') (sourcePath package fileName) =
      (packageParts package).flatMap (splitAt (· == '/')) ++ [fileName] := by
  have single : splitAt (· == '/') fileName = [fileName] := by
    rw [splitAt, splitChars_of_notMem plain, List.map_singleton, String.ofList_toList]
  have some : packageParts package ++ [fileName] ≠ [] :=
    List.append_ne_nil_of_right_ne_nil _ (List.cons_ne_nil fileName [])
  rw [sourcePath_eq, splitAt_joinWith_slash some, List.flatMap_append, List.flatMap_singleton,
    single]

/-- A name in a part of a package has no dot. -/
theorem dot_notMem_of_mem_packageParts {package part name : String}
    (inside : part ∈ packageParts package) (found : name ∈ splitAt (· == '/') part) :
    '.' ∉ name.toList := by
  intro dot
  obtain ⟨letters, isPart, rfl⟩ := List.mem_map.1 (List.mem_of_mem_filter inside)
  obtain ⟨nameLetters, isName, rfl⟩ := List.mem_map.1 found
  rw [String.toList_ofList] at dot isName
  have letter : '.' ∈ letters := (letter_of_mem_splitChars isName dot).1
  have separates := (letter_of_mem_splitChars isPart letter).2
  cases separates

/-- A name without dots is none of dots alone. -/
theorem ne_dots_of_dot_notMem {name : String} (plain : '.' ∉ name.toList) :
    name ≠ "." ∧ name ≠ ".." := by
  constructor
  · rintro rfl
    exact plain (by decide)
  · rintro rfl
    exact plain (by decide)

/-- A name without dots leads down unless it is empty. -/
theorem isStep_iff_of_dot_notMem {name : String} (plain : '.' ∉ name.toList) :
    (isStep name = true ∧ name ≠ "..") ↔ name ≠ "" := by
  have dots := ne_dots_of_dot_notMem plain
  simp [isStep, dots]

/-- A file in a package leads down exactly if the package is contained. -/
theorem leadsDown_sourcePath_iff {package fileName : String} (plain : '/' ∉ fileName.toList)
    (down : isStep fileName = true ∧ fileName ≠ "..") :
    LeadsDown (sourcePath package fileName) ↔ IsContained package := by
  have names := names_sourcePath package plain
  constructor
  · intro leadsDown part inside empty
    have listed : "" ∈ splitAt (· == '/') (sourcePath package fileName) := by
      rw [names]
      exact List.mem_append_left _ (List.mem_flatMap.2 ⟨part, inside, empty⟩)
    have step := (leadsDown "" listed).1
    cases step
  · intro contained name listed
    rw [names, List.mem_append, List.mem_singleton] at listed
    rcases listed with ofPackage | rfl
    · obtain ⟨part, inside, found⟩ := List.mem_flatMap.1 ofPackage
      have filled : name ≠ "" := by
        rintro rfl
        exact contained part inside found
      exact (isStep_iff_of_dot_notMem (dot_notMem_of_mem_packageParts inside found)).2 filled
    · exact down

/-- A file in a package has no name of dots alone before its own. -/
theorem ne_dots_of_mem_sourcePath {package fileName : String} (plain : '/' ∉ fileName.toList)
    (down : isStep fileName = true ∧ fileName ≠ "..") {name : String}
    (inside : name ∈ splitAt (· == '/') (sourcePath package fileName)) :
    name ≠ "." ∧ name ≠ ".." := by
  rw [names_sourcePath package plain, List.mem_append, List.mem_singleton] at inside
  rcases inside with ofPackage | rfl
  · obtain ⟨part, listed, found⟩ := List.mem_flatMap.1 ofPackage
    exact ne_dots_of_dot_notMem (dot_notMem_of_mem_packageParts listed found)
  · refine ⟨?_, down.2⟩
    rintro rfl
    have step := down.1
    cases step

/-- A package of identifiers is contained. -/
theorem isContained_of_isPackage {package : String} (isPackage : IsPackage package) :
    IsContained package := by
  intro part inside empty
  have identifier : isIdentifier part = true := isIdentifier_of_mem_packageParts isPackage inside
  have plain : '/' ∉ part.toList := slash_notMem_of_isIdentifier identifier
  rw [splitAt, splitChars_of_notMem plain, List.map_singleton, String.ofList_toList,
    List.mem_singleton] at empty
  exact ne_empty_of_isIdentifier identifier empty.symm

/-- The package of the delegates is contained exactly if that of the runtime is. -/
theorem isContained_delegates_iff (runtime : RuntimePackage) :
    IsContained runtime.delegates ↔ IsContained runtime.root := by
  have letters : runtime.delegates.toList = runtime.root.toList ++ '.' :: "delegate".toList := by
    rw [RuntimePackage.delegates, String.toList_append]
    rfl
  have parts : packageParts runtime.delegates = packageParts runtime.root ++ ["delegate"] := by
    rw [packageParts, splitAt, letters, splitChars_append, List.map_append, List.filter_append]
    rfl
  have last : "" ∉ splitAt (· == '/') "delegate" := by decide
  rw [IsContained, IsContained, parts, List.forall_mem_append, List.forall_mem_singleton]
  exact and_iff_left last

end Output

/-! ## Generated files -/

namespace Host

variable {project : Project}

/-- The name of a host file leads down. -/
theorem Generated.isStep_fileName (part : Generated) :
    isStep part.fileName = true ∧ part.fileName ≠ ".." := by
  obtain ⟨stem, name⟩ := part.exists_fileName
  rw [name]
  exact isStep_append (by decide) stem

/-- A host file leads down exactly if its package is contained. -/
theorem Generated.Source.leadsDown_iff (named : project.HasNamedViews) {part : Generated}
    (source : part.Source project) : LeadsDown part.path ↔ IsContained part.package := by
  rw [part.path_eq_sourcePath]
  exact leadsDown_sourcePath_iff (source.slash_notMem named) part.isStep_fileName

/-- The packages of host files are contained if that of the runtime is. -/
theorem Generated.Source.isContained (named : project.HasNamedViews)
    (contained : IsContained project.runtime.root) {part : Generated}
    (source : part.Source project) : IsContained part.package := by
  cases source with
  | compositions => exact contained
  | factory => exact contained
  | delegate => exact (isContained_delegates_iff project.runtime).2 contained
  | callSite _ inside => exact isContained_of_isPackage (named.isPackage_source inside)

/-- Every listed host file was generated for something. -/
theorem exists_source_of_mem_entries {entry : Entry}
    (listed : entry ∈ (sources project).registry.entries) :
    ∃ part : Generated, part.Source project ∧ entry.path = part.path := by
  have registered : entry ∈ (generated project).map (·.entry) := Registry.mem_of_mem_entries listed
  obtain ⟨part, inside, rfl⟩ := List.mem_map.1 registered
  exact ⟨part, source_of_mem_generated inside, rfl⟩

/-- Without views there are no host files. -/
theorem generated_eq_nil (none : project.views = []) : generated project = [] := by
  have groups : project.groups = [] := by rw [Project.groups, none]; rfl
  have files : project.sourceFiles = [] := by rw [Project.sourceFiles, none]; rfl
  simp [generated, compositions, factories, delegates, callSites, none, groups, files]

/-- The host files of a project with named views lead down exactly if there are none or the package
of the runtime is contained. -/
theorem leadsDown_entries_iff (named : project.HasNamedViews) :
    (∀ entry ∈ (sources project).registry.entries, LeadsDown entry.path) ↔
      project.views = [] ∨ IsContained project.runtime.root := by
  constructor
  · intro down
    cases views : project.views with
    | nil => exact .inl rfl
    | cons view rest =>
      -- The factory of any group stands in the package of the runtime, and it is kept.
      have read : view ∈ project.views := views ▸ List.mem_cons_self
      have grouped := Project.mem_groups_of_mem read
      have made : Generated.factory (.ofGroup project.target project.runtime view.group
          (view.groupOf project.views)) ∈ groupFiles project :=
        List.mem_append_right _ (List.mem_map_of_mem (List.mem_map_of_mem grouped))
      obtain ⟨part, inside, package⟩ : ∃ part ∈ groupFiles project,
          part.package = project.runtime.root := ⟨_, made, rfl⟩
      have kept : part.entry ∈ (sources project).registry.kept :=
        List.mem_of_find?_eq_some (find?_groupFiles inside)
      have listed : part.entry ∈ (sources project).registry.entries :=
        (Registry.entries_perm_kept _).mem_iff.2 kept
      have source : part.Source project :=
        source_of_mem_generated (List.mem_append_left _ inside)
      have contained : IsContained part.package :=
        (source.leadsDown_iff named).1 (down part.entry listed)
      exact .inr (package ▸ contained)
  · rintro (none | contained) entry listed
    · have empty : (sources project).registry.entries = [] := by
        rw [sources, generated_eq_nil none]
        rfl
      rw [empty] at listed
      cases listed
    · obtain ⟨part, source, path⟩ := exists_source_of_mem_entries listed
      rw [path, source.leadsDown_iff named]
      exact source.isContained named contained

/-- No host file has a name of dots alone in its path. -/
theorem ne_dots_of_mem_entries (named : project.HasNamedViews) {entry : Entry}
    (listed : entry ∈ (sources project).registry.entries) {name : String}
    (inside : name ∈ splitAt (· == '/') entry.path) : name ≠ "." ∧ name ≠ ".." := by
  obtain ⟨part, source, path⟩ := exists_source_of_mem_entries listed
  rw [path, part.path_eq_sourcePath] at inside
  exact ne_dots_of_mem_sourcePath (source.slash_notMem named) part.isStep_fileName inside

end Host

namespace Output

/-- A path that leads down is relative, and below any directory it leads to a place that has names
of its own behind those of the directory. -/
theorem LeadsDown.stays_below {path : String} (down : LeadsDown path) :
    path.toList.head? ≠ some '/' ∧
      ∀ base, ∃ names, names ≠ [] ∧
        (Place.ofPath (joinPath base path)).names = names ++ (Place.ofPath base).names := by
  have some : (splitAt (· == '/') path).reverse ≠ [] := by
    simpa [splitAt] using splitChars_ne_nil (· == '/') path.toList
  exact ⟨down.head?_ne, fun base => ⟨_, some, down.names_ofPath base⟩⟩

end Output

/-- The host files of a manifest lead down from the output directory exactly if there are none or
the package that the options give to the runtime is contained. In no case has one of their paths a
name of dots alone. The native files always lead down, and what leads down stands below the output
directory. -/
theorem paths_lead_down_iff {text : String} {manifest : Manifest}
    (parsed : Manifest.parse text = .ok manifest) (options : Options) (target : BuildTarget)
    (framework : Option String) :
    let project := Discovery.project options (manifest.rounds.map (·.2)) target
    let host := (Host.sources project).registry
    let native := (Foreign.sources framework project).registry
    ((∀ entry ∈ host.entries, LeadsDown entry.path) ↔
      project.views = [] ∨ IsContained options.runtime) ∧
    (∀ entry ∈ host.entries, ∀ name ∈ splitAt (· == '/') entry.path,
      name ≠ "." ∧ name ≠ "..") ∧
    (∀ entry ∈ native.entries, LeadsDown entry.path) ∧
    ∀ path, LeadsDown path → path.toList.head? ≠ some '/' ∧
      ∀ base, ∃ names, names ≠ [] ∧
        (Place.ofPath (joinPath base path)).names = names ++ (Place.ofPath base).names := by
  intro project host native
  have named : project.HasNamedViews := Discovery.hasNamedViews_project parsed options target
  have runtime : project.runtime = ⟨options.runtime⟩ := Discovery.runtime_project options _ target
  have hostPaths := Host.leadsDown_entries_iff named
  rw [runtime] at hostPaths
  refine ⟨hostPaths, fun entry listed name inside => ?_, fun entry listed => ?_,
    fun path down => down.stays_below⟩
  · exact Host.ne_dots_of_mem_entries named listed inside
  · have registered : entry ∈ (Foreign.generated framework.toList project).map (·.entry) :=
      Registry.mem_of_mem_entries listed
    obtain ⟨part, made, rfl⟩ := List.mem_map.1 registered
    exact (Foreign.leadsDown_of_mem_generated named made).1

/-- Options with a package of the runtime that starts with a slash. -/
def slashedOptions : Options :=
  .ofList [(Options.runtimeKey, "/evil")]

/-- Without options the host files of a manifest with one view lead down; where the package of the
runtime starts with a slash, they do not, but the native files do. -/
theorem paths_of_mapText_lead_down_iff :
    let rounds := Run.mapManifest.rounds.map (·.2)
    (∀ entry ∈ (Host.sources (Discovery.project {} rounds .primary)).registry.entries,
      LeadsDown entry.path) ∧
    ¬ (∀ entry ∈ (Host.sources (Discovery.project slashedOptions rounds .primary)).registry.entries,
      LeadsDown entry.path) ∧
    ∀ entry ∈
      (Foreign.sources none (Discovery.project slashedOptions rounds .primary)).registry.entries,
      LeadsDown entry.path := by
  intro rounds
  obtain ⟨plain, -⟩ := paths_lead_down_iff Run.parse_mapText {} .primary none
  obtain ⟨slashed, -, native, -⟩ :=
    paths_lead_down_iff Run.parse_mapText slashedOptions .primary none
  have contained : IsContained (Options.runtime {}) := by decide +kernel
  have leadsOut : ¬ ((Discovery.project slashedOptions rounds .primary).views = [] ∨
      IsContained slashedOptions.runtime) := by decide +kernel
  exact ⟨plain.2 (.inr contained), fun down => leadsOut (slashed.1 down), native⟩

/-- A package of the runtime that starts with a slash gives host files with absolute paths, which
stand below the root and not below the output directory. -/
theorem slashed_runtime_leads_out :
    Manifest.parse Run.mapText = .ok Run.mapManifest ∧
    ∃ entry ∈ (Host.sources (Discovery.project slashedOptions (Run.mapManifest.rounds.map (·.2))
        .primary)).registry.entries,
      entry.path = "/evil/ComposeNativeViewFactory.primary.kt" ∧ ¬ LeadsDown entry.path ∧
        Place.ofPath (joinPath "out" entry.path) =
          (Place.root.inside "evil").inside "ComposeNativeViewFactory.primary.kt" := by
  have found : (Host.sources (Discovery.project slashedOptions (Run.mapManifest.rounds.map (·.2))
      .primary)).registry.entries.any
        (·.path == "/evil/ComposeNativeViewFactory.primary.kt") = true := by
    decide +kernel
  obtain ⟨entry, listed, same⟩ := List.any_eq_true.1 found
  have path : entry.path = "/evil/ComposeNativeViewFactory.primary.kt" := eq_of_beq same
  refine ⟨Run.parse_mapText, entry, listed, path, fun down => ?_, ?_⟩
  · -- A path that leads down does not start with a slash.
    have relative := down.head?_ne
    rw [path] at relative
    exact relative rfl
  · rw [path]
    decide +kernel

end ViewGlue
