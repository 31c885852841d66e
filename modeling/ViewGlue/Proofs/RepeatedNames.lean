import ViewGlue.Proofs.MethodClashes
import ViewGlue.Proofs.PathCollisions

/-!
# Repeated names

Views of one name share a delegate. The lint warns about each view that has the name of an earlier
one, and about no other (`Lint.Duplicates.warns_check`). Delegates are registered behind the
factories and stand in a package of their own, so a delegate comes too late exactly if an earlier
view has the name of its view (`Host.rejected_delegates`). The two find the same views in the same
order (`warned_views_lose_delegates`).
-/

namespace ViewGlue

open Output Text

/-- The views that have the name of an earlier one. -/
def repeatedViews (views : List View) : List View :=
  latecomers (fun other view => other.name = view.name) [] views

/-! ## Warnings -/

namespace Lint.Duplicates

/-- A warning of the lint about a view: it is located at the view's file and starts with the view's
name. -/
structure Warns (view : View) (diagnostic : Diagnostic) : Prop where
  /-- It is no error. -/
  severity : diagnostic.severity = .warning
  /-- It names the lint. -/
  code : diagnostic.code = some lintName
  /-- It points to the source file of the view. -/
  location : diagnostic.location = some view.file.path
  /-- Its wording starts with the name of the view. -/
  named : view.name.toList <+: diagnostic.message.toList

/-- A view is warned about exactly if an earlier one has its name. -/
theorem warning?_cases (earlier : List View) (view : View) :
    ((∃ other ∈ earlier, other.name = view.name) ∧
      ∃ diagnostic, warning? earlier view = some diagnostic ∧ Warns view diagnostic) ∨
    ((¬ ∃ other ∈ earlier, other.name = view.name) ∧ warning? earlier view = none) := by
  have warns (said : String) : Warns view (warning lintName view said) :=
    ⟨rfl, rfl, rfl, by simp [warning, List.append_assoc]⟩
  rw [warning?, clash?_eq]
  cases overloaded : earlier.find? (·.Overloads view) with
  | some first =>
    have both := List.find?_some overloaded
    exact .inl ⟨⟨first, List.mem_of_find?_eq_some overloaded, (of_decide_eq_true both).1⟩, _, rfl,
      warns _⟩
  | none =>
    cases named : earlier.find? (·.name = view.name) with
    | some first =>
      have same := List.find?_some named
      exact .inl ⟨⟨first, List.mem_of_find?_eq_some named, of_decide_eq_true same⟩, _, rfl,
        warns _⟩
    | none => exact .inr ⟨by simpa using named, rfl⟩

/-- The warnings behind earlier views are about the views of which the name occurred before, one
about each. -/
theorem warns_warnings (earlier views : List View) :
    List.Forall₂ Warns (latecomers (fun other view => other.name = view.name) earlier views)
      (warnings earlier views) := by
  induction views generalizing earlier with
  | nil => exact .nil
  | cons view rest ih =>
    rw [latecomers, warnings_cons]
    obtain ⟨occurred, diagnostic, warned, about⟩ | ⟨fresh, silent⟩ := warning?_cases earlier view
    · rw [if_pos occurred, warned]
      exact .cons about (ih _)
    · rw [if_neg fresh, silent]
      exact ih _

/-- The lint warns about the repeated views in their order. -/
theorem warns_check (views : List View) :
    List.Forall₂ Warns (repeatedViews views) (duplicates.check views) :=
  warns_warnings [] views

end Lint.Duplicates

/-! ## Delegates -/

namespace Host

/-- A file is registered under its path. -/
theorem Generated.path_entry (part : Generated) : part.entry.path = part.path := rfl

/-- The path of a delegate tells the name of its view. -/
theorem path_delegate_inj {runtime : RuntimePackage} {view other : View} :
    (Delegate.mk view runtime).path = (Delegate.mk other runtime).path ↔
      view.name = other.name := by
  simp [Delegate.path, sourcePath_right_inj, Delegate.interfaceName, Naming.delegate,
    String.append_left_inj]

/-- A factory stands in another package than the delegates. -/
theorem path_factory_ne_delegate {runtime : RuntimePackage} (isList : isDotted runtime.root = true)
    {group : String} (isGroup : isIdentifier group = true) {view : View}
    (isName : isIdentifier view.name = true) (target : BuildTarget) (views : List View) :
    (Factory.ofGroup target runtime group views).path ≠ (Delegate.mk view runtime).path := by
  have slashless : '/' ∉ (Naming.factoryInterface group ++ target.fileSuffix ++ ".kt").toList := by
    simp [Naming.factoryInterface, slash_notMem_of_isIdentifier isGroup,
      slash_notMem_fileSuffix target]
  have slashless' : '/' ∉ (Naming.delegate view.name ++ ".kt").toList := by
    simp [Naming.delegate, slash_notMem_of_isIdentifier isName]
  have packages := sourcePath_inj (.inr isList) (RuntimePackage.isPackage_delegates isList)
    slashless slashless'
  exact fun same => runtime.root_ne_delegates (packages.1 same).1

variable {project : Project}

/-- A primary project has the files of its groups, then the delegates and then the call sites. -/
theorem generated_of_primary (primary : project.target = .primary) :
    generated project = groupFiles project ++
      ((delegates project).map .delegate ++ (callSites project).map .callSite) := by
  rw [generated, if_pos primary, groupFiles]

/-- The files of groups are factories or stand with them. -/
theorem category_of_mem_groupFiles {part : Generated} (inside : part ∈ groupFiles project) :
    part.category = .factory := by
  rcases List.mem_append.1 inside with isAccessors | isFactory
  · obtain ⟨_, -, rfl⟩ := List.mem_map.1 isAccessors
    rfl
  · obtain ⟨_, -, rfl⟩ := List.mem_map.1 isFactory
    rfl

/-- No file of a group of a primary project has the path of a delegate. -/
theorem path_groupFile_ne_delegate (primary : project.target = .primary)
    (runtime : isDotted project.runtime.root = true)
    (groups : ∀ view ∈ project.views, isIdentifier view.group = true) {part : Generated}
    (inside : part ∈ groupFiles project) {view : View} (isName : isIdentifier view.name = true) :
    part.path ≠ (Delegate.mk view project.runtime).path := by
  rcases List.mem_append.1 inside with isAccessors | isFactory
  · obtain ⟨_, listed, -⟩ := List.mem_map.1 isAccessors
    have common := (eq_of_mem_compositions listed).1
    exact absurd (common.symm.trans primary) (by decide)
  · obtain ⟨_, listed, rfl⟩ := List.mem_map.1 isFactory
    obtain ⟨group, grouped, rfl⟩ := List.mem_map.1 listed
    obtain ⟨member, found, named⟩ := List.mem_map.1 (mem_groupsBy.1 grouped).1
    exact path_factory_ne_delegate runtime (named ▸ groups member found) isName _ _

/-- Where no file is of a category, none that comes too late is. -/
theorem filter_latecomers_eq_nil {category : Category} {earlier entries : List Entry}
    (others : ∀ entry ∈ entries, entry.category ≠ category) :
    (latecomers (fun other entry => other.path = entry.path) earlier entries).filter
      (·.category = category) = [] := by
  refine List.filter_eq_nil_iff.2 fun entry late => ?_
  simpa using others entry (mem_of_mem_latecomers late)

/-- Among the delegates alone those of the repeated views come too late. -/
theorem latecomers_delegates (runtime : RuntimePackage) (views : List View) :
    latecomers (fun other entry => other.path = entry.path) []
        (views.map fun view => (Generated.delegate ⟨view, runtime⟩).entry) =
      (repeatedViews views).map fun view => (Generated.delegate ⟨view, runtime⟩).entry := by
  refine latecomers_map (List.pairwise_of_forall_mem_list fun other _ view _ => ?_)
  rw [Generated.path_entry, Generated.path_entry]
  exact path_delegate_inj

/-- The delegates that come too late are those of the repeated views, whatever the packages of the
source files are. -/
theorem rejected_delegates (primary : project.target = .primary)
    (runtime : isDotted project.runtime.root = true)
    (names : ∀ view ∈ project.views, isIdentifier view.name = true)
    (groups : ∀ view ∈ project.views, isIdentifier view.group = true) :
    (sources project).registry.collisions.filter (·.category = .delegate) =
      (repeatedViews project.views).map fun view =>
        (Generated.delegate ⟨view, project.runtime⟩).entry := by
  let shared := (groupFiles project).map (·.entry)
  let written (view : View) := (Generated.delegate ⟨view, project.runtime⟩).entry
  let glue := ((callSites project).map Generated.callSite).map (·.entry)
  have registered : (generated project).map (·.entry) =
      shared ++ (project.views.map written ++ glue) := by
    simp [generated_of_primary primary, shared, written, glue, delegates, Function.comp_def]
  show (Registry.ofList ((generated project).map (·.entry))).collisions.filter _ = _
  rw [Registry.collisions_ofList, registered, latecomers_append, latecomers_append,
    List.filter_append, List.filter_append, List.nil_append]
  have noShared : ∀ entry ∈ shared, entry.category ≠ .delegate := by
    intro entry inside
    obtain ⟨part, listed, rfl⟩ := List.mem_map.1 inside
    have category : part.entry.category = .factory := category_of_mem_groupFiles listed
    simp [category]
  have noGlue : ∀ entry ∈ glue, entry.category ≠ .delegate := by
    intro entry inside
    obtain ⟨_, listed, rfl⟩ := List.mem_map.1 inside
    obtain ⟨_, -, rfl⟩ := List.mem_map.1 listed
    exact Category.noConfusion
  -- The files before the delegates make none of them a latecomer.
  have apart : ∀ other ∈ shared, ∀ entry ∈ project.views.map written, other.path ≠ entry.path := by
    intro other inside entry isDelegate
    obtain ⟨part, listed, rfl⟩ := List.mem_map.1 inside
    obtain ⟨view, found, rfl⟩ := List.mem_map.1 isDelegate
    rw [Generated.path_entry, Generated.path_entry]
    exact path_groupFile_ne_delegate primary runtime groups listed (names view found)
  have alone := latecomers_behind [] apart
  rw [List.append_nil] at alone
  rw [filter_latecomers_eq_nil noShared, filter_latecomers_eq_nil noGlue, alone,
    latecomers_delegates, List.nil_append, List.append_nil, List.filter_eq_self]
  intro entry late
  obtain ⟨_, -, rfl⟩ := List.mem_map.1 late
  rfl

end Host

/-! ## Projects -/

/-- In a primary project of identifiers the lint warns once about each view that has the name of an
earlier one, in their order, and about no other; and the delegates that are rejected for their paths
are those of the views it warns about, in their order. Nothing is said here about the packages of
the source files. -/
theorem warned_views_lose_delegates (project : Project) (primary : project.target = .primary)
    (runtime : isDotted project.runtime.root = true)
    (names : ∀ view ∈ project.views, isIdentifier view.name = true)
    (groups : ∀ view ∈ project.views, isIdentifier view.group = true) :
    List.Forall₂ Lint.Duplicates.Warns (repeatedViews project.views)
        (Lint.duplicates.check project.views) ∧
      (Host.sources project).registry.collisions.filter (·.category = .delegate) =
        (repeatedViews project.views).map fun view =>
          (Host.Generated.delegate ⟨view, project.runtime⟩).entry :=
  ⟨Lint.Duplicates.warns_check project.views,
    Host.rejected_delegates primary runtime names groups⟩

/-- Two names that occur again, in other groups and in their own. The source files have packages
that are no packages, and two of them have one stem. -/
def echoedProject : Project :=
  .ofViews .primary ⟨"dev.viewbridge"⟩
    [((View.sketch "ShowMap").inGroup "Maps").inFile ⟨"src/Maps.kt", "com/example"⟩,
     ((View.sketch "ShowBadge").inGroup "Maps").inFile ⟨"src/Badge.kt", "com..example"⟩,
     ((View.sketch "ShowBadge").inGroup "Badges").inFile ⟨"src/more/Maps.kt", "com/example"⟩,
     ((View.sketch "ShowMap").inGroup "Maps").inFile ⟨"src/Level.kt", "com.example"⟩,
     ((View.sketch "ShowMap").inGroup "Badges").inFile ⟨"src/Tiles.kt", "com.example"⟩]

/-- Three views of the echoed project are warned about, and their delegates come too late. -/
theorem rejected_of_echoedProject :
    (Lint.duplicates.check echoedProject.views).length = 3 ∧
      ((Host.sources echoedProject).registry.collisions.filter (·.category = .delegate)).map
          (·.path) =
        ["dev/viewbridge/delegate/ShowBadgeDelegate.kt",
          "dev/viewbridge/delegate/ShowMapDelegate.kt",
          "dev/viewbridge/delegate/ShowMapDelegate.kt"] := by
  obtain ⟨warned, rejected⟩ := warned_views_lose_delegates echoedProject rfl
    (by decide) (by decide) (by decide)
  refine ⟨warned.length_eq ▸ rfl, ?_⟩
  rw [rejected]
  rfl

end ViewGlue
