import ViewGlue.Proofs.FileTrees
import ViewGlue.Proofs.PathCollisions

/-!
# Places of generated files

The paths of generated files only lead down from the directory they are written to (`LeadsDown`).
So files of one directory with different paths stand at different places (`ofPath_joinPath_inj`),
and host files never stand where native ones do, whatever the two directories are.
-/

namespace ViewGlue

open Text

namespace Output

/-- A path whose parts are names that lead down: none is empty or consists of dots alone. -/
def LeadsDown (path : String) : Prop :=
  ∀ part ∈ splitAt (· == '/') path, isStep part = true ∧ part ≠ ".."

variable {path other : String}

/-- A slash ends one part and starts another. -/
theorem splitAt_append_slash (front behind : String) :
    splitAt (· == '/') (front ++ "/" ++ behind) =
      splitAt (· == '/') front ++ splitAt (· == '/') behind := by
  have letters : (front ++ "/" ++ behind).toList = front.toList ++ '/' :: behind.toList := by simp
  rw [splitAt, letters, splitChars_append, List.map_append]
  rfl

/-- The names of a joined path are those of its two parts. -/
theorem names_append_slash (front behind : String) :
    FileTree.names (front ++ "/" ++ behind) = FileTree.names front ++ FileTree.names behind := by
  rw [FileTree.names, splitAt_append_slash, List.filter_append]
  rfl

namespace LeadsDown

/-- All parts of a path that leads down are names. -/
theorem names_eq (down : LeadsDown path) : FileTree.names path = splitAt (· == '/') path :=
  List.filter_eq_self.2 fun part inside => (down part inside).1

/-- A path that leads down does not start at the root. -/
theorem head?_ne (down : LeadsDown path) : path.toList.head? ≠ some '/' := by
  intro absolute
  obtain ⟨rest, letters⟩ : ∃ rest, path.toList = '/' :: rest := by
    cases list : path.toList with
    | nil => simp [list] at absolute
    | cons c rest => exact ⟨rest, by simpa [list] using absolute⟩
  have empty : "" ∈ splitAt (· == '/') path := by
    rw [splitAt, letters]
    simp [splitChars]
  exact absurd (down "" empty).1 (by decide)

/-- A path below a directory has the names of the directory before its own. -/
theorem names_joinPath (down : LeadsDown path) (base : String) :
    FileTree.names (joinPath base path) = FileTree.names base ++ FileTree.names path := by
  rw [joinPath]
  by_cases bare : base = ""
  · rw [if_pos (.inr bare), bare]
    rfl
  · rw [if_neg (not_or.2 ⟨down.head?_ne, bare⟩)]
    split
    · rename_i slash
      obtain ⟨front, letters⟩ := List.getLast?_eq_some_iff.1 slash
      obtain rfl : base = String.ofList front ++ "/" := by
        apply String.toList_inj.1
        simp [letters]
      -- The slash at the end of the directory adds an empty part, which is no name.
      have directory := names_append_slash (String.ofList front) ""
      rw [String.append_empty, show FileTree.names "" = [] from rfl, List.append_nil] at directory
      rw [names_append_slash, directory]
    · exact names_append_slash base path

/-- A path below a directory starts where the directory's path starts. -/
theorem origin_joinPath (down : LeadsDown path) (base : String) :
    Place.origin (joinPath base path) = Place.origin base := by
  rw [joinPath]
  by_cases bare : base = ""
  · rw [if_pos (.inr bare), bare, Place.origin, if_neg down.head?_ne]
    rfl
  · rw [if_neg (not_or.2 ⟨down.head?_ne, bare⟩)]
    have first (behind : String) : (base ++ behind).toList.head? = base.toList.head? := by
      cases letters : base.toList with
      | nil => exact absurd (String.toList_inj.1 letters) bare
      | cons c rest => simp [letters]
    split
    · rw [Place.origin, Place.origin, first]
    · rw [String.append_assoc, Place.origin, Place.origin, first]

/-- A path below a directory leads to the place that its names have below that of the
directory. -/
theorem names_ofPath (down : LeadsDown path) (base : String) :
    (Place.ofPath (joinPath base path)).names =
      (splitAt (· == '/') path).reverse ++ (Place.ofPath base).names := by
  have stays : ".." ∉ splitAt (· == '/') path := fun up => (down ".." up).2 rfl
  rw [Place.ofPath, down.names_joinPath, down.origin_joinPath, Place.walk_append, down.names_eq,
    Place.names_walk stays]
  rfl

/-- Paths that lead to one place below a directory are the same. -/
theorem ofPath_joinPath_inj (down : LeadsDown path) (otherDown : LeadsDown other) {base : String}
    (same : Place.ofPath (joinPath base path) = Place.ofPath (joinPath base other)) :
    path = other := by
  have names := congrArg Place.names same
  rw [down.names_ofPath, otherDown.names_ofPath, List.append_left_inj, List.reverse_inj] at names
  rw [← joinWith_splitAt '/' path, names, joinWith_splitAt '/' other]

/-- The last part of a path is the last name of its place. -/
theorem head?_names_ofPath (down : LeadsDown path) (base : String) :
    (Place.ofPath (joinPath base path)).names.head? = (splitAt (· == '/') path).getLast? := by
  have parts : (splitAt (· == '/') path).reverse ≠ [] := by
    simpa [splitAt] using splitChars_ne_nil (· == '/') path.toList
  rw [down.names_ofPath, List.head?_append_of_ne_nil _ parts, List.head?_reverse]

end LeadsDown

/-- A path whose last part has an ending behind a stem. -/
def EndsIn (ending path : String) : Prop :=
  ∃ stem, (splitAt (· == '/') path).getLast? = some (stem ++ ending)

/-- A name with an ending of at least three characters leads down. -/
theorem isStep_append {ending : String} (long : 3 ≤ ending.toList.length) (stem : String) :
    isStep (stem ++ ending) = true ∧ stem ++ ending ≠ ".." := by
  have differs {name : String} (short : name.toList.length < 3) : stem ++ ending ≠ name := by
    rintro rfl
    rw [String.toList_append, List.length_append] at short
    omega
  simp only [isStep, Bool.and_eq_true, bne_iff_ne]
  exact ⟨⟨differs (by decide), differs (by decide)⟩, differs (by decide)⟩

/-- Identifiers lead down. -/
theorem isStep_of_isIdentifier {name : String} (identifier : isIdentifier name = true) :
    isStep name = true ∧ name ≠ ".." := by
  have differs {word : String} (other : isIdentifier word = false) : name ≠ word := by
    rintro rfl
    rw [identifier] at other
    cases other
  simp only [isStep, Bool.and_eq_true, bne_iff_ne]
  exact ⟨⟨differs (by decide), differs (by decide)⟩, differs (by decide)⟩

end Output

open Output

/-! ## Generated files -/

namespace Host

/-- The name of a host file has its ending. -/
theorem Generated.exists_fileName (part : Generated) : ∃ stem, part.fileName = stem ++ ".kt" := by
  cases part with
  | compositions => exact ⟨"Compositions", rfl⟩
  | factory => exact ⟨_, rfl⟩
  | delegate => exact ⟨_, rfl⟩
  | callSite => exact ⟨_, rfl⟩

variable {project : Project}

/-- The paths of host files lead down to files of their ending. -/
theorem leadsDown_of_mem_generated (named : project.IsNamed) {part : Generated}
    (inside : part ∈ generated project) :
    LeadsDown part.entry.path ∧ EndsIn ".kt" part.entry.path := by
  have source := source_of_mem_generated inside
  obtain ⟨stem, name⟩ := part.exists_fileName
  have parts : splitAt (· == '/') part.entry.path =
      packageParts part.package ++ [part.fileName] := by
    rw [← splitAt_sourcePath (source.isPackage named) (source.slash_notMem named.toHasNamedViews),
      ← part.path_eq_sourcePath]
    rfl
  refine ⟨fun word found => ?_, stem, ?_⟩
  · rw [parts, List.mem_append, List.mem_singleton] at found
    rcases found with identifier | rfl
    · exact isStep_of_isIdentifier
        (isIdentifier_of_mem_packageParts (source.isPackage named) identifier)
    · rw [name]
      exact isStep_append (by decide) stem
  · rw [parts, name, List.getLast?_concat]

end Host

namespace Foreign

variable {project : Project} {modules : List String}

/-- The name of a native file is an identifier with its ending. -/
theorem exists_path (named : project.HasNamedViews) {part : Generated}
    (inside : part ∈ generated modules project) :
    ∃ stem, part.entry.path = stem ++ ".swift" ∧ '/' ∉ stem.toList := by
  rcases List.mem_append.1 inside with ofGroup | observed
  · obtain ⟨group, listed, isPart⟩ := List.mem_flatMap.1 ofGroup
    obtain ⟨source, grouped, rfl⟩ := mem_bridgedGroups.1 (mem_bridgedGroups_of_target listed)
    have name := slash_notMem_of_isIdentifier (named.isIdentifier_group grouped)
    simp only [List.mem_cons, List.not_mem_nil, or_false] at isPart
    rcases isPart with rfl | rfl
    · exact ⟨_, rfl, by simp [Naming.factoryAlias, name]⟩
    · exact ⟨_, rfl, by simp [Naming.bindingClass, name]⟩
  · obtain ⟨bridged, isView, rfl⟩ := List.mem_map.1 observed
    obtain ⟨group, listed, bridgedIn⟩ := List.mem_flatMap.1 (List.mem_filter.1 isView).1
    have view := named.views _ (view_mem_of_mem_targetGroups listed bridgedIn)
    have name := slash_notMem_of_isIdentifier view
    exact ⟨_, rfl, by simp [Observable.className, Naming.observable, name]⟩

/-- The paths of native files lead down to files of their ending. -/
theorem leadsDown_of_mem_generated (named : project.HasNamedViews) {part : Generated}
    (inside : part ∈ generated modules project) :
    LeadsDown part.entry.path ∧ EndsIn ".swift" part.entry.path := by
  obtain ⟨stem, path, plain⟩ := exists_path named inside
  have outside : '/' ∉ (stem ++ ".swift").toList := by simp [plain]
  have parts : splitAt (· == '/') part.entry.path = [stem ++ ".swift"] := by
    rw [path, splitAt, splitChars_of_notMem outside, List.map_singleton, String.ofList_toList]
  refine ⟨fun word found => ?_, stem, by rw [parts]; rfl⟩
  rw [parts, List.mem_singleton] at found
  rw [found]
  exact isStep_append (by decide) stem

end Foreign

namespace Output

/-- Files of different endings stand at different places, whatever their directories are. -/
theorem ofPath_ne_of_endsIn {path other : String} (down : LeadsDown path)
    (otherDown : LeadsDown other) (isHost : EndsIn ".kt" path) (isNative : EndsIn ".swift" other)
    (base otherBase : String) :
    Place.ofPath (joinPath base path) ≠ Place.ofPath (joinPath otherBase other) := by
  intro same
  obtain ⟨stem, last⟩ := isHost
  obtain ⟨otherStem, otherLast⟩ := isNative
  have heads := congrArg (·.names.head?) same
  simp only [down.head?_names_ofPath, otherDown.head?_names_ofPath, last, otherLast,
    Option.some.injEq] at heads
  have letters := congrArg (·.toList.reverse) heads
  simp at letters

end Output

end ViewGlue
