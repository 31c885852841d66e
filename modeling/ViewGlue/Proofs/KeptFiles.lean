import ViewGlue.Proofs.Registration

/-!
# Kept files

Registering a file answers whether it is kept, which depends on the paths registered before it and
on nothing else (`answer_eq_true_iff`). The kept files and the collisions are the files with either
answer (`registerAll_eq`), and the kept files are listed by their categories in a stable way
(`pairwise_rank_entries`, `filter_entries`). `keepsFirst_ofList` puts this together for every
sequence of registrations.
-/

namespace ViewGlue.Output

/-- The place of a category in the order in which files are listed. -/
def Category.rank (category : Category) : Nat :=
  Category.all.idxOf category

namespace Registry

/-- Files in the order of their registration, each with what registering it answers: whether it is
kept. -/
def answers (registry : Registry) : List Entry → List (Entry × Bool)
  | [] => []
  | entry :: rest => (entry, registry.admits entry) :: answers (registry.register entry) rest

/-- Every registration is answered. -/
theorem map_fst_answers (registry : Registry) (entries : List Entry) :
    (registry.answers entries).map (·.1) = entries := by
  induction entries generalizing registry with
  | nil => rfl
  | cons entry rest ih => rw [answers, List.map_cons, ih]

/-- Later registrations are answered by the registry that the earlier ones made. -/
theorem answers_append (registry : Registry) (before behind : List Entry) :
    registry.answers (before ++ behind) =
      registry.answers before ++ (registry.registerAll before).answers behind := by
  induction before generalizing registry with
  | nil => rfl
  | cons entry rest ih =>
    rw [List.cons_append, answers, answers, ih, List.cons_append]
    rfl

/-- The files that are kept are those whose registration said so, and the others collide. -/
theorem registerAll_eq (registry : Registry) (entries : List Entry) :
    registry.registerAll entries =
      ⟨registry.kept ++ ((registry.answers entries).filter (·.2)).map (·.1),
        registry.collisions ++ ((registry.answers entries).filter (!·.2)).map (·.1)⟩ := by
  induction entries generalizing registry with
  | nil => simp [registerAll, answers]
  | cons entry rest ih =>
    have step : registry.registerAll (entry :: rest) = (registry.register entry).registerAll rest :=
      rfl
    rw [step, ih, answers]
    by_cases free : registry.admits entry = true
    · simp [register, free]
    · simp [register, free]

/-- A registration answers whether no file before it has the path. -/
theorem answer_eq_true_iff {registered : List Entry} {before behind : List (Entry × Bool)}
    {entry : Entry} {answer : Bool}
    (place : answers {} registered = before ++ (entry, answer) :: behind) :
    answer = true ↔ ∀ earlier ∈ before, earlier.1.path ≠ entry.path := by
  have whole : registered = before.map (·.1) ++ entry :: behind.map (·.1) := by
    have listed := map_fst_answers {} registered
    rw [place, List.map_append, List.map_cons] at listed
    exact listed.symm
  have given : answer = (ofList (before.map (·.1))).admits entry := by
    have split := answers_append {} (before.map (·.1)) (entry :: behind.map (·.1))
    have sameLength : before.length = (answers {} (before.map (·.1))).length := by
      have counted := congrArg List.length (map_fst_answers {} (before.map (·.1)))
      rw [List.length_map, List.length_map] at counted
      exact counted.symm
    rw [← whole, place, answers] at split
    have rest := (List.append_inj split sameLength).2
    exact congrArg Prod.snd (List.cons.inj rest).1
  rw [given, admits_ofList, List.forall_mem_map]

/-- Files are listed in the order of their categories. -/
theorem pairwise_rank_entries (registry : Registry) :
    registry.entries.Pairwise fun first second => first.category.rank ≤ second.category.rank := by
  have inside {category : Category} {entry : Entry}
      (listed : entry ∈ registry.inCategory category) : entry.category = category := by
    simpa using (List.mem_filter.1 listed).2
  have ascending : Category.all.Pairwise fun first second => first.rank ≤ second.rank := by decide
  refine List.pairwise_flatMap.2 ⟨fun category _ => ?_, ascending.imp ?_⟩
  · refine List.pairwise_of_forall_mem_list fun first isFirst second isSecond => ?_
    have same : first.category = second.category :=
      (inside isFirst).trans (inside isSecond).symm
    exact Nat.le_of_eq (congrArg Category.rank same)
  · intro earlier later ordered first isFirst second isSecond
    rw [inside isFirst, inside isSecond]
    exact ordered

/-- Within a category files are listed in the order in which they are kept. -/
theorem filter_entries (registry : Registry) (category : Category) :
    registry.entries.filter (·.category = category) =
      registry.kept.filter (·.category = category) := by
  have selected (other : Category) :
      (registry.inCategory other).filter (·.category = category) =
        if other = category then registry.inCategory other else [] := by
    rw [inCategory, List.filter_filter]
    by_cases same : other = category
    · subst same
      simp
    · rw [if_neg same]
      refine List.filter_eq_nil_iff.2 fun entry _ both => ?_
      simp only [Bool.and_eq_true, decide_eq_true_eq] at both
      exact same (both.2.symm.trans both.1)
  simp only [entries, Category.all, List.flatMap_cons, List.flatMap_nil, List.filter_append,
    List.filter_nil, selected]
  cases category <;> simp [inCategory]

/-- What a registry holds after registrations with these answers: of each path the first file, and
every later one as a collision that is reported. -/
structure KeepsFirst (registry : Registry) (answered : List (Entry × Bool)) : Prop where
  /-- A registration answers whether no file before it has the path. -/
  answer : ∀ before entry answer behind, answered = before ++ (entry, answer) :: behind →
    (answer = true ↔ ∀ earlier ∈ before, earlier.1.path ≠ entry.path)
  /-- No two listed files have the same path. -/
  distinct : (registry.entries.map (·.path)).Nodup
  /-- A listed file is the first of its path. -/
  first : ∀ entry ∈ registry.entries,
    (answered.map (·.1)).find? (·.path = entry.path) = some entry
  /-- The collisions are the files with the other answer, in the order of their registration. -/
  collisions : registry.collisions = (answered.filter (!·.2)).map (·.1)
  /-- Nothing is lost and nothing is added. -/
  complete : (registry.entries ++ registry.collisions).Perm (answered.map (·.1))
  /-- Files are listed in the order of their categories. -/
  ascending : registry.entries.Pairwise fun first second =>
    first.category.rank ≤ second.category.rank
  /-- Within a category files are listed in the order of their registration. -/
  stable : ∀ category, registry.entries.filter (·.category = category) =
    ((answered.filter (·.2)).map (·.1)).filter (·.category = category)
  /-- The listed files are shown in their order. -/
  preview : registry.preview = registry.entries.map fun entry => (entry.path, entry.content)
  /-- Every collision is reported where it happens, one after another. -/
  reported : List.Forall₂
    (fun entry report => report.severity = .error ∧ report.code = some "path-collision" ∧
      report.location = some entry.path)
    registry.collisions registry.diagnostics

/-- A registry keeps the first file of each path and reports every other one, whatever the order in
which files of all categories are registered. -/
theorem keepsFirst_ofList (registered : List Entry) :
    (answers {} registered).map (·.1) = registered ∧
      KeepsFirst (ofList registered) (answers {} registered) := by
  have listed := map_fst_answers {} registered
  have settled : ofList registered =
      ⟨((answers {} registered).filter (·.2)).map (·.1),
        ((answers {} registered).filter (!·.2)).map (·.1)⟩ := registerAll_eq {} registered
  refine ⟨listed, ?_⟩
  constructor
  case answer => exact fun before entry answer behind place => answer_eq_true_iff place
  case distinct => exact nodup_paths_entries registered
  case first =>
    intro entry inside
    rw [listed, ← find?_ofList]
    exact find?_of_mem_kept ((entries_perm_kept _).subset inside)
  case collisions => exact congrArg Registry.collisions settled
  case complete =>
    rw [listed]
    exact ((entries_perm_kept _).append_right _).trans (kept_append_collisions_perm registered)
  case ascending => exact pairwise_rank_entries _
  case stable =>
    intro category
    rw [filter_entries, congrArg Registry.kept settled]
  case preview => rfl
  case reported =>
    rw [diagnostics, List.forall₂_map_right_iff]
    exact List.forall₂_same.2 fun entry _ => ⟨rfl, rfl, rfl⟩

-- A path that is taken stays with its first file, and the categories decide the order.
example :
    let registry := ofList
      [⟨"A.swift", "", .foreign⟩, ⟨"B.kt", "first", .factory⟩, ⟨"B.kt", "second", .delegate⟩]
    registry.preview = [("B.kt", "first"), ("A.swift", "")] ∧
      registry.collisions = [⟨"B.kt", "second", .delegate⟩] := by
  decide

end Registry

end ViewGlue.Output
