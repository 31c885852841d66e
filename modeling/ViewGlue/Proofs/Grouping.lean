import ViewGlue.Text.Order

/-!
# Grouped elements

Grouping by a key loses no element and adds none (`flatMap_groupsBy_perm`). Each key that occurs
has one group, which holds all elements of the key in their order.
-/

namespace ViewGlue.Text

variable {α κ : Type} [DecidableEq κ]

/-- The groups are those of the keys that occur, each with all its elements. -/
theorem mem_groupsBy {key : α → κ} {elements : List α} {group : κ × List α} :
    group ∈ groupsBy key elements ↔
      group.1 ∈ elements.map key ∧ group.2 = elements.filter (key · = group.1) := by
  obtain ⟨k, members⟩ := group
  simp only [groupsBy, List.mem_map (l := firstOccurrences _), mem_firstOccurrences, Prod.mk.injEq]
  constructor
  · rintro ⟨other, occurs, rfl, rfl⟩
    exact ⟨occurs, rfl⟩
  · rintro ⟨occurs, same⟩
    exact ⟨k, occurs, rfl, same.symm⟩

/-- There is one group of a key. -/
theorem eq_of_mem_groupsBy {key : α → κ} {elements : List α} {group other : κ × List α}
    (inside : group ∈ groupsBy key elements) (same : other ∈ groupsBy key elements)
    (named : other.1 = group.1) : other = group := by
  have members := (mem_groupsBy.1 same).2
  rw [named, ← (mem_groupsBy.1 inside).2] at members
  exact Prod.ext named members

/-- The groups have the keys that occur, each once. -/
theorem keys_groupsBy (key : α → κ) (elements : List α) :
    (groupsBy key elements).map (·.1) = firstOccurrences (elements.map key) := by
  simp [groupsBy, Function.comp_def]

/-- The groups have pairwise distinct keys. -/
theorem nodup_keys_groupsBy (key : α → κ) (elements : List α) :
    ((groupsBy key elements).map (·.1)).Nodup := by
  rw [keys_groupsBy]
  exact nodup_firstOccurrences _

/-- Without an element there are the same groups of other keys. -/
theorem mem_groupsBy_without {key : α → κ} {before behind : List α} {element : α}
    {group : κ × List α} (other : group.1 ≠ key element) :
    group ∈ groupsBy key (before ++ element :: behind) ↔
      group ∈ groupsBy key (before ++ behind) := by
  rw [mem_groupsBy, mem_groupsBy]
  simp [other, other.symm]

/-- Fewer elements have at most the same keys. -/
theorem keys_groupsBy_subset {key : α → κ} {elements others : List α}
    (fewer : elements ⊆ others) :
    (groupsBy key elements).map (·.1) ⊆ (groupsBy key others).map (·.1) := by
  intro k inside
  rw [keys_groupsBy, mem_firstOccurrences] at inside ⊢
  exact List.map_subset key fewer inside

/-- The elements of distinct keys, key by key, are all elements if every key is among them. -/
theorem flatMap_filter_perm {key : α → κ} {keys : List κ} (distinct : keys.Nodup)
    {elements : List α} (covered : ∀ a ∈ elements, key a ∈ keys) :
    (keys.flatMap fun k => elements.filter (key · = k)).Perm elements := by
  induction keys generalizing elements with
  | nil =>
    cases elements with
    | nil => exact .nil
    | cons a rest => exact absurd (covered a List.mem_cons_self) List.not_mem_nil
  | cons k keys ih =>
    obtain ⟨fresh, distinct⟩ := List.nodup_cons.1 distinct
    let others := elements.filter (¬key · = k)
    have coveredOthers : ∀ a ∈ others, key a ∈ keys := by
      intro a inside
      obtain ⟨occurs, differs⟩ := List.mem_filter.1 inside
      exact (List.mem_cons.1 (covered a occurs)).resolve_left (by simpa using differs)
    have behind : (keys.flatMap fun k' => elements.filter (key · = k')) =
        keys.flatMap fun k' => others.filter (key · = k') := by
      rw [List.flatMap_def, List.flatMap_def]
      refine congrArg List.flatten (List.map_congr_left fun k' inside => ?_)
      rw [List.filter_filter]
      refine List.filter_congr fun a _ => ?_
      have differs : k' ≠ k := by
        rintro rfl
        exact fresh inside
      by_cases same : key a = k' <;> simp [same, differs]
    rw [List.flatMap_cons, behind]
    refine ((ih distinct coveredOthers).append_left _).trans ?_
    simpa [others] using List.filter_append_perm (key · = k) elements

/-- Grouping loses no element and adds none. -/
theorem flatMap_groupsBy_perm (key : α → κ) (elements : List α) :
    ((groupsBy key elements).flatMap (·.2)).Perm elements := by
  rw [groupsBy, List.flatMap_map]
  refine flatMap_filter_perm (nodup_firstOccurrences _) fun a inside => ?_
  exact mem_firstOccurrences.2 (List.mem_map_of_mem inside)

end ViewGlue.Text
