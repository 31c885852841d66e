import Mathlib.Data.List.Induction
import Mathlib.Data.List.Nodup
import ViewGlue.Output.Registry
import ViewGlue.Proofs.Grouping

/-!
# Registered files

A registry finds for a path the first file that was registered for it (`find?_ofList`), and every
registered file is either kept or reported (`kept_append_collisions_perm`). What happens to one
file depends only on the files before it (`Settled`): the collisions are the files behind another
one of their path (`collisions_ofList`).
-/

namespace ViewGlue.Output

section Latecomers

variable {α β : Type}

/-- The elements that one of those before them meets. -/
def latecomers (meets : α → α → Prop) [DecidableRel meets] (earlier : List α) : List α → List α
  | [] => []
  | element :: rest =>
    if ∃ other ∈ earlier, meets other element then
      element :: latecomers meets (earlier ++ [element]) rest
    else latecomers meets (earlier ++ [element]) rest

variable {meets : α → α → Prop} [DecidableRel meets] {related : β → β → Prop}
  [DecidableRel related]

/-- The latecomers of a list are those of its front and then those of the rest. -/
theorem latecomers_append (earlier before behind : List α) :
    latecomers meets earlier (before ++ behind) =
      latecomers meets earlier before ++ latecomers meets (earlier ++ before) behind := by
  induction before generalizing earlier with
  | nil => simp [latecomers]
  | cons element before ih =>
    have all : earlier ++ element :: before = earlier ++ [element] ++ before := by simp
    rw [List.cons_append, latecomers, latecomers, ih (earlier ++ [element]), all]
    split
    · rw [List.cons_append]
    · rfl

/-- The last element is a latecomer if one of all others meets it. -/
theorem latecomers_append_singleton (earlier elements : List α) (last : α) :
    latecomers meets earlier (elements ++ [last]) =
      latecomers meets earlier elements ++
        (if ∃ other ∈ earlier ++ elements, meets other last then [last] else []) := by
  rw [latecomers_append, latecomers, latecomers]

/-- Latecomers are among the elements. -/
theorem mem_of_mem_latecomers {earlier elements : List α} {element : α}
    (late : element ∈ latecomers meets earlier elements) : element ∈ elements := by
  induction elements generalizing earlier with
  | nil => cases late
  | cons first rest ih =>
    rw [latecomers] at late
    split at late
    · rcases List.mem_cons.1 late with rfl | later
      · exact List.mem_cons_self
      · exact List.mem_cons_of_mem first (ih later)
    · exact List.mem_cons_of_mem first (ih late)

/-- Earlier elements that meet no later one make no latecomers. -/
theorem latecomers_behind {apart elements : List α} (earlier : List α)
    (never : ∀ other ∈ apart, ∀ element ∈ elements, ¬ meets other element) :
    latecomers meets (apart ++ earlier) elements = latecomers meets earlier elements := by
  induction elements generalizing earlier with
  | nil => rfl
  | cons element rest ih =>
    have here : (∃ other ∈ apart ++ earlier, meets other element) ↔
        ∃ other ∈ earlier, meets other element := by
      simp only [List.mem_append]
      constructor
      · rintro ⟨other, inside | inside, met⟩
        · exact absurd met (never other inside element List.mem_cons_self)
        · exact ⟨other, inside, met⟩
      · rintro ⟨other, inside, met⟩
        exact ⟨other, .inr inside, met⟩
    have later := ih (earlier ++ [element]) fun other inside behind listed =>
      never other inside behind (List.mem_cons_of_mem element listed)
    rw [latecomers, latecomers, List.append_assoc, later]
    simp only [here]

/-- Latecomers remain latecomers where elements meet as before. -/
theorem latecomers_map {written : α → β} {elements : List α}
    (agree : elements.Pairwise fun other element =>
      related (written other) (written element) ↔ meets other element) :
    latecomers related [] (elements.map written) = (latecomers meets [] elements).map written := by
  induction elements using List.reverseRecOn with
  | nil => rfl
  | append_singleton elements last ih =>
    obtain ⟨before, -, here⟩ := List.pairwise_append.1 agree
    have met : (∃ other ∈ [] ++ elements.map written, related other (written last)) ↔
        ∃ other ∈ [] ++ elements, meets other last := by
      simp only [List.nil_append]
      constructor
      · rintro ⟨_, inside, met⟩
        obtain ⟨other, found, rfl⟩ := List.mem_map.1 inside
        exact ⟨other, found, (here other found last (List.mem_singleton_self last)).1 met⟩
      · rintro ⟨other, found, met⟩
        exact ⟨written other, List.mem_map_of_mem found,
          (here other found last (List.mem_singleton_self last)).2 met⟩
    rw [List.map_append, List.map_singleton, latecomers_append_singleton, ih before,
      latecomers_append_singleton, List.map_append]
    simp only [met]
    split <;> rfl

/-- There are no latecomers where no element meets another. -/
theorem latecomers_eq_nil {elements : List α}
    (apart : elements.Pairwise fun other element => ¬ meets other element) :
    latecomers meets [] elements = [] := by
  induction elements using List.reverseRecOn with
  | nil => rfl
  | append_singleton elements last ih =>
    obtain ⟨before, -, here⟩ := List.pairwise_append.1 apart
    have alone : ¬ ∃ other ∈ [] ++ elements, meets other last := by
      rintro ⟨other, inside, met⟩
      exact here other inside last (List.mem_singleton_self last) met
    rw [latecomers_append_singleton, ih before, if_neg alone, List.append_nil]

end Latecomers

namespace Registry

/-- One more registered file comes last. -/
theorem ofList_append_singleton (entries : List Entry) (entry : Entry) :
    ofList (entries ++ [entry]) = (ofList entries).register entry := by
  simp [ofList, registerAll]

/-- Registering a file changes what is found only for a path that was free. -/
theorem find?_register (registry : Registry) (entry : Entry) (path : String) :
    (registry.register entry).find? path =
      (registry.find? path).or (if entry.path = path then some entry else none) := by
  by_cases free : registry.admits entry = true
  · rw [register, if_pos free]
    simp only [find?, List.find?_append]
    by_cases same : entry.path = path <;> simp [same]
  · rw [register, if_neg free]
    have taken : (registry.find? entry.path).isSome = true := by
      simpa [admits, Option.isSome_iff_ne_none] using free
    show registry.find? path = _
    by_cases same : entry.path = path
    · subst same
      obtain ⟨kept, found⟩ := Option.isSome_iff_exists.1 taken
      simp [found]
    · simp [same]

/-- A registry finds the first file that was registered for a path. -/
theorem find?_ofList (entries : List Entry) (path : String) :
    (ofList entries).find? path = entries.find? (·.path = path) := by
  induction entries using List.reverseRecOn with
  | nil => rfl
  | append_singleton entries entry ih =>
    rw [ofList_append_singleton, find?_register, ih, List.find?_append]
    by_cases same : entry.path = path <;> simp [same]

/-- A path is free if no file was registered for it. -/
theorem admits_ofList {entries : List Entry} {entry : Entry} :
    (ofList entries).admits entry = true ↔ ∀ other ∈ entries, other.path ≠ entry.path := by
  rw [admits, find?_ofList]
  simp [List.find?_eq_none]

/-- Every registered file is kept or collides, once for each time it was registered. -/
theorem kept_append_collisions_perm (entries : List Entry) :
    ((ofList entries).kept ++ (ofList entries).collisions).Perm entries := by
  induction entries using List.reverseRecOn with
  | nil => exact .nil
  | append_singleton entries entry ih =>
    rw [ofList_append_singleton, register]
    split
    · have moved : ((ofList entries).kept ++ [entry] ++ (ofList entries).collisions).Perm
          ((ofList entries).kept ++ (ofList entries).collisions ++ [entry]) := by
        rw [List.append_assoc, List.append_assoc]
        exact List.perm_append_comm.append_left _
      exact moved.trans (ih.append_right _)
    · rw [← List.append_assoc]
      exact ih.append_right _

/-- The kept files have pairwise distinct paths. -/
theorem nodup_paths_kept (entries : List Entry) :
    ((ofList entries).kept.map (·.path)).Nodup := by
  induction entries using List.reverseRecOn with
  | nil => exact List.nodup_nil
  | append_singleton entries entry ih =>
    rw [ofList_append_singleton, register]
    split
    · rename_i admitted
      have free : ∀ other ∈ (ofList entries).kept, other.path ≠ entry.path := by
        simpa [admits, find?] using admitted
      rw [List.map_append, List.map_singleton]
      refine List.nodup_append.2 ⟨ih, by simp, fun path inside last isLast same => ?_⟩
      obtain ⟨other, found, rfl⟩ := List.mem_map.1 inside
      exact free other found (same.trans (List.mem_singleton.1 isLast))
    · exact ih

/-- A kept file is what is found for its path. -/
theorem find?_of_mem_kept {entries : List Entry} {entry : Entry}
    (inside : entry ∈ (ofList entries).kept) : (ofList entries).find? entry.path = some entry := by
  cases found : (ofList entries).find? entry.path with
  | none =>
    have missing := List.find?_eq_none.1 found entry inside
    simp at missing
  | some other =>
    have same : other.path = entry.path := by simpa using List.find?_some found
    have one : other = entry := List.inj_on_of_nodup_map (nodup_paths_kept entries)
      (List.mem_of_find?_eq_some found) inside same
    rw [one]

/-- The files that are listed are those that are kept. -/
theorem entries_perm_kept (registry : Registry) : registry.entries.Perm registry.kept := by
  refine Text.flatMap_filter_perm (by decide) fun entry _ => ?_
  cases entry.category <;> decide

/-- The listed files have pairwise distinct paths. -/
theorem nodup_paths_entries (entries : List Entry) :
    ((ofList entries).entries.map (·.path)).Nodup :=
  ((entries_perm_kept _).map _).nodup_iff.2 (nodup_paths_kept entries)

/-- Every listed file was registered. -/
theorem mem_of_mem_entries {entries : List Entry} {entry : Entry}
    (inside : entry ∈ (ofList entries).entries) : entry ∈ entries :=
  (kept_append_collisions_perm entries).subset
    (List.mem_append_left _ ((entries_perm_kept _).subset inside))

/-- What collides is not forgotten when more files are registered. -/
theorem collisions_ofList_prefix (entries later : List Entry) :
    (ofList entries).collisions <+: (ofList (entries ++ later)).collisions := by
  induction later using List.reverseRecOn with
  | nil => simp
  | append_singleton later entry ih =>
    rw [← List.append_assoc, ofList_append_singleton, register]
    split
    · exact ih
    · exact ih.trans (List.prefix_append _ _)

/-- The collisions are the files behind another one of their path. -/
theorem collisions_ofList (entries : List Entry) :
    (ofList entries).collisions =
      latecomers (fun other entry => other.path = entry.path) [] entries := by
  induction entries using List.reverseRecOn with
  | nil => rfl
  | append_singleton entries entry ih =>
    have free : (ofList entries).admits entry = true ↔
        ¬ ∃ other ∈ [] ++ entries, other.path = entry.path := by
      rw [admits_ofList]
      simp
    rw [ofList_append_singleton, latecomers_append_singleton, register, ← ih]
    by_cases taken : ∃ other ∈ [] ++ entries, other.path = entry.path
    · rw [if_neg (fun admitted => free.1 admitted taken), if_pos taken]
    · rw [if_pos (free.2 taken), if_neg taken, List.append_nil]

/-- No file collides exactly if every one has a path of its own. -/
theorem collisions_eq_nil_iff {entries : List Entry} :
    (ofList entries).collisions = [] ↔ (entries.map (·.path)).Nodup := by
  constructor
  · intro quiet
    have all := kept_append_collisions_perm entries
    rw [quiet, List.append_nil] at all
    exact (all.map _).nodup_iff.1 (nodup_paths_kept entries)
  · intro distinct
    rw [collisions_ofList]
    exact latecomers_eq_nil (List.pairwise_map.1 distinct)

/-- Where no file collides, the listed files are those that were registered. -/
theorem mem_entries_ofList_iff {entries : List Entry} (quiet : (ofList entries).collisions = [])
    {entry : Entry} : entry ∈ (ofList entries).entries ↔ entry ∈ entries := by
  have all := kept_append_collisions_perm entries
  rw [quiet, List.append_nil] at all
  rw [(entries_perm_kept _).mem_iff, all.mem_iff]

/-- Where no collision is reported, no file collides. -/
theorem collisions_eq_nil_of_diagnostics {registry : Registry}
    (quiet : ∀ diagnostic ∈ registry.diagnostics, diagnostic.code ≠ some "path-collision") :
    registry.collisions = [] := by
  cases rejected : registry.collisions with
  | nil => rfl
  | cons entry entries =>
    have reported : collision entry ∈ registry.diagnostics := by
      rw [diagnostics, rejected]
      exact List.mem_map_of_mem List.mem_cons_self
    exact absurd rfl (quiet _ reported)

/-- Which files collide depends on the paths alone, and so do the reports. -/
theorem diagnostics_ofList_congr {entries others : List Entry}
    (same : entries.map (·.path) = others.map (·.path)) :
    (ofList entries).diagnostics = (ofList others).diagnostics := by
  have report (entries : List Entry) : (ofList entries).diagnostics =
      (latecomers (fun other path : String => other = path) [] (entries.map (·.path))).map
        fun path => collision ⟨path, "", .factory⟩ := by
    have agree : entries.Pairwise fun other entry =>
        other.path = entry.path ↔ other.path = entry.path :=
      List.pairwise_of_forall_mem_list fun _ _ _ _ => Iff.rfl
    rw [latecomers_map agree, List.map_map, ← collisions_ofList]
    rfl
  rw [report entries, report others, same]

/-- A file that was registered behind these files is kept if none of them has its path, and is
reported as a collision otherwise. -/
inductive Settled (registry : Registry) (earlier : List Entry) (entry : Entry) : Prop where
  /-- No earlier file has the path, and the file is found under it. -/
  | kept (free : ∀ other ∈ earlier, other.path ≠ entry.path)
      (found : registry.find? entry.path = some entry)
  /-- An earlier file has the path, and the collision is reported. -/
  | rejected (taken : ∃ other ∈ earlier, other.path = entry.path)
      (reported : collision entry ∈ registry.diagnostics)

/-- Every registered file is settled. -/
theorem settled_ofList (earlier : List Entry) (entry : Entry) (later : List Entry) :
    Settled (ofList (earlier ++ entry :: later)) earlier entry := by
  by_cases taken : ∃ other ∈ earlier, other.path = entry.path
  · refine .rejected taken (List.mem_map_of_mem ?_)
    obtain ⟨other, inside, same⟩ := taken
    have full : ¬ (ofList earlier).admits entry = true :=
      fun admitted => admits_ofList.1 admitted other inside same
    have collides : entry ∈ (ofList (earlier ++ [entry])).collisions := by
      rw [ofList_append_singleton, register]
      simp [full]
    have grows := collisions_ofList_prefix (earlier ++ [entry]) later
    rw [List.append_assoc] at grows
    exact grows.subset collides
  · have free : ∀ other ∈ earlier, other.path ≠ entry.path := by
      intro other inside same
      exact taken ⟨other, inside, same⟩
    refine .kept free ?_
    rw [find?_ofList, List.find?_append, List.find?_eq_none.2 (by simpa using free)]
    simp

/-- A file is among the registered ones and settled by those before it. -/
def Registered (registry : Registry) (entries : List Entry) (entry : Entry) : Prop :=
  ∃ earlier later, entries = earlier ++ entry :: later ∧ Settled registry earlier entry

/-- Every file that was registered is settled somewhere. -/
theorem registered_of_mem {entries : List Entry} {entry : Entry} (inside : entry ∈ entries) :
    Registered (ofList entries) entries entry := by
  obtain ⟨earlier, later, rfl⟩ := List.append_of_mem inside
  exact ⟨earlier, later, rfl, settled_ofList earlier entry later⟩

/-- A file is found if it is among the first registered ones and no other of these has its
path. -/
theorem find?_ofList_of_unique {first : List Entry} {entry : Entry} (inside : entry ∈ first)
    (unique : ∀ other ∈ first, other.path = entry.path → other = entry) (later : List Entry) :
    (ofList (first ++ later)).find? entry.path = some entry := by
  rw [find?_ofList, List.find?_append]
  cases found : first.find? (·.path = entry.path) with
  | none =>
    have missing := List.find?_eq_none.1 found entry inside
    simp at missing
  | some other =>
    have same : other.path = entry.path := by simpa using List.find?_some found
    rw [unique other (List.mem_of_find?_eq_some found) same]
    rfl

end Registry

end ViewGlue.Output
