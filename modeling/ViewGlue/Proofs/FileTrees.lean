import ViewGlue.Output.FileTree

/-!
# Changes of file trees

A path leads to one place, whatever stands there. Writing to a path leaves folders where they are
and the files of all other places as they are (`KeepsOutside`), and afterwards the file has its
content (`write_spec`).
-/

namespace ViewGlue.Output

namespace Place

/-- The place that names lead to, whatever stands on the way. -/
def walk (place : Place) : List String → Place
  | [] => place
  | name :: rest => if name = ".." then walk place.above rest else walk (place.inside name) rest

/-- The place that a path leads to. -/
def ofPath (path : String) : Place := (origin path).walk (FileTree.names path)

/-- Names are walked one after another. -/
theorem walk_append (place : Place) (front behind : List String) :
    place.walk (front ++ behind) = (place.walk front).walk behind := by
  induction front generalizing place with
  | nil => rfl
  | cons name front ih =>
    simp only [List.cons_append, walk]
    split
    · exact ih place.above
    · exact ih (place.inside name)

/-- Names that do not lead up are those of the place they lead to. -/
theorem names_walk {place : Place} {names : List String} (down : ".." ∉ names) :
    (place.walk names).names = names.reverse ++ place.names := by
  induction names generalizing place with
  | nil => rfl
  | cons name names ih =>
    simp only [List.mem_cons, not_or] at down
    rw [walk, if_neg (Ne.symm down.1), ih down.2]
    simp [inside]

end Place

/-- The content of a file; a folder has none. -/
def Item.content? : Item → Option String
  | folder => none
  | file content => some content

namespace FileTree

variable {tree before after : FileTree} {place : Place} {path content : String}

/-- The content of the file at a place. -/
def fileAt? (tree : FileTree) (place : Place) : Option String :=
  (tree.item? place).bind Item.content?

/-- The content of a place is that of the file there. -/
theorem fileAt?_eq_some_iff :
    tree.fileAt? place = some content ↔ tree.item? place = some (.file content) := by
  rw [fileAt?]
  cases tree.item? place with
  | none => simp
  | some item => cases item <;> simp [Item.content?]

/-- Only folders stand on the ground. -/
theorem not_isGround_of_item? (noFolder : tree.item? place ≠ some .folder) :
    place.isGround = false := by
  cases ground : place.isGround with
  | false => rfl
  | true => exact absurd (if_pos ground) noFolder

/-- An item stands where it was put, and everything else stands where it stood. -/
theorem item?_put (notGround : place.isGround = false) (item : Item) (other : Place) :
    (tree.put place item).item? other = if other = place then some item else tree.item? other := by
  have gone : (tree.items.filter (·.1 ≠ place)).find? (·.1 = place) = none := by
    refine List.find?_eq_none.2 fun entry inside => ?_
    simpa using (List.mem_filter.1 inside).2
  by_cases same : other = place
  · subst same
    simp only [item?, notGround, put, List.find?_append, gone]
    simp
  · have kept : (tree.items.filter (·.1 ≠ place)).find? (·.1 = other) =
        tree.items.find? (·.1 = other) := by
      rw [List.find?_filter]
      congr 1
      funext entry
      by_cases found : entry.1 = other
      · simp [found, same]
      · simp [found]
    simp only [item?, put, List.find?_append, kept]
    simp [same, Ne.symm same]

/-- Only the content of the place changes where an item is put. -/
theorem fileAt?_put (notGround : place.isGround = false) (item : Item) (other : Place) :
    (tree.put place item).fileAt? other =
      if other = place then item.content? else tree.fileAt? other := by
  rw [fileAt?, item?_put notGround]
  split <;> rfl

/-! ## What stays -/

/-- Folders stay where they are, and outside of some places files stay as they are. -/
structure KeepsOutside (places : List Place) (before after : FileTree) : Prop where
  /-- No folder disappears. -/
  folders : ∀ place, before.item? place = some .folder → after.item? place = some .folder
  /-- Files are changed at these places only. -/
  files : ∀ place ∉ places, after.fileAt? place = before.fileAt? place

namespace KeepsOutside

/-- Everything stays in a tree that does not change. -/
theorem refl {places : List Place} (tree : FileTree) : KeepsOutside places tree tree :=
  ⟨fun _ => id, fun _ _ => rfl⟩

/-- What two changes leave alone stays. -/
theorem trans {middle : FileTree} {places others : List Place}
    (first : KeepsOutside places before middle) (second : KeepsOutside others middle after) :
    KeepsOutside (places ++ others) before after where
  folders place found := second.folders place (first.folders place found)
  files place outside := by
    simp only [List.mem_append, not_or] at outside
    rw [second.files place outside.2, first.files place outside.1]

/-- A new folder leaves everything else as it was. -/
theorem newFolder (free : tree.item? place = none) :
    KeepsOutside [] tree (tree.put place .folder) := by
  have notGround : place.isGround = false := not_isGround_of_item? (by rw [free]; simp)
  refine ⟨fun other found => ?_, fun other _ => ?_⟩
  · rw [item?_put notGround]
    split
    · rfl
    · exact found
  · rw [fileAt?_put notGround]
    split
    · rename_i same
      simp [same, fileAt?, free, Item.content?]
    · rfl

/-- A new content leaves everything else as it was, unless it takes the place of a folder. -/
theorem newContent (noFolder : tree.item? place ≠ some .folder) (content : String) :
    KeepsOutside [place] tree (tree.put place (.file content)) := by
  have notGround := not_isGround_of_item? noFolder
  refine ⟨fun other found => ?_, fun other outside => ?_⟩
  · rw [item?_put notGround, if_neg]
    · exact found
    · rintro rfl
      exact noFolder found
  · rw [fileAt?_put notGround, if_neg]
    simpa using outside

/-- The folders on the way stay. -/
theorem folderAt? {places : List Place} (keeps : KeepsOutside places before after)
    {place folder : Place} {names : List String}
    (found : before.folderAt? place names = some folder) :
    after.folderAt? place names = some folder := by
  induction names generalizing place with
  | nil => exact found
  | cons name names ih =>
    simp only [FileTree.folderAt?] at found ⊢
    split
    · rename_i up
      rw [if_pos up] at found
      exact ih found
    · rename_i down
      rw [if_neg down] at found
      split at found
      · rename_i isFolder
        rw [keeps.folders _ isFolder]
        exact ih found
      · cases found

end KeepsOutside

/-! ## Reading -/

/-- The folder that names lead to is at the place they lead to. -/
theorem eq_walk_of_folderAt? {folder : Place} {names : List String}
    (found : tree.folderAt? place names = some folder) : folder = place.walk names := by
  induction names generalizing place with
  | nil => exact (Option.some.inj found).symm
  | cons name names ih =>
    simp only [folderAt?] at found
    rw [Place.walk]
    split
    · rename_i up
      rw [if_pos up] at found
      exact ih found
    · rename_i down
      rw [if_neg down] at found
      split at found
      · exact ih found
      · cases found

/-- The names of the folders that a path leads through. -/
def folderNames (path : String) : List String := (names path).dropLast

/-- A path that can name a file leads to a name in the folder that its other names lead to. -/
theorem reverse_names_of_namesFolder (isFile : namesFolder path = false) :
    ∃ name, (names path).reverse = name :: (folderNames path).reverse ∧
      Place.ofPath path = ((Place.origin path).walk (folderNames path)).inside name := by
  cases last : (Text.splitAt (· == '/') path).getLast? with
  | none => simp [namesFolder, List.getLastD_eq_getLast?, last] at isFile
  | some name =>
    simp only [namesFolder, List.getLastD_eq_getLast?, last, Option.getD_some,
      Bool.or_eq_false_iff, beq_eq_false_iff_ne] at isFile
    obtain ⟨⟨filled, noDot⟩, down⟩ := isFile
    obtain ⟨front, parts⟩ := List.getLast?_eq_some_iff.1 last
    have step : isStep name = true := by simp [isStep, filled, noDot]
    have split : names path = folderNames path ++ [name] := by
      simp [folderNames, names, parts, List.filter_append, step]
    refine ⟨name, by rw [split]; simp, ?_⟩
    rw [Place.ofPath, split, Place.walk_append]
    simp [Place.walk, down]

/-- A path is read at the place that it leads to, if it leads there through folders. -/
theorem read?_eq_some_iff :
    tree.read? path = some content ↔
      (isPath path = true ∧ namesFolder path = false) ∧
        (tree.folderAt? (Place.origin path) (folderNames path)).isSome = true ∧
          tree.fileAt? (Place.ofPath path) = some content := by
  by_cases usable : isPath path = true ∧ namesFolder path = false
  · obtain ⟨name, backward, place⟩ := reverse_names_of_namesFolder usable.2
    rw [fileAt?_eq_some_iff, place]
    simp only [read?, usable, backward, List.reverse_reverse]
    cases found : tree.folderAt? (Place.origin path) (folderNames path) with
    | none => simp
    | some folder =>
      obtain rfl := eq_walk_of_folderAt? found
      cases stands : tree.item? (((Place.origin path).walk (folderNames path)).inside name) with
      | none => simp [stands]
      | some item => cases item <;> simp [stands]
  · refine iff_of_false (fun found => ?_) fun found => usable found.1
    rw [read?, if_pos] at found
    · cases found
    · cases isPath : isPath path <;> cases isFile : namesFolder path <;> simp_all

/-- What can be read can still be read after changes in other places. -/
theorem KeepsOutside.read? {places : List Place} (keeps : KeepsOutside places before after)
    (outside : Place.ofPath path ∉ places) (found : before.read? path = some content) :
    after.read? path = some content := by
  obtain ⟨usable, leads, file⟩ := read?_eq_some_iff.1 found
  obtain ⟨folder, isFolder⟩ := Option.isSome_iff_exists.1 leads
  refine read?_eq_some_iff.2 ⟨usable, ?_, ?_⟩
  · rw [keeps.folderAt? isFolder]
    rfl
  · rw [keeps.files _ outside, file]

/-! ## Writing -/

/-- Folders that are created on the way leave everything else as it was, and then the names lead
through folders. -/
theorem makeFolders_spec {place folder : Place} {names : List String}
    (made : tree.makeFolders place names = (after, some folder)) :
    KeepsOutside [] tree after ∧ after.folderAt? place names = some folder := by
  induction names generalizing tree place with
  | nil =>
    obtain ⟨rfl, same⟩ := Prod.mk.inj made
    exact ⟨.refl tree, same⟩
  | cons name names ih =>
    simp only [makeFolders] at made
    simp only [folderAt?]
    split
    · rename_i up
      rw [if_pos up] at made
      exact ih made
    · rename_i down
      rw [if_neg down] at made
      split at made
      · rename_i isFolder
        obtain ⟨keeps, leads⟩ := ih made
        rw [keeps.folders _ isFolder]
        exact ⟨keeps, leads⟩
      · cases made
      · rename_i free
        split at made
        · obtain ⟨keeps, leads⟩ := ih made
          have put := KeepsOutside.newFolder free
          have isFolder : (tree.put (place.inside name) .folder).item? (place.inside name) =
              some .folder := by
            rw [item?_put (not_isGround_of_item? (by rw [free]; simp)), if_pos rfl]
          rw [keeps.folders _ isFolder]
          exact ⟨put.trans keeps, leads⟩
        · cases made

/-- A file whose content was replaced has the new content, and all else is as it was. -/
theorem replace_spec {outcome : WriteOutcome}
    (done : tree.replace path content = (outcome, after)) (accepted : outcome ≠ .refused) :
    KeepsOutside [Place.ofPath path] tree after ∧ after.read? path = some content := by
  have refused {other : FileTree} (same : (WriteOutcome.refused, other) = (outcome, after)) :
      False := accepted (Prod.mk.inj same).1.symm
  unfold replace at done
  split at done
  · exact (refused done).elim
  · rename_i name before backward
    split at done
    · exact (refused done).elim
    · split at done
      · exact (refused done).elim
      · rename_i made folder folders
        split at done
        · exact (refused done).elim
        · rename_i usable
          simp only [Bool.or_eq_true, Bool.not_eq_true', not_or, Bool.not_eq_false,
            Bool.not_eq_true] at usable
          obtain ⟨⟨isPath, isFile⟩, -⟩ := usable
          obtain ⟨last, names, place⟩ := reverse_names_of_namesFolder isFile
          obtain ⟨rfl, rfl⟩ := List.cons.inj (backward.symm.trans names)
          rw [List.reverse_reverse] at folders
          obtain ⟨keeps, leads⟩ := makeFolders_spec folders
          obtain rfl := eq_walk_of_folderAt? leads
          rw [← place] at done
          split at done
          · exact (refused done).elim
          · rename_i noFolder
            obtain ⟨-, rfl⟩ := Prod.mk.inj done
            have put := KeepsOutside.newContent noFolder content
            refine ⟨keeps.trans put, read?_eq_some_iff.2 ⟨⟨isPath, isFile⟩, ?_, ?_⟩⟩
            · rw [put.folderAt? leads]
              rfl
            · rw [fileAt?_put (not_isGround_of_item? noFolder), if_pos rfl]
              rfl

/-- A file that was written or found with its content has it, and all else is as it was. -/
theorem write_spec {outcome : WriteOutcome} (done : tree.write path content = (outcome, after))
    (accepted : outcome ≠ .refused) :
    KeepsOutside [Place.ofPath path] tree after ∧ after.read? path = some content := by
  rw [write] at done
  split at done
  · rename_i present
    obtain ⟨-, rfl⟩ := Prod.mk.inj done
    exact ⟨.refl tree, present⟩
  · exact replace_spec done accepted

/-- A file that has the content is left alone. -/
theorem write_of_read? (present : tree.read? path = some content) :
    tree.write path content = (.unchanged, tree) :=
  if_pos present

end FileTree

end ViewGlue.Output
