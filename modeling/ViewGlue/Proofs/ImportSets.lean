import Mathlib.Data.List.Perm.Basic
import ViewGlue.Code.Imports

/-!
# What an import set holds

An import set as the list of its modules and symbols in the order in which they are printed
(`entries`). A symbol that is added stands there once, beside what stood there before.
-/

namespace ViewGlue

namespace Text

/-- What was not there yet is inserted once. -/
theorem insertSorted_perm {s : String} {sorted : List String} (fresh : s ∉ sorted) :
    (insertSorted s sorted).Perm (s :: sorted) := by
  induction sorted with
  | nil => exact .refl _
  | cons t rest ih =>
    rw [List.mem_cons, not_or] at fresh
    simp only [insertSorted]
    split
    · exact .refl _
    · rw [if_neg fresh.1]
      exact ((ih fresh.2).cons t).trans (.swap s t rest)

/-- A pair is inserted beside the others. -/
theorem insertByName_perm {α : Type} (entry : String × α) (entries : List (String × α)) :
    (insertByName entry entries).Perm (entry :: entries) := by
  induction entries with
  | nil => exact .refl _
  | cons other rest ih =>
    simp only [insertByName]
    split
    · exact .refl _
    · exact (ih.cons other).trans (.swap entry other rest)

/-- Sorting keeps all pairs. -/
theorem sortByName_perm {α : Type} (entries : List (String × α)) :
    (sortByName entries).Perm entries := by
  have inserted : ∀ sorted : List (String × α),
      (entries.foldl (fun sorted entry => insertByName entry sorted) sorted).Perm
        (entries ++ sorted) := by
    induction entries with
    | nil => exact fun sorted => .refl _
    | cons entry rest ih =>
      intro sorted
      exact (ih _).trans (((insertByName_perm entry sorted).append_left rest).trans
        List.perm_middle)
  simpa [sortByName] using inserted []

end Text

namespace Code.ImportSet

open Text

/-- Modules with their symbols, one by one. -/
def pairs (modules : List (String × List String)) : List (String × String) :=
  modules.flatMap fun module => module.2.map (module.1, ·)

/-- The imported symbols with their modules, as they are printed. -/
def entries (imports : ImportSet) : List (String × String) :=
  pairs imports.sorted

/-- The printed symbols are those of the modules. -/
theorem entries_perm (imports : ImportSet) : imports.entries.Perm (pairs imports.modules) :=
  (sortByName_perm imports.modules).flatMap_right _

/-- A symbol that its module does not have yet is added to the pairs. -/
theorem pairs_changeModule_perm {module symbol : String} {modules : List (String × List String)}
    (fresh : (module, symbol) ∉ pairs modules) :
    (pairs (changeModule module (insertSorted symbol) modules)).Perm
      ((module, symbol) :: pairs modules) := by
  induction modules with
  | nil => exact .refl _
  | cons entry rest ih =>
    simp only [pairs, List.flatMap_cons, List.mem_append, not_or] at fresh ih ⊢
    simp only [changeModule]
    split
    · rename_i same
      subst same
      have absent : symbol ∉ entry.2 := fun inside =>
        fresh.1 (List.mem_map.2 ⟨symbol, inside, rfl⟩)
      rw [List.flatMap_cons]
      exact ((insertSorted_perm absent).map (entry.1, ·)).append_right _
    · rw [List.flatMap_cons]
      exact ((ih fresh.2).append_left _).trans List.perm_middle

/-- A symbol that is not imported yet is added to the entries. -/
theorem entries_add_perm {imports : ImportSet} {module symbol : String}
    (fresh : (module, symbol) ∉ imports.entries) :
    (imports.add module symbol).entries.Perm ((module, symbol) :: imports.entries) := by
  rw [imports.entries_perm.mem_iff] at fresh
  exact (entries_perm _).trans
    ((pairs_changeModule_perm fresh).trans (imports.entries_perm.symm.cons _))

end Code.ImportSet

end ViewGlue
