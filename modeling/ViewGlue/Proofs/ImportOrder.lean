import Mathlib.Data.List.Nodup
import ViewGlue.Proofs.ByteOrder
import ViewGlue.Proofs.ImportSets

/-!
# The order of imports

Imports are collected call by call, into sets that may be merged with others. Each call puts symbols
into modules, where they are kept once and in order, so what is collected is known by the modules
and symbols that the calls contribute (`Collects`). Lists that are strictly ascending and have the
same members are the same, so the sorted imports depend on these only
(`Code.ImportSet.sorted_follows_contents`).
-/

namespace ViewGlue

namespace Text

variable {s : String} {sorted : List String}

/-! ## Ascending texts -/

/-- An ascending list stays one where a text is put into it. -/
theorem pairwise_insertSorted (s : String) (ascending : sorted.Pairwise (· < ·)) :
    (insertSorted s sorted).Pairwise (· < ·) := by
  induction sorted with
  | nil => exact List.pairwise_singleton _ s
  | cons t rest ih =>
    obtain ⟨least, others⟩ := List.pairwise_cons.1 ascending
    simp only [insertSorted]
    split
    · rename_i less
      refine List.pairwise_cons.2 ⟨?_, ascending⟩
      exact List.forall_mem_cons.2 ⟨less, fun u inside => lt_trans less (least u inside)⟩
    · split
      · exact ascending
      · rename_i notLess differs
        have more : t < s := lt_of_le_of_ne (not_lt.1 notLess) (Ne.symm differs)
        refine List.pairwise_cons.2 ⟨fun u inside => ?_, ih others⟩
        rcases mem_insertSorted.1 inside with rfl | behind
        · exact more
        · exact least u behind

/-- What a list has stays in its order where a text is put into it. -/
theorem sublist_insertSorted (s : String) (sorted : List String) :
    sorted.Sublist (insertSorted s sorted) := by
  induction sorted with
  | nil => exact List.nil_sublist _
  | cons t rest ih =>
    simp only [insertSorted]
    split
    · exact List.sublist_cons_self s (t :: rest)
    · split
      · exact .refl _
      · exact ih.cons_cons t

/-- Ascending lists with the same texts are the same. -/
theorem eq_of_ascending {left right : List String} (first : left.Pairwise (· < ·))
    (second : right.Pairwise (· < ·)) (same : ∀ s, s ∈ left ↔ s ∈ right) : left = right := by
  have perm : left.Perm right :=
    (List.perm_ext_iff_of_nodup (first.imp fun less => less.ne) (second.imp fun less => less.ne)).2
      same
  exact perm.eq_of_pairwise (fun s t _ _ less more => absurd more (lt_asymm less)) first second

/-- A pair with a new name goes to its place among pairs with ascending names. -/
theorem pairwise_insertByName {α : Type} {entry : String × α} {entries : List (String × α)}
    (ascending : entries.Pairwise (·.1 < ·.1)) (fresh : ∀ other ∈ entries, entry.1 ≠ other.1) :
    (insertByName entry entries).Pairwise (·.1 < ·.1) := by
  induction entries with
  | nil => exact List.pairwise_singleton _ entry
  | cons other rest ih =>
    obtain ⟨least, others⟩ := List.pairwise_cons.1 ascending
    obtain ⟨differs, apart⟩ := List.forall_mem_cons.1 fresh
    simp only [insertByName]
    split
    · rename_i less
      refine List.pairwise_cons.2 ⟨?_, ascending⟩
      exact List.forall_mem_cons.2 ⟨less, fun next inside => lt_trans less (least next inside)⟩
    · rename_i notLess
      have more : other.1 < entry.1 := lt_of_le_of_ne (not_lt.1 notLess) (Ne.symm differs)
      refine List.pairwise_cons.2 ⟨fun next inside => ?_, ih others apart⟩
      rcases List.mem_cons.1 ((insertByName_perm entry rest).mem_iff.1 inside) with rfl | behind
      · exact more
      · exact least next behind

/-- Sorted pairs with different names have ascending names. -/
theorem pairwise_sortByName {α : Type} {entries : List (String × α)}
    (apart : (entries.map (·.1)).Nodup) : (sortByName entries).Pairwise (·.1 < ·.1) := by
  have sorting : ∀ sorted : List (String × α), sorted.Pairwise (·.1 < ·.1) →
      (∀ entry ∈ entries, ∀ other ∈ sorted, entry.1 ≠ other.1) →
      (entries.foldl (fun sorted entry => insertByName entry sorted) sorted).Pairwise
        (·.1 < ·.1) := by
    induction entries with
    | nil => exact fun sorted ascending _ => ascending
    | cons entry rest ih =>
      intro sorted ascending fresh
      rw [List.map_cons, List.nodup_cons] at apart
      obtain ⟨here, later⟩ := List.forall_mem_cons.1 fresh
      refine ih apart.2 _ (pairwise_insertByName ascending here) fun next inside other found => ?_
      rcases List.mem_cons.1 ((insertByName_perm entry sorted).mem_iff.1 found) with rfl | earlier
      · exact fun same => apart.1 (same ▸ List.mem_map_of_mem inside)
      · exact later next inside other earlier
  exact sorting [] .nil fun _ _ _ missing => absurd missing List.not_mem_nil

/-! ## Many texts -/

/-- Puts texts into a strictly ascending list, one after another. -/
def insertAll (texts sorted : List String) : List String :=
  texts.foldl (fun sorted s => insertSorted s sorted) sorted

/-- A list takes in what is put into it and keeps what it had. -/
theorem mem_insertAll {t : String} {texts sorted : List String} :
    t ∈ insertAll texts sorted ↔ t ∈ texts ∨ t ∈ sorted := by
  induction texts generalizing sorted with
  | nil => simp [insertAll]
  | cons s texts ih =>
    rw [insertAll, List.foldl_cons, ← insertAll, ih, mem_insertSorted, List.mem_cons]
    tauto

/-- An ascending list stays one where texts are put into it. -/
theorem pairwise_insertAll (texts : List String) {sorted : List String}
    (ascending : sorted.Pairwise (· < ·)) : (insertAll texts sorted).Pairwise (· < ·) := by
  induction texts generalizing sorted with
  | nil => exact ascending
  | cons s texts ih => exact ih (pairwise_insertSorted s ascending)

/-- What a list has stays in its order where texts are put into it. -/
theorem sublist_insertAll (texts sorted : List String) :
    sorted.Sublist (insertAll texts sorted) := by
  induction texts generalizing sorted with
  | nil => exact .refl _
  | cons s texts ih => exact (sublist_insertSorted s sorted).trans (ih _)

end Text

namespace Code.ImportSet

open Text

/-- Modules with their symbols, in the order in which they were first named. -/
abbrev Modules := List (String × List String)

variable {modules : Modules} {module : String} {texts : List String}

/-! ## One module -/

/-- A module that is named for the first time goes to the end, and the others stay. -/
theorem names_changeModule (change : List String → List String) :
    (changeModule module change modules).map (·.1) =
      if module ∈ modules.map (·.1) then modules.map (·.1)
      else modules.map (·.1) ++ [module] := by
  induction modules with
  | nil => simp [changeModule]
  | cons entry rest ih =>
    by_cases same : entry.1 = module
    · simp [changeModule, same]
    · simp only [changeModule, same, ↓reduceIte, List.map_cons, ih, List.mem_cons, Ne.symm same,
        false_or]
      split <;> rfl

/-- The symbols that are put into a module are its own then, beside those that were there. -/
theorem mem_pairs_changeModule {pair : String × String} :
    pair ∈ pairs (changeModule module (insertAll texts) modules) ↔
      pair ∈ texts.map (module, ·) ∨ pair ∈ pairs modules := by
  induction modules with
  | nil => simp [changeModule, pairs, mem_insertAll]
  | cons entry rest ih =>
    simp only [pairs, List.flatMap_cons, List.mem_append] at ih ⊢
    simp only [changeModule]
    split
    · rename_i same
      subst same
      simp [mem_insertAll, or_assoc, or_and_right, exists_or]
    · rw [List.flatMap_cons, List.mem_append, ih]
      tauto

/-- Every module keeps ascending symbols. -/
theorem ascending_changeModule (texts : List String)
    (ascending : ∀ entry ∈ modules, entry.2.Pairwise (· < ·)) :
    ∀ entry ∈ changeModule module (insertAll texts) modules, entry.2.Pairwise (· < ·) := by
  induction modules with
  | nil => simpa [changeModule] using pairwise_insertAll texts .nil
  | cons entry rest ih =>
    obtain ⟨first, others⟩ := List.forall_mem_cons.1 ascending
    simp only [changeModule]
    split
    · exact List.forall_mem_cons.2 ⟨pairwise_insertAll texts first, others⟩
    · exact List.forall_mem_cons.2 ⟨first, ih others⟩

/-! ## What stays in place -/

/-- Each module stands at its place afterwards too, with the symbols it had in their order, and
possibly with others between them. -/
def KeepsInPlace (before after : Modules) : Prop :=
  ∀ (place : Nat) (old : String × List String), before[place]? = some old →
    ∃ new, after[place]? = some new ∧ new.1 = old.1 ∧ old.2.Sublist new.2

/-- Nothing changes. -/
theorem KeepsInPlace.refl (modules : Modules) : KeepsInPlace modules modules :=
  fun _ old found => ⟨old, found, rfl, .refl old.2⟩

/-- What each of two changes keeps in place, both of them together do. -/
theorem KeepsInPlace.trans {first second third : Modules} (one : KeepsInPlace first second)
    (two : KeepsInPlace second third) : KeepsInPlace first third := by
  intro place old found
  obtain ⟨next, behind, named, kept⟩ := one place old found
  obtain ⟨last, still, same, more⟩ := two place next behind
  exact ⟨last, still, same.trans named, kept.trans more⟩

/-- Where symbols are put into a module, all modules stay in place. -/
theorem keepsInPlace_changeModule (module : String) (texts : List String) (modules : Modules) :
    KeepsInPlace modules (changeModule module (insertAll texts) modules) := by
  induction modules with
  | nil => exact fun place old found => absurd found (by simp)
  | cons entry rest ih =>
    intro place old found
    simp only [changeModule]
    cases place with
    | zero =>
      obtain rfl : entry = old := by simpa using found
      split
      · rename_i same
        exact ⟨_, rfl, same.symm, sublist_insertAll texts entry.2⟩
      · exact ⟨entry, rfl, rfl, .refl entry.2⟩
    | succ place =>
      split
      · exact KeepsInPlace.refl rest place old found
      · exact ih place old found

/-- Merging puts the symbols of each module of the other set into it. -/
theorem merge_eq (imports other : ImportSet) :
    (imports.merge other).modules =
      other.modules.foldl (fun modules entry => changeModule entry.1 (insertAll entry.2) modules)
        imports.modules :=
  rfl

/-- Merging leaves all modules and symbols in place. -/
theorem keepsInPlace_merge (imports other : ImportSet) :
    KeepsInPlace imports.modules (imports.merge other).modules := by
  rw [merge_eq]
  generalize imports.modules = modules
  induction other.modules generalizing modules with
  | nil => exact .refl modules
  | cons entry rest ih =>
    exact (keepsInPlace_changeModule entry.1 entry.2 modules).trans (ih _)

/-! ## Collecting -/

/-- Modules, each once and with ascending symbols, that are those named in `names`, with the symbols
of `symbols`. -/
structure Collects (modules : Modules) (names : List String) (symbols : List (String × String)) :
    Prop where
  /-- No module is listed twice. -/
  once : (modules.map (·.1)).Nodup
  /-- The symbols of a module ascend, so none is listed twice. -/
  ascending : ∀ entry ∈ modules, entry.2.Pairwise (· < ·)
  /-- The modules are those that were named. -/
  names : ∀ name, name ∈ modules.map (·.1) ↔ name ∈ names
  /-- The symbols of the modules are those that were given. -/
  symbols : ∀ pair, pair ∈ pairs modules ↔ pair ∈ symbols

namespace Collects

variable {names : List String} {symbols : List (String × String)}

/-- At first nothing is collected. -/
theorem empty : Collects [] [] [] :=
  ⟨.nil, nofun, fun _ => .rfl, fun _ => .rfl⟩

/-- Symbols that are put into a module are collected. -/
theorem change (collects : Collects modules names symbols) (module : String)
    (texts : List String) :
    Collects (changeModule module (insertAll texts) modules) (module :: names)
      (texts.map (module, ·) ++ symbols) where
  once := by
    rw [names_changeModule]
    split
    · exact collects.once
    · rename_i fresh
      exact List.concat_eq_append ▸ collects.once.concat fresh
  ascending := ascending_changeModule texts collects.ascending
  names name := by
    rw [names_changeModule, List.mem_cons, ← collects.names]
    split
    · rename_i known
      exact ⟨.inr, fun either => either.elim (fun same => same ▸ known) id⟩
    · rw [List.mem_append, List.mem_singleton, or_comm]
  symbols pair := by
    rw [mem_pairs_changeModule, List.mem_append, collects.symbols]

/-- Only what is collected matters, not in which order it is listed. -/
theorem congr {otherNames : List String} {otherSymbols : List (String × String)}
    (collects : Collects modules names symbols)
    (sameNames : ∀ name, name ∈ names ↔ name ∈ otherNames)
    (sameSymbols : ∀ pair, pair ∈ symbols ↔ pair ∈ otherSymbols) :
    Collects modules otherNames otherSymbols where
  once := collects.once
  ascending := collects.ascending
  names name := (collects.names name).trans (sameNames name)
  symbols pair := (collects.symbols pair).trans (sameSymbols pair)

/-- The symbols of other modules are collected one module after another. -/
theorem merge (collects : Collects modules names symbols) (others : Modules) :
    Collects
      (others.foldl (fun modules entry => changeModule entry.1 (insertAll entry.2) modules) modules)
      (others.map (·.1) ++ names) (pairs others ++ symbols) := by
  induction others generalizing modules names symbols with
  | nil => exact collects
  | cons entry rest ih =>
    refine (ih (collects.change entry.1 entry.2)).congr (fun name => ?_) fun pair => ?_
    · rw [List.map_cons, List.cons_append, List.mem_cons, List.mem_append, List.mem_append,
        List.mem_cons]
      exact or_left_comm
    · rw [pairs, pairs, List.flatMap_cons, List.append_assoc, List.mem_append, List.mem_append,
        List.mem_append, List.mem_append]
      exact or_left_comm

/-- The symbols of a collected module are those collected with it. -/
theorem mem_symbols_iff (collects : Collects modules names symbols) {entry : String × List String}
    (inside : entry ∈ modules) (symbol : String) :
    symbol ∈ entry.2 ↔ (entry.1, symbol) ∈ symbols := by
  rw [← collects.symbols, pairs, List.mem_flatMap]
  constructor
  · exact fun listed => ⟨entry, inside, List.mem_map_of_mem listed⟩
  · rintro ⟨other, found, listed⟩
    obtain ⟨_, stands, same⟩ := List.mem_map.1 listed
    obtain ⟨named, rfl⟩ := Prod.mk.inj same
    rwa [← List.inj_on_of_nodup_map collects.once found inside named]

/-- What is collected determines the modules and their symbols. -/
theorem mem_iff (collects : Collects modules names symbols) (entry : String × List String) :
    entry ∈ modules ↔ entry.1 ∈ names ∧ entry.2.Pairwise (· < ·) ∧
      ∀ symbol, symbol ∈ entry.2 ↔ (entry.1, symbol) ∈ symbols := by
  constructor
  · intro inside
    exact ⟨(collects.names entry.1).1 (List.mem_map_of_mem inside),
      collects.ascending entry inside, collects.mem_symbols_iff inside⟩
  · rintro ⟨named, ascending, same⟩
    obtain ⟨other, inside, equal⟩ := List.mem_map.1 ((collects.names entry.1).2 named)
    have texts : other.2 = entry.2 :=
      eq_of_ascending (collects.ascending other inside) ascending fun symbol => by
        rw [collects.mem_symbols_iff inside, equal, same]
    rwa [← Prod.ext equal texts]

/-- The sorted modules have ascending names. -/
theorem pairwise_sorted (collects : Collects modules names symbols) :
    (sortByName modules).Pairwise (·.1 < ·.1) :=
  pairwise_sortByName collects.once

/-- Whatever their order was, the same modules and symbols are the same when they are sorted. -/
theorem sorted_eq {others : Modules} {otherNames : List String}
    {otherSymbols : List (String × String)} (collects : Collects modules names symbols)
    (collected : Collects others otherNames otherSymbols)
    (sameNames : ∀ name, name ∈ names ↔ name ∈ otherNames)
    (sameSymbols : ∀ pair, pair ∈ symbols ↔ pair ∈ otherSymbols) :
    sortByName modules = sortByName others := by
  have same (entry : String × List String) : entry ∈ modules ↔ entry ∈ others := by
    rw [collects.mem_iff, collected.mem_iff, sameNames]
    simp only [sameSymbols]
  have perm : modules.Perm others :=
    (List.perm_ext_iff_of_nodup collects.once.of_map collected.once.of_map).2 same
  have sorted : (sortByName modules).Perm (sortByName others) :=
    (sortByName_perm modules).trans (perm.trans (sortByName_perm others).symm)
  exact sorted.eq_of_pairwise (fun _ _ _ _ less more => absurd more (lt_asymm less))
    collects.pairwise_sorted collected.pairwise_sorted

end Collects

/-! ## Calls -/

/-- A call on a set of imports. The set that is merged was collected by calls of its own. -/
inductive Call where
  /-- Adds a symbol of a module. -/
  | add (module symbol : String)
  /-- Adds a module. -/
  | addModule (module : String)
  /-- Adds all that another set has. -/
  | merge (calls : List Call)

mutual

/-- The set after a call. -/
def perform (imports : ImportSet) : Call → ImportSet
  | .add module symbol => imports.add module symbol
  | .addModule module => imports.addModule module
  | .merge calls => imports.merge (performAll {} calls)

/-- The set after calls, one after another. -/
def performAll (imports : ImportSet) : List Call → ImportSet
  | [] => imports
  | call :: rest => performAll (perform imports call) rest

end

mutual

/-- The modules that a call contributes. -/
def Call.modules : Call → List String
  | .add module _ => [module]
  | .addModule module => [module]
  | .merge calls => contributedModules calls

/-- The modules that calls contribute. -/
def contributedModules : List Call → List String
  | [] => []
  | call :: rest => call.modules ++ contributedModules rest

end

mutual

/-- The symbols that a call contributes, with their modules. -/
def Call.symbols : Call → List (String × String)
  | .add module symbol => [(module, symbol)]
  | .addModule _ => []
  | .merge calls => contributedSymbols calls

/-- The symbols that calls contribute, with their modules. -/
def contributedSymbols : List Call → List (String × String)
  | [] => []
  | call :: rest => call.symbols ++ contributedSymbols rest

end

/-- The set that calls collect from the start. -/
def collect (calls : List Call) : ImportSet :=
  performAll {} calls

-- A merged set is collected before it is merged, so the step for one call needs the run of others.
mutual

/-- A call collects what it contributes. -/
theorem collects_perform {imports : ImportSet} {names : List String}
    {symbols : List (String × String)} (collects : Collects imports.modules names symbols) :
    ∀ call : Call,
      Collects (perform imports call).modules (call.modules ++ names) (call.symbols ++ symbols)
  | .add module symbol => collects.change module [symbol]
  | .addModule module => collects.change module []
  | .merge calls => by
    have start : Collects ({} : ImportSet).modules [] [] := .empty
    have inner := collects_performAll start calls
    rw [List.append_nil, List.append_nil] at inner
    refine (collects.merge (performAll {} calls).modules).congr (fun name => ?_) fun pair => ?_
    · rw [List.mem_append, inner.names, Call.modules, List.mem_append]
    · rw [List.mem_append, inner.symbols, Call.symbols, List.mem_append]

/-- Calls collect what they contribute, one after another. -/
theorem collects_performAll {imports : ImportSet} {names : List String}
    {symbols : List (String × String)} (collects : Collects imports.modules names symbols) :
    ∀ calls : List Call, Collects (performAll imports calls).modules
      (contributedModules calls ++ names) (contributedSymbols calls ++ symbols)
  | [] => collects
  | call :: rest => by
    refine (collects_performAll (collects_perform collects call) rest).congr
      (fun name => ?_) fun pair => ?_
    · rw [contributedModules, List.append_assoc, List.mem_append, List.mem_append, List.mem_append,
        List.mem_append]
      exact or_left_comm
    · rw [contributedSymbols, List.append_assoc, List.mem_append, List.mem_append,
        List.mem_append, List.mem_append]
      exact or_left_comm

end

/-- The set that calls collect has what they contribute. -/
theorem collects_collect (calls : List Call) :
    Collects (collect calls).modules (contributedModules calls) (contributedSymbols calls) := by
  have start : Collects ({} : ImportSet).modules [] [] := .empty
  have collected := collects_performAll start calls
  rwa [List.append_nil, List.append_nil] at collected

/-- Sorting keeps what is collected. -/
theorem collects_sorted (calls : List Call) :
    Collects (collect calls).sorted (contributedModules calls) (contributedSymbols calls) := by
  have collected := collects_collect calls
  have perm := sortByName_perm (collect calls).modules
  exact {
    once := (perm.map (·.1)).nodup_iff.2 collected.once
    ascending := fun entry inside => collected.ascending entry (perm.mem_iff.1 inside)
    names := fun name => ((perm.map (·.1)).mem_iff).trans (collected.names name)
    symbols := fun pair => (perm.flatMap_right _).mem_iff.trans (collected.symbols pair) }

/-- The sorted imports depend on the contributed modules and symbols only, and on all of them. Their
modules are exactly the contributed ones, in strictly ascending order of their bytes, and the
symbols of each are those contributed with it, in the same order. Merging leaves every module at its
place and every symbol in its module. -/
theorem sorted_follows_contents (calls others : List Call) :
    ((collect calls).sorted = (collect others).sorted ↔
      (∀ module, module ∈ contributedModules calls ↔ module ∈ contributedModules others) ∧
      ∀ pair, pair ∈ contributedSymbols calls ↔ pair ∈ contributedSymbols others) ∧
    ((collect calls).sorted.map (bytes ·.1)).Pairwise (· < ·) ∧
    (∀ module, module ∈ (collect calls).sorted.map (·.1) ↔ module ∈ contributedModules calls) ∧
    (∀ entry ∈ (collect calls).sorted, (entry.2.map bytes).Pairwise (· < ·) ∧
      ∀ symbol, symbol ∈ entry.2 ↔ (entry.1, symbol) ∈ contributedSymbols calls) ∧
    ∀ imports other : ImportSet, KeepsInPlace imports.modules (imports.merge other).modules := by
  have first := collects_sorted calls
  have second := collects_sorted others
  refine ⟨⟨fun same => ⟨fun module => ?_, fun pair => ?_⟩, fun ⟨sameModules, sameSymbols⟩ => ?_⟩,
    ?_, first.names, fun entry inside => ⟨?_, first.mem_symbols_iff inside⟩, keepsInPlace_merge⟩
  · rw [← first.names, ← second.names, same]
  · rw [← first.symbols, ← second.symbols, same]
  · exact (collects_collect calls).sorted_eq (collects_collect others) sameModules sameSymbols
  · rw [List.pairwise_map]
    exact (collects_collect calls).pairwise_sorted.imp bytes_lt_bytes_iff.2
  · rw [List.pairwise_map]
    exact (first.ascending entry inside).imp bytes_lt_bytes_iff.2

/-- Imports that one set collects, with another one merged into it at the end. -/
def directImports : List Call :=
  [.addModule "UIKit", .add "Foundation" "NSObject", .add "Foundation" "Data",
   .merge [.addModule "SwiftUI", .add "Foundation" "Data"]]

/-- The same imports in another order, out of sets that are merged into each other. -/
def mergedImports : List Call :=
  [.merge [.add "Foundation" "Data", .merge [.add "Foundation" "NSObject"], .addModule "SwiftUI"],
   .addModule "SwiftUI", .addModule "UIKit", .addModule "Foundation"]

/-- Both ways to collect the imports give the same sorted ones. -/
theorem sorted_of_mergedImports :
    (collect directImports).sorted = (collect mergedImports).sorted ∧
    (collect directImports).sorted =
      [("Foundation", ["Data", "NSObject"]), ("SwiftUI", []), ("UIKit", [])] ∧
    (["Data", "NSObject"].map bytes).Pairwise (· < ·) := by
  have printed : (collect directImports).sorted =
      [("Foundation", ["Data", "NSObject"]), ("SwiftUI", []), ("UIKit", [])] := by
    decide
  obtain ⟨same, -, -, ascending, -⟩ := sorted_follows_contents directImports mergedImports
  refine ⟨same.2 ⟨fun module => ?_, fun pair => ?_⟩, printed, ?_⟩
  · simp only [directImports, mergedImports, contributedModules, Call.modules, List.cons_append,
      List.nil_append, List.mem_cons, List.not_mem_nil, or_false]
    tauto
  · simp only [directImports, mergedImports, contributedSymbols, Call.symbols, List.cons_append,
      List.nil_append, List.append_nil, List.mem_cons, List.not_mem_nil, or_false]
    tauto
  · exact (ascending ("Foundation", ["Data", "NSObject"]) (by rw [printed]; simp)).1

end Code.ImportSet

end ViewGlue
