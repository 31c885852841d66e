/-!
# First occurrences and sorted lists

Two orders in which collected things are kept: the order in which they were first met, and
the order of their code points. Both keep each thing once.
-/

namespace ViewGlue.Text

/-- Each element once, in the order of its first occurrence. -/
def firstOccurrences {α : Type} [DecidableEq α] : List α → List α
  | [] => []
  | a :: rest => a :: (firstOccurrences rest).filter (· ≠ a)

/-- The keys in the order of their first occurrence, each with its elements in their order. -/
def groupsBy {α κ : Type} [DecidableEq κ] (key : α → κ) (elements : List α) :
    List (κ × List α) :=
  (firstOccurrences (elements.map key)).map fun k => (k, elements.filter (key · = k))

/-- Puts a text into a strictly ascending list, where it is kept once. -/
def insertSorted (s : String) : List String → List String
  | [] => [s]
  | t :: rest =>
    if s < t then s :: t :: rest
    else if s = t then t :: rest
    else t :: insertSorted s rest

/-- Puts a pair into a list ascending by its first parts, before the pairs that are larger. -/
def insertByName {α : Type} (entry : String × α) : List (String × α) → List (String × α)
  | [] => [entry]
  | other :: rest =>
    if entry.1 < other.1 then entry :: other :: rest else other :: insertByName entry rest

/-- The pairs ascending by their first parts; pairs with equal first parts keep their order. -/
def sortByName {α : Type} (entries : List (String × α)) : List (String × α) :=
  entries.foldl (fun sorted entry => insertByName entry sorted) []

/-- First occurrences are the same things. -/
theorem mem_firstOccurrences {α : Type} [DecidableEq α] {a : α} {elements : List α} :
    a ∈ firstOccurrences elements ↔ a ∈ elements := by
  induction elements with
  | nil => simp [firstOccurrences]
  | cons b rest ih =>
    by_cases same : a = b
    · simp [firstOccurrences, same]
    · simp [firstOccurrences, same, ih]

/-- First occurrences are pairwise distinct. -/
theorem nodup_firstOccurrences {α : Type} [DecidableEq α] (elements : List α) :
    (firstOccurrences elements).Nodup := by
  induction elements with
  | nil => simp [firstOccurrences]
  | cons b rest ih =>
    simp only [firstOccurrences, List.nodup_cons, List.mem_filter]
    exact ⟨by simp, ih.filter _⟩

/-- A sorted list takes in what is inserted and keeps what it had. -/
theorem mem_insertSorted {s t : String} {sorted : List String} :
    t ∈ insertSorted s sorted ↔ t = s ∨ t ∈ sorted := by
  induction sorted with
  | nil => simp [insertSorted]
  | cons u rest ih =>
    simp only [insertSorted]
    split
    · simp
    · split
      · rename_i same
        simp [same]
      · simp only [List.mem_cons, ih]
        constructor <;> rintro (h | h | h) <;> simp [h]

end ViewGlue.Text
