import ViewGlue.Output.Path
import ViewGlue.Proofs.DottedNames

/-!
# Source paths

The path of a file in the directory of a package has a part for each identifier of the package and
the file's name behind them (`splitAt_sourcePath`). So the path tells the package and the name
(`sourcePath_inj`). Neither identifiers nor stems of files have slashes.
-/

namespace ViewGlue.Output

open Text

/-- A package of source files: none at all, or a dotted list of identifiers. -/
def IsPackage (package : String) : Prop :=
  package = "" ∨ isDotted package = true

instance : DecidablePred IsPackage := fun package =>
  inferInstanceAs (Decidable (package = "" ∨ isDotted package = true))

/-- The parts of a package that are not empty. -/
def packageParts (package : String) : List String :=
  (splitAt (· == '.') package).filter (· ≠ "")

/-! ## Packages -/

/-- The parts of a dotted list are identifiers. -/
theorem isIdentifier_of_mem_splitAt {dotted part : String} (isList : isDotted dotted = true)
    (inside : part ∈ splitAt (· == '.') dotted) : isIdentifier part = true := by
  obtain ⟨letters, found, rfl⟩ := List.mem_map.1 inside
  simpa [isIdentifier] using List.all_eq_true.1 isList letters found

/-- No identifier is empty. -/
theorem ne_empty_of_isIdentifier {name : String} (identifier : isIdentifier name = true) :
    name ≠ "" := by
  rintro rfl
  cases identifier

/-- No identifier has a slash. -/
theorem slash_notMem_of_isIdentifier {name : String} (identifier : isIdentifier name = true) :
    '/' ∉ name.toList :=
  notMem_of_isIdentifierChars identifier (by decide)

/-- The parts of a package are identifiers. -/
theorem isIdentifier_of_mem_packageParts {package part : String} (isPackage : IsPackage package)
    (inside : part ∈ packageParts package) : isIdentifier part = true := by
  rcases isPackage with rfl | isList
  · cases inside
  · exact isIdentifier_of_mem_splitAt isList (List.mem_filter.1 inside).1

/-- A package consists of its parts. -/
theorem joinWith_packageParts {package : String} (isPackage : IsPackage package) :
    joinWith "." (packageParts package) = package := by
  rcases isPackage with rfl | isList
  · rfl
  · have all : packageParts package = splitAt (· == '.') package := by
      refine List.filter_eq_self.2 fun part inside => ?_
      simpa using ne_empty_of_isIdentifier (isIdentifier_of_mem_splitAt isList inside)
    rw [all]
    exact joinWith_splitAt '.' package

/-! ## Files in packages -/

/-- Joined texts are empty if there are none. -/
theorem joinWith_eq_empty_iff (separator : String) {parts : List String}
    (filled : ∀ part ∈ parts, part ≠ "") : joinWith separator parts = "" ↔ parts = [] := by
  cases parts with
  | nil => simp [joinWith]
  | cons part parts =>
    have first := filled part List.mem_cons_self
    cases parts <;> simp [joinWith, first]

/-- One more text is joined behind the others. -/
theorem joinWith_append_singleton (separator : String) {parts : List String}
    (nonempty : parts ≠ []) (last : String) :
    joinWith separator (parts ++ [last]) = joinWith separator parts ++ separator ++ last := by
  induction parts with
  | nil => exact absurd rfl nonempty
  | cons part parts ih =>
    cases parts with
    | nil => rfl
    | cons next parts =>
      rw [List.cons_append, List.cons_append, joinWith, ← List.cons_append, ih (by simp), joinWith]
      simp only [String.append_assoc]

/-- The path of a file has the parts of its package before the file's name. -/
theorem sourcePath_eq (package fileName : String) :
    sourcePath package fileName = joinWith "/" (packageParts package ++ [fileName]) := by
  have filled : ∀ part ∈ packageParts package, part ≠ "" := fun part inside => by
    simpa using (List.mem_filter.1 inside).2
  have bare := joinWith_eq_empty_iff "/" filled
  show (if joinWith "/" (packageParts package) = "" then _ else _) = _
  by_cases missing : packageParts package = []
  · rw [if_pos (bare.2 missing), missing]
    rfl
  · rw [if_neg fun empty => missing (bare.1 empty), joinWith_append_singleton "/" missing]
    rfl

/-- The parts of the path are the identifiers of the package and the file's name. -/
theorem splitAt_sourcePath {package fileName : String} (isPackage : IsPackage package)
    (isName : '/' ∉ fileName.toList) :
    splitAt (· == '/') (sourcePath package fileName) = packageParts package ++ [fileName] := by
  have outside : ∀ part ∈ packageParts package ++ [fileName], '/' ∉ part.toList := by
    intro part inside
    rcases List.mem_append.1 inside with identifier | last
    · exact slash_notMem_of_isIdentifier (isIdentifier_of_mem_packageParts isPackage identifier)
    · rw [List.mem_singleton.1 last]
      exact isName
  rw [sourcePath_eq]
  cases parts : packageParts package ++ [fileName] with
  | nil => simp at parts
  | cons part others => exact splitAt_joinWith (parts ▸ outside)

/-- The path of a file tells its package and its name. -/
theorem sourcePath_inj {package otherPackage fileName otherName : String}
    (isPackage : IsPackage package) (isOther : IsPackage otherPackage)
    (isName : '/' ∉ fileName.toList) (isOtherName : '/' ∉ otherName.toList) :
    sourcePath package fileName = sourcePath otherPackage otherName ↔
      package = otherPackage ∧ fileName = otherName := by
  constructor
  · intro same
    have parts := congrArg (splitAt (· == '/')) same
    rw [splitAt_sourcePath isPackage isName, splitAt_sourcePath isOther isOtherName] at parts
    obtain ⟨packages, names⟩ := List.append_inj' parts rfl
    refine ⟨?_, by simpa using names⟩
    rw [← joinWith_packageParts isPackage, packages, joinWith_packageParts isOther]
  · rintro ⟨rfl, rfl⟩
    rfl

/-- Files in the directory of one package have one path if they have one name. -/
theorem sourcePath_right_inj {package fileName otherName : String} :
    sourcePath package fileName = sourcePath package otherName ↔ fileName = otherName := by
  unfold sourcePath
  split
  · exact Iff.rfl
  · exact String.append_right_inj _

/-! ## Stems -/

/-- The parts of a text hold its letters and no separators. -/
theorem letter_of_mem_splitChars {isSeparator : Char → Bool} {s part : List Char}
    (inside : part ∈ splitChars isSeparator s) {c : Char} (letter : c ∈ part) :
    c ∈ s ∧ isSeparator c = false := by
  induction s generalizing part with
  | nil =>
    obtain rfl := List.mem_singleton.1 inside
    cases letter
  | cons first rest ih =>
    have later {part : List Char} (inside : part ∈ splitChars isSeparator rest)
        (letter : c ∈ part) : c ∈ first :: rest ∧ isSeparator c = false := by
      obtain ⟨found, plain⟩ := ih inside letter
      exact ⟨List.mem_cons_of_mem first found, plain⟩
    simp only [splitChars] at inside
    by_cases separates : isSeparator first = true
    · rw [if_pos separates] at inside
      rcases List.mem_cons.1 inside with rfl | behind
      · cases letter
      · exact later behind letter
    · rw [if_neg separates] at inside
      cases parts : splitChars isSeparator rest with
      | nil => exact absurd parts (splitChars_ne_nil isSeparator rest)
      | cons head tail =>
        rw [parts] at inside later
        rcases List.mem_cons.1 inside with rfl | behind
        · rcases List.mem_cons.1 letter with rfl | following
          · exact ⟨List.mem_cons_self, by simpa using separates⟩
          · exact later List.mem_cons_self following
        · exact later (List.mem_cons_of_mem head behind) letter

/-- Without an ending a name has no more letters than before. -/
theorem mem_of_mem_withoutEnding {name : List Char} {c : Char} (inside : c ∈ withoutEnding name) :
    c ∈ name := by
  unfold withoutEnding at inside
  split at inside
  · exact inside
  · rename_i before behind split
    rw [(splitLastChars_eq_some split).1]
    exact List.mem_append_left _ inside
  · exact inside

/-- The stem of a file has no slash. -/
theorem slash_notMem_fileStem (path : String) : '/' ∉ (fileStem path).toList := by
  intro inside
  rw [fileStem, String.toList_ofList] at inside
  have letter := mem_of_mem_withoutEnding inside
  rw [List.getLastD_eq_getLast?] at letter
  cases last : (splitChars (fun c => c == '/' || c == '\\') path.toList).getLast? with
  | none =>
    rw [last] at letter
    cases letter
  | some part =>
    rw [last] at letter
    have separates := (letter_of_mem_splitChars (List.mem_of_getLast? last) letter).2
    cases separates

end ViewGlue.Output
