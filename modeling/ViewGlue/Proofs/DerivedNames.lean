import ViewGlue.Proofs.UpdateMethods

/-!
# Derived names

Generated code names its classes, interfaces, properties and methods after groups, views and
parameters. What is derived from an identifier is an identifier again
(`Naming.derived_names_are_identifiers`): a name that starts with an identifier and goes on with
characters of names is one, small letters in first place keep it one, and an identifier that is run
together consists of its letters and digits.
-/

namespace ViewGlue

namespace Text

/-! ## Identifiers that go on -/

/-- An identifier may go on with characters of names. -/
theorem isIdentifierChars_append {front rest : List Char}
    (identifier : isIdentifierChars front = true) (continues : rest.all continuesName = true) :
    isIdentifierChars (front ++ rest) = true := by
  cases front with
  | nil => cases identifier
  | cons c others =>
    simp only [isIdentifierChars, Bool.and_eq_true] at identifier
    simp [isIdentifierChars, identifier.1, List.all_append, identifier.2, continues]

/-- An identifier may go on with characters of names. -/
theorem isIdentifier_append {front rest : String} (identifier : isIdentifier front = true)
    (continues : rest.toList.all continuesName = true) : isIdentifier (front ++ rest) = true := by
  rw [isIdentifier, String.toList_append]
  exact isIdentifierChars_append identifier continues

/-- The characters of an identifier may continue a name. -/
theorem all_continuesName_of_isIdentifier {s : String} (identifier : isIdentifier s = true) :
    s.toList.all continuesName = true :=
  all_continuesName_of_isIdentifierChars identifier

/-- With a small letter in first place an identifier is one. -/
theorem isIdentifier_lowerFirst {s : String} (identifier : isIdentifier s = true) :
    isIdentifier (lowerFirst s) = true := by
  cases letters : s.toList with
  | nil =>
    rw [isIdentifier, letters] at identifier
    cases identifier
  | cons c rest =>
    rw [isIdentifier, letters, isIdentifierChars, Bool.and_eq_true] at identifier
    obtain ⟨starts, continues⟩ := identifier
    have plain : c.toNat < 128 := lt_of_continuesName (continuesName_of_startsName starts)
    have one : LetterCase.small c = [c.toLower] :=
      Naming.forall_of_lt (P := fun c => LetterCase.small c = [c.toLower])
        LetterCase.small_ascii plain
    have again : startsName c.toLower = true :=
      Naming.forall_of_lt (P := fun c => startsName c = true → startsName c.toLower = true)
        (by decide +kernel) plain starts
    simp [isIdentifier, lowerFirst, letters, one, isIdentifierChars, again, continues]

end Text

namespace Naming

open Text

/-! ## Identifiers run together -/

/-- The characters behind a character `before` that are no underscores. Each is a capital where an
underscore stands before it. -/
def joinedLetters (before : Char) (s : List Char) : List Char :=
  ((s.zip (before :: s)).filter fun place => place.1 ≠ '_').map fun place =>
    if place.2 = '_' then place.1.toUpper else place.1

/-- An underscore is left out. -/
theorem joinedLetters_underscore (before : Char) (rest : List Char) :
    joinedLetters before ('_' :: rest) = joinedLetters '_' rest := by
  simp [joinedLetters]

/-- Any other character is followed by the letters behind it. -/
theorem joinedLetters_cons {c : Char} (letter : c ≠ '_') (before : Char) (rest : List Char) :
    joinedLetters before (c :: rest) =
      (if before = '_' then c.toUpper else c) :: joinedLetters c rest := by
  simp [joinedLetters, letter]

/-- Among characters of names only underscores separate words, and each has one capital. -/
theorem separates_of_continuesName {c : Char} (continues : continuesName c = true) :
    separates c = (c == '_') ∧ LetterCase.capital c = [c.toUpper] := by
  have hyphen : c ≠ '-' := by
    rintro rfl
    exact absurd continues (by decide)
  exact ⟨by simp [separates, hyphen], (capital_of_lt (lt_of_continuesName continues)).1⟩

/-- Characters of names are run together to the characters that are no underscores. -/
theorem runTogether_eq {s : List Char} (continues : s.all continuesName = true) (before : Char) :
    runTogether (before == '_') s = joinedLetters before s := by
  induction s generalizing before with
  | nil => rfl
  | cons c rest ih =>
    rw [List.all_cons, Bool.and_eq_true] at continues
    obtain ⟨separator, capital⟩ := separates_of_continuesName continues.1
    have behind := ih continues.2 c
    by_cases underscore : c = '_'
    · subst underscore
      have between : separates '_' = true := by decide
      rw [joinedLetters_underscore, ← behind, runTogether, if_pos between]
      rfl
    · have letter : (c == '_') = false := beq_false_of_ne underscore
      rw [letter] at separator behind
      rw [joinedLetters_cons underscore, ← behind, runTogether, separator, capital]
      by_cases starts : before = '_' <;> simp [starts]

/-- An identifier run together has the characters of the identifier but its underscores. The first
of each part is a capital. -/
theorem toList_pascalCase {name : String} (identifier : isIdentifier name = true) :
    (pascalCase name).toList = joinedLetters '_' name.toList := by
  rw [pascalCase, String.toList_ofList]
  exact (flatten_capitalizeChars name.toList).1.trans
    (runTogether_eq (all_continuesName_of_isIdentifier identifier) '_')

/-- What an identifier is run together to are letters and digits. -/
theorem letter_or_digit_of_mem_pascalCase {name : String} (identifier : isIdentifier name = true)
    {c : Char} (inside : c ∈ (pascalCase name).toList) : isLetter c = true ∨ isDigit c = true := by
  rw [toList_pascalCase identifier, joinedLetters, List.mem_map] at inside
  obtain ⟨⟨d, before⟩, place, rfl⟩ := inside
  obtain ⟨standing, letter⟩ := List.mem_filter.1 place
  have continues : continuesName d = true :=
    continuesName_of_mem identifier (List.of_mem_zip standing).1
  have plain : d.toNat < 128 := lt_of_continuesName continues
  have either : ∀ code < 128, continuesName (Char.ofNat code) = true → Char.ofNat code ≠ '_' →
      (isLetter (Char.ofNat code).toUpper = true ∨ isDigit (Char.ofNat code).toUpper = true) ∧
      (isLetter (Char.ofNat code) = true ∨ isDigit (Char.ofNat code) = true) := by
    decide +kernel
  obtain ⟨capital, small⟩ := forall_of_lt (P := fun d => continuesName d = true → d ≠ '_' →
    (isLetter d.toUpper = true ∨ isDigit d.toUpper = true) ∧
    (isLetter d = true ∨ isDigit d = true)) either plain continues (by simpa using letter)
  dsimp only
  split
  · exact capital
  · exact small

/-- The update method of an identifier is named by one. -/
theorem isIdentifier_updateMethod {name : String} (identifier : isIdentifier name = true) :
    isIdentifier (updateMethod name) = true := by
  refine isIdentifier_append (by decide) (List.all_eq_true.2 fun c inside => ?_)
  rcases letter_or_digit_of_mem_pascalCase identifier inside with letter | digit
  · simp [continuesName, letter]
  · simp [continuesName, digit]

/-- Every name derived from an identifier is one: those of the interface, the short factory, its
accessor, its binding and the property in it if it names a group, those of the delegate, the
observable object and the create method if it names a view, and that of the update method if it
names a parameter. Run together, the identifier has letters and digits only: its characters but the
underscores, in their order, where only the first one of each part may change, to its capital. -/
theorem derived_names_are_identifiers {name : String} (identifier : isIdentifier name = true) :
    (∀ derived ∈ [factoryInterface name, factoryAlias name, factoryAccessor name,
        bindingClass name, lowerFirst (factoryAlias name), delegate name, observable name,
        createMethod name, updateMethod name], isIdentifier derived = true) ∧
    (∀ binding : Foreign.Binding, binding.group = name → isIdentifier binding.field = true) ∧
    (∀ c ∈ (pascalCase name).toList, isLetter c = true ∨ isDigit c = true) ∧
    (pascalCase name).toList = joinedLetters '_' name.toList := by
  have continues := all_continuesName_of_isIdentifier identifier
  have short : isIdentifier (factoryAlias name) = true :=
    isIdentifier_append identifier (by decide)
  have field := isIdentifier_lowerFirst short
  -- with a word in front, the factory goes on behind the word and the name
  have worded {word : String} (first : isIdentifier word = true) :
      isIdentifier (word ++ name ++ "Factory") = true :=
    isIdentifier_append (isIdentifier_append first continues) (by decide)
  refine ⟨?_, fun binding group => ?_, fun c => letter_or_digit_of_mem_pascalCase identifier,
    toList_pascalCase identifier⟩
  · simp only [List.forall_mem_cons]
    exact ⟨worded (by decide), short, worded (by decide), worded (by decide), field,
      isIdentifier_append identifier (by decide), isIdentifier_append identifier (by decide),
      isIdentifier_append (by decide) continues, isIdentifier_updateMethod identifier,
      fun _ missing => absurd missing List.not_mem_nil⟩
  · rw [Foreign.Binding.field, Foreign.Binding.protocolName, group]
    exact field

/-- A name with underscores at both ends and two in a row, and with a part that starts with a
digit. -/
theorem derived_names_of_spacedName_are_identifiers :
    isIdentifier "_on__2tap_" = true ∧
    isIdentifier (updateMethod "_on__2tap_") = true ∧
    isIdentifier (lowerFirst (factoryAlias "_on__2tap_")) = true ∧
    updateMethod "_on__2tap_" = "updateOn2tap" ∧
    (pascalCase "_on__2tap_").toList = ['O', 'n', '2', 't', 'a', 'p'] := by
  obtain ⟨named, -, -, joined⟩ :=
    derived_names_are_identifiers (show isIdentifier "_on__2tap_" = true by decide)
  refine ⟨by decide, named _ (by simp), named _ (by simp), by decide, ?_⟩
  rw [joined]
  decide

end Naming

end ViewGlue
