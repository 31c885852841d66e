import ViewGlue.Text.LetterCase
import ViewGlue.Text.Split

/-!
# Identifiers

The names that a manifest may use are plain: a letter or underscore, then letters, digits and
underscores, all below 128. Derived names change the case of first letters only.
-/

namespace ViewGlue.Text

/-- A letter that may start an identifier, the underscore apart. -/
def isLetter (c : Char) : Bool :=
  ('a' ≤ c && c ≤ 'z') || ('A' ≤ c && c ≤ 'Z')

/-- A decimal digit. -/
def isDigit (c : Char) : Bool :=
  '0' ≤ c && c ≤ '9'

/-- A character that may start an identifier. -/
def startsName (c : Char) : Bool :=
  isLetter c || c == '_'

/-- A character that may stand in an identifier after the first. -/
def continuesName (c : Char) : Bool :=
  isLetter c || isDigit c || c == '_'

/-- Identifiers as characters. -/
def isIdentifierChars : List Char → Bool
  | [] => false
  | c :: rest => startsName c && rest.all continuesName

/-- Identifiers: a letter or underscore, then letters, digits and underscores. -/
def isIdentifier (s : String) : Bool :=
  isIdentifierChars s.toList

/-- Identifiers with single dots between them. -/
def isDotted (s : String) : Bool :=
  (splitChars (· == '.') s.toList).all isIdentifierChars

/-- The characters with a capital in first place. -/
def capitalizeChars : List Char → List Char
  | [] => []
  | c :: rest => LetterCase.capital c ++ rest

/-- The words between underscores and hyphens, each with a capital in first place, written
without a separator. -/
def pascalCase (s : String) : String :=
  String.ofList
    ((splitChars (fun c => c == '_' || c == '-') s.toList).map capitalizeChars).flatten

/-- The text with a small letter in first place. -/
def lowerFirst (s : String) : String :=
  match s.toList with
  | [] => ""
  | c :: rest => String.ofList (LetterCase.small c ++ rest)

/-- The text with its plain capital letters made small. -/
def lowerPlain (s : String) : String :=
  String.ofList (s.toList.map Char.toLower)

/-- Whether `part` stands somewhere in `s`. -/
def containsChars (part : List Char) : List Char → Bool
  | [] => part.isEmpty
  | c :: rest => part.isPrefixOf (c :: rest) || containsChars part rest

/-- What may start a name may also continue it. -/
theorem continuesName_of_startsName {c : Char} (starts : startsName c = true) :
    continuesName c = true := by
  simp only [startsName, continuesName, Bool.or_eq_true] at *
  rcases starts with letter | underscore
  · exact Or.inl (Or.inl letter)
  · exact Or.inr underscore

/-- The characters of names are below 128. -/
theorem lt_of_continuesName {c : Char} (continues : continuesName c = true) :
    c.toNat < 128 := by
  simp only [continuesName, isLetter, isDigit, Bool.or_eq_true, Bool.and_eq_true,
    decide_eq_true_eq, beq_iff_eq, Char.le_def, UInt32.le_iff_toNat_le] at continues
  have small : 'z'.val.toNat = 122 := rfl
  have capital : 'Z'.val.toNat = 90 := rfl
  have digit : '9'.val.toNat = 57 := rfl
  show c.val.toNat < 128
  rcases continues with ((letter | letter) | number) | rfl
  · omega
  · omega
  · omega
  · decide

/-- Every character of an identifier may continue a name. -/
theorem all_continuesName_of_isIdentifierChars {s : List Char}
    (identifier : isIdentifierChars s = true) : s.all continuesName = true := by
  cases s with
  | nil => rfl
  | cons c rest =>
    simp only [isIdentifierChars, Bool.and_eq_true] at identifier
    simp only [List.all_cons, continuesName_of_startsName identifier.1, identifier.2, Bool.and_self]

end ViewGlue.Text
