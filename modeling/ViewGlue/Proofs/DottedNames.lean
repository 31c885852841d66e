import ViewGlue.QualifiedName
import ViewGlue.Text.Identifier

/-!
# Dotted names

A plain name consists of identifiers: its simple name is one and its package, if it has one, is a
dotted list of them. Plain names and dotted lists of identifiers are the same: the dotted form of
a plain name is such a list and splits into the name, and every such list splits into a plain name.
-/

namespace ViewGlue

namespace Text

/-- The characters of an identifier may continue a name. -/
theorem continuesName_of_mem {s : List Char} {c : Char} (identifier : isIdentifierChars s = true)
    (inside : c ∈ s) : continuesName c = true :=
  List.all_eq_true.1 (all_continuesName_of_isIdentifierChars identifier) c inside

/-- What cannot continue a name is in no identifier. -/
theorem notMem_of_isIdentifierChars {s : List Char} {c : Char}
    (identifier : isIdentifierChars s = true) (other : continuesName c = false) : c ∉ s := by
  intro inside
  have continues := continuesName_of_mem identifier inside
  rw [other] at continues
  cases continues

/-- No dot continues a name. -/
theorem dot_notMem_of_isIdentifierChars {s : List Char} (identifier : isIdentifierChars s = true) :
    '.' ∉ s :=
  notMem_of_isIdentifierChars identifier (by decide)

/-- Characters without a separator are one part. -/
theorem splitChars_of_notMem {separator : Char} {s : List Char} (outside : separator ∉ s) :
    splitChars (· == separator) s = [s] := by
  induction s with
  | nil => rfl
  | cons c rest ih =>
    simp only [List.mem_cons, not_or] at outside
    have differs : (c == separator) = false := by simpa using Ne.symm outside.1
    simp [splitChars, differs, ih outside.2]

/-- A separator ends one part and starts another. -/
theorem splitChars_append (separator : Char) (before behind : List Char) :
    splitChars (· == separator) (before ++ separator :: behind) =
      splitChars (· == separator) before ++ splitChars (· == separator) behind := by
  induction before with
  | nil => simp [splitChars]
  | cons c rest ih =>
    cases parts : splitChars (· == separator) rest with
    | nil => exact absurd parts (splitChars_ne_nil _ rest)
    | cons part others =>
      rw [parts] at ih
      by_cases same : (c == separator) = true
      · simp [splitChars, same, ih, parts]
      · simp [splitChars, same, ih, parts]

/-- Parts without separators are found again where they are joined. -/
theorem splitChars_joinChars {separator : Char} {part : List Char} {parts : List (List Char)}
    (outside : ∀ each ∈ part :: parts, separator ∉ each) :
    splitChars (· == separator) (joinChars separator (part :: parts)) = part :: parts := by
  induction parts generalizing part with
  | nil => exact splitChars_of_notMem (outside part List.mem_cons_self)
  | cons next parts ih =>
    rw [joinChars, splitChars_append, splitChars_of_notMem (outside part List.mem_cons_self),
      ih fun each inside => outside each (List.mem_cons_of_mem part inside)]
    rfl

/-- The characters of joined parts are theirs or separators. -/
theorem mem_joinChars {separator c : Char} {parts : List (List Char)}
    (inside : c ∈ joinChars separator parts) : c = separator ∨ ∃ part ∈ parts, c ∈ part := by
  induction parts with
  | nil => cases inside
  | cons part parts ih =>
    cases parts with
    | nil => exact .inr ⟨part, List.mem_cons_self, inside⟩
    | cons next parts =>
      rw [joinChars, List.mem_append, List.mem_cons] at inside
      rcases inside with here | same | later
      · exact .inr ⟨part, List.mem_cons_self, here⟩
      · exact .inl same
      · obtain same | ⟨other, listed, found⟩ := ih later
        · exact .inl same
        · exact .inr ⟨other, List.mem_cons_of_mem part listed, found⟩

/-- Texts joined with a character are their characters joined with it. -/
theorem toList_joinWith (separator : Char) (words : List String) :
    (joinWith (String.ofList [separator]) words).toList =
      joinChars separator (words.map String.toList) := by
  induction words with
  | nil => rfl
  | cons word words ih =>
    cases words with
    | nil => rfl
    | cons next words =>
      rw [joinWith, String.toList_append, String.toList_append, ih]
      simp [joinChars]

/-- Texts joined with dots are their characters joined with dots. -/
theorem toList_joinWith_dot (words : List String) :
    (joinWith "." words).toList = joinChars '.' (words.map String.toList) :=
  toList_joinWith '.' words

/-- Parts without a separator are found again where they are joined. -/
theorem splitAt_joinWith {separator : Char} {part : String} {parts : List String}
    (outside : ∀ each ∈ part :: parts, separator ∉ each.toList) :
    splitAt (· == separator) (joinWith (String.ofList [separator]) (part :: parts)) =
      part :: parts := by
  have apart : ∀ each ∈ part.toList :: parts.map String.toList, separator ∉ each := by
    intro each inside
    obtain ⟨text, found, rfl⟩ := List.mem_map.1 (List.map_cons ▸ inside)
    exact outside text found
  rw [splitAt, toList_joinWith, List.map_cons, splitChars_joinChars apart]
  simp [Function.comp_def]

/-- Joining the parts of a text gives the text back. -/
theorem joinWith_splitAt (separator : Char) (s : String) :
    joinWith (String.ofList [separator]) (splitAt (· == separator) s) = s := by
  rw [← String.toList_inj, toList_joinWith]
  simpa [splitAt, Function.comp_def] using joinChars_splitChars separator s.toList

/-- Identifiers joined with dots are a dotted list. -/
theorem isDotted_joinWith {word : String} {words : List String}
    (identifiers : ∀ each ∈ word :: words, isIdentifier each = true) :
    isDotted (joinWith "." (word :: words)) = true := by
  have outside : ∀ each ∈ word.toList :: words.map String.toList, '.' ∉ each := by
    intro each inside
    obtain ⟨text, found, rfl⟩ := List.mem_map.1 (List.map_cons ▸ inside)
    exact dot_notMem_of_isIdentifierChars (identifiers text found)
  rw [isDotted, toList_joinWith_dot, List.map_cons, splitChars_joinChars outside, ← List.map_cons,
    List.all_map, List.all_eq_true]
  exact identifiers

/-- The characters of a dotted list are dots and characters of names. -/
theorem dot_or_continuesName_of_mem {s : String} (isList : isDotted s = true) {c : Char}
    (inside : c ∈ s.toList) : c = '.' ∨ continuesName c = true := by
  rw [← joinChars_splitChars '.' s.toList] at inside
  obtain rfl | ⟨part, listed, found⟩ := mem_joinChars inside
  · exact .inl rfl
  · exact .inr (continuesName_of_mem (List.all_eq_true.1 isList part listed) found)

/-- A dotted list is not empty. -/
theorem ne_empty_of_isDotted {s : String} (isList : isDotted s = true) : s ≠ "" := by
  rintro rfl
  exact absurd isList (by decide)

end Text

open Text

namespace QualifiedName

/-- The simple name is an identifier and the package, if there is one, is a dotted list of
identifiers. -/
def isPlain (name : QualifiedName) : Bool :=
  (name.package == "" || Text.isDotted name.package) && isIdentifier name.simple

/-- A name with no dot in its simple name is found again in its dotted form. -/
theorem ofDotted_dotted {name : QualifiedName} (outside : '.' ∉ name.simple.toList) :
    ofDotted name.dotted = name := by
  obtain ⟨package, simple⟩ := name
  by_cases bare : package = ""
  · subst bare
    simp [ofDotted, dotted, splitLastChars_eq_none_iff.2 outside]
  · have letters : (dotted ⟨package, simple⟩).toList = package.toList ++ '.' :: simple.toList := by
      simp [dotted, bare]
    cases split : splitLastChars '.' (package.toList ++ '.' :: simple.toList) with
    | none =>
      rw [splitLastChars_eq_none_iff] at split
      exact absurd (by simp) split
    | some parts =>
      obtain ⟨before, behind⟩ := parts
      obtain ⟨same, last⟩ := splitLastChars_eq_some split
      have parts : package.toList = before ∧ simple.toList = behind := by
        rw [List.append_eq_append_iff] at same
        obtain ⟨middle, rfl, tail⟩ | ⟨middle, front, tail⟩ := same
        · cases middle with
          | nil => simpa using tail
          | cons c middle =>
            obtain ⟨-, inside⟩ := List.cons.inj tail
            exact absurd (by simp [inside]) outside
        · cases middle with
          | nil => simpa [eq_comm] using And.intro front tail
          | cons c middle =>
            obtain ⟨-, inside⟩ := List.cons.inj tail
            exact absurd (by simp [inside]) last
      simp [ofDotted, letters, split, ← parts.1, ← parts.2]

/-- The simple name of a plain name has no dot. -/
theorem dot_notMem_of_isPlain {name : QualifiedName} (plain : name.isPlain = true) :
    '.' ∉ name.simple.toList := by
  simp only [isPlain, Bool.and_eq_true] at plain
  exact dot_notMem_of_isIdentifierChars plain.2

/-- The dotted form of a plain name is a dotted list. -/
theorem isDotted_dotted {name : QualifiedName} (plain : name.isPlain = true) :
    Text.isDotted name.dotted = true := by
  have outside := dot_notMem_of_isPlain plain
  simp only [isPlain, Bool.and_eq_true, Bool.or_eq_true, beq_iff_eq] at plain
  obtain ⟨package, simple⟩ := plain
  by_cases bare : name.package = ""
  · simpa [dotted, bare, Text.isDotted, splitChars_of_notMem outside, isIdentifier] using simple
  · have packaged : Text.isDotted name.package = true := package.resolve_left bare
    have letters : name.dotted.toList = name.package.toList ++ '.' :: name.simple.toList := by
      simp [dotted, bare]
    rw [Text.isDotted, letters, splitChars_append, splitChars_of_notMem outside, List.all_append,
      Bool.and_eq_true]
    exact ⟨packaged, by simpa [isIdentifier] using simple⟩

/-- A dotted list splits into a plain name. -/
theorem isPlain_ofDotted {dotted : String} (isList : Text.isDotted dotted = true) :
    (ofDotted dotted).isPlain = true := by
  cases split : splitLastChars '.' dotted.toList with
  | none =>
    have outside : '.' ∉ dotted.toList := splitLastChars_eq_none_iff.1 split
    have identifier : isIdentifier dotted = true := by
      simpa [Text.isDotted, splitChars_of_notMem outside, isIdentifier] using isList
    simp [ofDotted, split, isPlain, identifier]
  | some parts =>
    obtain ⟨before, behind⟩ := parts
    obtain ⟨same, last⟩ := splitLastChars_eq_some split
    rw [Text.isDotted, same, splitChars_append, splitChars_of_notMem last, List.all_append,
      Bool.and_eq_true] at isList
    have simple : isIdentifierChars behind = true := by simpa using isList.2
    simp [ofDotted, split, isPlain, Text.isDotted, isList.1, isIdentifier, simple]

/-- A dotted list splits into a name without a package exactly if it has no dot. -/
theorem package_ofDotted_eq_iff {dotted : String} (isList : Text.isDotted dotted = true) :
    (ofDotted dotted).package = "" ↔ '.' ∉ dotted.toList := by
  cases split : splitLastChars '.' dotted.toList with
  | none => simp [ofDotted, split, splitLastChars_eq_none_iff.1 split]
  | some parts =>
    obtain ⟨before, behind⟩ := parts
    obtain ⟨same, last⟩ := splitLastChars_eq_some split
    rw [Text.isDotted, same, splitChars_append, List.all_append, Bool.and_eq_true] at isList
    have packaged : String.ofList before ≠ "" := by
      apply ne_empty_of_isDotted
      simpa [Text.isDotted] using isList.1
    have occurs : '.' ∈ dotted.toList := by simp [same]
    simp [ofDotted, split, occurs, packaged]

/-- A dotted list is the dotted form of the name it splits into. -/
theorem dotted_ofDotted {dotted : String} (isList : Text.isDotted dotted = true) :
    (ofDotted dotted).dotted = dotted := by
  cases split : splitLastChars '.' dotted.toList with
  | none => simp [ofDotted, split, QualifiedName.dotted]
  | some parts =>
    obtain ⟨before, behind⟩ := parts
    obtain ⟨same, -⟩ := splitLastChars_eq_some split
    have packaged : (ofDotted dotted).package ≠ "" := by
      rw [ne_eq, package_ofDotted_eq_iff isList, Classical.not_not, same]
      simp
    rw [QualifiedName.dotted, if_neg packaged, ← String.toList_inj, same]
    simp [ofDotted, split]

/-- Plain names and dotted lists are the same. -/
theorem eq_ofDotted_iff (name : QualifiedName) (dotted : String) :
    Text.isDotted dotted = true ∧ ofDotted dotted = name ↔
      name.isPlain = true ∧ name.dotted = dotted := by
  constructor
  · rintro ⟨isList, rfl⟩
    exact ⟨isPlain_ofDotted isList, dotted_ofDotted isList⟩
  · rintro ⟨plain, rfl⟩
    exact ⟨isDotted_dotted plain, ofDotted_dotted (dot_notMem_of_isPlain plain)⟩

end QualifiedName

end ViewGlue
