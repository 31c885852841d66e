import Mathlib.Data.List.DropRight
import ViewGlue.Host.Syntax
import ViewGlue.Manifest.Lowering
import ViewGlue.Proofs.DottedNames
import ViewGlue.Proofs.Traversals

/-!
# Texts of annotations

An annotation is read from a name, alone or with arguments between the first opening and the last
closing parenthesis. The texts that are read as one annotation are exactly those that put blanks
around its name and its arguments (`Manifest.annotation_texts_survive`), so its plain text, which
has none, is read as the annotation again.
-/

namespace ViewGlue

namespace Text

/-! ## Trimmed texts -/

/-- Characters that are all blank. -/
abbrev Blanks := { s : List Char // ∀ c ∈ s, isBlank c = true }

namespace Blanks

/-- Nothing, as blanks. -/
def none : Blanks := ⟨[], nofun⟩

/-- Blanks behind blanks. -/
def append (first second : Blanks) : Blanks :=
  ⟨first.1 ++ second.1, by simpa [or_imp, forall_and] using And.intro first.2 second.2⟩

/-- No other character is among blanks. -/
theorem notMem (blanks : Blanks) {c : Char} (other : isBlank c = false) : c ∉ blanks.1 :=
  fun inside => by simp [blanks.2 c inside] at other

end Blanks

/-- No blank stands first or last. -/
def HasBareEnds (s : List Char) : Prop :=
  ∀ c, s.head? = some c ∨ s.getLast? = some c → isBlank c = false

/-- Characters without blanks have none at their ends. -/
theorem hasBareEnds_of_forall {s : List Char} (bare : ∀ c ∈ s, isBlank c = false) :
    HasBareEnds s := by
  rintro c (first | last)
  · exact bare c (List.mem_of_head? first)
  · exact bare c (List.mem_of_getLast? last)

/-- Blanks are dropped up to the first other character. -/
theorem dropWhile_blanks {front core : List Char} (blank : ∀ c ∈ front, isBlank c = true)
    (bare : ∀ c, core.head? = some c → isBlank c = false) :
    (front ++ core).dropWhile isBlank = core := by
  rw [List.dropWhile_append_of_pos blank]
  cases core with
  | nil => rfl
  | cons c rest => rw [List.dropWhile_cons_of_neg (by simp [bare c rfl])]

/-- Blanks around a text with bare ends are trimmed. -/
theorem trimChars_between (front back : Blanks) {core : List Char} (bare : HasBareEnds core) :
    trimChars (front.1 ++ core ++ back.1) = core := by
  cases core with
  | nil =>
    have dropped : (front.1 ++ back.1 ++ []).dropWhile isBlank = [] :=
      dropWhile_blanks (front.append back).2 nofun
    rw [List.append_nil] at dropped
    rw [List.append_nil, trimChars, dropped]
    rfl
  | cons c rest =>
    have first : (front.1 ++ (c :: rest ++ back.1)).dropWhile isBlank = c :: rest ++ back.1 :=
      dropWhile_blanks front.2 fun d head => bare d (.inl (by simpa using head))
    have last : (back.1.reverse ++ (c :: rest).reverse).dropWhile isBlank = (c :: rest).reverse :=
      dropWhile_blanks (fun d inside => back.2 d (List.mem_reverse.1 inside)) fun d head =>
        bare d (.inr (by rwa [List.head?_reverse] at head))
    rw [trimChars, List.append_assoc, first, List.reverse_append, last, List.reverse_reverse]

/-- Behind a trimmed text stand the blanks at the end. -/
theorem trimChars_append (s : List Char) :
    trimChars s ++ (s.dropWhile isBlank).rtakeWhile isBlank = s.dropWhile isBlank :=
  List.rdropWhile_append_rtakeWhile

/-- What is trimmed are blanks. -/
theorem exists_trimChars (s : List Char) :
    ∃ front back : Blanks, s = front.1 ++ trimChars s ++ back.1 := by
  refine ⟨⟨s.takeWhile isBlank, fun c => List.mem_takeWhile_imp⟩,
    ⟨(s.dropWhile isBlank).rtakeWhile isBlank, fun c => List.mem_rtakeWhile_imp⟩, ?_⟩
  rw [List.append_assoc, trimChars_append, List.takeWhile_append_dropWhile]

/-- A trimmed text has bare ends. -/
theorem hasBareEnds_trimChars (s : List Char) : HasBareEnds (trimChars s) := by
  rintro c (first | last)
  · have head : (s.dropWhile isBlank).head? = some c := by
      rw [← trimChars_append, List.head?_append, first, Option.some_or]
    simpa [head] using List.head?_dropWhile_not isBlank s
  · obtain ⟨filled, rfl⟩ := List.mem_getLast?_eq_getLast last
    exact Bool.eq_false_iff.2 (List.rdropWhile_last_not isBlank (s.dropWhile isBlank) filled)

/-- No character of a name is blank. -/
theorem isBlank_of_continuesName {c : Char} (continues : continuesName c = true) :
    isBlank c = false := by
  have each : ∀ code < 128, continuesName (Char.ofNat code) = true →
      isBlank (Char.ofNat code) = false := by
    decide +kernel
  have one := each c.toNat (lt_of_continuesName continues)
  rw [Char.ofNat_toNat] at one
  exact one continues

end Text

namespace QualifiedName

open Text

/-- A plain name has no parenthesis and no blank. -/
theorem bare_of_mem_dotted {name : QualifiedName} (plain : name.isPlain = true) {c : Char}
    (inside : c ∈ name.dotted.toList) : isBlank c = false ∧ c ≠ '(' ∧ c ≠ ')' := by
  obtain rfl | continues := dot_or_continuesName_of_mem (isDotted_dotted plain) inside
  · decide
  · refine ⟨isBlank_of_continuesName continues, ?_, ?_⟩ <;> rintro rfl <;>
      exact absurd continues (by decide)

end QualifiedName

open Text

/-! ## Annotations -/

namespace Annotation

/-- The text of an annotation: its name, and its arguments in parentheses. -/
def text (read : Annotation) : String :=
  match read.arguments with
  | none => read.name.dotted
  | some arguments => read.name.dotted ++ "(" ++ arguments ++ ")"

/-- Blanks at the ends of an annotation's text and around its parentheses. -/
structure Spacing where
  /-- Blanks before the name. -/
  front : Blanks
  /-- Blanks between the name and the first parenthesis. -/
  beforeOpening : Blanks
  /-- Blanks between the first parenthesis and the arguments. -/
  behindOpening : Blanks
  /-- Blanks between the arguments and the last parenthesis. -/
  beforeClosing : Blanks
  /-- Blanks behind the whole annotation. -/
  back : Blanks

/-- The spacing of plain texts, which have no blanks at these places. -/
def Spacing.none : Spacing := ⟨.none, .none, .none, .none, .none⟩

/-- An annotation without the blanks at its ends. -/
def inner (read : Annotation) (spacing : Spacing) : List Char :=
  match read.arguments with
  | .none => read.name.dotted.toList
  | some arguments =>
    read.name.dotted.toList ++ spacing.beforeOpening.1 ++
      '(' :: (spacing.behindOpening.1 ++ arguments.toList ++ spacing.beforeClosing.1) ++ [')']

/-- Without arguments an annotation is its name. -/
theorem inner_of_none {read : Annotation} (bare : read.arguments = .none)
    (spacing : Spacing) : read.inner spacing = read.name.dotted.toList := by
  rw [inner, bare]

/-- Arguments stand in parentheses behind the name. -/
theorem inner_of_some {read : Annotation} {arguments : String}
    (stated : read.arguments = some arguments) (spacing : Spacing) :
    read.inner spacing =
      read.name.dotted.toList ++ spacing.beforeOpening.1 ++
        '(' :: (spacing.behindOpening.1 ++ arguments.toList ++ spacing.beforeClosing.1) ++
          [')'] := by
  rw [inner, stated]

/-- The text of an annotation with blanks in it. -/
def spaced (read : Annotation) (spacing : Spacing) : List Char :=
  spacing.front.1 ++ read.inner spacing ++ spacing.back.1

/-- The name is plain and the arguments have bare ends. -/
structure IsNormal (read : Annotation) : Prop where
  /-- The class is named by identifiers. -/
  name : read.name.isPlain = true
  /-- No blank stands at an end of the arguments. -/
  arguments : ∀ arguments, read.arguments = some arguments → HasBareEnds arguments.toList

/-- Without blanks an annotation is spaced as its text. -/
theorem spaced_none (read : Annotation) : read.spaced .none = read.text.toList := by
  cases stated : read.arguments <;> simp [spaced, inner, text, stated, Spacing.none, Blanks.none]

/-- A name and a closing parenthesis are no blanks. -/
theorem hasBareEnds_inner {read : Annotation} (plain : read.name.isPlain = true)
    (spacing : Spacing) : HasBareEnds (read.inner spacing) := by
  have bare := fun c inside => (QualifiedName.bare_of_mem_dotted plain (c := c) inside).1
  cases stated : read.arguments with
  | none =>
    rw [inner_of_none stated]
    exact hasBareEnds_of_forall bare
  | some arguments =>
    have named : read.name.dotted.toList ≠ [] := by
      simpa using ne_empty_of_isDotted (QualifiedName.isDotted_dotted plain)
    rw [inner_of_some stated]
    rintro c (first | last)
    · have head : read.name.dotted.toList.head? = some c := by
        simpa [List.head?_append, List.head?_eq_some_head named] using first
      exact bare c (List.mem_of_head? head)
    · rw [List.getLast?_concat, Option.some.injEq] at last
      subst last
      decide

/-- Host code writes an annotation behind a sign. -/
theorem text_use (read : Annotation) :
    (Host.AnnotationUse.mk read.name.dotted read.arguments).text =
      "@" ++ read.text := by
  cases stated : read.arguments <;>
    simp [Host.AnnotationUse.text, text, stated, String.append_assoc]

end Annotation

namespace Manifest

open Annotation (hasBareEnds_inner inner_of_none inner_of_some spaced)

/-- A dotted list names an annotation, and nothing else does. -/
theorem named_iff {letters : List Char} {arguments : Option String} {read : Annotation} :
    (if isDotted (String.ofList letters) then
        pure ⟨.ofDotted (String.ofList letters), arguments⟩
      else throw (.invalidName NameKind.annotation (String.ofList letters)) :
        Except Violation Annotation) = .ok read ↔
      read.name.isPlain = true ∧ read.name.dotted.toList = letters ∧
        read.arguments = arguments := by
  obtain ⟨name, stated⟩ := read
  have names := QualifiedName.eq_ofDotted_iff name (String.ofList letters)
  rw [← String.toList_inj, String.toList_ofList] at names
  rw [← and_assoc, ← names]
  split
  · rename_i isList
    simp [pure, Except.pure, isList, eq_comm (a := stated)]
  · rename_i other
    simp [throw, throwThe, MonadExceptOf.throw, other]

/-- A text without an opening parenthesis is read as a name alone. -/
theorem reads_of_none {written : String}
    (split : splitFirstChars '(' (trimChars written.toList) = none) (read : Annotation) :
    readAnnotation written = .ok read ↔ read.name.isPlain = true ∧
      read.name.dotted.toList = trimChars written.toList ∧ read.arguments = none := by
  simp only [split, readAnnotation, pure_bind, ← named_iff]

/-- A text with an opening parenthesis is read as a name with arguments, which a closing
parenthesis ends. -/
theorem reads_of_some {written : String} {before behind : List Char}
    (split : splitFirstChars '(' (trimChars written.toList) = some (before, behind))
    (read : Annotation) :
    readAnnotation written = .ok read ↔ ∃ inside, behind = inside ++ [')'] ∧
      read.name.isPlain = true ∧ read.name.dotted.toList = trimChars before ∧
      read.arguments = some (String.ofList (trimChars inside)) := by
  simp only [split, readAnnotation]
  by_cases closed : behind.getLast? = some ')'
  · obtain ⟨inside, rfl⟩ := List.getLast?_eq_some_iff.1 closed
    simp only [closed, ↓reduceIte, List.dropLast_concat, List.append_cancel_right_eq,
      exists_eq_left', pure_bind, ← named_iff]
  · have other : ∀ inside, behind ≠ inside ++ [')'] := by
      rintro inside rfl
      simp at closed
    simp only [closed, ↓reduceIte, other, false_and, exists_false, iff_false]
    nofun

/-- A text that is read as an annotation is its text with blanks in it, and its name is plain and
its arguments have bare ends. -/
theorem isNormal_of_accepted {written : String} {read : Annotation}
    (accepted : readAnnotation written = .ok read) :
    read.IsNormal ∧ ∃ spacing, written.toList = read.spaced spacing := by
  obtain ⟨front, back, trimmed⟩ := exists_trimChars written.toList
  cases split : splitFirstChars '(' (trimChars written.toList) with
  | none =>
    obtain ⟨plain, name, bare⟩ := (reads_of_none split read).1 accepted
    refine ⟨⟨plain, by simp [bare]⟩, ⟨front, .none, .none, .none, back⟩, ?_⟩
    rw [spaced, inner_of_none bare, name]
    exact trimmed
  | some parts =>
    obtain ⟨before, behind⟩ := parts
    obtain ⟨inside, rfl, plain, name, stated⟩ := (reads_of_some split read).1 accepted
    obtain ⟨ahead, beforeOpening, named⟩ := exists_trimChars before
    obtain ⟨behindOpening, beforeClosing, given⟩ := exists_trimChars inside
    have bare := hasBareEnds_trimChars inside
    rw [← name] at named
    generalize trimChars inside = arguments at given stated bare
    refine ⟨⟨plain, ?_⟩,
      ⟨front.append ahead, beforeOpening, behindOpening, beforeClosing, back⟩, ?_⟩
    · rintro _ same
      obtain rfl := Option.some.inj (stated.symm.trans same)
      rwa [String.toList_ofList]
    · rw [trimmed, (splitFirstChars_eq_some split).1, spaced,
        inner_of_some stated, named, given]
      simp [Blanks.append]

/-- With blanks in its text an annotation is read again, if its name is plain and its arguments have
bare ends. -/
theorem readAnnotation_spaced {written : String} {read : Annotation} (normal : read.IsNormal)
    {spacing : Annotation.Spacing} (same : written.toList = read.spaced spacing) :
    readAnnotation written = .ok read := by
  obtain ⟨plain, bare⟩ := normal
  have trimmed : trimChars written.toList = read.inner spacing := by
    rw [same]
    exact trimChars_between _ _ (hasBareEnds_inner plain spacing)
  have outside : '(' ∉ read.name.dotted.toList := fun inside =>
    (QualifiedName.bare_of_mem_dotted plain inside).2.1 rfl
  cases stated : read.arguments with
  | none =>
    rw [inner_of_none stated] at trimmed
    refine (reads_of_none ?_ read).2 ⟨plain, trimmed.symm, stated⟩
    rw [trimmed]
    exact splitFirstChars_of_notMem outside
  | some arguments =>
    rw [inner_of_some stated, List.append_assoc, List.cons_append] at trimmed
    have before : '(' ∉ read.name.dotted.toList ++ spacing.beforeOpening.1 := by
      simpa [outside] using spacing.beforeOpening.notMem (by decide)
    have split := splitFirstChars_append before
      (spacing.behindOpening.1 ++ arguments.toList ++ spacing.beforeClosing.1 ++ [')'])
    rw [← trimmed] at split
    refine (reads_of_some split read).2 ⟨_, rfl, plain, ?_, ?_⟩
    · exact (trimChars_between .none spacing.beforeOpening (hasBareEnds_of_forall fun c inside =>
        (QualifiedName.bare_of_mem_dotted plain inside).1)).symm
    · rw [trimChars_between _ _ (bare arguments stated), String.ofList_toList, stated]

/-- The texts that are read as an annotation are its text with blanks in it, if its name is plain
and its arguments have bare ends; otherwise there are none. -/
theorem readAnnotation_eq_ok_iff {written : String} {read : Annotation} :
    readAnnotation written = .ok read ↔
      read.IsNormal ∧ ∃ spacing, written.toList = read.spaced spacing :=
  ⟨isNormal_of_accepted, fun ⟨normal, _, same⟩ => readAnnotation_spaced normal same⟩

/-- The place of a text does not matter for the annotation it states. -/
theorem annotation_eq_ok_iff {written : Quoted} {read : Annotation} :
    annotation written = .ok read ↔
      read.IsNormal ∧ ∃ spacing, written.value.toList = read.spaced spacing := by
  rw [← readAnnotation_eq_ok_iff, annotation]
  cases readAnnotation written.value <;> simp

/-- An annotation that was accepted is read again from its text: its name, which has no parenthesis,
and its arguments, which have no blanks at their ends, in parentheses. Host code writes it so behind
a sign. The texts that are read as the annotation are exactly those that differ from its text by
blanks at their ends, before the first opening parenthesis, behind it, and before the last closing
one. -/
theorem annotation_texts_survive {written : Quoted} {read : Annotation}
    (accepted : annotation written = .ok read) :
    (∀ printed : Quoted, printed.value = read.text → annotation printed = .ok read) ∧
    (Host.AnnotationUse.mk read.name.dotted read.arguments).text = "@" ++ read.text ∧
    (∀ c ∈ read.name.dotted.toList, c ≠ '(' ∧ c ≠ ')') ∧
    (∀ arguments, read.arguments = some arguments → HasBareEnds arguments.toList) ∧
    ∀ other : Quoted, annotation other = .ok read ↔
      ∃ spacing, other.value.toList = read.spaced spacing := by
  obtain ⟨normal, -⟩ := annotation_eq_ok_iff.1 accepted
  have spacings (other : Quoted) : annotation other = .ok read ↔
      ∃ spacing, other.value.toList = read.spaced spacing := by
    exact annotation_eq_ok_iff.trans (and_iff_right normal)
  refine ⟨fun printed same => ?_, read.text_use, fun c inside => ?_, normal.arguments, spacings⟩
  · rw [spacings, same]
    exact ⟨.none, read.spaced_none.symm⟩
  · exact (QualifiedName.bare_of_mem_dotted normal.name inside).2

/-- A written annotation with blanks of several kinds at all places and with parentheses in its
arguments that are not balanced. -/
def spacedSuppression : Quoted where
  value := "\u2003kotlin.Suppress\t( \"((\" , ) )\n"
  start := 0
  length := 38

/-- The annotation is accepted without the blanks, and so is its text. -/
theorem text_of_spacedSuppression_survives :
    annotation spacedSuppression = .ok ⟨⟨"kotlin", "Suppress"⟩, some "\"((\" , )"⟩ ∧
    annotation ⟨"kotlin.Suppress(\"((\" , ))", 0, 27⟩ =
      .ok ⟨⟨"kotlin", "Suppress"⟩, some "\"((\" , )"⟩ := by
  have accepted : annotation spacedSuppression =
      .ok ⟨⟨"kotlin", "Suppress"⟩, some "\"((\" , )"⟩ := by
    decide
  obtain ⟨again, -⟩ := annotation_texts_survive accepted
  exact ⟨accepted, again _ (by decide)⟩

end Manifest

end ViewGlue
