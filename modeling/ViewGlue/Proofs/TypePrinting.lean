import ViewGlue.Proofs.DottedNames
import ViewGlue.Proofs.TypeParsing

/-!
# Printing and reading types

The written form of a well-formed type spells a sentence that denotes the type, so it is read as
the type itself; and what is read from any text is well formed, so it survives being written and
read again. The sentence of a type (`sentence`) stands between the two: it is derived by induction
on the type, and the characters that are written for it spell it (`Writes`).
-/

namespace ViewGlue.TypeExpr

open Text

variable {typeParameters : List String}

/-! ## Well-formed types -/

/-- The name of a class is plain, and without a package it is neither the dynamic type nor a type
parameter. -/
def isClassName (typeParameters : List String) (name : QualifiedName) : Bool :=
  name.isPlain &&
    (name.package != "" || (name.simple != "dynamic" && !typeParameters.contains name.simple))

/-- The name of a variable is an identifier and a type parameter other than the dynamic type. -/
def isVariableName (typeParameters : List String) (name : String) : Bool :=
  isIdentifier name && name != "dynamic" && typeParameters.contains name

mutual

/-- Whether the names in a type are of the right kind, at every depth. -/
def wellFormed (typeParameters : List String) : TypeExpr → Bool
  | .named name arguments _ =>
    isClassName typeParameters name && argumentListWellFormed typeParameters arguments
  | .function parameters result _ =>
    listWellFormed typeParameters parameters && wellFormed typeParameters result
  | .variable name _ => isVariableName typeParameters name
  | .dynamic => true

/-- Whether the names in types are of the right kind. -/
def listWellFormed (typeParameters : List String) : List TypeExpr → Bool
  | [] => true
  | type :: types => wellFormed typeParameters type && listWellFormed typeParameters types

/-- Whether the names in an argument are of the right kind. -/
def argumentWellFormed (typeParameters : List String) : TypeArgument → Bool
  | .type _ type => wellFormed typeParameters type
  | .star => true

/-- Whether the names in arguments are of the right kind. -/
def argumentListWellFormed (typeParameters : List String) : List TypeArgument → Bool
  | [] => true
  | argument :: arguments =>
    argumentWellFormed typeParameters argument && argumentListWellFormed typeParameters arguments

end

/-! ## The sentence of a type -/

/-- The lexemes of a dotted name. -/
def nameLexemes (dotted : String) : List Lexeme :=
  match splitAt (· == '.') dotted with
  | [] => []
  | word :: words => .word word :: furtherParts words

/-- Lists of lexemes with commas between them. -/
def commas : List (List Lexeme) → List Lexeme
  | [] => []
  | [part] => part
  | part :: next :: parts => part ++ .comma :: commas (next :: parts)

/-- The lexemes of arguments in angle brackets; without any there are no brackets. -/
def brackets : List (List Lexeme) → List Lexeme
  | [] => []
  | part :: parts => .less :: (commas (part :: parts) ++ [.greater])

/-- The lexemes of a function, with an outer pair of parentheses before its question mark. -/
def arrowLexemes (parameters : List (List Lexeme)) (result : List Lexeme) (nullable : Bool) :
    List Lexeme :=
  let signature := .leftParen :: (commas parameters ++ .rightParen :: .arrow :: result)
  if nullable then .leftParen :: (signature ++ [.rightParen, .question]) else signature

mutual

/-- The lexemes that are written for a type. -/
def sentence : TypeExpr → List Lexeme
  | .named name arguments nullable =>
    nameLexemes name.dotted ++ brackets (argumentSentences arguments) ++ question nullable
  | .function parameters result nullable =>
    arrowLexemes (sentences parameters) result.sentence nullable
  | .variable name nullable => .word name :: question nullable
  | .dynamic => [.word "dynamic"]

/-- The lexemes that are written for types. -/
def sentences : List TypeExpr → List (List Lexeme)
  | [] => []
  | type :: types => type.sentence :: sentences types

/-- The lexemes that are written for an argument. -/
def argumentSentence : TypeArgument → List Lexeme
  | .type variance type => marker variance ++ type.sentence
  | .star => [.star]

/-- The lexemes that are written for arguments. -/
def argumentSentences : List TypeArgument → List (List Lexeme)
  | [] => []
  | argument :: arguments => argumentSentence argument :: argumentSentences arguments

end

/-- The words of a class name are identifiers, together they are its dotted form, and one word
alone may name a class. -/
theorem words_of_isClassName {name : QualifiedName}
    (isName : isClassName typeParameters name = true) :
    ∃ word words, splitAt (· == '.') name.dotted = word :: words ∧
      className word words = name ∧ NamesClass typeParameters word words := by
  simp only [isClassName, Bool.and_eq_true] at isName
  obtain ⟨plain, allowed⟩ := isName
  have outside := QualifiedName.dot_notMem_of_isPlain plain
  cases parts : splitChars (· == '.') name.dotted.toList with
  | nil => exact absurd parts (splitChars_ne_nil _ _)
  | cons part others =>
    refine ⟨String.ofList part, others.map String.ofList, by simp [splitAt, parts], ?_, ?_⟩
    · have joined : joinWith "." (String.ofList part :: others.map String.ofList) =
          name.dotted := by
        simpa [splitAt, parts] using joinWith_splitAt '.' name.dotted
      rw [className, joined, QualifiedName.ofDotted_dotted outside]
    · intro alone
      obtain rfl : others = [] := by simpa using alone
      have whole : name.dotted.toList = part := by
        simpa [parts, joinChars] using (joinChars_splitChars '.' name.dotted.toList).symm
      have isList := QualifiedName.isDotted_dotted plain
      have identifier : isIdentifierChars part = true := by simpa [isDotted, parts] using isList
      have bare : name.package = "" := by
        rw [← QualifiedName.ofDotted_dotted outside,
          QualifiedName.package_ofDotted_eq_iff isList, whole]
        exact dot_notMem_of_isIdentifierChars identifier
      have same : String.ofList part = name.simple := by
        rw [← whole, String.ofList_toList]
        simp [QualifiedName.dotted, bare]
      rw [same]
      simpa [bare] using allowed

mutual

/-- The sentence of a well-formed type denotes the type. -/
theorem isType_sentence : ∀ {type : TypeExpr}, wellFormed typeParameters type = true →
    IsType typeParameters type.sentence type
  | .named name arguments nullable, formed => by
    simp only [wellFormed, Bool.and_eq_true] at formed
    obtain ⟨word, words, parts, rfl, isClass⟩ := words_of_isClassName formed.1
    have letters : nameLexemes (className word words).dotted =
        .word word :: furtherParts words := by
      simp [nameLexemes, parts]
    cases arguments with
    | nil =>
      simpa [sentence, letters, argumentSentences, brackets] using IsType.plain isClass
    | cons argument others =>
      have each := isArguments_sentences (List.cons_ne_nil argument others) formed.2
      simpa [sentence, letters, argumentSentences, brackets] using IsType.applied isClass each
  | .function parameters result nullable, formed => by
    simp only [wellFormed, Bool.and_eq_true] at formed
    have each : IsParameters typeParameters (commas (sentences parameters)) parameters := by
      cases parameters with
      | nil => exact .none
      | cons first others =>
        exact .some (isTypes_sentences (List.cons_ne_nil first others) formed.1)
    have whole := IsType.function each (isType_sentence formed.2)
    cases nullable with
    | false => simpa [sentence, arrowLexemes] using whole
    | true =>
      simpa [sentence, arrowLexemes, question, withNullable] using
        @IsType.grouped _ _ _ true whole
  | .variable name nullable, formed => by
    simp only [wellFormed, isVariableName, Bool.and_eq_true, bne_iff_ne, List.contains_iff_mem]
      at formed
    exact .typeParameter formed.1.2 formed.2
  | .dynamic, _ => .dynamic

/-- The sentences of well-formed types with commas between them denote the types. -/
theorem isTypes_sentences : ∀ {types : List TypeExpr}, types ≠ [] →
    listWellFormed typeParameters types = true →
    IsTypes typeParameters (commas (sentences types)) types
  | [], occupied, _ => absurd rfl occupied
  | [type], _, formed => by
    simp only [listWellFormed, Bool.and_true] at formed
    exact .one (isType_sentence formed)
  | type :: next :: types, _, formed => by
    rw [listWellFormed, Bool.and_eq_true] at formed
    exact .more (isType_sentence formed.1)
      (isTypes_sentences (List.cons_ne_nil next types) formed.2)

/-- The sentence of a well-formed argument denotes the argument. -/
theorem isArgument_sentence : ∀ {argument : TypeArgument},
    argumentWellFormed typeParameters argument = true →
    IsArgument typeParameters (argumentSentence argument) argument
  | .type _ _, formed => .type (isType_sentence formed)
  | .star, _ => .star

/-- The sentences of well-formed arguments with commas between them denote the arguments. -/
theorem isArguments_sentences : ∀ {arguments : List TypeArgument}, arguments ≠ [] →
    argumentListWellFormed typeParameters arguments = true →
    IsArguments typeParameters (commas (argumentSentences arguments)) arguments
  | [], occupied, _ => absurd rfl occupied
  | [argument], _, formed => by
    simp only [argumentListWellFormed, Bool.and_true] at formed
    exact .one (isArgument_sentence formed)
  | argument :: next :: arguments, _, formed => by
    rw [argumentListWellFormed, Bool.and_eq_true] at formed
    exact .more (isArgument_sentence formed.1)
      (isArguments_sentences (List.cons_ne_nil next arguments) formed.2)

end

/-! ## Spelling of the sentence

What is written for lexemes spells them wherever no longer word could stand instead. -/

/-- The characters continue no word that stands before them. -/
def Stops (s : List Char) : Prop :=
  ∀ c ∈ s.head?, continuesName c = false

/-- The characters are written for the lexemes: they spell them in front of what stops a word, have
no blank before a dot, and do not start with a dot. -/
structure Writes (sentence : List Lexeme) (s : List Char) : Prop where
  /-- They can be followed by whatever ends a word. -/
  spells {behind : List Lexeme} {rest : List Char} (stops : Stops rest)
    (spelled : Spells behind rest) : Spells (sentence ++ behind) (s ++ rest)
  /-- No blank in them stands before a dot. -/
  unspaced (rest : List Char) : dotsUnspaced (s ++ rest) = dotsUnspaced rest
  /-- They do not continue a dotted name before them. -/
  leads : ∃ c others, s = c :: others ∧ c ≠ '.'

/-- The lexemes that are marks of their own, the dot apart. -/
def Lexeme.freeMarks : List Lexeme :=
  [.leftParen, .rightParen, .less, .greater, .comma, .question, .star, .arrow]

/-- A free mark is complete before any characters and has no blank, no dot and no character of a
word in it. -/
theorem Lexeme.facts_of_mem_freeMarks {mark : Lexeme} (inside : mark ∈ Lexeme.freeMarks) :
    (∀ s, mark.EndsBefore s) ∧ (∀ c ∈ mark.chars, isPlainBlank c = false) ∧
      ∃ c others, mark.chars = c :: others ∧ c ≠ '.' ∧ continuesName c = false := by
  simp only [freeMarks, List.mem_cons, List.not_mem_nil, or_false] at inside
  rcases inside with rfl | rfl | rfl | rfl | rfl | rfl | rfl | rfl <;>
    exact ⟨fun s => trivial, by simp [chars, isPlainBlank], _, _, rfl, by decide, by decide⟩

/-- A free mark stops a word. -/
theorem stops_mark (mark : Lexeme) (inside : mark ∈ Lexeme.freeMarks) (rest : List Char) :
    Stops (mark.chars ++ rest) := by
  obtain ⟨-, -, c, others, letters, -, stops⟩ := Lexeme.facts_of_mem_freeMarks inside
  rw [letters]
  rintro d first
  obtain rfl : c = d := by simpa using first
  exact stops

/-- A free mark is written as its characters. -/
theorem writes_mark (mark : Lexeme) (inside : mark ∈ Lexeme.freeMarks) :
    Writes [mark] mark.chars := by
  obtain ⟨complete, solid, c, others, letters, noDot, -⟩ := Lexeme.facts_of_mem_freeMarks inside
  exact ⟨fun stops spelled => .lexeme (complete _) spelled, dotsUnspaced_append solid,
    c, others, letters, noDot⟩

/-- An identifier is written as its characters. -/
theorem writes_word {word : String} (identifier : isIdentifier word = true) :
    Writes [.word word] word.toList := by
  refine ⟨fun stops spelled => .lexeme ⟨identifier, stops⟩ spelled, ?_, ?_⟩
  · apply dotsUnspaced_append
    intro c inside
    apply isPlainBlank_of_continuesName
    exact continuesName_of_mem identifier inside
  · cases letters : word.toList with
    | nil => simp [isIdentifier, letters, isIdentifierChars] at identifier
    | cons c others =>
      refine ⟨c, others, rfl, ?_⟩
      rintro rfl
      exact dot_notMem_of_isIdentifierChars identifier (by simp [letters])

variable {front behind : List Lexeme} {s t : List Char}

/-- What is written for lexemes may be followed by what stops a word. -/
theorem Writes.append (first : Writes front s) (second : Writes behind t) (stops : Stops t) :
    Writes (front ++ behind) (s ++ t) := by
  obtain ⟨c, others, rfl, noDot⟩ := first.leads
  refine ⟨fun {later rest} ends spelled => ?_, fun rest => ?_, c, others ++ t, rfl, noDot⟩
  · rw [List.append_assoc, List.append_assoc]
    refine first.spells ?_ (second.spells ends spelled)
    obtain ⟨d, others, rfl, -⟩ := second.leads
    exact stops
  · rw [List.append_assoc, first.unspaced, second.unspaced]

/-- What is written for lexemes may stand behind a free mark. -/
theorem Writes.behindMark (inner : Writes behind t) (mark : Lexeme)
    (inside : mark ∈ Lexeme.freeMarks) : Writes (mark :: behind) (mark.chars ++ t) := by
  obtain ⟨complete, solid, c, others, letters, noDot, -⟩ := Lexeme.facts_of_mem_freeMarks inside
  refine ⟨fun ends spelled => ?_, fun rest => ?_, c, others ++ t, by rw [letters]; rfl, noDot⟩
  · rw [List.append_assoc]
    exact .lexeme (complete _) (inner.spells ends spelled)
  · rw [List.append_assoc, dotsUnspaced_append solid, inner.unspaced]

/-- What is written for lexemes may stand behind a blank. -/
theorem Writes.behindBlank (inner : Writes behind t) : Writes behind (' ' :: t) := by
  refine ⟨fun ends spelled => .blank (by decide) (inner.spells ends spelled), fun rest => ?_,
    ' ', t, rfl, by decide⟩
  obtain ⟨c, others, rfl, noDot⟩ := inner.leads
  have tight : dotsUnspaced (' ' :: (c :: others ++ rest)) =
      dotsUnspaced (c :: others ++ rest) := by
    simp [dotsUnspaced, noDot]
  rw [← inner.unspaced rest]
  exact tight

/-- A free mark may be written behind lexemes. -/
theorem Writes.beforeMark (inner : Writes front s) (mark : Lexeme)
    (inside : mark ∈ Lexeme.freeMarks) : Writes (front ++ [mark]) (s ++ mark.chars) := by
  have stops := stops_mark mark inside []
  rw [List.append_nil] at stops
  exact inner.append (writes_mark mark inside) stops

/-- A dotted name is written as its words with dots between them. -/
theorem writes_words {part : List Char} {parts : List (List Char)}
    (identifiers : ∀ each ∈ part :: parts, isIdentifierChars each = true) :
    Writes (.word (String.ofList part) :: furtherParts (parts.map String.ofList))
      (joinChars '.' (part :: parts)) := by
  have word {part : List Char} (identifier : isIdentifierChars part = true) :
      Writes [.word (String.ofList part)] part := by
    have named : isIdentifier (String.ofList part) = true := by
      simpa [isIdentifier] using identifier
    simpa using writes_word named
  induction parts generalizing part with
  | nil => exact word (identifiers part List.mem_cons_self)
  | cons next parts ih =>
    have first := word (identifiers part List.mem_cons_self)
    have others := ih fun each inside => identifiers each (List.mem_cons_of_mem part inside)
    obtain ⟨c, letters, same, noDot⟩ := first.leads
    refine ⟨fun {later rest} ends spelled => ?_, fun rest => ?_, c, _, by rw [joinChars, same]; rfl,
      noDot⟩
    · have dotted : Spells (.dot :: _) ('.' :: _) :=
        @Spells.lexeme .dot _ _ trivial (others.spells ends spelled)
      simpa [joinChars, furtherParts] using first.spells (by simp [Stops]; decide) dotted
    · rw [joinChars, List.append_assoc, first.unspaced, List.cons_append,
        dotsUnspaced_cons (by decide), others.unspaced]

/-- A plain name is written as its dotted form. -/
theorem writes_dotted {name : QualifiedName} (plain : name.isPlain = true) :
    Writes (nameLexemes name.dotted) name.dotted.toList := by
  have isList := QualifiedName.isDotted_dotted plain
  have whole := joinChars_splitChars '.' name.dotted.toList
  cases parts : splitChars (· == '.') name.dotted.toList with
  | nil => exact absurd parts (splitChars_ne_nil _ _)
  | cons part others =>
    rw [parts] at whole
    rw [isDotted, parts, List.all_eq_true] at isList
    simpa [nameLexemes, splitAt, parts, whole] using writes_words isList

/-- A question mark is written behind a type that may be absent. -/
theorem Writes.question (inner : Writes front s) (nullable : Bool) :
    Writes (front ++ question nullable) (s ++ (mark nullable).toList) := by
  cases nullable with
  | false => simpa [TypeExpr.question, mark] using inner
  | true => exact inner.beforeMark .question (by decide)

/-- A comma and a blank are written between two types or arguments. -/
theorem Writes.comma (first : Writes front s) (second : Writes behind t) :
    Writes (front ++ .comma :: behind) (s ++ ',' :: ' ' :: t) :=
  first.append (second.behindBlank.behindMark .comma (by decide))
    (stops_mark .comma (by decide) (' ' :: t))

/-- Arguments are written between angle brackets behind a name. -/
theorem Writes.applied (name : Writes front s) (each : Writes behind t) :
    Writes (front ++ .less :: (behind ++ [.greater])) (s ++ '<' :: (t ++ ['>'])) :=
  have closed := each.beforeMark .greater (by decide)
  name.append (closed.behindMark .less (by decide)) (stops_mark .less (by decide) (t ++ ['>']))

/-- A type is written between parentheses. -/
theorem Writes.grouped (inner : Writes front s) :
    Writes (.leftParen :: (front ++ [.rightParen])) ('(' :: (s ++ [')'])) :=
  (inner.beforeMark .rightParen (by decide)).behindMark .leftParen (by decide)

/-- An arrow between blanks is written in front of the result of a function. -/
theorem Writes.returning (parameters : Writes front s) (result : Writes behind t) :
    Writes (front ++ .arrow :: behind) (s ++ ' ' :: '-' :: '>' :: ' ' :: t) :=
  parameters.append (result.behindBlank.behindMark .arrow (by decide)).behindBlank
    (by simp [Stops]; decide)

/-- The sentence of a function is written as its text if its parts are. -/
theorem writes_arrow {parameters : List (List Lexeme)} {parameterTexts : List String}
    {result : List Lexeme} {resultText : String} {nullable : Bool}
    (each : parameters = [] ∧ parameterTexts = [] ∨
      Writes (commas parameters) (joinWith ", " parameterTexts).toList)
    (last : Writes result resultText.toList) :
    Writes (arrowLexemes parameters result nullable)
      (arrow parameterTexts resultText nullable).toList := by
  have enclosed : Writes (.leftParen :: (commas parameters ++ [.rightParen]))
      ('(' :: ((joinWith ", " parameterTexts).toList ++ [')'])) := by
    obtain ⟨rfl, rfl⟩ | some := each
    · exact (writes_mark .rightParen (by decide)).behindMark .leftParen (by decide)
    · exact some.grouped
  have signature := enclosed.returning last
  cases nullable with
  | false => simpa [arrowLexemes, arrow] using signature
  | true =>
    simpa [arrowLexemes, arrow, TypeExpr.question, mark] using signature.grouped.question true

mutual

/-- The sentence of a well-formed type is written as its text. -/
theorem writes_text : ∀ {type : TypeExpr}, wellFormed typeParameters type = true →
    Writes type.sentence type.text.toList
  | .named name arguments nullable, formed => by
    simp only [wellFormed, isClassName, Bool.and_eq_true] at formed
    have named := writes_dotted formed.1.1
    cases arguments with
    | nil =>
      simpa [sentence, argumentSentences, brackets, text, textWith, argumentTexts, bracketed]
        using named.question nullable
    | cons argument others =>
      have each := writes_argumentTexts (List.cons_ne_nil argument others) formed.2
      simpa [sentence, argumentSentences, brackets, text, textWith, argumentTexts, bracketed]
        using (named.applied each).question nullable
  | .function parameters result nullable, formed => by
    simp only [wellFormed, Bool.and_eq_true] at formed
    refine writes_arrow ?_ (writes_text formed.2)
    cases parameters with
    | nil => exact .inl ⟨rfl, rfl⟩
    | cons first others =>
      exact .inr (writes_texts (List.cons_ne_nil first others) formed.1)
  | .variable name nullable, formed => by
    simp only [wellFormed, isVariableName, Bool.and_eq_true] at formed
    simpa [sentence, text, textWith] using (writes_word formed.1.1).question nullable
  | .dynamic, _ => writes_word (by decide)

/-- The sentences of well-formed types are written as their texts with commas between them. -/
theorem writes_texts : ∀ {types : List TypeExpr}, types ≠ [] →
    listWellFormed typeParameters types = true →
    Writes (commas (sentences types)) (joinWith ", " (texts QualifiedName.dotted types)).toList
  | [], occupied, _ => absurd rfl occupied
  | [type], _, formed => by
    simp only [listWellFormed, Bool.and_true] at formed
    exact writes_text formed
  | type :: next :: types, _, formed => by
    rw [listWellFormed, Bool.and_eq_true] at formed
    have others := writes_texts (List.cons_ne_nil next types) formed.2
    simpa [sentences, commas, texts, joinWith, text] using (writes_text formed.1).comma others

/-- The sentence of a well-formed argument is written as its text. -/
theorem writes_argumentText : ∀ {argument : TypeArgument},
    argumentWellFormed typeParameters argument = true →
    Writes (argumentSentence argument) (argumentText QualifiedName.dotted argument).toList
  | .type variance type, formed => by
    have inner : Writes type.sentence type.text.toList := writes_text formed
    have marked {word : String} (identifier : isIdentifier word = true) :
        Writes (.word word :: type.sentence) (word.toList ++ ' ' :: type.text.toList) :=
      (writes_word identifier).append inner.behindBlank (by simp [Stops]; decide)
    cases variance with
    | invariant => simpa [argumentSentence, marker, argumentText, Variance.marker, text] using inner
    | covariant =>
      have named : isIdentifier "out" = true := by decide
      simpa [argumentSentence, marker, argumentText, Variance.marker, text] using marked named
    | contravariant =>
      have named : isIdentifier "in" = true := by decide
      simpa [argumentSentence, marker, argumentText, Variance.marker, text] using marked named
  | .star, _ => writes_mark .star (by decide)

/-- The sentences of well-formed arguments are written as their texts with commas between them. -/
theorem writes_argumentTexts : ∀ {arguments : List TypeArgument}, arguments ≠ [] →
    argumentListWellFormed typeParameters arguments = true →
    Writes (commas (argumentSentences arguments))
      (joinWith ", " (argumentTexts QualifiedName.dotted arguments)).toList
  | [], occupied, _ => absurd rfl occupied
  | [argument], _, formed => by
    simp only [argumentListWellFormed, Bool.and_true] at formed
    exact writes_argumentText formed
  | argument :: next :: arguments, _, formed => by
    rw [argumentListWellFormed, Bool.and_eq_true] at formed
    have others := writes_argumentTexts (List.cons_ne_nil next arguments) formed.2
    simpa [argumentSentences, commas, argumentTexts, joinWith] using
      (writes_argumentText formed.1).comma others

end

/-- The text of a well-formed type spells the sentence of the type. -/
theorem lexemes_text {type : TypeExpr} (formed : wellFormed typeParameters type = true) :
    lexemes type.text = type.sentence ∧ dotsUnspaced type.text.toList = true := by
  have written := writes_text formed
  constructor
  · rw [← spells_iff]
    have ends : Stops [] := by simp [Stops]
    simpa using written.spells ends .nothing
  · simpa [dotsUnspaced] using written.unspaced []

/-! ## What is read is well formed -/

/-- The words that are spelled are identifiers. -/
theorem Spells.isIdentifier_of_mem {lexemes : List Lexeme} {s : List Char}
    (spells : Spells lexemes s) {word : String} (inside : .word word ∈ lexemes) :
    isIdentifier word = true := by
  induction spells with
  | nothing => simp at inside
  | blank plain behind ih => exact ih inside
  | lexeme complete behind ih =>
    rcases List.mem_cons.1 inside with rfl | later
    · exact complete.1
    · exact ih later

/-- The words behind the first of a dotted name stand among its lexemes. -/
theorem mem_furtherParts {word : String} {words : List String} (inside : word ∈ words) :
    .word word ∈ furtherParts words := by
  induction words with
  | nil => simp at inside
  | cons next words ih =>
    rcases List.mem_cons.1 inside with rfl | later
    · simp [furtherParts]
    · simp [furtherParts, ih later]

/-- The words of a dotted name stand among the lexemes that start with it. -/
theorem mem_name {each word : String} {words : List String} (inside : each ∈ word :: words)
    (behind : List Lexeme) : .word each ∈ Lexeme.word word :: (furtherParts words ++ behind) := by
  rw [List.mem_cons] at inside
  cases inside with
  | inl same =>
    rw [same]
    exact List.mem_cons_self
  | inr later =>
    have further : .word each ∈ furtherParts words := mem_furtherParts later
    exact List.mem_cons_of_mem _ (List.mem_append_left behind further)

/-- Identifiers that may name a class name one. -/
theorem isClassName_className {word : String} {words : List String}
    (isClass : NamesClass typeParameters word words)
    (identifiers : ∀ each ∈ word :: words, isIdentifier each = true) :
    isClassName typeParameters (className word words) = true := by
  have isList := isDotted_joinWith identifiers
  have plain := QualifiedName.isPlain_ofDotted isList
  cases words with
  | nil =>
    have outside : '.' ∉ word.toList :=
      dot_notMem_of_isIdentifierChars (identifiers word List.mem_cons_self)
    have alone : className word [] = ⟨"", word⟩ := by
      simp [className, joinWith, QualifiedName.ofDotted, splitLastChars_eq_none_iff.2 outside]
    obtain ⟨other, undeclared⟩ := isClass rfl
    rw [← className, alone] at plain
    simp [isClassName, alone, plain, other, undeclared]
  | cons next words =>
    have packaged : (className word (next :: words)).package ≠ "" := by
      rw [className, Ne, QualifiedName.package_ofDotted_eq_iff isList]
      simp [joinWith]
    rw [← className] at plain
    simp [isClassName, plain, packaged]

/-- Whether a type may be absent does not matter for its names. -/
theorem wellFormed_withNullable (value : Bool) (type : TypeExpr) :
    wellFormed typeParameters (type.withNullable value) = wellFormed typeParameters type := by
  cases type <;> simp [withNullable, wellFormed]

mutual

/-- A sentence of identifiers denotes a well-formed type. -/
theorem wellFormed_of_isType {lexemes : List Lexeme} {type : TypeExpr} :
    IsType typeParameters lexemes type →
    (∀ word, .word word ∈ lexemes → isIdentifier word = true) →
    wellFormed typeParameters type = true
  | .dynamic, _ => rfl
  | .typeParameter other declared, identifiers => by
    simp [wellFormed, isVariableName, other, declared, identifiers _ List.mem_cons_self]
  | .plain isClass, identifiers => by
    have named := isClassName_className isClass fun each inside =>
      identifiers each (mem_name inside _)
    simp [wellFormed, argumentListWellFormed, named]
  | .applied isClass each, identifiers => by
    have named := isClassName_className isClass fun each inside =>
      identifiers each (mem_name inside _)
    have formed := argumentListWellFormed_of_isArguments each fun word inside =>
      identifiers word (by simp [inside])
    simp [wellFormed, named, formed]
  | .function each last, identifiers => by
    have parameters := listWellFormed_of_isParameters each fun word inside =>
      identifiers word (by simp [inside])
    have result := wellFormed_of_isType last fun word inside => identifiers word (by simp [inside])
    simp [wellFormed, parameters, result]
  | .grouped inner, identifiers => by
    have formed := wellFormed_of_isType inner fun word inside => identifiers word (by simp [inside])
    split
    · rw [wellFormed_withNullable, formed]
    · exact formed

/-- Parameters in identifiers denote well-formed types. -/
theorem listWellFormed_of_isParameters {lexemes : List Lexeme} {types : List TypeExpr} :
    IsParameters typeParameters lexemes types →
    (∀ word, .word word ∈ lexemes → isIdentifier word = true) →
    listWellFormed typeParameters types = true
  | .none, _ => rfl
  | .some each, identifiers => listWellFormed_of_isTypes each identifiers

/-- Types in identifiers are well formed. -/
theorem listWellFormed_of_isTypes {lexemes : List Lexeme} {types : List TypeExpr} :
    IsTypes typeParameters lexemes types →
    (∀ word, .word word ∈ lexemes → isIdentifier word = true) →
    listWellFormed typeParameters types = true
  | .one only, identifiers => by
    simp [listWellFormed, wellFormed_of_isType only identifiers]
  | .more first others, identifiers => by
    have one := wellFormed_of_isType first fun word inside => identifiers word (by simp [inside])
    have rest := listWellFormed_of_isTypes others fun word inside =>
      identifiers word (by simp [inside])
    simp [listWellFormed, one, rest]

/-- An argument in identifiers is well formed. -/
theorem argumentWellFormed_of_isArgument {lexemes : List Lexeme} {argument : TypeArgument} :
    IsArgument typeParameters lexemes argument →
    (∀ word, .word word ∈ lexemes → isIdentifier word = true) →
    argumentWellFormed typeParameters argument = true
  | .star, _ => rfl
  | .type inner, identifiers =>
    wellFormed_of_isType inner fun word inside => identifiers word (by simp [inside])

/-- Arguments in identifiers are well formed. -/
theorem argumentListWellFormed_of_isArguments {lexemes : List Lexeme}
    {arguments : List TypeArgument} : IsArguments typeParameters lexemes arguments →
    (∀ word, .word word ∈ lexemes → isIdentifier word = true) →
    argumentListWellFormed typeParameters arguments = true
  | .one only, identifiers => by
    simp [argumentListWellFormed, argumentWellFormed_of_isArgument only identifiers]
  | .more first others, identifiers => by
    have one := argumentWellFormed_of_isArgument first fun word inside =>
      identifiers word (by simp [inside])
    have rest := argumentListWellFormed_of_isArguments others fun word inside =>
      identifiers word (by simp [inside])
    simp [argumentListWellFormed, one, rest]

end

/-! ## Reading what was written -/

/-- A well-formed type is read from its own text. -/
theorem parse_text {type : TypeExpr} (formed : wellFormed typeParameters type = true) :
    parse typeParameters type.text = .ok type := by
  obtain ⟨same, unspaced⟩ := lexemes_text formed
  rw [parse_eq_ok_iff, same]
  exact ⟨isType_sentence formed, unspaced⟩

/-- What is read from a text is well formed. -/
theorem wellFormed_of_parse {text : String} {type : TypeExpr}
    (read : parse typeParameters text = .ok type) : wellFormed typeParameters type = true := by
  have spelled : Spells (lexemes text) text.toList := spells_iff.2 rfl
  exact wellFormed_of_isType (parse_eq_ok_iff.1 read).1 fun word inside =>
    spelled.isIdentifier_of_mem inside

/-- Reading inverts writing: a well-formed type is read from its own text, and what is read from
any text is well formed and so is read again from its own text. -/
theorem parse_inverts_text (typeParameters : List String) :
    (∀ type : TypeExpr, wellFormed typeParameters type = true →
      parse typeParameters type.text = .ok type) ∧
    ∀ (source : String) (type : TypeExpr), parse typeParameters source = .ok type →
      wellFormed typeParameters type = true ∧ parse typeParameters type.text = .ok type := by
  constructor
  · intro type formed
    exact parse_text formed
  · intro source type read
    have formed := wellFormed_of_parse read
    exact ⟨formed, parse_text formed⟩

/-- A function that may be absent, of a variable and of a class named like a marker that has a
class named like a marker among its arguments. -/
def markerNames : TypeExpr :=
  .function [.variable "T" true,
    .named ⟨"a.b", "in"⟩ [.type .covariant (.named ⟨"", "out"⟩ [] false), .star] false]
    .dynamic true

/-- Classes named like markers are read from the text of their type and from a text with other
blanks. -/
theorem parse_inverts_text_markerNames :
    (wellFormed ["T"] markerNames = true ∧
      parse ["T"] markerNames.text = .ok markerNames) ∧
    parse ["T"] "((T ?,a.b.in<out\tout,*>)->dynamic)?" = .ok markerNames ∧
      wellFormed ["T"] markerNames = true := by
  have formed : wellFormed ["T"] markerNames = true := by decide
  have read : parse ["T"] "((T ?,a.b.in<out\tout,*>)->dynamic)?" = .ok markerNames := by
    with_unfolding_all rfl
  exact ⟨⟨formed, (parse_inverts_text ["T"]).1 markerNames formed⟩, read,
    ((parse_inverts_text ["T"]).2 _ markerNames read).1⟩

end ViewGlue.TypeExpr
