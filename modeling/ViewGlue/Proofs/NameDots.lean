import ViewGlue.Proofs.TypePrinting

/-!
# Dots in names

Where a text is read as a type, every dot of it stands directly behind an identifier, and an
identifier follows it. Blanks may stand between the dot and this identifier, and as many as there
are do not matter (`TypeExpr.dots_join_words`); they never stand before the dot.
-/

namespace ViewGlue.TypeExpr

open Text

variable {typeParameters : List String}

/-! ## Dots in sentences -/

/-- Every dot of a sentence stands between two words. -/
def DotsJoinWords (sentence : List Lexeme) : Prop :=
  ∀ front behind, sentence = front ++ .dot :: behind →
    (∃ word, front.getLast? = some (.word word)) ∧ ∃ word, behind.head? = some (.word word)

/-- A sentence without dots has none in a wrong place. -/
theorem dotsJoinWords_of_notMem {sentence : List Lexeme} (dotless : .dot ∉ sentence) :
    DotsJoinWords sentence := by
  rintro front behind rfl
  exact absurd (by simp) dotless

/-- Sentences of which all dots join words may be put behind each other. -/
theorem DotsJoinWords.append {first second : List Lexeme} (one : DotsJoinWords first)
    (two : DotsJoinWords second) : DotsJoinWords (first ++ second) := by
  intro front behind same
  rcases List.append_eq_append_iff.1 same with ⟨middle, rfl, rest⟩ | ⟨middle, rfl, rest⟩
  · -- The dot is in the second sentence, behind its words in `middle`.
    obtain ⟨⟨word, last⟩, follows⟩ := two middle behind rest
    exact ⟨⟨word, by simp [List.getLast?_append, last]⟩, follows⟩
  · cases middle with
    | nil =>
      obtain ⟨⟨word, last⟩, follows⟩ := two [] behind rest.symm
      simp at last
    | cons lexeme middle =>
      obtain ⟨rfl, rfl⟩ := List.cons.inj rest
      obtain ⟨precedes, word, next⟩ := one front middle rfl
      exact ⟨precedes, word, by simp [List.head?_append, next]⟩

/-- A mark other than the dot may be put before a sentence. -/
theorem DotsJoinWords.cons {lexeme : Lexeme} {sentence : List Lexeme}
    (joins : DotsJoinWords sentence) (noDot : lexeme ≠ .dot) :
    DotsJoinWords (lexeme :: sentence) := by
  have alone : DotsJoinWords [lexeme] := dotsJoinWords_of_notMem (by simpa using noDot.symm)
  exact alone.append joins

/-- The dots of a name join its words. -/
theorem dotsJoinWords_name (word : String) (words : List String) :
    DotsJoinWords (.word word :: furtherParts words) := by
  induction words generalizing word with
  | nil => exact dotsJoinWords_of_notMem (by simp [furtherParts])
  | cons next words ih =>
    intro front behind same
    rw [furtherParts] at same
    cases front with
    | nil => cases (List.cons.inj same).1
    | cons first front =>
      cases front with
      | nil =>
        obtain rfl := (List.cons.inj (List.cons.inj same).2).2
        obtain rfl := (List.cons.inj same).1
        exact ⟨⟨word, rfl⟩, next, rfl⟩
      | cons second front =>
        obtain ⟨⟨last, precedes⟩, follows⟩ :=
          ih next front behind (List.cons.inj (List.cons.inj same).2).2
        exact ⟨⟨last, by simp [List.getLast?_cons, precedes]⟩, follows⟩

/-- A question mark is no dot. -/
theorem dotsJoinWords_question (nullable : Bool) : DotsJoinWords (question nullable) :=
  dotsJoinWords_of_notMem (by cases nullable <;> simp [question])

/-- A marker is no dot. -/
theorem dotsJoinWords_marker (variance : Variance) : DotsJoinWords (marker variance) :=
  dotsJoinWords_of_notMem (by cases variance <;> simp [marker])

mutual

/-- The dots of a type join words. -/
theorem dotsJoinWords_of_isType {sentence : List Lexeme} {type : TypeExpr} :
    IsType typeParameters sentence type → DotsJoinWords sentence
  | .dynamic => dotsJoinWords_of_notMem (by simp)
  | .typeParameter _ _ => (dotsJoinWords_question _).cons (by simp)
  | .plain _ =>
    (dotsJoinWords_name _ _).append (dotsJoinWords_question _)
  | .applied _ each =>
    (dotsJoinWords_name _ _).append
      (((dotsJoinWords_of_isArguments each).append
        ((dotsJoinWords_question _).cons (by simp))).cons (by simp))
  | .function each last =>
    ((dotsJoinWords_of_isParameters each).append
      (((dotsJoinWords_of_isType last).cons (by simp)).cons (by simp))).cons (by simp)
  | .grouped inner =>
    ((dotsJoinWords_of_isType inner).append
      ((dotsJoinWords_question _).cons (by simp))).cons (by simp)

/-- The dots of parameters join words. -/
theorem dotsJoinWords_of_isParameters {sentence : List Lexeme} {types : List TypeExpr} :
    IsParameters typeParameters sentence types → DotsJoinWords sentence
  | .none => dotsJoinWords_of_notMem (by simp)
  | .some each => dotsJoinWords_of_isTypes each

/-- The dots of types with commas join words. -/
theorem dotsJoinWords_of_isTypes {sentence : List Lexeme} {types : List TypeExpr} :
    IsTypes typeParameters sentence types → DotsJoinWords sentence
  | .one only => dotsJoinWords_of_isType only
  | .more first others =>
    (dotsJoinWords_of_isType first).append ((dotsJoinWords_of_isTypes others).cons (by simp))

/-- The dots of an argument join words. -/
theorem dotsJoinWords_of_isArgument {sentence : List Lexeme} {argument : TypeArgument} :
    IsArgument typeParameters sentence argument → DotsJoinWords sentence
  | .star => dotsJoinWords_of_notMem (by simp)
  | .type inner => (dotsJoinWords_marker _).append (dotsJoinWords_of_isType inner)

/-- The dots of arguments with commas join words. -/
theorem dotsJoinWords_of_isArguments {sentence : List Lexeme} {arguments : List TypeArgument} :
    IsArguments typeParameters sentence arguments → DotsJoinWords sentence
  | .one only => dotsJoinWords_of_isArgument only
  | .more first others =>
    (dotsJoinWords_of_isArgument first).append
      ((dotsJoinWords_of_isArguments others).cons (by simp))

end

/-! ## Dots in texts -/

/-- A lexeme that is complete before some characters is complete if a dot stands behind them. -/
theorem Lexeme.EndsBefore.beforeDot {lexeme : Lexeme} {s : List Char}
    (complete : lexeme.EndsBefore s) (t : List Char) : lexeme.EndsBefore (s ++ '.' :: t) := by
  have first : (s ++ '.' :: t).head? = some (s.head?.getD '.') := by cases s <;> rfl
  cases lexeme with
  | word text =>
    refine ⟨complete.1, fun c inside => ?_⟩
    cases s with
    | nil =>
      obtain rfl : '.' = c := by simpa using inside
      decide
    | cons d s => exact complete.2 c inside
  | other c =>
    obtain ⟨solid, noWord, outside, noArrow⟩ := complete
    refine ⟨solid, noWord, outside, ?_⟩
    cases s with
    | nil => simp
    | cons d s => exact noArrow
  | _ => trivial

/-- A dot stands for itself between any characters. -/
theorem Spells.dot {front behind : List Lexeme} {s t : List Char} (first : Spells front s)
    (second : Spells behind t) : Spells (front ++ .dot :: behind) (s ++ '.' :: t) := by
  induction first with
  | nothing => exact @Spells.lexeme .dot _ _ trivial second
  | blank plain _ ih => exact .blank plain ih
  | lexeme complete _ ih =>
    rw [List.append_assoc]
    exact .lexeme (complete.beforeDot t) ih

/-- A dot separates the lexemes of a text. -/
theorem lexemes_dot (before after : String) :
    lexemes (before ++ "." ++ after) = lexemes before ++ .dot :: lexemes after := by
  rw [← spells_iff, String.toList_append, String.toList_append, List.append_assoc]
  exact Spells.dot (spells_scan 0 false _) (spells_scan 0 false _)

/-- Characters that spell nothing are blanks. -/
theorem Spells.areBlanks {s : List Char} (spells : Spells [] s) :
    ∀ c ∈ s, isPlainBlank c = true := by
  generalize empty : ([] : List Lexeme) = none at spells
  induction spells with
  | nothing => exact List.forall_mem_nil _
  | blank plain _ ih => exact List.forall_mem_cons.2 ⟨plain, ih empty⟩
  | lexeme => cases empty

/-- Blanks spell nothing. -/
theorem spells_blanks {blanks s : List Char} {lexemes : List Lexeme}
    (plain : ∀ c ∈ blanks, isPlainBlank c = true) (spells : Spells lexemes s) :
    Spells lexemes (blanks ++ s) := by
  induction blanks with
  | nil => exact spells
  | cons c blanks ih =>
    obtain ⟨first, others⟩ := List.forall_mem_cons.1 plain
    exact .blank first (ih others)

/-- The first lexeme is spelled in front, behind blanks. -/
theorem Spells.starts {lexeme : Lexeme} {lexemes : List Lexeme} {s : List Char}
    (spells : Spells (lexeme :: lexemes) s) :
    ∃ blanks rest, s = blanks ++ lexeme.chars ++ rest ∧
      ∀ c ∈ blanks, isPlainBlank c = true := by
  generalize all : lexeme :: lexemes = sentence at spells
  induction spells with
  | nothing => cases all
  | @blank c _ s plain _ ih =>
    obtain ⟨blanks, rest, rfl, each⟩ := ih all
    exact ⟨c :: blanks, rest, rfl, List.forall_mem_cons.2 ⟨plain, each⟩⟩
  | lexeme =>
    obtain ⟨rfl, -⟩ := List.cons.inj all
    exact ⟨[], _, rfl, List.forall_mem_nil _⟩

/-- The last lexeme is spelled at the end, before blanks. -/
theorem Spells.ends {lexemes : List Lexeme} {s : List Char} (spells : Spells lexemes s)
    {lexeme : Lexeme} (last : lexemes.getLast? = some lexeme) :
    ∃ front blanks, s = front ++ lexeme.chars ++ blanks ∧
      ∀ c ∈ blanks, isPlainBlank c = true := by
  induction spells with
  | nothing => cases last
  | @blank c _ _ _ _ ih =>
    obtain ⟨front, blanks, rfl, each⟩ := ih last
    exact ⟨c :: front, blanks, rfl, each⟩
  | @lexeme first others rest _ behind ih =>
    cases others with
    | nil =>
      obtain rfl : first = lexeme := by simpa using last
      exact ⟨[], rest, rfl, behind.areBlanks⟩
    | cons next others =>
      obtain ⟨front, blanks, rfl, each⟩ := ih (by simpa [List.getLast?_cons] using last)
      exact ⟨first.chars ++ front, blanks, by simp only [List.append_assoc], each⟩

/-- No blank stands before the dots of a text exactly if none does before one of its dots, and none
before the dots in front of it and behind it. -/
theorem dotsUnspaced_dot {s t : List Char} :
    dotsUnspaced (s ++ '.' :: t) = true ↔
      dotsUnspaced s = true ∧ (∀ c ∈ s.getLast?, isPlainBlank c = false) ∧
        dotsUnspaced t = true := by
  induction s with
  | nil => simp [dotsUnspaced, show isPlainBlank '.' = false by decide]
  | cons c s ih =>
    cases s with
    | nil =>
      cases blank : isPlainBlank c <;>
        simp [dotsUnspaced, blank, show isPlainBlank '.' = false by decide]
    | cons d s =>
      have step (rest : List Char) : dotsUnspaced (c :: d :: rest) = true ↔
          (!(isPlainBlank c && some d == some '.')) = true ∧ dotsUnspaced (d :: rest) = true := by
        rw [dotsUnspaced, Bool.and_eq_true]
        rfl
      rw [List.cons_append, List.cons_append, step, ← List.cons_append, ih, step,
        List.getLast?_cons_cons, and_assoc]

/-- Blanks before anything but a dot do not matter for the dots behind them. -/
theorem dotsUnspaced_blanks {blanks t : List Char} (noDot : t.head? ≠ some '.')
    (plain : ∀ c ∈ blanks, isPlainBlank c = true) :
    dotsUnspaced (blanks ++ t) = dotsUnspaced t := by
  induction blanks with
  | nil => rfl
  | cons c blanks ih =>
    obtain ⟨-, others⟩ := List.forall_mem_cons.1 plain
    have next : (blanks ++ t).head? ≠ some '.' := by
      cases blanks with
      | nil => exact noDot
      | cons d blanks =>
        have blank := others d List.mem_cons_self
        intro same
        obtain rfl : d = '.' := by simpa using same
        exact absurd blank (by decide)
    have free : ((blanks ++ t).head? == some '.') = false := by simpa using next
    rw [List.cons_append, dotsUnspaced, ih others, free, Bool.and_false, Bool.not_false,
      Bool.true_and]

/-! ## Dots of types -/

/-- Blanks in front of a text do not change its lexemes. -/
theorem lexemes_blanks {blanks : String} (plain : ∀ c ∈ blanks.toList, isPlainBlank c = true)
    (text : String) : lexemes (blanks ++ text) = lexemes text := by
  rw [← spells_iff, String.toList_append]
  exact spells_blanks plain (spells_scan 0 false _)

/-- A text of which the lexemes start with a word starts with an identifier behind blanks. -/
theorem exists_word_ahead {text word : String} (ahead : (lexemes text).head? = some (.word word)) :
    isIdentifier word = true ∧ ∃ blanks rest : String,
      (∀ c ∈ blanks.toList, isPlainBlank c = true) ∧ text = blanks ++ word ++ rest := by
  obtain ⟨others, all⟩ : ∃ others, lexemes text = .word word :: others := by
    cases found : lexemes text with
    | nil => rw [found] at ahead; cases ahead
    | cons first others =>
      rw [found] at ahead
      exact ⟨others, by rw [Option.some.inj ahead]⟩
  have spells := spells_iff.2 all
  obtain ⟨blanks, rest, letters, plain⟩ := spells.starts
  refine ⟨spells.isIdentifier_of_mem List.mem_cons_self, String.ofList blanks, String.ofList rest,
    by simpa using plain, ?_⟩
  rw [← String.toList_inj]
  simpa [Lexeme.chars] using letters

/-- A text of which the lexemes end with a word, and the characters with no blank, ends with an
identifier. -/
theorem exists_word_before {text word : String}
    (last : (lexemes text).getLast? = some (.word word))
    (solid : ∀ c ∈ text.toList.getLast?, isPlainBlank c = false) :
    isIdentifier word = true ∧ ∃ front : String, text = front ++ word := by
  have spells := spells_iff.2 (rfl : lexemes text = lexemes text)
  obtain ⟨front, blanks, letters, plain⟩ := spells.ends last
  refine ⟨spells.isIdentifier_of_mem (List.mem_of_getLast? last), String.ofList front, ?_⟩
  have none : blanks = [] := by
    cases ending : blanks.getLast? with
    | none => exact List.getLast?_eq_none_iff.1 ending
    | some c =>
      have blank := plain c (List.mem_of_getLast? ending)
      have final : text.toList.getLast? = some c := by
        rw [letters, List.getLast?_append, ending]
        rfl
      rw [solid c final] at blank
      cases blank
  rw [← String.toList_inj, letters, none]
  simp [Lexeme.chars]

/-- In a text that is read as a type every dot stands directly behind an identifier, and an
identifier follows it behind blanks or none. The blanks between a dot and the identifier behind it
may be left out or added: they change neither whether the text is read nor as which type. -/
theorem dots_join_words (typeParameters : List String) (before after : String) :
    (∀ type, parse typeParameters (before ++ "." ++ after) = .ok type →
      (∃ front word, isIdentifier word = true ∧ before = front ++ word) ∧
      ∃ blanks word rest : String, (∀ c ∈ blanks.toList, isPlainBlank c = true) ∧
        isIdentifier word = true ∧ after = blanks ++ word ++ rest) ∧
    ∀ blanks : String, (∀ c ∈ blanks.toList, isPlainBlank c = true) → ∀ type,
      parse typeParameters (before ++ "." ++ (blanks ++ after)) = .ok type ↔
        parse typeParameters (before ++ "." ++ after) = .ok type := by
  have letters (text : String) : (before ++ "." ++ text).toList =
      before.toList ++ '.' :: text.toList := by
    rw [String.toList_append, String.toList_append, List.append_assoc]
    rfl
  simp only [parse_eq_ok_iff, lexemes_dot, letters, dotsUnspaced_dot]
  constructor
  · rintro type ⟨isType, -, solid, -⟩
    obtain ⟨⟨last, precedes⟩, first, follows⟩ := dotsJoinWords_of_isType isType _ _ rfl
    obtain ⟨ends, front, same⟩ := exists_word_before precedes solid
    obtain ⟨starts, blanks, rest, plain, split⟩ := exists_word_ahead follows
    exact ⟨⟨front, last, ends, same⟩, blanks, first, rest, plain, starts, split⟩
  · intro blanks plain type
    rw [lexemes_blanks plain]
    refine and_congr_right fun isType => and_congr_right fun _ => and_congr_right fun _ => ?_
    obtain ⟨-, word, follows⟩ := dotsJoinWords_of_isType isType _ _ rfl
    obtain ⟨starts, front, rest, blank, rfl⟩ := exists_word_ahead follows
    have noDot : (front ++ word ++ rest).toList.head? ≠ some '.' := by
      simp only [String.toList_append, List.append_assoc]
      cases inFront : front.toList with
      | nil =>
        cases inWord : word.toList with
        | nil => simp [isIdentifier, inWord, isIdentifierChars] at starts
        | cons c others =>
          have outside := dot_notMem_of_isIdentifierChars (s := word.toList) starts
          rintro same
          exact outside (by simp_all)
      | cons c others =>
        rintro same
        obtain rfl : c = '.' := by simpa using same
        exact absurd (blank '.' (by simp [inFront])) (by decide)
    have joined : (blanks ++ (front ++ word ++ rest)).toList =
        blanks.toList ++ (front ++ word ++ rest).toList := String.toList_append
    rw [joined, dotsUnspaced_blanks noDot plain]

/-- A text with a blank behind a dot is read, so identifiers need not follow dots directly. -/
theorem blank_behind_dot_is_read :
    ¬∀ (typeParameters : List String) (before after : String) (type : TypeExpr),
      parse typeParameters (before ++ "." ++ after) = .ok type →
        (∃ front word, isIdentifier word = true ∧ before = front ++ word) ∧
        ∃ word rest, isIdentifier word = true ∧ after = word ++ rest := by
  intro contiguous
  have read : parse [] ("kotlin" ++ "." ++ " String") = .ok (.ofDotted "kotlin.String") := by
    with_unfolding_all rfl
  obtain ⟨-, word, rest, identifier, same⟩ := contiguous [] "kotlin" " String" _ read
  cases letters : word.toList with
  | nil => simp [isIdentifier, letters, isIdentifierChars] at identifier
  | cons c others =>
    have first := congrArg (·.toList.head?) same
    obtain rfl : ' ' = c := by simpa [letters] using first
    simp [isIdentifier, letters, isIdentifierChars, show startsName ' ' = false by decide]
      at identifier

end ViewGlue.TypeExpr
