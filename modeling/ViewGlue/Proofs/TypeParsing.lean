import ViewGlue.Proofs.TypeReaders

/-!
# Reading and the grammar of type expressions

Reading a text returns a type exactly if the lexemes of the text are a sentence that denotes the
type and no blank stands directly before a dot (`parse_eq_ok_iff`). Soundness is an induction on
the tokens, completeness one on derivations. A derivation is what is read only where no further
lexeme could belong to it, so completeness speaks of the lexeme ahead (`Closes`).
-/

namespace ViewGlue.TypeExpr

open Text (Rest)

variable {typeParameters : List String} {size : Nat}

/-! ## Soundness

What a reader takes is a sentence that denotes what it returns. -/

/-- What a reading leaves is shorter. -/
theorem Reads.length_lt {α : Type} {s left : List Token} {reading : Reading α s} {value : α}
    (read : Reads reading value left) : left.length < s.length := by
  obtain ⟨rest, -, rfl⟩ := read
  exact rest.shorter

/-- What is left behind lexemes is no longer. -/
theorem Takes.length_le {lexemes : List Lexeme} {s left : List Token}
    (taken : Takes lexemes s left) : left.length ≤ s.length := by
  obtain ⟨taken, rfl, -, -⟩ := taken
  simp

/-- What is left behind a lexeme is shorter. -/
theorem Takes.length_lt {lexeme : Lexeme} {s left : List Token}
    (taken : Takes [lexeme] s left) : left.length < s.length := by
  obtain ⟨taken, rfl, same, -⟩ := taken
  have one : taken.length = 1 := by simpa using congrArg List.length same
  simp [one]

/-- One lexeme is taken before the others. -/
theorem takes_head {lexeme : Lexeme} {lexemes : List Lexeme} {s left : List Token} :
    Takes (lexeme :: lexemes) s left ↔
      ∃ middle, Takes [lexeme] s middle ∧ Takes lexemes middle left :=
  @takes_append [lexeme] lexemes s left

/-- The tokens before these are a sentence that denotes the value. -/
def Derives {α : Type} (Denotes : List Lexeme → α → Prop) (s left : List Token) (value : α) :
    Prop :=
  ∃ lexemes, Takes lexemes s left ∧ Denotes lexemes value

/-- A list of elements is sound if each of them is: `IsOne` are the sentences of an element and
`IsMany` those of elements with commas between them. -/
theorem sound_of_separates {α : Type} {element : (t : List Token) → Reading α t}
    {closing : Lexeme} {many : (t : List Token) → Reading (List α) t}
    (separates : Separates element closing many) (IsOne : List Lexeme → α → Prop)
    (IsMany : List Lexeme → List α → Prop)
    (one : ∀ {inside first}, IsOne inside first → IsMany inside [first])
    (more : ∀ {inside behind first others}, IsOne inside first → IsMany behind others →
      IsMany (inside ++ .comma :: behind) (first :: others))
    {s left : List Token} {elements : List α}
    (sound : ∀ t first rest, t.length ≤ s.length → Reads (element t) first rest →
      Derives IsOne t rest first)
    (read : Reads (many s) elements left) :
    ∃ lexemes middle, Takes lexemes s middle ∧ Takes [closing] middle left ∧
      IsMany lexemes elements := by
  induction elements generalizing s with
  | nil =>
    obtain ⟨first, middle, -, ⟨_, _, -, -, different⟩ | ⟨-, different⟩⟩ :=
      (separates _ _ _).1 read <;> cases different
  | cons element others ih =>
    obtain ⟨first, middle, inner, shape⟩ := (separates _ _ _).1 read
    obtain ⟨inside, taken, isOne⟩ := sound s first middle (Nat.le_refl _) inner
    obtain ⟨behind, rest, comma, continued, same⟩ | ⟨close, same⟩ := shape
    · obtain ⟨rfl, rfl⟩ := List.cons.inj same
      have behindComma : behind.length < middle.length := comma.length_lt
      have behindFirst : middle.length ≤ s.length := taken.length_le
      obtain ⟨lexemes, last, takenMore, close, isMany⟩ :=
        ih (fun t first rest within => sound t first rest (by omega)) continued
      have whole : Takes (inside ++ .comma :: lexemes) s last :=
        takes_append.2 ⟨middle, taken, takes_head.2 ⟨behind, comma, takenMore⟩⟩
      exact ⟨_, last, whole, close, more isOne isMany⟩
    · obtain ⟨rfl, rfl⟩ := List.cons.inj same
      exact ⟨inside, middle, taken, close, one isOne⟩

/-- An argument is sound if its type is. -/
theorem isArgument_of_reads_readArgument {s left : List Token} {argument : TypeArgument}
    (sound : ∀ t type rest, t.length ≤ s.length →
      Reads (readType typeParameters size t) type rest →
      Derives (IsType typeParameters) t rest type)
    (read : Reads (readArgument typeParameters size s) argument left) :
    Derives (IsArgument typeParameters) s left argument := by
  obtain ⟨star, rfl⟩ | ⟨variance, behind, type, -, mark, inner, rfl⟩ | ⟨-, -, type, inner, rfl⟩ :=
    reads_readArgument.1 read
  · exact ⟨[.star], star, .star⟩
  · obtain ⟨inside, taken, isType⟩ := sound behind type left mark.length_le inner
    exact ⟨_, takes_append.2 ⟨behind, mark, taken⟩, .type isType⟩
  · obtain ⟨inside, taken, isType⟩ := sound s type left (Nat.le_refl _) inner
    exact ⟨marker .invariant ++ inside, taken, .type isType⟩

/-- A name with what is behind it is sound if the types in its arguments are. -/
theorem isType_of_wordReads {word : String} {words : List String} {s behind after left : List Token}
    {type : TypeExpr} (first : Takes [.word word] s behind)
    (further : Takes (furtherParts words) behind after)
    (sound : ∀ t type rest, t.length < s.length →
      Reads (readType typeParameters size t) type rest →
      Derives (IsType typeParameters) t rest type)
    (read : WordReads typeParameters size word words after type left) :
    Derives (IsType typeParameters) s left type := by
  cases read with
  | dynamic same =>
    obtain rfl := takes_nil.1 further
    rw [same] at first
    exact ⟨_, first, .dynamic⟩
  | typeParameter other declared mark =>
    obtain rfl := takes_nil.1 further
    exact ⟨_, takes_head.2 ⟨_, first, mark.1⟩, .typeParameter other declared⟩
  | plain isClass bare mark =>
    refine ⟨_, takes_head.2 ⟨_, first, ?_⟩, .plain isClass⟩
    exact takes_append.2 ⟨_, further, mark.1⟩
  | @applied _ _ inside closed _ arguments nullable isClass opens each mark =>
    have shorter : inside.length < s.length := by
      have behindOpening : inside.length < after.length := opens.length_lt
      have behindName : after.length ≤ behind.length := further.length_le
      have behindWord : behind.length < s.length := first.length_lt
      omega
    have soundArgument : ∀ t argument rest, t.length ≤ inside.length →
        Reads (readArgument typeParameters size t) argument rest →
        Derives (IsArgument typeParameters) t rest argument := by
      intro t argument rest noLonger
      apply isArgument_of_reads_readArgument
      intro u type rest within
      exact sound u type rest (by omega)
    obtain ⟨lexemes, last, taken, close, isArguments⟩ :=
      sound_of_separates separates_readArguments (IsArgument typeParameters)
        (IsArguments typeParameters) .one .more soundArgument each
    have ended : Takes (.greater :: question nullable) last left :=
      takes_head.2 ⟨_, close, mark.1⟩
    have applied : Takes (.less :: (lexemes ++ .greater :: question nullable)) after left :=
      takes_head.2 ⟨_, opens, takes_append.2 ⟨_, taken, ended⟩⟩
    refine ⟨_, takes_head.2 ⟨_, first, ?_⟩, .applied isClass isArguments⟩
    exact takes_append.2 ⟨_, further, applied⟩

/-- The parameters of a function are sound, up to the closing parenthesis, if their types are. -/
theorem isParameters_of_reads_readParameters {s left : List Token} {parameters : List TypeExpr}
    (sound : ∀ t type rest, t.length ≤ s.length →
      Reads (readType typeParameters size t) type rest →
      Derives (IsType typeParameters) t rest type)
    (read : Reads (readParameters typeParameters size s) parameters left) :
    ∃ lexemes middle, Takes lexemes s middle ∧ Takes [.rightParen] middle left ∧
      IsParameters typeParameters lexemes parameters := by
  obtain ⟨close, rfl⟩ | ⟨-, items⟩ := reads_readParameters.1 read
  · exact ⟨[], s, takes_nil.2 rfl, close, .none⟩
  · obtain ⟨lexemes, middle, taken, close, isTypes⟩ :=
      sound_of_separates separates_readItems (IsType typeParameters)
        (IsTypes typeParameters) .one .more sound items
    exact ⟨lexemes, middle, taken, close, .some isTypes⟩

/-- What starts with a parenthesis is sound, a function or a type in parentheses, if the types in it
are. -/
theorem derives_of_leftParen {s inside left : List Token} {type : TypeExpr}
    (opens : Takes [.leftParen] s inside)
    (sound : ∀ t type rest, t.length < s.length →
      Reads (readType typeParameters size t) type rest →
      Derives (IsType typeParameters) t rest type)
    (read : Reads (readType typeParameters size s) type left) :
    Derives (IsType typeParameters) s left type := by
  obtain ⟨parameters, after, each, shape⟩ := (reads_readType_leftParen opens).1 read
  have behindOpening : inside.length < s.length := opens.length_lt
  obtain ⟨lexemes, middle, taken, close, isParameters⟩ :=
    isParameters_of_reads_readParameters
      (fun t type rest within => sound t type rest (by omega)) each
  obtain ⟨behind, result, arrow, last, rfl⟩ | ⟨-, only, nullable, rfl, mark, rfl⟩ := shape
  · have shorter : behind.length < s.length := by
      have behindArrow : behind.length < after.length := arrow.length_lt
      have behindClosing : after.length < middle.length := close.length_lt
      have behindInside : middle.length ≤ inside.length := taken.length_le
      omega
    obtain ⟨returned, takenResult, isType⟩ := sound behind result left shorter last
    have signature : Takes (.rightParen :: .arrow :: returned) middle left :=
      takes_head.2 ⟨_, close, takes_head.2 ⟨_, arrow, takenResult⟩⟩
    refine ⟨_, takes_head.2 ⟨_, opens, ?_⟩, .function isParameters isType⟩
    exact takes_append.2 ⟨_, taken, signature⟩
  · cases isParameters with
    | some isTypes =>
      cases isTypes with
      | one isType =>
        have ended : Takes (.rightParen :: question nullable) middle left :=
          takes_head.2 ⟨_, close, mark.1⟩
        refine ⟨_, takes_head.2 ⟨_, opens, ?_⟩, .grouped isType⟩
        exact takes_append.2 ⟨_, taken, ended⟩
      | more _ others => cases others

/-- What is read as a type is a sentence that denotes it. -/
theorem derives_of_reads_readType {s left : List Token} {type : TypeExpr}
    (read : Reads (readType typeParameters size s) type left) :
    Derives (IsType typeParameters) s left type := by
  induction length : s.length using Nat.strongRecOn generalizing s left type with
  | _ n ih =>
    subst length
    have sound : ∀ t type rest, t.length < s.length →
        Reads (readType typeParameters size t) type rest →
        Derives (IsType typeParameters) t rest type :=
      fun t type rest shorter inner => ih t.length shorter inner rfl
    obtain ⟨inside, opens⟩ | ⟨word, behind, first⟩ := starts_of_reads_readType read
    · exact derives_of_leftParen opens sound read
    · obtain ⟨words, after, further, -, shape⟩ := (reads_readType_word first).1 read
      exact isType_of_wordReads first further sound shape

/-! ## Completeness

A sentence is read as the type it denotes wherever no further lexeme could belong to it. -/

/-- No lexeme ahead could continue a type: the tokens end or a closing mark or a comma comes. -/
def Closes (s : List Token) : Prop :=
  ahead? s = none ∨ ahead? s = some .rightParen ∨ ahead? s = some .greater ∨
    ahead? s = some .comma

/-- A lexeme that could continue a type is not ahead where none does. -/
theorem Closes.ahead?_ne {s : List Token} (closes : Closes s) {lexeme : Lexeme}
    (continues : lexeme ∉ [Lexeme.rightParen, .greater, .comma]) : ahead? s ≠ some lexeme := by
  intro same
  rw [Closes, same] at closes
  simp_all

/-- A question mark, if the sentence has one, is taken if one is ahead. -/
theorem takesQuestion_of_closes {nullable : Bool} {s left : List Token}
    (taken : Takes (question nullable) s left) (closes : Closes left) :
    TakesQuestion nullable s left :=
  ⟨taken, fun _ => closes.ahead?_ne (by decide)⟩

/-- What is ahead of the end of a type is a question mark or does not continue a type. -/
theorem ahead?_question_ne {nullable : Bool} {s left : List Token} {lexeme : Lexeme}
    (taken : Takes (question nullable) s left) (closes : Closes left)
    (continues : lexeme ∉ [Lexeme.rightParen, .greater, .comma, .question]) :
    ahead? s ≠ some lexeme := by
  cases nullable with
  | true =>
    rw [ahead?_of_takes (show Takes [.question] s left from taken)]
    rintro same
    cases same
    simp at continues
  | false =>
    obtain rfl := takes_nil.1 taken
    exact closes.ahead?_ne (by simp_all)

/-- A name ends where no dot is ahead. -/
theorem nameEnds_of_ahead? {s : List Token} (other : ahead? s ≠ some .dot) : NameEnds s := by
  intro token first dot
  cases s with
  | nil => simp at first
  | cons head rest =>
    obtain rfl : head = token := by simpa using first
    exact absurd (by simp [ahead?, dot]) other

/-- The lexemes of a type start with an opening parenthesis or a word, and behind a first word
no other type starts. -/
theorem IsType.shape {lexemes : List Lexeme} {type : TypeExpr}
    (isType : IsType typeParameters lexemes type) :
    (∃ behind, lexemes = .leftParen :: behind) ∨
      ∃ word behind, lexemes = .word word :: behind ∧
        ∀ lexeme ∈ behind.head?, lexeme ∈ [Lexeme.dot, .less, .question] := by
  cases isType with
  | dynamic => exact .inr ⟨"dynamic", [], rfl, by simp⟩
  | @typeParameter name nullable _ _ =>
    refine .inr ⟨name, question nullable, rfl, ?_⟩
    cases nullable <;> simp [question]
  | @plain word words nullable _ =>
    refine .inr ⟨word, furtherParts words ++ question nullable, rfl, ?_⟩
    cases words <;> cases nullable <;> simp [furtherParts, question]
  | @applied word words inside _ nullable _ _ =>
    refine .inr ⟨word, _, rfl, ?_⟩
    cases words <;> simp [furtherParts]
  | function => exact .inl ⟨_, rfl⟩
  | grouped => exact .inl ⟨_, rfl⟩

/-- A type can start where the lexemes of a type are taken. -/
theorem startsType_of_takes {lexemes : List Lexeme} {type : TypeExpr} {s left : List Token}
    (isType : IsType typeParameters lexemes type) (taken : Takes lexemes s left) :
    startsType s = true := by
  obtain ⟨behind, rfl⟩ | ⟨word, behind, rfl, -⟩ := isType.shape
  · obtain ⟨⟨lexeme, start, width, spaced⟩, rest, rfl, rfl, -, -⟩ := takes_cons.1 taken
    rfl
  · obtain ⟨⟨lexeme, start, width, spaced⟩, rest, rfl, rfl, -, -⟩ := takes_cons.1 taken
    rfl

/-- Neither a closing parenthesis nor a star is ahead of a type. -/
theorem ahead?_ne_of_isType {lexemes : List Lexeme} {type : TypeExpr} {s left : List Token}
    (isType : IsType typeParameters lexemes type) (taken : Takes lexemes s left) :
    ahead? s ≠ some .rightParen ∧ ahead? s ≠ some .star := by
  obtain ⟨behind, rfl⟩ | ⟨word, behind, rfl, -⟩ := isType.shape <;>
    simp [ahead?_of_takes taken]

/-- No closing parenthesis is ahead of types with commas. -/
theorem ahead?_ne_of_isTypes {lexemes : List Lexeme} {types : List TypeExpr}
    {s left : List Token} (isTypes : IsTypes typeParameters lexemes types)
    (taken : Takes lexemes s left) : ahead? s ≠ some .rightParen := by
  cases isTypes with
  | one only => exact (ahead?_ne_of_isType only taken).1
  | more first others =>
    obtain ⟨middle, one, -⟩ := takes_append.1 taken
    exact (ahead?_ne_of_isType first one).1

/-- No type can start where none continues. -/
theorem not_startsType_of_ahead? {s : List Token} (noParen : ahead? s ≠ some .leftParen)
    (noWord : ∀ word, ahead? s ≠ some (.word word)) : startsType s = false := by
  cases s with
  | nil => rfl
  | cons token rest =>
    obtain ⟨lexeme, start, width, spaced⟩ := token
    cases lexeme with
    | leftParen => exact absurd rfl noParen
    | word word => exact absurd rfl (noWord word)
    | _ => rfl

/-- A variance is marked exactly by its word in front of a type. -/
theorem marked?_of_takes {lexemes : List Lexeme} {type : TypeExpr} {variance : Variance}
    {s left : List Token} (isType : IsType typeParameters lexemes type)
    (taken : Takes (marker variance ++ lexemes) s left) (closes : Closes left) :
    marked? s = if variance = .invariant then none else some variance := by
  cases variance with
  | invariant =>
    obtain ⟨behind, rfl⟩ | ⟨word, behind, rfl, next⟩ := isType.shape
    · obtain ⟨token, rest, rfl, isParen, -, -⟩ := takes_cons.1 taken
      simp [marked?, markedVariance, isParen]
    · obtain ⟨token, rest, rfl, isWord, -, further⟩ := takes_cons.1 taken
      have noType : startsType rest = false := by
        cases behind with
        | nil =>
          obtain rfl := takes_nil.1 further
          exact not_startsType_of_ahead? (closes.ahead?_ne (by simp))
            (fun word => closes.ahead?_ne (by simp))
        | cons lexeme behind =>
          have inside := next lexeme rfl
          have ahead := ahead?_of_takes further
          apply not_startsType_of_ahead?
          · rw [ahead]
            rintro same
            cases same
            simp at inside
          · intro word
            rw [ahead]
            rintro same
            cases same
            simp at inside
      simp only [marked?, markedVariance, isWord, noType, Bool.false_eq_true, ↓reduceIte]
      split <;> rfl
  | covariant =>
    obtain ⟨token, rest, rfl, isWord, -, inner⟩ := takes_cons.1 taken
    simp [marked?, markedVariance, isWord, startsType_of_takes isType inner]
  | contravariant =>
    obtain ⟨token, rest, rfl, isWord, -, inner⟩ := takes_cons.1 taken
    simp [marked?, markedVariance, isWord, startsType_of_takes isType inner]

mutual

/-- A sentence is read as the type it denotes where nothing continues it. -/
theorem reads_of_isType {lexemes : List Lexeme} {type : TypeExpr} :
    IsType typeParameters lexemes type → ∀ {s left : List Token}, Takes lexemes s left →
      Closes left → Reads (readType typeParameters size s) type left
  | .dynamic, s, left, taken, closes => by
    refine (reads_readType_word taken).2 ⟨[], left, takes_nil.2 rfl, ?_, .dynamic rfl⟩
    exact nameEnds_of_ahead? (closes.ahead?_ne (by simp))
  | .typeParameter other declared, s, left, taken, closes => by
    obtain ⟨after, first, mark⟩ := takes_head.1 taken
    refine (reads_readType_word first).2 ⟨[], after, takes_nil.2 rfl, ?_, ?_⟩
    · exact nameEnds_of_ahead? (ahead?_question_ne mark closes (by simp))
    · exact .typeParameter other declared (takesQuestion_of_closes mark closes)
  | .plain isClass, s, left, taken, closes => by
    obtain ⟨behind, first, taken⟩ := takes_head.1 taken
    obtain ⟨after, further, mark⟩ := takes_append.1 taken
    refine (reads_readType_word first).2 ⟨_, after, further, ?_, ?_⟩
    · exact nameEnds_of_ahead? (ahead?_question_ne mark closes (by simp))
    · exact .plain isClass (ahead?_question_ne mark closes (by simp))
        (takesQuestion_of_closes mark closes)
  | .applied isClass each, s, left, taken, closes => by
    obtain ⟨behind, first, taken⟩ := takes_head.1 taken
    obtain ⟨after, further, taken⟩ := takes_append.1 taken
    obtain ⟨inside, opens, taken⟩ := takes_head.1 taken
    obtain ⟨middle, items, taken⟩ := takes_append.1 taken
    obtain ⟨closed, close, mark⟩ := takes_head.1 taken
    refine (reads_readType_word first).2 ⟨_, after, further, ?_, ?_⟩
    · exact nameEnds_of_ahead? (by simp [ahead?_of_takes opens])
    · exact .applied isClass opens (reads_of_isArguments each items close)
        (takesQuestion_of_closes mark closes)
  | .function each last, s, left, taken, closes => by
    obtain ⟨inside, opens, taken⟩ := takes_head.1 taken
    obtain ⟨middle, items, taken⟩ := takes_append.1 taken
    obtain ⟨after, close, taken⟩ := takes_head.1 taken
    obtain ⟨behind, arrow, taken⟩ := takes_head.1 taken
    refine (reads_readType_leftParen opens).2
      ⟨_, after, reads_of_isParameters each items close, .inl ⟨behind, _, arrow, ?_, rfl⟩⟩
    exact reads_of_isType last taken closes
  | .grouped inner, s, left, taken, closes => by
    obtain ⟨inside, opens, taken⟩ := takes_head.1 taken
    obtain ⟨middle, items, taken⟩ := takes_append.1 taken
    obtain ⟨after, close, mark⟩ := takes_head.1 taken
    refine (reads_readType_leftParen opens).2 ⟨_, after, ?_, .inr ⟨?_, _, _, rfl, ?_, rfl⟩⟩
    · have closes : Closes middle := .inr (.inl (ahead?_of_takes close))
      have only : Reads (readType typeParameters size inside) _ middle :=
        reads_of_isType inner items closes
      refine reads_readParameters.2 (.inr ⟨(ahead?_ne_of_isType inner items).1, ?_⟩)
      exact (separates_readItems _ _ _).2 ⟨_, middle, only, .inr ⟨close, rfl⟩⟩
    · exact ahead?_question_ne mark closes (by simp)
    · exact takesQuestion_of_closes mark closes

/-- Parameters are read up to the closing parenthesis. -/
theorem reads_of_isParameters {lexemes : List Lexeme} {types : List TypeExpr} :
    IsParameters typeParameters lexemes types → ∀ {s middle left : List Token},
      Takes lexemes s middle → Takes [.rightParen] middle left →
      Reads (readParameters typeParameters size s) types left
  | .none, s, middle, left, taken, close => by
    obtain rfl := takes_nil.1 taken
    exact reads_readParameters.2 (.inl ⟨close, rfl⟩)
  | .some each, s, middle, left, taken, close => by
    refine reads_readParameters.2 (.inr ⟨ahead?_ne_of_isTypes each taken, ?_⟩)
    exact reads_of_isTypes each taken close

/-- Types with commas are read up to the closing parenthesis. -/
theorem reads_of_isTypes {lexemes : List Lexeme} {types : List TypeExpr} :
    IsTypes typeParameters lexemes types → ∀ {s middle left : List Token},
      Takes lexemes s middle → Takes [.rightParen] middle left →
      Reads (readItems typeParameters size s) types left
  | .one only, s, middle, left, taken, close => by
    have closes : Closes middle := .inr (.inl (ahead?_of_takes close))
    exact (separates_readItems _ _ _).2
      ⟨_, middle, reads_of_isType only taken closes, .inr ⟨close, rfl⟩⟩
  | .more first others, s, middle, left, taken, close => by
    obtain ⟨front, one, taken⟩ := takes_append.1 taken
    obtain ⟨behind, comma, taken⟩ := takes_head.1 taken
    have closes : Closes front := .inr (.inr (.inr (ahead?_of_takes comma)))
    have continued := reads_of_isTypes others taken close
    exact (separates_readItems _ _ _).2
      ⟨_, front, reads_of_isType first one closes, .inl ⟨behind, _, comma, continued, rfl⟩⟩

/-- An argument is read where nothing continues it. -/
theorem reads_of_isArgument {lexemes : List Lexeme} {argument : TypeArgument} :
    IsArgument typeParameters lexemes argument → ∀ {s left : List Token}, Takes lexemes s left →
      Closes left → Reads (readArgument typeParameters size s) argument left
  | .star, s, left, taken, closes => reads_readArgument.2 (.inl ⟨taken, rfl⟩)
  | @IsArgument.type _ _ variance _ inner, s, left, taken, closes => by
    have marked := marked?_of_takes inner taken closes
    obtain ⟨behind, mark, taken⟩ := takes_append.1 taken
    have read : Reads (readType typeParameters size behind) _ left :=
      reads_of_isType inner taken closes
    cases variance with
    | invariant =>
      obtain rfl := takes_nil.1 mark
      refine reads_readArgument.2 (.inr (.inr ⟨?_, marked, _, read, rfl⟩))
      exact (ahead?_ne_of_isType inner taken).2
    | covariant => exact reads_readArgument.2 (.inr (.inl ⟨_, behind, _, marked, mark, read, rfl⟩))
    | contravariant =>
      exact reads_readArgument.2 (.inr (.inl ⟨_, behind, _, marked, mark, read, rfl⟩))

/-- Arguments with commas are read up to the closing bracket. -/
theorem reads_of_isArguments {lexemes : List Lexeme} {arguments : List TypeArgument} :
    IsArguments typeParameters lexemes arguments → ∀ {s middle left : List Token},
      Takes lexemes s middle → Takes [.greater] middle left →
      Reads (readArguments typeParameters size s) arguments left
  | .one only, s, middle, left, taken, close => by
    have closes : Closes middle := .inr (.inr (.inl (ahead?_of_takes close)))
    exact (separates_readArguments _ _ _).2
      ⟨_, middle, reads_of_isArgument only taken closes, .inr ⟨close, rfl⟩⟩
  | .more first others, s, middle, left, taken, close => by
    obtain ⟨front, one, taken⟩ := takes_append.1 taken
    obtain ⟨behind, comma, taken⟩ := takes_head.1 taken
    have closes : Closes front := .inr (.inr (.inr (ahead?_of_takes comma)))
    have continued := reads_of_isArguments others taken close
    exact (separates_readArguments _ _ _).2
      ⟨_, front, reads_of_isArgument first one closes, .inl ⟨behind, _, comma, continued, rfl⟩⟩

end

/-! ## Whole texts -/

/-- A text is read as a type exactly if all its tokens are taken as a sentence that denotes it. -/
theorem parse_eq_ok_iff {text : String} {type : TypeExpr} :
    parse typeParameters text = .ok type ↔
      IsType typeParameters (lexemes text) type ∧ dotsUnspaced text.toList = true := by
  have whole : parse typeParameters text = .ok type ↔
      Reads (readType typeParameters (byteLength text.toList) (tokens text)) type [] := by
    simp only [parse]
    cases read : readType typeParameters (byteLength text.toList) (tokens text) with
    | error fault =>
      simp only [not_reads_error, iff_false]
      intro same
      cases same
    | ok found =>
      obtain ⟨found, rest⟩ := found
      by_cases all : rest.left = []
      · constructor
        · intro same
          obtain rfl : found = type := by
            simpa [bind, Except.bind, pure, Except.pure, all] using same
          exact ⟨rest, rfl, all⟩
        · rintro ⟨_, same, -⟩
          cases same
          simp [bind, Except.bind, pure, Except.pure, all]
      · constructor
        · intro same
          simp [bind, Except.bind, all] at same
        · rintro ⟨_, same, none⟩
          cases same
          exact absurd none all
  rw [whole]
  constructor
  · intro read
    obtain ⟨sentence, taken, isType⟩ := derives_of_reads_readType read
    obtain ⟨rfl, unspaced⟩ := takes_tokens.1 taken
    exact ⟨isType, unspaced⟩
  · rintro ⟨isType, unspaced⟩
    exact reads_of_isType isType (takes_tokens.2 ⟨rfl, unspaced⟩) (.inl rfl)

/-- The lexemes that a text spells are one list, and reading the text decides whether they are a
sentence: it returns a type exactly if they denote this type and no blank stands directly before a
dot, and a fault exactly if there is no such type. -/
theorem parse_decides_grammar (typeParameters : List String) (text : String) :
    ∃ sentence, (∀ other, Spells other text.toList ↔ other = sentence) ∧
      (∀ type, parse typeParameters text = .ok type ↔
        IsType typeParameters sentence type ∧ dotsUnspaced text.toList = true) ∧
      ((∃ fault, parse typeParameters text = .error fault) ↔
        ¬∃ type, IsType typeParameters sentence type ∧ dotsUnspaced text.toList = true) := by
  refine ⟨lexemes text, fun other => ?_, fun type => parse_eq_ok_iff, ?_⟩
  · rw [spells_iff]
    exact eq_comm
  · simp only [← parse_eq_ok_iff]
    cases parse typeParameters text <;> simp

end ViewGlue.TypeExpr
