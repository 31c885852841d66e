import ViewGlue.Proofs.TypeSpelling
import ViewGlue.TypeExpr.Parser

/-!
# The readers of type expressions

What each reader takes from the front of the tokens, which readers it calls, and what it returns,
as an equivalence that holds of every input. Lexemes taken are `Takes`, a reading that returns a
value is `Reads`, and both name the tokens that are left, so steps are chained by these alone.
-/

namespace ViewGlue.TypeExpr

open Text (Rest)

variable {typeParameters : List String} {size : Nat}

/-! ## Taking lexemes -/

/-- These lexemes stand in front of the tokens, these tokens behind them, and no dot among them
has blanks before it. -/
def Takes (lexemes : List Lexeme) (s left : List Token) : Prop :=
  ∃ taken, s = taken ++ left ∧ taken.map Token.lexeme = lexemes ∧ DotsFollow taken

/-- The next lexeme. -/
def ahead? (s : List Token) : Option Lexeme :=
  s.head?.map Token.lexeme

/-- The next lexeme is that of the first token. -/
theorem ahead?_eq_some {s : List Token} {lexeme : Lexeme} :
    ahead? s = some lexeme ↔ ∃ token rest, s = token :: rest ∧ token.lexeme = lexeme := by
  cases s with
  | nil => simp [ahead?]
  | cons token rest => simp [ahead?]

/-- Taking nothing leaves everything. -/
@[simp]
theorem takes_nil {s left : List Token} : Takes [] s left ↔ s = left := by
  constructor
  · rintro ⟨taken, rfl, none, -⟩
    rw [List.map_eq_nil_iff.1 none, List.nil_append]
  · rintro rfl
    exact ⟨[], rfl, rfl, by simp [DotsFollow]⟩

/-- The first lexeme taken is that of the first token. -/
theorem takes_cons {lexeme : Lexeme} {lexemes : List Lexeme} {s left : List Token} :
    Takes (lexeme :: lexemes) s left ↔
      ∃ token rest, s = token :: rest ∧ token.lexeme = lexeme ∧
        (lexeme = .dot → token.spaced = false) ∧ Takes lexemes rest left := by
  constructor
  · rintro ⟨taken, rfl, same, follow⟩
    obtain ⟨token, others, rfl, rfl, rfl⟩ := List.map_eq_cons_iff.1 same
    rw [dotsFollow_cons] at follow
    exact ⟨token, others ++ left, rfl, rfl, follow.1, others, rfl, rfl, follow.2⟩
  · rintro ⟨token, rest, rfl, rfl, dot, taken, rfl, rfl, follow⟩
    exact ⟨token :: taken, rfl, rfl, dotsFollow_cons.2 ⟨dot, follow⟩⟩

/-- Lexemes are taken one part after the other. -/
theorem takes_append {first second : List Lexeme} {s left : List Token} :
    Takes (first ++ second) s left ↔ ∃ middle, Takes first s middle ∧ Takes second middle left := by
  induction first generalizing s with
  | nil => simp
  | cons lexeme first ih =>
    simp only [List.cons_append, takes_cons, ih]
    constructor
    · rintro ⟨token, rest, rfl, same, dot, middle, taken, behind⟩
      exact ⟨middle, ⟨token, rest, rfl, same, dot, taken⟩, behind⟩
    · rintro ⟨middle, ⟨token, rest, rfl, same, dot, taken⟩, behind⟩
      exact ⟨token, rest, rfl, same, dot, middle, taken, behind⟩

/-- Taking a lexeme other than a dot. -/
theorem takes_one {lexeme : Lexeme} {s left : List Token} (noDot : lexeme ≠ .dot) :
    Takes [lexeme] s left ↔ ∃ token, s = token :: left ∧ token.lexeme = lexeme := by
  rw [takes_cons]
  constructor
  · rintro ⟨token, rest, rfl, same, -, behind⟩
    rw [takes_nil] at behind
    exact ⟨token, by rw [behind], same⟩
  · rintro ⟨token, rfl, same⟩
    exact ⟨token, left, rfl, same, fun dot => absurd dot noDot, takes_nil.2 rfl⟩

/-- A lexeme other than a dot is taken from the front if it is that of the first token. -/
theorem takes_one_cons {token : Token} {rest left : List Token} {lexeme : Lexeme}
    (noDot : lexeme ≠ .dot) :
    Takes [lexeme] (token :: rest) left ↔ token.lexeme = lexeme ∧ rest = left := by
  rw [takes_one noDot]
  constructor
  · intro taken
    obtain ⟨found, all, same⟩ := taken
    obtain ⟨rfl, rfl⟩ := List.cons.inj all
    exact ⟨same, rfl⟩
  · intro taken
    exact ⟨token, by rw [taken.2], taken.1⟩

/-- A lexeme that is taken was ahead. -/
theorem ahead?_of_takes {lexeme : Lexeme} {lexemes : List Lexeme} {s left : List Token}
    (taken : Takes (lexeme :: lexemes) s left) : ahead? s = some lexeme := by
  obtain ⟨token, rest, rfl, rfl, -, -⟩ := takes_cons.1 taken
  rfl

/-- A lexeme that is not ahead is not taken. -/
theorem not_takes_of_ahead? {lexeme : Lexeme} {s left : List Token}
    (other : ahead? s ≠ some lexeme) : ¬Takes [lexeme] s left :=
  fun taken => other (ahead?_of_takes taken)

/-- Behind the lexeme of the first token stand the other tokens. -/
theorem takes_one_of_eq {token : Token} {rest left : List Token} {lexeme : Lexeme}
    (noDot : lexeme ≠ .dot) (same : token.lexeme = lexeme) :
    Takes [lexeme] (token :: rest) left ↔ rest = left :=
  (takes_one_cons noDot).trans (and_iff_right same)

/-- All tokens of a text are taken exactly as its lexemes, if no blank stands directly before
a dot. -/
theorem takes_tokens {lexemes : List Lexeme} {text : String} :
    Takes lexemes (tokens text) [] ↔
      TypeExpr.lexemes text = lexemes ∧ dotsUnspaced text.toList = true := by
  rw [← dotsFollow_tokens]
  constructor
  · rintro ⟨taken, all, rfl, follow⟩
    rw [List.append_nil] at all
    exact ⟨by rw [TypeExpr.lexemes, all], by rwa [all]⟩
  · rintro ⟨rfl, follow⟩
    exact ⟨tokens text, by simp, rfl, follow⟩

/-! ## What readings return -/

/-- The reading returns this value and leaves these tokens. -/
def Reads {α : Type} {s : List Token} (reading : Reading α s) (value : α) (left : List Token) :
    Prop :=
  ∃ rest, reading = .ok (value, rest) ∧ rest.left = left

/-- A reading that fails returns nothing. -/
@[simp]
theorem not_reads_error {α : Type} {s : List Token} {fault : Fault} {value : α}
    {left : List Token} : ¬Reads (s := s) (.error fault) value left := by
  rintro ⟨rest, read, -⟩
  cases read

/-- What a reading that succeeded returns and leaves. -/
@[simp]
theorem reads_ok {α : Type} {s : List Token} {found value : α} {rest : Rest s}
    {left : List Token} :
    Reads (s := s) (.ok (found, rest)) value left ↔ value = found ∧ rest.left = left := by
  constructor
  · intro read
    obtain ⟨rest, same, rfl⟩ := read
    cases same
    exact ⟨rfl, rfl⟩
  · intro same
    exact ⟨rest, by rw [same.1], same.2⟩

/-- A reading that returns at once. -/
@[simp]
theorem reads_pure {α : Type} {s : List Token} {found value : α} {rest : Rest s}
    {left : List Token} :
    Reads (pure (found, rest) : Reading α s) value left ↔ value = found ∧ rest.left = left :=
  reads_ok

/-- A reading in two steps. -/
theorem reads_bind {α β : Type} {s t : List Token} {first : Reading β t}
    {second : β × Rest t → Reading α s} {value : α} {left : List Token} :
    Reads (first >>= second) value left ↔
      ∃ found rest, first = .ok (found, rest) ∧ Reads (second (found, rest)) value left := by
  cases first with
  | error fault =>
    simp only [reduceCtorEq, false_and, exists_false, iff_false]
    exact not_reads_error
  | ok found =>
    constructor
    · intro read
      exact ⟨found.1, found.2, rfl, read⟩
    · rintro ⟨value, rest, same, read⟩
      cases same
      exact read

/-- A reading in two steps, where what the second one returns depends on the first value and the
tokens behind it. -/
theorem reads_then {α β : Type} {s t : List Token} {first : Reading β t}
    {second : β × Rest t → Reading α s} {value : α} {left : List Token}
    {behind : β → List Token → Prop}
    (each : ∀ found rest, Reads (second (found, rest)) value left ↔ behind found rest.left) :
    Reads (first >>= second) value left ↔
      ∃ found after, Reads first found after ∧ behind found after := by
  rw [reads_bind]
  constructor
  · rintro ⟨found, rest, read, continued⟩
    exact ⟨found, rest.left, ⟨rest, read, rfl⟩, (each found rest).1 continued⟩
  · rintro ⟨found, _, ⟨rest, read, rfl⟩, continued⟩
    exact ⟨found, rest, read, (each found rest).2 continued⟩

/-- A reading of which the value is changed and what is left is kept, inside the same input or a
longer one. -/
theorem reads_map {α β : Type} {s t : List Token} {lift : Rest t → Rest s} (change : β → α)
    {first : Reading β t} {value : α} {left : List Token}
    (kept : ∀ rest, (lift rest).left = rest.left := by intro rest; rfl) :
    Reads (first >>= fun found => pure (change found.1, lift found.2)) value left ↔
      ∃ found, Reads first found left ∧ value = change found := by
  rw [reads_bind]
  constructor
  · intro read
    obtain ⟨found, rest, outcome, result⟩ := read
    rw [reads_pure, kept] at result
    exact ⟨found, ⟨rest, outcome, result.2⟩, result.1⟩
  · intro read
    obtain ⟨found, ⟨rest, outcome, same⟩, result⟩ := read
    refine ⟨found, rest, outcome, ?_⟩
    rw [reads_pure, kept]
    exact ⟨result, same⟩

/-! ## What each reader takes -/

/-- A question mark is taken if one is ahead. -/
def TakesQuestion (nullable : Bool) (s left : List Token) : Prop :=
  Takes (question nullable) s left ∧ (nullable = false → ahead? left ≠ some .question)

/-- A question mark is taken where one is ahead. -/
theorem takesQuestion_true {s left : List Token} :
    TakesQuestion true s left ↔ ∃ token, s = token :: left ∧ token.lexeme = .question := by
  rw [TakesQuestion, show question true = [.question] from rfl, takes_one (by decide)]
  simp

/-- Nothing is taken where no question mark is ahead. -/
theorem takesQuestion_false {s left : List Token} :
    TakesQuestion false s left ↔ s = left ∧ ahead? s ≠ some .question := by
  rw [TakesQuestion, show question false = [] from rfl, takes_nil]
  constructor
  · rintro ⟨rfl, other⟩
    exact ⟨rfl, other rfl⟩
  · rintro ⟨rfl, other⟩
    exact ⟨rfl, fun _ => other⟩

/-- What is taken if a question mark is ahead. -/
theorem takeQuestion_iff {s left : List Token} {rest : Rest s} {nullable : Bool} :
    (takeQuestion rest).1 = nullable ∧ (takeQuestion rest).2.left = left ↔
      TakesQuestion nullable rest.left left := by
  obtain ⟨front, shorter⟩ := rest
  have kept (other : ahead? front ≠ some .question) :
      takeQuestion (⟨front, shorter⟩ : Rest s) = (false, ⟨front, shorter⟩) := by
    cases front with
    | nil => rfl
    | cons token behind =>
      obtain ⟨lexeme, start, width, spaced⟩ := token
      cases lexeme <;> first | rfl | exact absurd rfl other
  by_cases next : ahead? front = some .question
  · obtain ⟨token, behind, rfl, same⟩ := ahead?_eq_some.1 next
    obtain ⟨lexeme, start, width, spaced⟩ := token
    subst same
    cases nullable with
    | false =>
      rw [takesQuestion_false]
      simp [takeQuestion, Rest.next?, next]
    | true =>
      rw [takesQuestion_true]
      simp only [takeQuestion, Rest.next?, true_and, List.cons.injEq]
      constructor
      · rintro rfl
        exact ⟨_, ⟨rfl, rfl⟩, rfl⟩
      · rintro ⟨_, ⟨-, same⟩, -⟩
        exact same
  · rw [kept next]
    cases nullable with
    | false =>
      rw [takesQuestion_false]
      simp [next]
    | true =>
      rw [takesQuestion_true]
      simp only [Bool.false_eq_true, false_and, false_iff]
      rintro ⟨token, rfl, same⟩
      exact next (by simp [ahead?, same])

/-- A reading that ends with a question mark if one is ahead. -/
theorem reads_question {α : Type} {s left : List Token} {rest : Rest s} (change : Bool → α)
    {value : α} :
    Reads (pure (change (takeQuestion rest).1, (takeQuestion rest).2) : Reading α s) value left ↔
      ∃ nullable, TakesQuestion nullable rest.left left ∧ value = change nullable := by
  rw [reads_pure]
  constructor
  · rintro ⟨rfl, same⟩
    exact ⟨_, takeQuestion_iff.1 ⟨rfl, same⟩, rfl⟩
  · rintro ⟨nullable, taken, rfl⟩
    obtain ⟨rfl, same⟩ := takeQuestion_iff.2 taken
    exact ⟨rfl, same⟩

/-- No dot that continues a name is ahead. -/
def NameEnds (s : List Token) : Prop :=
  ∀ token ∈ s.head?, token.lexeme = .dot → token.spaced = true

/-- Nothing more is taken where a name ends. -/
theorem takeSegments_of_nameEnds {s ahead : List Token} {shorter : ahead.length < s.length}
    (ends : NameEnds ahead) : takeSegments size ahead shorter = .ok ([], ⟨ahead, shorter⟩) := by
  cases ahead with
  | nil => rfl
  | cons token behind =>
    obtain ⟨lexeme, start, width, spaced⟩ := token
    cases spaced with
    | true => cases lexeme <;> rfl
    | false =>
      cases lexeme with
      | dot => exact absurd (ends _ rfl rfl) (by simp)
      | _ => rfl

/-- A dot that continues a name is a fault where no word is behind it. -/
theorem takeSegments_dot {s behind : List Token} {dot : Token}
    {shorter : (dot :: behind).length < s.length} (isDot : dot.lexeme = .dot)
    (joined : dot.spaced = false) (noWord : ∀ word, ahead? behind ≠ some (.word word)) :
    takeSegments size (dot :: behind) shorter =
      .error (faultAt size .expectedIdentifier behind) := by
  obtain ⟨lexeme, start, width, spaced⟩ := dot
  obtain rfl := isDot
  obtain rfl := joined
  cases behind with
  | nil => rfl
  | cons token rest =>
    obtain ⟨lexeme, start', width', spaced'⟩ := token
    cases lexeme with
    | word word => exact absurd rfl (noWord word)
    | _ => rfl

/-- A dot that continues a name is taken with the word behind it. -/
theorem reads_takeSegments_word {s behind left : List Token} {dot token : Token} {word : String}
    {shorter : (dot :: token :: behind).length < s.length} (isDot : dot.lexeme = .dot)
    (joined : dot.spaced = false) (isWord : token.lexeme = .word word) {words : List String} :
    Reads (takeSegments size (dot :: token :: behind) shorter) words left ↔
      ∃ others, Reads (takeSegments size (s := s) behind (by grind)) others left ∧
        words = word :: others := by
  obtain ⟨lexeme, start, width, spaced⟩ := dot
  obtain ⟨lexeme', start', width', spaced'⟩ := token
  obtain rfl := isDot
  obtain rfl := joined
  obtain rfl := isWord
  exact reads_map (word :: ·)

/-- A name ends, or a dot continues it. -/
theorem nameEnds_or_dot (s : List Token) :
    NameEnds s ∨ ∃ dot behind, s = dot :: behind ∧ dot.lexeme = .dot ∧ dot.spaced = false := by
  cases s with
  | nil => exact .inl (by simp [NameEnds])
  | cons token behind =>
    by_cases continued : token.lexeme = .dot ∧ token.spaced = false
    · exact .inr ⟨token, behind, rfl, continued⟩
    · refine .inl fun first same isDot => ?_
      obtain rfl : token = first := by simpa using same
      simpa [isDot] using continued

/-- A name does not end at a dot that continues it. -/
theorem not_nameEnds {dot : Token} {behind : List Token} (isDot : dot.lexeme = .dot)
    (joined : dot.spaced = false) : ¬NameEnds (dot :: behind) := by
  intro ends
  have spaced : dot.spaced = true := ends dot rfl isDot
  rw [joined] at spaced
  exact Bool.false_ne_true spaced

/-- A further part of a name is a dot that continues the name, and a word. -/
theorem takes_furtherParts_cons {word : String} {words : List String} {s left : List Token} :
    Takes (furtherParts (word :: words)) s left ↔
      ∃ dot token behind, s = dot :: token :: behind ∧ dot.lexeme = .dot ∧ dot.spaced = false ∧
        token.lexeme = .word word ∧ Takes (furtherParts words) behind left := by
  rw [show furtherParts (word :: words) = .dot :: .word word :: furtherParts words from rfl]
  simp only [takes_cons]
  constructor
  · rintro ⟨dot, _, rfl, isDot, joined, token, behind, rfl, isWord, -, taken⟩
    exact ⟨dot, token, behind, rfl, isDot, joined trivial, isWord, taken⟩
  · rintro ⟨dot, token, behind, rfl, isDot, joined, isWord, taken⟩
    exact ⟨dot, _, rfl, isDot, fun _ => joined, token, behind, rfl, isWord, by simp, taken⟩

/-- Behind a dot that continues a name a word is read, and the further parts behind it. -/
theorem reads_takeSegments_dot {s behind left : List Token} {dot : Token}
    {shorter : (dot :: behind).length < s.length} (isDot : dot.lexeme = .dot)
    (joined : dot.spaced = false) {words : List String} :
    Reads (takeSegments size (dot :: behind) shorter) words left ↔
      ∃ (token : Token) (rest : List Token) (word : String) (others : List String)
        (fewer : rest.length < s.length), behind = token :: rest ∧ token.lexeme = .word word ∧
          Reads (takeSegments size rest fewer) others left ∧ words = word :: others := by
  by_cases next : ∃ word, ahead? behind = some (.word word)
  · obtain ⟨word, next⟩ := next
    obtain ⟨token, rest, rfl, isWord⟩ := ahead?_eq_some.1 next
    rw [reads_takeSegments_word isDot joined isWord]
    constructor
    · rintro ⟨others, read, same⟩
      exact ⟨token, rest, word, others, _, rfl, isWord, read, same⟩
    · rintro ⟨_, _, found, others, _, whole, isFound, read, same⟩
      obtain ⟨rfl, rfl⟩ := List.cons.inj whole
      obtain rfl : word = found := Lexeme.word.inj (isWord.symm.trans isFound)
      exact ⟨others, read, same⟩
  · rw [takeSegments_dot isDot joined (not_exists.1 next)]
    refine iff_of_false not_reads_error ?_
    rintro ⟨token, rest, word, _, _, rfl, isWord, -⟩
    exact next ⟨word, ahead?_eq_some.2 ⟨token, rest, rfl, isWord⟩⟩

/-- The further parts of a name are taken as far as dots continue it. -/
theorem reads_takeSegments {s ahead left : List Token} {shorter : ahead.length < s.length}
    {words : List String} :
    Reads (takeSegments size ahead shorter) words left ↔
      Takes (furtherParts words) ahead left ∧ NameEnds left := by
  -- every part takes one dot and one word, so the induction is on the parts that are returned
  induction words generalizing ahead with
  | nil =>
    rw [show furtherParts [] = [] from rfl, takes_nil]
    obtain ends | ⟨dot, behind, rfl, isDot, joined⟩ := nameEnds_or_dot ahead
    · rw [takeSegments_of_nameEnds ends, reads_ok, and_iff_right rfl]
      exact (and_iff_left_of_imp fun same => same ▸ ends).symm
    · rw [reads_takeSegments_dot isDot joined]
      refine iff_of_false (by rintro ⟨_, _, _, _, _, -, -, -, ⟨⟩⟩) ?_
      rintro ⟨rfl, ends⟩
      exact not_nameEnds isDot joined ends
  | cons word words ih =>
    rw [takes_furtherParts_cons]
    obtain ends | ⟨dot, behind, rfl, isDot, joined⟩ := nameEnds_or_dot ahead
    · rw [takeSegments_of_nameEnds ends, reads_ok]
      refine iff_of_false (by rintro ⟨⟨⟩, -⟩) ?_
      rintro ⟨⟨dot, token, behind, rfl, isDot, joined, -⟩, -⟩
      exact not_nameEnds isDot joined ends
    · rw [reads_takeSegments_dot isDot joined]
      constructor
      · rintro ⟨token, rest, _, _, _, rfl, isWord, read, ⟨⟩⟩
        obtain ⟨taken, ends⟩ := ih.1 read
        exact ⟨⟨dot, token, rest, rfl, isDot, joined, isWord, taken⟩, ends⟩
      · rintro ⟨⟨_, token, rest, ⟨⟩, -, -, isWord, taken⟩, ends⟩
        exact ⟨token, rest, word, words, by grind, rfl, isWord, ih.2 ⟨taken, ends⟩, rfl⟩

/-- What is read behind one element of a list: a comma is followed by the others, the closing mark
ends the list, and anything else is a fault. -/
structure Continues {α : Type} {s : List Token} (again : (t : List Token) → Reading (List α) t)
    (closing : Lexeme) (step : Rest s → Reading (List α) s) (element : α) : Prop where
  /-- Behind a comma the others are read, and the element comes before them. -/
  comma {token : Token} {behind left : List Token} {shorter : (token :: behind).length < s.length}
    {elements : List α} (same : token.lexeme = .comma) :
    Reads (step ⟨token :: behind, shorter⟩) elements left ↔
      ∃ others, Reads (again behind) others left ∧ elements = element :: others
  /-- Behind the closing mark nothing more is read. -/
  closed {token : Token} {behind left : List Token} {shorter : (token :: behind).length < s.length}
    {elements : List α} (same : token.lexeme = closing) :
    Reads (step ⟨token :: behind, shorter⟩) elements left ↔ elements = [element] ∧ behind = left
  /-- Nothing is read if the next token is neither. -/
  fault {rest : Rest s} {left : List Token} {elements : List α}
    (noComma : ahead? rest.left ≠ some .comma) (noClose : ahead? rest.left ≠ some closing) :
    ¬Reads (step rest) elements left

/-- Elements with commas between them are read one by one up to the closing mark. -/
def Separates {α : Type} (element : (t : List Token) → Reading α t) (closing : Lexeme)
    (many : (t : List Token) → Reading (List α) t) : Prop :=
  ∀ s left elements, Reads (many s) elements left ↔
    ∃ first middle, Reads (element s) first middle ∧
      ((∃ behind others, Takes [.comma] middle behind ∧ Reads (many behind) others left ∧
          elements = first :: others) ∨
        (Takes [closing] middle left ∧ elements = [first]))

/-- Elements are separated by commas if each one is continued by a comma or the closing mark. -/
theorem separates_of_continues {α : Type} {element : (t : List Token) → Reading α t}
    {closing : Lexeme} (noDot : closing ≠ .dot) {many : (t : List Token) → Reading (List α) t}
    {step : (t : List Token) → α × Rest t → Reading (List α) t}
    (steps : ∀ s, many s = element s >>= step s)
    (continues : ∀ s first, Continues many closing (fun rest => step s (first, rest)) first) :
    Separates element closing many := by
  intro s left elements
  have comma {middle behind : List Token} :
      Takes [.comma] middle behind ↔ ∃ token, middle = token :: behind ∧ token.lexeme = .comma :=
    takes_one (by decide)
  simp only [comma, takes_one noDot]
  rw [steps]
  refine reads_then fun first rest => ?_
  obtain ⟨front, shorter⟩ := rest
  have next := continues s first
  constructor
  · intro continued
    by_cases more : ahead? front = some .comma
    · obtain ⟨token, behind, rfl, same⟩ := ahead?_eq_some.1 more
      obtain ⟨others, inner, whole⟩ := (next.comma same).1 continued
      exact .inl ⟨behind, others, ⟨token, rfl, same⟩, inner, whole⟩
    · by_cases ended : ahead? front = some closing
      · obtain ⟨token, behind, rfl, same⟩ := ahead?_eq_some.1 ended
        obtain ⟨whole, rfl⟩ := (next.closed same).1 continued
        exact .inr ⟨⟨token, rfl, same⟩, whole⟩
      · exact absurd continued (next.fault more ended)
  · intro continued
    obtain ⟨behind, others, ⟨token, rfl, same⟩, inner, whole⟩ | ⟨⟨token, rfl, same⟩, whole⟩ :=
      continued
    · exact (next.comma same).2 ⟨others, inner, whole⟩
    · exact (next.closed same).2 ⟨whole, rfl⟩

/-- Types with commas between them are read one by one up to a closing parenthesis. -/
theorem separates_readItems :
    Separates (readType typeParameters size) .rightParen (readItems typeParameters size) := by
  refine separates_of_continues (by decide) (fun s => by rw [readItems]) fun s first => ⟨?_, ?_, ?_⟩
  · rintro ⟨lexeme, start, width, spaced⟩ behind left shorter types rfl
    exact reads_map (first :: ·)
  · rintro ⟨lexeme, start, width, spaced⟩ behind left shorter types rfl
    exact reads_pure
  · rintro ⟨front, shorter⟩ left types noComma noClose
    cases front with
    | nil => exact not_reads_error
    | cons token behind =>
      obtain ⟨lexeme, start, width, spaced⟩ := token
      cases lexeme with
      | comma => exact absurd rfl noComma
      | rightParen => exact absurd rfl noClose
      | _ => exact not_reads_error

/-- Arguments with commas between them are read one by one up to a closing bracket. -/
theorem separates_readArguments :
    Separates (readArgument typeParameters size) .greater (readArguments typeParameters size) := by
  refine separates_of_continues (by decide) (fun s => by rw [readArguments])
    fun s first => ⟨?_, ?_, ?_⟩
  · rintro ⟨lexeme, start, width, spaced⟩ behind left shorter arguments rfl
    exact reads_map (first :: ·)
  · rintro ⟨lexeme, start, width, spaced⟩ behind left shorter arguments rfl
    exact reads_pure
  · rintro ⟨front, shorter⟩ left arguments noComma noClose
    cases front with
    | nil => exact not_reads_error
    | cons token behind =>
      obtain ⟨lexeme, start, width, spaced⟩ := token
      cases lexeme with
      | comma => exact absurd rfl noComma
      | greater => exact absurd rfl noClose
      | _ => exact not_reads_error

/-- Parameters are none if a closing parenthesis is ahead, and types with commas otherwise. -/
theorem reads_readParameters {s left : List Token} {types : List TypeExpr} :
    Reads (readParameters typeParameters size s) types left ↔
      (Takes [.rightParen] s left ∧ types = []) ∨
        (ahead? s ≠ some .rightParen ∧ Reads (readItems typeParameters size s) types left) := by
  cases s with
  | nil =>
    rw [readParameters, takes_one (by decide)]
    simp [ahead?]
  | cons token rest =>
    rw [readParameters, takes_one_cons (by decide)]
    by_cases same : token.lexeme = .rightParen
    · have ahead : ahead? (token :: rest) = some .rightParen := ahead?_eq_some.2 ⟨_, _, rfl, same⟩
      rw [if_pos same, reads_ok]
      constructor
      · intro read
        exact .inl ⟨⟨same, read.2⟩, read.1⟩
      · intro shape
        cases shape with
        | inl close => exact ⟨close.2, close.1.2⟩
        | inr items => exact absurd ahead items.1
    · have other : ahead? (token :: rest) ≠ some .rightParen := by simpa [ahead?] using same
      rw [if_neg same]
      constructor
      · intro read
        exact .inr ⟨other, read⟩
      · intro shape
        cases shape with
        | inl close => exact absurd close.1.1 same
        | inr items => exact items.2

/-- The variance that is marked in front of these tokens: a type must be able to start behind
the marking word. -/
def marked? : List Token → Option Variance
  | [] => none
  | token :: rest => markedVariance token.lexeme rest

/-- A marked variance is marked by its own lexeme. -/
theorem marker_of_markedVariance {lexeme : Lexeme} {rest : List Token} {variance : Variance}
    (marked : markedVariance lexeme rest = some variance) : marker variance = [lexeme] := by
  unfold markedVariance at marked
  split at marked
  · split at marked
    · obtain rfl := Option.some.inj marked
      rfl
    · cases marked
  · split at marked
    · obtain rfl := Option.some.inj marked
      rfl
    · cases marked
  · cases marked

/-- Nothing is read as a type from no tokens. -/
@[simp]
theorem not_reads_readType_nil {type : TypeExpr} {left : List Token} :
    ¬Reads (readType typeParameters size []) type left := by
  rw [readType]
  exact not_reads_error

/-- An argument is a star, a type behind a marked variance, or a type. -/
theorem reads_readArgument {s left : List Token} {argument : TypeArgument} :
    Reads (readArgument typeParameters size s) argument left ↔
      (Takes [.star] s left ∧ argument = .star) ∨
        (∃ variance behind type, marked? s = some variance ∧ Takes (marker variance) s behind ∧
          Reads (readType typeParameters size behind) type left ∧
          argument = .type variance type) ∨
        (ahead? s ≠ some .star ∧ marked? s = none ∧ ∃ type,
          Reads (readType typeParameters size s) type left ∧ argument = .type .invariant type) := by
  cases s with
  | nil =>
    rw [readArgument, takes_one (by decide)]
    simp [marked?]
  | cons token rest =>
    rw [readArgument, takes_one_cons (by decide)]
    by_cases star : token.lexeme = .star
    · have unmarked : marked? (token :: rest) = none := by rw [marked?, star]; rfl
      have ahead : ahead? (token :: rest) = some .star := ahead?_eq_some.2 ⟨_, _, rfl, star⟩
      rw [if_pos star, reads_ok]
      constructor
      · intro read
        exact .inl ⟨⟨star, read.2⟩, read.1⟩
      · intro shape
        obtain ⟨taken, same⟩ | ⟨variance, _, _, marked, -⟩ | ⟨other, -⟩ := shape
        · exact ⟨same, taken.2⟩
        · rw [unmarked] at marked
          cases marked
        · exact absurd ahead other
    · have other : ahead? (token :: rest) ≠ some .star := by simpa [ahead?] using star
      rw [if_neg star]
      cases marked : markedVariance token.lexeme rest with
      | none =>
        have unmarked : marked? (token :: rest) = none := marked
        simp only [unmarked, star, other, reduceCtorEq, false_and, exists_false, false_or, ne_eq,
          not_false_eq_true, true_and]
        exact reads_map (TypeArgument.type .invariant ·)
      | some variance =>
        have isMarked : marked? (token :: rest) = some variance := marked
        have mark : marker variance = [token.lexeme] := marker_of_markedVariance marked
        have noDot : token.lexeme ≠ .dot := by
          intro dot
          rw [dot] at marked
          cases marked
        simp only [isMarked, star, false_and, false_or, reduceCtorEq, and_false, or_false,
          Option.some.injEq, exists_and_left, exists_eq_left', mark, takes_one_of_eq noDot rfl]
        exact reads_map (TypeArgument.type variance ·)

/-! ## Types -/

/-- Parentheses alone hold one type, which a question mark behind them makes nullable. -/
theorem reads_grouped {s left : List Token} (parameters : List TypeExpr) (after : Rest s)
    (fault : Fault) {type : TypeExpr} :
    Reads
      (match parameters with
        | [only] =>
          let (nullable, rest) := takeQuestion after
          return (if nullable then only.withNullable true else only, rest)
        | _ => .error fault : Reading TypeExpr s) type left ↔
      ∃ only nullable, parameters = [only] ∧ TakesQuestion nullable after.left left ∧
        type = if nullable then only.withNullable true else only := by
  rcases parameters with - | ⟨only, - | ⟨second, more⟩⟩
  · simp
  · rw [reads_question fun nullable => if nullable then only.withNullable true else only]
    simp
  · simp

/-- Behind an opening parenthesis stand parameters; an arrow behind the closing one makes them
those of a function, and without it there must be one type. -/
theorem reads_readType_leftParen {s inside left : List Token} {type : TypeExpr}
    (opens : Takes [.leftParen] s inside) :
    Reads (readType typeParameters size s) type left ↔
      ∃ parameters after, Reads (readParameters typeParameters size inside) parameters after ∧
        ((∃ behind result, Takes [.arrow] after behind ∧
            Reads (readType typeParameters size behind) result left ∧
            type = .function parameters result false) ∨
          (ahead? after ≠ some .arrow ∧ ∃ only nullable, parameters = [only] ∧
            TakesQuestion nullable after left ∧
            type = if nullable then only.withNullable true else only)) := by
  rw [takes_one (by decide)] at opens
  obtain ⟨token, rfl, same⟩ := opens
  rw [readType]
  simp only [same]
  refine reads_then fun parameters rest => ?_
  obtain ⟨front, shorter⟩ := rest
  by_cases next : ahead? front = some .arrow
  · obtain ⟨mark, behind, rfl, isArrow⟩ := ahead?_eq_some.1 next
    simp only [takes_one_of_eq (by decide) isArrow, next, ne_eq, not_true_eq_false, false_and,
      or_false, exists_and_left, exists_eq_left']
    obtain ⟨lexeme, start, width, spaced⟩ := mark
    obtain rfl := isArrow
    exact reads_map (function parameters · false)
  · simp only [not_takes_of_ahead? next, false_and, exists_false, false_or, ne_eq, next,
      not_false_eq_true, true_and]
    have grouped : Reads _ type left ↔ _ := reads_grouped parameters
      ((Rest.behind token inside).through ⟨front, shorter⟩)
      ⟨.missingArrow, token.start, position size front - token.start⟩
    cases front with
    | nil => exact grouped
    | cons mark behind =>
      obtain ⟨lexeme, start, width, spaced⟩ := mark
      cases lexeme with
      | arrow => exact absurd rfl next
      | _ => exact grouped

/-- The type that a word with these further parts starts: the dynamic type and a variable are
one word, and only a class has arguments. -/
inductive WordReads (typeParameters : List String) (size : Nat) (word : String) :
    List String → List Token → TypeExpr → List Token → Prop
  /-- The word for the dynamic type. -/
  | dynamic {left : List Token} (same : word = "dynamic") :
      WordReads typeParameters size word [] left .dynamic left
  /-- A type variable, with its question mark. -/
  | typeParameter {after left : List Token} {nullable : Bool} (other : word ≠ "dynamic")
      (declared : word ∈ typeParameters) (mark : TakesQuestion nullable after left) :
      WordReads typeParameters size word [] after (.variable word nullable) left
  /-- A class with no angle bracket behind it. -/
  | plain {words : List String} {after left : List Token} {nullable : Bool}
      (isClass : NamesClass typeParameters word words) (bare : ahead? after ≠ some .less)
      (mark : TakesQuestion nullable after left) :
      WordReads typeParameters size word words after
        (.named (TypeExpr.className word words) [] nullable) left
  /-- A class with its arguments. -/
  | applied {words : List String} {after inside closed left : List Token}
      {arguments : List TypeArgument} {nullable : Bool}
      (isClass : NamesClass typeParameters word words) (opens : Takes [.less] after inside)
      (each : Reads (readArguments typeParameters size inside) arguments closed)
      (mark : TakesQuestion nullable closed left) :
      WordReads typeParameters size word words after
        (.named (TypeExpr.className word words) arguments nullable) left

/-- The one word of the dynamic type is the whole type. -/
theorem wordReads_dynamic {after left : List Token} {type : TypeExpr} :
    WordReads typeParameters size "dynamic" [] after type left ↔
      type = .dynamic ∧ after = left := by
  constructor
  · intro read
    cases read with
    | dynamic => exact ⟨rfl, rfl⟩
    | typeParameter other => exact absurd rfl other
    | plain isClass => exact absurd rfl (isClass rfl).1
    | applied isClass => exact absurd rfl (isClass rfl).1
  · rintro ⟨rfl, rfl⟩
    exact .dynamic rfl

/-- Behind the one word of a variable stands at most a question mark. -/
theorem wordReads_variable {word : String} {after left : List Token} {type : TypeExpr}
    (other : word ≠ "dynamic") (declared : word ∈ typeParameters) :
    WordReads typeParameters size word [] after type left ↔
      ∃ nullable, TakesQuestion nullable after left ∧ type = .variable word nullable := by
  constructor
  · intro read
    cases read with
    | dynamic same => exact absurd same other
    | typeParameter _ _ mark => exact ⟨_, mark, rfl⟩
    | plain isClass => exact absurd declared (isClass rfl).2
    | applied isClass => exact absurd declared (isClass rfl).2
  · rintro ⟨nullable, mark, rfl⟩
    exact .typeParameter other declared mark

/-- Behind the name of a class stand its arguments, if a bracket opens, and at most a question
mark. -/
theorem wordReads_class {word : String} {words : List String} {after left : List Token}
    {type : TypeExpr} (isClass : NamesClass typeParameters word words) :
    WordReads typeParameters size word words after type left ↔
      (ahead? after ≠ some .less ∧ ∃ nullable, TakesQuestion nullable after left ∧
        type = .named (TypeExpr.className word words) [] nullable) ∨
      ∃ inside, Takes [.less] after inside ∧ ∃ arguments closed,
        Reads (readArguments typeParameters size inside) arguments closed ∧
        ∃ nullable, TakesQuestion nullable closed left ∧
          type = .named (TypeExpr.className word words) arguments nullable := by
  constructor
  · intro read
    cases read with
    | dynamic same => exact absurd same (isClass rfl).1
    | typeParameter _ declared => exact absurd declared (isClass rfl).2
    | plain _ bare mark => exact .inl ⟨bare, _, mark, rfl⟩
    | applied _ opens each mark => exact .inr ⟨_, opens, _, _, each, _, mark, rfl⟩
  · rintro (⟨bare, nullable, mark, rfl⟩ | ⟨inside, opens, arguments, closed, each, applied⟩)
    · exact .plain isClass bare mark
    · obtain ⟨nullable, mark, rfl⟩ := applied
      exact .applied isClass opens each mark

/-- Behind the name of a class its arguments are read if a bracket opens, and then a question mark
if one is ahead. -/
theorem reads_class (typeParameters : List String) (size : Nat) {s left : List Token}
    (name : QualifiedName) (after : Rest s) {type : TypeExpr} :
    Reads
      (match after.next? with
        | some (⟨.less, _, _, _⟩, rest) => do
          let (arguments, inner) ← readArguments typeParameters size rest.left
          let (nullable, last) := takeQuestion (rest.through inner)
          return (.named name arguments nullable, last)
        | _ => return (.named name [] (takeQuestion after).1, (takeQuestion after).2) :
          Reading TypeExpr s) type left ↔
      (ahead? after.left ≠ some .less ∧ ∃ nullable, TakesQuestion nullable after.left left ∧
        type = .named name [] nullable) ∨
      ∃ inside, Takes [.less] after.left inside ∧ ∃ arguments closed,
        Reads (readArguments typeParameters size inside) arguments closed ∧
        ∃ nullable, TakesQuestion nullable closed left ∧ type = .named name arguments nullable := by
  obtain ⟨front, shorter⟩ := after
  by_cases next : ahead? front = some .less
  · obtain ⟨mark, inside, rfl, isLess⟩ := ahead?_eq_some.1 next
    simp only [takes_one_of_eq (by decide) isLess, next, ne_eq, not_true_eq_false, false_and,
      false_or, exists_eq_left']
    obtain ⟨lexeme, start, width, spaced⟩ := mark
    obtain rfl := isLess
    exact reads_then fun arguments _ => reads_question (named name arguments ·)
  · simp only [not_takes_of_ahead? next, false_and, exists_false, or_false, ne_eq, next,
      not_false_eq_true, true_and]
    cases front with
    | nil => exact reads_question (named name [] ·)
    | cons mark inside =>
      obtain ⟨lexeme, start, width, spaced⟩ := mark
      cases lexeme with
      | less => exact absurd rfl next
      | _ => exact reads_question (named name [] ·)

/-- A word starts a dotted name, and the name with what is behind it is a type. -/
theorem reads_readType_word {s behind left : List Token} {word : String} {type : TypeExpr}
    (first : Takes [.word word] s behind) :
    Reads (readType typeParameters size s) type left ↔
      ∃ words after, Takes (furtherParts words) behind after ∧ NameEnds after ∧
        WordReads typeParameters size word words after type left := by
  rw [takes_one (by simp)] at first
  obtain ⟨token, rfl, same⟩ := first
  have segments {words : List String} {after : List Token} :
      Reads (takeSegments size (s := token :: behind) behind (by simp)) words after ↔
        Takes (furtherParts words) behind after ∧ NameEnds after :=
    reads_takeSegments
  simp only [← and_assoc, ← segments]
  rw [readType]
  simp only [same]
  refine reads_then fun words rest => ?_
  dsimp only
  by_cases isDynamic : words = [] ∧ word = "dynamic"
  · rw [if_pos isDynamic, reads_pure]
    obtain ⟨rfl, rfl⟩ := isDynamic
    exact wordReads_dynamic.symm
  by_cases isVariable : words = [] ∧ word ∈ typeParameters
  · rw [if_neg isDynamic, if_pos isVariable, reads_question (TypeExpr.variable word ·)]
    obtain ⟨rfl, declared⟩ := isVariable
    exact (wordReads_variable (fun same => isDynamic ⟨rfl, same⟩) declared).symm
  · rw [if_neg isDynamic, if_neg isVariable]
    have isClass : NamesClass typeParameters word words := fun one =>
      ⟨fun same => isDynamic ⟨one, same⟩, fun inside => isVariable ⟨one, inside⟩⟩
    have read : Reads _ type left ↔ _ :=
      reads_class typeParameters size (TypeExpr.className word words) rest
    rw [wordReads_class isClass]
    -- the reader looks at the next token, and what it does then is the same for each lexeme
    rcases rest with ⟨- | ⟨⟨lexeme, start, width, spaced⟩, inside⟩, shorter⟩
    · exact read
    · cases lexeme <;> exact read

/-- A type starts with an opening parenthesis or a word. -/
theorem starts_of_reads_readType {s left : List Token} {type : TypeExpr}
    (read : Reads (readType typeParameters size s) type left) :
    (∃ inside, Takes [.leftParen] s inside) ∨ ∃ word behind, Takes [.word word] s behind := by
  cases s with
  | nil => exact absurd read not_reads_readType_nil
  | cons token rest =>
    obtain ⟨lexeme, start, width, spaced⟩ := token
    cases lexeme with
    | leftParen => exact .inl ⟨rest, (takes_one_cons (by decide)).2 ⟨rfl, rfl⟩⟩
    | word word => exact .inr ⟨word, rest, (takes_one_cons (by simp)).2 ⟨rfl, rfl⟩⟩
    | _ =>
      rw [readType] at read
      exact absurd read not_reads_error

end ViewGlue.TypeExpr
