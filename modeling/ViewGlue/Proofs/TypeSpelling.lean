import ViewGlue.Proofs.TypeGrammar

/-!
# Texts and their lexemes

Cutting a text into lexemes is the inverse of spelling: every text spells its own lexemes and no
other list of lexemes (`spells_iff`). The tokens also remember the blanks before them, and no dot
among them has any exactly if the text has no blank directly before a dot.
-/

namespace ViewGlue.TypeExpr

open Text

/-! ## One lexeme -/

/-- A character that is no blank and starts neither a word nor an arrow is a lexeme. -/
theorem scan_mark {c : Char} {s : List Char} (solid : isPlainBlank c = false)
    (noWord : startsName c = false) (noArrow : ¬(c = '-' ∧ s.head? = some '>')) (offset : Nat)
    (spaced : Bool) :
    scan offset spaced (c :: s) =
      ⟨.ofChar c, offset, c.utf8Size, spaced⟩ :: scan (offset + c.utf8Size) false s := by
  rw [scan]
  simp only [solid, noWord, noArrow, Bool.false_eq_true, ↓reduceIte]

/-- A character outside the marks stands for itself. -/
theorem ofChar_of_notMem {c : Char} (outside : c ∉ Lexeme.marks) : Lexeme.ofChar c = .other c := by
  simp only [Lexeme.marks, List.mem_cons, List.not_mem_nil, or_false, not_or] at outside
  unfold Lexeme.ofChar
  split <;> simp_all

/-- What continues a name is no blank. -/
theorem isPlainBlank_of_continuesName {c : Char} (continues : continuesName c = true) :
    isPlainBlank c = false := by
  cases blank : isPlainBlank c with
  | false => rfl
  | true =>
    simp only [isPlainBlank, Bool.or_eq_true, beq_iff_eq] at blank
    rcases blank with (((rfl | rfl) | rfl) | rfl) | rfl <;> exact absurd continues (by decide)

/-- What starts a name is no blank. -/
theorem isPlainBlank_of_startsName {c : Char} (starts : startsName c = true) :
    isPlainBlank c = false :=
  isPlainBlank_of_continuesName (continuesName_of_startsName starts)

/-- An identifier in front of characters that do not continue it is taken as one word. -/
theorem scan_word {text : String} {s : List Char} (identifier : isIdentifier text = true)
    (stops : ∀ c ∈ s.head?, continuesName c = false) (offset : Nat) (spaced : Bool) :
    ∃ width after,
      scan offset spaced (text.toList ++ s) =
        ⟨.word text, offset, width, spaced⟩ :: scan after false s := by
  cases letters : text.toList with
  | nil => simp [isIdentifier, letters, isIdentifierChars] at identifier
  | cons c rest =>
    simp only [isIdentifier, letters, isIdentifierChars, Bool.and_eq_true] at identifier
    obtain ⟨starts, continues⟩ := identifier
    have continues : ∀ d ∈ rest, continuesName d = true := List.all_eq_true.1 continues
    have taken : (rest ++ s).takeWhile continuesName = rest := by
      rw [List.takeWhile_append_of_pos continues]
      cases s with
      | nil => simp
      | cons d s => simp [stops d rfl]
    have dropped : (rest ++ s).dropWhile continuesName = s := by
      rw [List.dropWhile_append_of_pos continues]
      cases s with
      | nil => simp
      | cons d s => simp [stops d rfl]
    have same : String.ofList (c :: rest) = text := by rw [← letters, String.ofList_toList]
    refine ⟨c.utf8Size, offset + byteLength (c :: rest), ?_⟩
    rw [List.cons_append, scan]
    simp only [isPlainBlank_of_startsName starts, starts, Bool.false_eq_true, ↓reduceIte, taken,
      dropped, same]

/-- A lexeme that is complete before the characters behind it is taken as one token. -/
theorem scan_lexeme {lexeme : Lexeme} {s : List Char} (complete : lexeme.EndsBefore s)
    (offset : Nat) (spaced : Bool) :
    ∃ start width after,
      scan offset spaced (lexeme.chars ++ s) =
        ⟨lexeme, start, width, spaced⟩ :: scan after false s := by
  have mark : ∀ c ∈ Lexeme.marks,
      ∃ start width after, scan offset spaced (c :: s) =
        ⟨.ofChar c, start, width, spaced⟩ :: scan after false s := by
    intro c inside
    have solid : isPlainBlank c = false ∧ startsName c = false ∧ c ≠ '-' := by
      simp only [Lexeme.marks, List.mem_cons, List.not_mem_nil, or_false] at inside
      rcases inside with rfl | rfl | rfl | rfl | rfl | rfl | rfl | rfl <;> decide
    exact ⟨_, _, _, scan_mark solid.1 solid.2.1 (fun arrow => solid.2.2 arrow.1) offset spaced⟩
  cases lexeme with
  | word text =>
    obtain ⟨width, after, taken⟩ := scan_word complete.1 complete.2 offset spaced
    exact ⟨_, _, _, taken⟩
  | leftParen => exact mark '(' (by decide)
  | rightParen => exact mark ')' (by decide)
  | less => exact mark '<' (by decide)
  | greater => exact mark '>' (by decide)
  | comma => exact mark ',' (by decide)
  | dot => exact mark '.' (by decide)
  | question => exact mark '?' (by decide)
  | star => exact mark '*' (by decide)
  | arrow =>
    refine ⟨offset, '-'.utf8Size, offset + '-'.utf8Size + '>'.utf8Size, ?_⟩
    rw [show Lexeme.arrow.chars ++ s = '-' :: '>' :: s from rfl, scan]
    simp [isPlainBlank, startsName, isLetter]
  | other c =>
    obtain ⟨solid, noWord, outside, noArrow⟩ := complete
    refine ⟨offset, c.utf8Size, offset + c.utf8Size, ?_⟩
    rw [show (Lexeme.other c).chars ++ s = c :: s from rfl,
      scan_mark solid noWord noArrow offset spaced, ofChar_of_notMem outside]

/-! ## All lexemes -/

/-- The lexemes that characters spell are those they are cut into. -/
theorem Spells.scan_eq {lexemes : List Lexeme} {s : List Char} (spells : Spells lexemes s)
    (offset : Nat) (spaced : Bool) : (scan offset spaced s).map Token.lexeme = lexemes := by
  induction spells generalizing offset spaced with
  | nothing => simp [scan]
  | blank plain behind ih =>
    rw [scan, if_pos plain]
    exact ih _ _
  | lexeme complete behind ih =>
    obtain ⟨start, width, after, taken⟩ := scan_lexeme complete offset spaced
    rw [taken, List.map_cons, ih]

/-- The lexeme of a character has this one character. -/
theorem chars_ofChar (c : Char) : (Lexeme.ofChar c).chars = [c] := by
  unfold Lexeme.ofChar
  split <;> rfl

/-- The lexeme of a character that is no blank and starts neither a word nor an arrow is
complete. -/
theorem endsBefore_ofChar {c : Char} {s : List Char} (solid : isPlainBlank c = false)
    (noWord : startsName c = false) (noArrow : ¬(c = '-' ∧ s.head? = some '>')) :
    (Lexeme.ofChar c).EndsBefore s := by
  by_cases inside : c ∈ Lexeme.marks
  · simp only [Lexeme.marks, List.mem_cons, List.not_mem_nil, or_false] at inside
    rcases inside with rfl | rfl | rfl | rfl | rfl | rfl | rfl | rfl <;> trivial
  · rw [ofChar_of_notMem inside]
    exact ⟨solid, noWord, inside, noArrow⟩

/-- What is left behind a word does not continue it. -/
theorem head?_dropWhile_continuesName (s : List Char) :
    ∀ c ∈ (s.dropWhile continuesName).head?, continuesName c = false := by
  intro c first
  cases stopped : continuesName c with
  | false => rfl
  | true =>
    have fails := List.head?_dropWhile_not continuesName s
    rw [Option.mem_def.1 first] at fails
    exact absurd stopped (by simp [fails])

/-- Characters spell the lexemes they are cut into. -/
theorem spells_scan (offset : Nat) (spaced : Bool) (s : List Char) :
    Spells ((scan offset spaced s).map Token.lexeme) s := by
  fun_induction scan offset spaced s with
  | case1 => exact .nothing
  | case2 offset spaced c rest plain ih => exact .blank plain ih
  | case3 offset spaced c rest plain starts word ih =>
    have letters : (Lexeme.word (String.ofList word)).chars ++ rest.dropWhile continuesName =
        c :: rest := by
      simp [Lexeme.chars, word, List.takeWhile_append_dropWhile]
    rw [List.map_cons, ← letters]
    refine .lexeme ⟨?_, head?_dropWhile_continuesName rest⟩ ih
    simp only [isIdentifier, String.toList_ofList, word, isIdentifierChars, starts, Bool.true_and]
    exact List.all_takeWhile
  | case4 offset spaced c rest plain starts arrow ih =>
    obtain ⟨rfl, next⟩ := arrow
    cases rest with
    | nil => simp at next
    | cons d rest =>
      obtain rfl : d = '>' := by simpa using next
      have complete : Lexeme.arrow.EndsBefore rest := trivial
      exact .lexeme complete ih
  | case5 offset spaced c rest plain starts arrow ih =>
    have solid : isPlainBlank c = false := by simpa using plain
    have noWord : startsName c = false := by simpa using starts
    have spelled := Spells.lexeme (endsBefore_ofChar solid noWord arrow) ih
    rwa [chars_ofChar] at spelled

/-- A text spells its own lexemes and no others. -/
theorem spells_iff {lexemes : List Lexeme} {text : String} :
    Spells lexemes text.toList ↔ TypeExpr.lexemes text = lexemes := by
  constructor
  · intro spells
    exact spells.scan_eq 0 false
  · rintro rfl
    exact spells_scan 0 false text.toList

/-! ## Blanks before dots -/

/-- The dots among the tokens have no blanks before them. -/
def DotsFollow (tokens : List Token) : Prop :=
  ∀ token ∈ tokens, token.lexeme = .dot → token.spaced = false

/-- A character that is no blank does not matter for the dots behind it. -/
theorem dotsUnspaced_cons {c : Char} (solid : isPlainBlank c = false) (s : List Char) :
    dotsUnspaced (c :: s) = dotsUnspaced s := by
  simp [dotsUnspaced, solid]

/-- Characters that are no blanks do not matter for the dots behind them. -/
theorem dotsUnspaced_append {solids : List Char}
    (solid : ∀ c ∈ solids, isPlainBlank c = false) (s : List Char) :
    dotsUnspaced (solids ++ s) = dotsUnspaced s := by
  induction solids with
  | nil => rfl
  | cons c rest ih =>
    rw [List.cons_append, dotsUnspaced_cons (solid c List.mem_cons_self)]
    exact ih fun d inside => solid d (List.mem_cons_of_mem c inside)

/-- The first of several tokens and the others are looked at apart. -/
@[simp]
theorem dotsFollow_cons {token : Token} {others : List Token} :
    DotsFollow (token :: others) ↔
      (token.lexeme = .dot → token.spaced = false) ∧ DotsFollow others := by
  simp [DotsFollow]

/-- Two characters have lexemes of their own. -/
theorem ofChar_inj {c d : Char} : Lexeme.ofChar c = .ofChar d ↔ c = d := by
  constructor
  · intro same
    have letters := congrArg Lexeme.chars same
    rw [chars_ofChar, chars_ofChar] at letters
    exact List.singleton_inj.1 letters
  · rintro rfl
    rfl

/-- Only the dot is the lexeme of a dot. -/
theorem ofChar_eq_dot {c : Char} : Lexeme.ofChar c = .dot ↔ c = '.' :=
  ofChar_inj (d := '.')

/-- The dots among the tokens have no blanks before them exactly if no blank stands directly
before a dot, the blank that was just passed included. -/
theorem dotsFollow_scan (offset : Nat) (spaced : Bool) (s : List Char) :
    DotsFollow (scan offset spaced s) ↔
      (spaced = true → s.head? ≠ some '.') ∧ dotsUnspaced s = true := by
  fun_induction scan offset spaced s with
  | case1 => simp [DotsFollow, dotsUnspaced]
  | case2 offset spaced c rest plain ih =>
    have differs : c ≠ '.' := by
      rintro rfl
      exact absurd plain (by decide)
    simp [ih, dotsUnspaced, plain, differs]
  | case3 offset spaced c rest plain starts word ih =>
    have differs : c ≠ '.' := by
      rintro rfl
      exact absurd starts (by decide)
    have solid : ∀ d ∈ c :: rest.takeWhile continuesName, isPlainBlank d = false := by
      intro d inside
      rcases List.mem_cons.1 inside with rfl | later
      · exact isPlainBlank_of_startsName starts
      · exact isPlainBlank_of_continuesName (List.all_eq_true.1 List.all_takeWhile d later)
    have behind := dotsUnspaced_append solid (rest.dropWhile continuesName)
    rw [List.cons_append, List.takeWhile_append_dropWhile] at behind
    simp [ih, behind, differs]
  | case4 offset spaced c rest plain starts arrow ih =>
    obtain ⟨rfl, next⟩ := arrow
    cases rest with
    | nil => simp at next
    | cons d rest =>
      obtain rfl : d = '>' := by simpa using next
      have solid : ∀ d ∈ ['-', '>'], isPlainBlank d = false := by simp [isPlainBlank]
      have behind : dotsUnspaced ('-' :: '>' :: rest) = dotsUnspaced rest :=
        dotsUnspaced_append solid rest
      simp only [List.tail_cons, Bool.false_eq_true, false_implies, true_and] at ih
      simp [behind, ih]
  | case5 offset spaced c rest plain starts arrow ih =>
    have solid : isPlainBlank c = false := by simpa using plain
    simp only [dotsFollow_cons, ofChar_eq_dot, ih, dotsUnspaced_cons solid]
    constructor
    · rintro ⟨dot, -, others⟩
      exact ⟨fun blank same => by simp_all, others⟩
    · rintro ⟨dot, others⟩
      refine ⟨fun same => ?_, fun passed => absurd passed Bool.false_ne_true, others⟩
      cases spaced with
      | false => rfl
      | true => exact absurd (by simp [same]) (dot rfl)

/-- The dots of a text have no blanks before them exactly if no blank stands directly before
a dot. -/
theorem dotsFollow_tokens (text : String) :
    DotsFollow (tokens text) ↔ dotsUnspaced text.toList = true := by
  rw [tokens, dotsFollow_scan]
  simp

end ViewGlue.TypeExpr
