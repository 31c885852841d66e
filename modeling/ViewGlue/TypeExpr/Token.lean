import ViewGlue.Text.Blank
import ViewGlue.Text.Identifier

/-!
# Tokens of type expressions

A written type is a list of words and marks with blanks between them. A token remembers where
it starts, so that an error can point at it, and whether blanks stand before it, because a dot
continues a name only when it directly follows it. Offsets count the bytes of the text.
-/

namespace ViewGlue.TypeExpr

/-- What a token says. -/
inductive Lexeme where
  /-- An identifier, as long as it can be. -/
  | word (text : String)
  | leftParen
  | rightParen
  | less
  | greater
  | comma
  | dot
  | question
  | star
  | arrow
  /-- A character that no type contains. -/
  | other (c : Char)
  deriving DecidableEq, Repr

/-- The mark that a character stands for. -/
def Lexeme.ofChar : Char → Lexeme
  | '(' => leftParen
  | ')' => rightParen
  | '<' => less
  | '>' => greater
  | ',' => comma
  | '.' => dot
  | '?' => question
  | '*' => star
  | c => other c

/-- A lexeme in its place. -/
structure Token where
  /-- What it says. -/
  lexeme : Lexeme
  /-- The offset of its first character. -/
  start : Nat
  /-- The bytes of its first character. -/
  width : Nat
  /-- Blanks stand directly before it. -/
  spaced : Bool
  deriving DecidableEq, Repr

/-- The bytes that the characters take. -/
def byteLength : List Char → Nat
  | [] => 0
  | c :: rest => c.utf8Size + byteLength rest

/-- The tokens of the characters from an offset on, where `spaced` says that a blank was just
passed. -/
def scan (offset : Nat) (spaced : Bool) : List Char → List Token
  | [] => []
  | c :: rest =>
    if Text.isPlainBlank c then scan (offset + c.utf8Size) true rest
    else if Text.startsName c then
      let word := c :: rest.takeWhile Text.continuesName
      ⟨.word (String.ofList word), offset, c.utf8Size, spaced⟩ ::
        scan (offset + byteLength word) false (rest.dropWhile Text.continuesName)
    else if c = '-' ∧ rest.head? = some '>' then
      ⟨.arrow, offset, c.utf8Size, spaced⟩ ::
        scan (offset + c.utf8Size + '>'.utf8Size) false rest.tail
    else ⟨.ofChar c, offset, c.utf8Size, spaced⟩ :: scan (offset + c.utf8Size) false rest
termination_by s => s.length
decreasing_by
  · simp
  · have shorter := (rest.dropWhile_sublist Text.continuesName).length_le
    simp only [List.length_cons]
    omega
  · have shorter := rest.tail_sublist.length_le
    simp only [List.length_cons]
    omega
  · simp

/-- The tokens of a text. -/
def tokens (text : String) : List Token :=
  scan 0 false text.toList

end ViewGlue.TypeExpr
