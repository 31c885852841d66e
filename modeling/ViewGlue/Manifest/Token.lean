import ViewGlue.Manifest.Number
import ViewGlue.Text.Rest
import ViewGlue.TypeExpr.Token

/-!
# Tokens of manifests

A manifest is a document of tables, arrays and plain values. Its tokens are words, quoted
texts, marks, blanks and line ends; comments count as blanks. A quoted text is decoded as it
is read. Whatever cannot be a token makes the whole text no document.
-/

namespace ViewGlue.Manifest

open Text (Rest)
open TypeExpr (byteLength)

/-- What a token says. -/
inductive Lexeme where
  /-- Characters that no mark interrupts, the first no quote and the last no blank. -/
  | word (characters : List Char)
  /-- A quoted text, with the number of quotes at either end. -/
  | quoted (value : String) (quotes : Nat)
  /-- The mark between the parts of a key. -/
  | dot
  /-- The mark between a key and its value. -/
  | equals
  /-- The mark between values. -/
  | comma
  /-- Opens an array or a header. -/
  | leftBracket
  /-- Closes an array or a header. -/
  | rightBracket
  /-- Opens an inline table. -/
  | leftBrace
  /-- Closes an inline table. -/
  | rightBrace
  /-- Spaces and tabs, or a comment. -/
  | blank
  /-- The end of a line. -/
  | newline
  deriving DecidableEq, Repr

/-- A lexeme in its place. Offset and length count bytes. -/
structure Token where
  /-- What it says. -/
  lexeme : Lexeme
  /-- The offset of its first character. -/
  start : Nat
  /-- Its bytes. -/
  length : Nat
  deriving DecidableEq, Repr

/-- A space or a tab. -/
def isSpace (c : Char) : Bool := c == ' ' || c == '\t'

/-- Characters that end a word. -/
def endsWord (c : Char) : Bool :=
  isSpace c || ['\n', '\r', '#', '.', '=', ',', '[', ']', '\x7b', '\x7d'].contains c

/-- Characters that may stand in comments and quoted texts: none of the control characters but
the tab. -/
def isPrintable (c : Char) : Bool :=
  c == '\t' || (0x20 ≤ c.toNat && c.toNat ≠ 0x7F)

/-- The character with a number in base 16. -/
def escapedChar? (digits : List Char) : Option Char :=
  match number? 16 0 digits with
  | some code => if code.isValidChar then some (Char.ofNat code) else none
  | none => none

/-- How far a text with escapes is decoded. -/
inductive Decoding where
  /-- Between characters. -/
  | plain
  /-- Behind a backslash that ends its line; blanks are left out, and a line must end before
  anything else stands there. -/
  | joining (lineEnded : Bool)

/-- Decodes the inside of a text with escapes. Only a text of several lines may hold line ends
and backslashes that join lines. -/
def decode (several : Bool) : Decoding → List Char → Option (List Char)
  | .joining true, [] => some []
  | .joining false, [] => none
  | .joining _, '\n' :: rest => decode several (.joining true) rest
  | .joining _, '\r' :: '\n' :: rest => decode several (.joining true) rest
  | .joining ended, ' ' :: rest => decode several (.joining ended) rest
  | .joining ended, '\t' :: rest => decode several (.joining ended) rest
  | .joining false, _ :: _ => none
  | _, [] => some []
  | _, '\\' :: 'b' :: rest => (decode several .plain rest).map ('\x08' :: ·)
  | _, '\\' :: 't' :: rest => (decode several .plain rest).map ('\t' :: ·)
  | _, '\\' :: 'n' :: rest => (decode several .plain rest).map ('\n' :: ·)
  | _, '\\' :: 'f' :: rest => (decode several .plain rest).map ('\x0c' :: ·)
  | _, '\\' :: 'r' :: rest => (decode several .plain rest).map ('\r' :: ·)
  | _, '\\' :: 'e' :: rest => (decode several .plain rest).map ('\x1b' :: ·)
  | _, '\\' :: '"' :: rest => (decode several .plain rest).map ('"' :: ·)
  | _, '\\' :: '\\' :: rest => (decode several .plain rest).map ('\\' :: ·)
  | _, '\\' :: 'x' :: a :: b :: rest =>
    match escapedChar? [a, b] with
    | some c => (decode several .plain rest).map (c :: ·)
    | none => none
  | _, '\\' :: 'u' :: a :: b :: c :: d :: rest =>
    match escapedChar? [a, b, c, d] with
    | some c => (decode several .plain rest).map (c :: ·)
    | none => none
  | _, '\\' :: 'U' :: a :: b :: c :: d :: e :: f :: g :: h :: rest =>
    match escapedChar? [a, b, c, d, e, f, g, h] with
    | some c => (decode several .plain rest).map (c :: ·)
    | none => none
  | _, '\\' :: rest => if several then decode several (.joining false) rest else none
  | _, '\n' :: rest => if several then (decode several .plain rest).map ('\n' :: ·) else none
  | _, '\r' :: '\n' :: rest =>
    if several then (decode several .plain rest).map ('\r' :: '\n' :: ·) else none
  | _, c :: rest =>
    if isPrintable c then (decode several .plain rest).map (c :: ·) else none

/-- The inside of a text without escapes, which stands as it is. -/
def verbatim (several : Bool) : List Char → Option (List Char)
  | [] => some []
  | '\n' :: rest => if several then (verbatim several rest).map ('\n' :: ·) else none
  | '\r' :: '\n' :: rest =>
    if several then (verbatim several rest).map ('\r' :: '\n' :: ·) else none
  | c :: rest => if isPrintable c then (verbatim several rest).map (c :: ·) else none

/-- A line end directly behind the opening quotes of a text of several lines does not count. -/
def withoutFirstLineEnd : List Char → List Char
  | '\n' :: rest => rest
  | '\r' :: '\n' :: rest => rest
  | s => s

/-- The characters up to the closing quote, and what is left behind it. A backslash keeps the
character behind it from closing a text with escapes. -/
def insideQuotes (quote : Char) (escapes : Bool) :
    (s : List Char) → Option (List Char × Rest s)
  | [] => none
  | [c] => if c = quote then some ([], .behind c []) else none
  | c :: d :: rest =>
    if c = quote then some ([], .behind c (d :: rest))
    else if escapes && c == '\\' then
      match insideQuotes quote escapes rest with
      | some (inside, left) =>
        some (c :: d :: inside, left.within (by simp only [List.length_cons]; omega))
      | none => none
    else
      match insideQuotes quote escapes (d :: rest) with
      | some (inside, left) => some (c :: inside, left.within (by simp))
      | none => none

/-- The characters up to three closing quotes, and what is left behind them. Of four or five
quotes in a row the first ones stand inside. -/
def insideThreeQuotes (quote : Char) (escapes : Bool) :
    (s : List Char) → Option (List Char × Rest s)
  | a :: b :: c :: rest =>
    if a = quote ∧ b = quote ∧ c = quote then
      match rest with
      | d :: e :: left =>
        if d = quote ∧ e = quote then some ([d, e], ⟨left, by simp only [List.length_cons]; omega⟩)
        else if d = quote then some ([d], ⟨e :: left, by simp⟩)
        else some ([], ⟨d :: e :: left, by simp⟩)
      | [d] => if d = quote then some ([d], ⟨[], by simp⟩) else some ([], ⟨[d], by simp⟩)
      | [] => some ([], ⟨[], by simp⟩)
    else if escapes && a == '\\' then
      match insideThreeQuotes quote escapes (c :: rest) with
      | some (inside, left) => some (a :: b :: inside, left.within (by simp))
      | none => none
    else
      match insideThreeQuotes quote escapes (b :: c :: rest) with
      | some (inside, left) => some (a :: inside, left.within (by simp))
      | none => none
  | _ => none

/-- Decodes the inside of a quoted text. Texts in double quotes have escapes. -/
def quotedValue (escapes several : Bool) (inside : List Char) : Option String :=
  let inside := if several then withoutFirstLineEnd inside else inside
  (if escapes then decode several .plain inside else verbatim several inside).map
    String.ofList

/-- Reads a quoted text that starts with the quote `quote`, with the bytes it takes. -/
def quoted? (quote : Char) : (s : List Char) → Option ((Lexeme × Nat) × Rest s)
  | a :: b :: c :: rest =>
    if a = quote ∧ b = quote ∧ c = quote then
      match insideThreeQuotes quote (quote == '"') rest with
      | some (inside, left) =>
        (quotedValue (quote == '"') true inside).map fun value =>
          ((.quoted value 3, 6 + byteLength inside),
            left.within (by simp only [List.length_cons]; omega))
      | none => none
    else
      match insideQuotes quote (quote == '"') (b :: c :: rest) with
      | some (inside, left) =>
        (quotedValue (quote == '"') false inside).map fun value =>
          ((.quoted value 1, 2 + byteLength inside), left.within (by simp))
      | none => none
  | [_, b] => if b = quote then some ((.quoted "" 1, 2), ⟨[], by simp⟩) else none
  | _ => none

/-- Takes the characters that satisfy `inside` behind a first one. -/
def run (inside : Char → Bool) (c : Char) (rest : List Char) : List Char × Rest (c :: rest) :=
  (c :: rest.takeWhile inside,
    ⟨rest.dropWhile inside, by
      have shorter := (rest.dropWhile_sublist inside).length_le
      simp only [List.length_cons]
      omega⟩)

/-- A comment up to the end of its line. A carriage return before the line end is no part of
it. -/
def comment? (c : Char) (rest : List Char) : Option ((Lexeme × Nat) × Rest (c :: rest)) :=
  let (taken, left) := run (fun d => d != '\n' && d != '\r') c rest
  if taken.all isPrintable then some ((.blank, byteLength taken), left) else none

/-- The mark that a character is. -/
def mark? : Char → Option Lexeme
  | '.' => some .dot
  | '=' => some .equals
  | ',' => some .comma
  | '[' => some .leftBracket
  | ']' => some .rightBracket
  | '\x7b' => some .leftBrace
  | '\x7d' => some .rightBrace
  | _ => none

/-- Characters that a word starts with. -/
def startsWord (c : Char) : Bool := !endsWord c && c != '"' && c != '\''

/-- Takes a word. What looks like several words with blanks between them is one word, as a date
and its time are. -/
def word (c : Char) (rest : List Char) : List Char × Rest (c :: rest) :=
  let (taken, left) := run (! endsWord ·) c rest
  match same : left.left.dropWhile isSpace with
  | [] => (taken, left)
  | d :: more =>
    have shorter : more.length < rest.length := by
      have fewer := (left.left.dropWhile_sublist isSpace).length_le
      have taking := left.shorter
      simp only [same, List.length_cons] at fewer taking
      omega
    if startsWord d then
      let (others, behind) := word d more
      (taken ++ left.left.takeWhile isSpace ++ others,
        behind.within (by simp only [List.length_cons]; omega))
    else (taken, left)
termination_by rest.length

/-- The first lexeme, the bytes it takes, and what is left behind it. -/
def lexeme? : (s : List Char) → Option ((Lexeme × Nat) × Rest s)
  | [] => none
  | '\r' :: '\n' :: rest => some ((.newline, 2), ⟨rest, by simp only [List.length_cons]; omega⟩)
  | c :: rest =>
    if c = '\n' then some ((.newline, 1), .behind c rest)
    else if c = '\r' then none
    else if isSpace c then
      let (taken, left) := run isSpace c rest
      some ((.blank, byteLength taken), left)
    else if c = '#' then comment? c rest
    else if c = '"' ∨ c = '\'' then quoted? c (c :: rest)
    else
      match mark? c with
      | some mark => some ((mark, 1), .behind c rest)
      | none =>
        let (taken, left) := word c rest
        some ((.word taken, byteLength taken), left)

/-- The tokens of the characters from an offset on. -/
def scan (offset : Nat) (s : List Char) : Option (List Token) :=
  match s with
  | [] => some []
  | s =>
    match lexeme? s with
    | none => none
    | some ((lexeme, length), rest) =>
      match scan (offset + length) rest.left with
      | none => none
      | some tokens => some (⟨lexeme, offset, length⟩ :: tokens)
termination_by s.length
decreasing_by grind

/-- The tokens of a text, behind the byte order mark if it has one. -/
def tokens? (text : String) : Option (List Token) :=
  match text.toList with
  | '\ufeff' :: rest => scan '\ufeff'.utf8Size rest
  | s => scan 0 s

end ViewGlue.Manifest
