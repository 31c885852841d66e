import ViewGlue.Manifest.Moment
import ViewGlue.Manifest.Token

/-!
# Documents

The tables, arrays and values that a manifest's tokens denote. A table is opened by a header or
an inline form, or comes about because a longer key or header passes through it. How it came
about decides what may still be added to it: a key is never given twice, and an inline table is
closed once it is written. Values are nested up to a limit, and a key has a limited number of
parts.
-/

namespace ViewGlue.Manifest

open Text (Rest)

/-- A quoted text and where it stands, in bytes, with its quotes. -/
structure Quoted where
  /-- What it says, with its escapes decoded. -/
  value : String
  /-- The offset of its first quote. -/
  start : Nat
  /-- Its bytes from the first quote to the last. -/
  length : Nat
  deriving DecidableEq, Repr

/-- How a table came about. -/
inductive Origin where
  /-- It has a header of its own, or is the document. -/
  | header
  /-- The header of a table inside it passed through it. -/
  | passed
  /-- A dotted key passed through it. -/
  | dotted
  /-- It was written inline and is closed. -/
  | inline
  deriving DecidableEq, Repr

/-- A value of a document. -/
inductive Node where
  /-- A quoted text. -/
  | text (quoted : Quoted)
  /-- A whole number. -/
  | integer (value : Int)
  /-- A number that is not whole or only looks like one; no field of a manifest takes it. -/
  | number
  /-- A truth value. -/
  | boolean (value : Bool)
  /-- A date or a time. -/
  | moment (moment : Moment)
  /-- The values of an array in brackets. -/
  | array (items : List Node)
  /-- The tables of headers in double brackets; the last one is still open. -/
  | tables (items : List Node)
  /-- A table and how it came about. -/
  | table (origin : Origin) (entries : List (String × Node))
  deriving Inhabited

/-- The entries of a table in the order in which they were given. -/
abbrev Entries : Type := List (String × Node)

namespace Entries

/-- The value under a key. -/
def find? (entries : Entries) (key : String) : Option Node :=
  match entries with
  | [] => none
  | entry :: rest => if entry.1 = key then some entry.2 else find? rest key

/-- Gives an existing key another value. -/
def replace (entries : Entries) (key : String) (node : Node) : Entries :=
  entries.map fun entry => if entry.1 = key then (key, node) else entry

/-- Adds a new key. -/
def add? (entries : Entries) (key : String) (node : Node) : Option Entries :=
  match entries.find? key with
  | some _ => none
  | none => some (entries ++ [(key, node)])

/-- A change to a table that may be refused. -/
abbrev Change : Type := Origin → Entries → Option (Origin × Entries)

/-- Changes the table that a path leads to. Missing tables on the way come about as `passing`;
a dotted key does not pass through a table with a header, and nothing passes through an inline
table or a value. -/
def changeAt (passing : Origin) (change : Change) : List String → Change
  | [], origin, entries => change origin entries
  | key :: path, origin, entries =>
    match entries.find? key with
    | none =>
      match changeAt passing change path passing [] with
      | some (inner, within) => some (origin, entries ++ [(key, .table inner within)])
      | none => none
    | some (.table inner within) =>
      if inner = .inline ∨ (passing = .dotted ∧ inner = .header) then none
      else
        match changeAt passing change path inner within with
        | some (inner, within) => some (origin, entries.replace key (.table inner within))
        | none => none
    | some (.tables items) =>
      match items.reverse with
      | .table inner within :: before =>
        match changeAt passing change path inner within with
        | some (inner, within) =>
          some (origin, entries.replace key (.tables (.table inner within :: before).reverse))
        | none => none
      | _ => none
    | some _ => none

/-- Gives a key a value in the table it belongs to. Only dotted keys add to a table that came
about through dotted keys. -/
def addValue (isDotted : Bool) (key : String) (node : Node) : Change :=
  fun origin entries =>
    if isDotted ≠ (origin == .dotted) then none
    else (entries.add? key node).map (origin, ·)

/-- Gives a key of one or more parts a value. -/
def addKey (key : List String) (node : Node) : Change :=
  match key.reverse with
  | [] => fun _ _ => none
  | last :: before =>
    changeAt .dotted (addValue (!before.isEmpty) last node) before.reverse

/-- Opens the table of a header. A table that came about in passing is opened once. -/
def openTable (key : String) : Change :=
  fun origin entries =>
    match entries.find? key with
    | none => some (origin, entries ++ [(key, .table .header [])])
    | some (.table .passed within) => some (origin, entries.replace key (.table .header within))
    | some _ => none

/-- Opens one more table of a header in double brackets. -/
def openItem (key : String) : Change :=
  fun origin entries =>
    match entries.find? key with
    | none => some (origin, entries ++ [(key, .tables [.table .header []])])
    | some (.tables items) =>
      some (origin, entries.replace key (.tables (items ++ [.table .header []])))
    | some _ => none

/-- Applies `change` where the last part of a header stands. -/
def underHeader (change : String → Change) (path : List String) : Change :=
  match path.reverse with
  | [] => fun _ _ => none
  | last :: before => changeAt .passed (change last) before.reverse

end Entries

/-- Whether a blank comes next. -/
def Token.isBlank (token : Token) : Bool := token.lexeme == .blank

/-- Whether a blank or a line end comes next. -/
def Token.isSpacing (token : Token) : Bool :=
  token.lexeme == .blank || token.lexeme == .newline

/-- The tokens behind the blanks. -/
def skipBlanks (s : List Token) : List Token := s.dropWhile Token.isBlank

/-- The tokens behind the blanks and line ends. -/
def skipSpacing (s : List Token) : List Token := s.dropWhile Token.isSpacing

/-- Skipping blanks adds nothing. -/
theorem length_skipBlanks_le (s : List Token) : (skipBlanks s).length ≤ s.length :=
  (s.dropWhile_sublist Token.isBlank).length_le

/-- Skipping blanks and line ends adds nothing. -/
theorem length_skipSpacing_le (s : List Token) : (skipSpacing s).length ≤ s.length :=
  (s.dropWhile_sublist Token.isSpacing).length_le

grind_pattern length_skipBlanks_le => skipBlanks s
grind_pattern length_skipSpacing_le => skipSpacing s

/-- The value that a word denotes. -/
def plainValue? (word : List Char) : Option Node :=
  if word = "true".toList then some (.boolean true)
  else if word = "false".toList then some (.boolean false)
  else
    match integer? word, Moment.read? word with
    | some value, _ => some (.integer value)
    | none, some moment => some (.moment moment)
    | none, none => if isReal word || isLoose word then some .number else none

/-- Characters of keys without quotes. -/
def isKeyCharacter (c : Char) : Bool :=
  Text.isLetter c || Text.isDigit c || c == '_' || c == '-'

/-- The part of a key that a lexeme is. -/
def keyPart? : Lexeme → Option String
  | .word characters =>
    if characters.all isKeyCharacter then some (String.ofList characters) else none
  | .quoted value 1 => some value
  | _ => none

/-- Reads the parts of a key: one or more with dots between them. -/
def readParts (s : List Token) : Option (List String × Rest s) :=
  match s with
  | [] => none
  | token :: rest =>
    match keyPart? token.lexeme, same : skipBlanks rest with
    | none, _ => none
    | some part, ⟨.dot, _, _⟩ :: left =>
      match readParts (skipBlanks left) with
      | some (parts, inner) => some (part :: parts, inner.within (by grind))
      | none => none
    | some part, left => some ([part], ⟨left, by grind⟩)
termination_by s.length
decreasing_by grind

/-- How many parts a key may have. -/
def partLimit : Nat := 80

/-- Reads a key. -/
def readKey (s : List Token) : Option (List String × Rest s) :=
  match readParts s with
  | none => none
  | some (parts, left) => if parts.length ≤ partLimit then some (parts, left) else none

/-- How deep arrays and inline tables may be nested. -/
def nestingLimit : Nat := 80

/-- The entries of an inline table. -/
def inlineEntries (members : List (List String × Node)) : Option (Origin × Entries) :=
  members.foldlM (fun table member => Entries.addKey member.1 member.2 table.1 table.2)
    (.inline, [])

/-- Reads the plain value that starts with a word. Words with a dot between them are one
value. -/
def readPlain (word : List Char) {token : Token} (rest : List Token) :
    Option (Node × Rest (token :: rest)) :=
  match rest with
  | ⟨.dot, _, _⟩ :: ⟨.word fraction, _, _⟩ :: left =>
    (plainValue? (word ++ '.' :: fraction)).map (·, ⟨left, by simp only [List.length_cons]; omega⟩)
  | rest => (plainValue? word).map (·, .behind _ rest)

mutual

/-- Reads a value in which `room` more values may be nested. -/
def readValue (room : Nat) (s : List Token) : Option (Node × Rest s) :=
  match s with
  | [] => none
  | ⟨lexeme, start, length⟩ :: rest =>
    match lexeme, room with
    | .quoted value _, _ => some (.text ⟨value, start, length⟩, .behind _ rest)
    | .word word, _ => readPlain word rest
    | .leftBracket, room + 1 =>
      match readItems room rest with
      | some (items, inner) => some (.array items, (Rest.behind _ rest).through inner)
      | none => none
    | .leftBrace, room + 1 =>
      match readMembers room rest with
      | some (members, inner) =>
        (inlineEntries members).map fun table =>
          (.table table.1 table.2, (Rest.behind _ rest).through inner)
      | none => none
    | _, _ => none
termination_by 2 * s.length
decreasing_by all_goals grind

/-- Reads the items of an array and its closing bracket. A comma may stand behind the last
item. -/
def readItems (room : Nat) (s : List Token) : Option (List Node × Rest s) :=
  match same : skipSpacing s with
  | ⟨.rightBracket, _, _⟩ :: left => some ([], ⟨left, by grind⟩)
  | _ =>
    match readValue room (skipSpacing s) with
    | none => none
    | some (item, after) =>
      match following : skipSpacing after.left with
      | ⟨.comma, _, _⟩ :: left =>
        match readItems room left with
        | some (items, inner) => some (item :: items, inner.within (by grind))
        | none => none
      | ⟨.rightBracket, _, _⟩ :: left => some ([item], ⟨left, by grind⟩)
      | _ => none
termination_by 2 * s.length + 1
decreasing_by all_goals grind

/-- Reads the members of an inline table and its closing brace. A comma may stand behind the
last member, and lines may end anywhere but inside a key. -/
def readMembers (room : Nat) (s : List Token) :
    Option (List (List String × Node) × Rest s) :=
  match same : skipSpacing s with
  | ⟨.rightBrace, _, _⟩ :: left => some ([], ⟨left, by grind⟩)
  | _ =>
    match readKey (skipSpacing s) with
    | none => none
    | some (key, afterKey) =>
      match equals : skipSpacing afterKey.left with
      | ⟨.equals, _, _⟩ :: behind =>
        match readValue room (skipSpacing behind) with
        | none => none
        | some (value, after) =>
          match following : skipSpacing after.left with
          | ⟨.comma, _, _⟩ :: left =>
            match readMembers room left with
            | some (members, inner) => some ((key, value) :: members, inner.within (by grind))
            | none => none
          | ⟨.rightBrace, _, _⟩ :: left => some ([(key, value)], ⟨left, by grind⟩)
          | _ => none
      | _ => none
termination_by 2 * s.length + 1
decreasing_by all_goals grind

end

/-- A line of a document. -/
inductive Line where
  /-- A table's header, in single brackets. -/
  | header (path : List String)
  /-- The header of another table of a list, in double brackets. -/
  | item (path : List String)
  /-- A key with its value. -/
  | member (key : List String) (value : Node)

/-- Reads the header of a table behind its opening brackets, which are as many as `brackets`
says, and closes them. -/
def readHeader (brackets : Nat) (s : List Token) : Option (List String × Rest s) :=
  match readKey (skipBlanks s) with
  | none => none
  | some (path, after) =>
    match brackets, same : skipBlanks after.left with
    | 1, ⟨.rightBracket, _, _⟩ :: left => some (path, ⟨left, by grind⟩)
    | 2, ⟨.rightBracket, _, _⟩ :: ⟨.rightBracket, _, _⟩ :: left => some (path, ⟨left, by grind⟩)
    | _, _ => none

/-- Reads a line that is not blank. -/
def readLine (s : List Token) : Option (Line × Rest s) :=
  match s with
  | ⟨.leftBracket, _, _⟩ :: ⟨.leftBracket, _, _⟩ :: rest =>
    (readHeader 2 rest).map fun (path, left) =>
      (.item path, left.within (by simp only [List.length_cons]; omega))
  | ⟨.leftBracket, _, _⟩ :: rest =>
    (readHeader 1 rest).map fun (path, left) => (.header path, left.within (by simp))
  | s =>
    match readKey s with
    | none => none
    | some (key, after) =>
      match same : skipBlanks after.left with
      | ⟨.equals, _, _⟩ :: behind =>
        (readValue nestingLimit (skipBlanks behind)).map fun (value, left) =>
          (.member key value, left.within (by grind))
      | _ => none

/-- Reads the lines of a document. -/
def readLines (s : List Token) : Option (List Line) :=
  match _same : skipSpacing s with
  | [] => some []
  | next :: others =>
    match readLine (next :: others) with
    | none => none
    | some (line, after) =>
      match _following : skipBlanks after.left with
      | [] => some [line]
      | ⟨.newline, _, _⟩ :: left => (readLines left).map (line :: ·)
      | _ => none
termination_by s.length
decreasing_by grind

/-- A document under construction: its entries and the header that is open. -/
structure Outline where
  /-- The path of the header that is open. -/
  header : List String
  /-- The entries of the whole document so far. -/
  entries : Entries

/-- Adds a line. -/
def Outline.add (outline : Outline) (line : Line) : Option Outline :=
  match line with
  | .header path =>
    (Entries.underHeader Entries.openTable path .header outline.entries).map fun table =>
      ⟨path, table.2⟩
  | .item path =>
    (Entries.underHeader Entries.openItem path .header outline.entries).map fun table =>
      ⟨path, table.2⟩
  | .member key value =>
    (Entries.changeAt .passed (Entries.addKey key value) outline.header .header
      outline.entries).map fun table => ⟨outline.header, table.2⟩

/-- The entries of the document that a text is. -/
def document? (text : String) : Option Entries := do
  let lines ← readLines (← tokens? text)
  let outline ← lines.foldlM Outline.add ⟨[], []⟩
  return outline.entries

end ViewGlue.Manifest
