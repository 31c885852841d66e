import ViewGlue.Text.Split

/-!
# Fragments of code

Generated code is a tree of lines before it is text. `Writer` writes a tree line by line and
keeps the level at which the next line stands; `Fragment.lines` says what the tree means, each
line with its depth.
-/

namespace ViewGlue.Code

/-- A piece of code. -/
inductive Fragment where
  /-- One line of text, without its break. -/
  | line (text : String)
  /-- An empty line. -/
  | blank
  /-- A header, a body one level deeper, and a closing line at the level of the header. -/
  | block (header : String) (body : List Fragment) (close : Option String)
  /-- A body one level deeper. -/
  | indented (body : List Fragment)
  deriving Inhabited

/-- A block that a brace closes. -/
def Fragment.braced (header : String) (body : List Fragment) : Fragment :=
  .block header body (some "\x7d")

/-- What one level of depth is written as. -/
def indentation : String := "    "

/-- As many indentations as there are levels. -/
def margin : Nat → String
  | 0 => ""
  | level + 1 => indentation ++ margin level

/-- A line of a tree: empty, or a text at a depth. -/
inductive Line where
  /-- A line without text, which gets no indentation. -/
  | empty
  /-- A text behind the indentation of its depth. -/
  | code (depth : Nat) (text : String)
  deriving DecidableEq, Repr

/-- A line with its margin and its end. -/
def Line.render : Line → String
  | empty => "\n"
  | code depth text => margin depth ++ text ++ "\n"

mutual

/-- The lines of a fragment that stands at a depth. -/
def Fragment.lines (depth : Nat) : Fragment → List Line
  | .line text => [.code depth text]
  | .blank => [.empty]
  | .block header body close =>
    .code depth header :: listLines (depth + 1) body ++
      (close.map (Line.code depth)).toList
  | .indented body => listLines (depth + 1) body

/-- The lines of fragments that stand at a depth. -/
def listLines (depth : Nat) : List Fragment → List Line
  | [] => []
  | fragment :: rest => fragment.lines depth ++ listLines depth rest

end

/-- Text under construction and the level of its next line. -/
structure Writer where
  /-- How many levels deep the next line stands. -/
  level : Nat := 0
  /-- What was written so far. -/
  text : String := ""
  deriving DecidableEq, Repr

namespace Writer

/-- Writes a line at the level. -/
def line (writer : Writer) (s : String) : Writer :=
  { writer with text := writer.text ++ (margin writer.level ++ s ++ "\n") }

/-- Writes an empty line. -/
def blank (writer : Writer) : Writer :=
  { writer with text := writer.text ++ "\n" }

/-- Goes one level deeper. -/
def deeper (writer : Writer) : Writer :=
  { writer with level := writer.level + 1 }

/-- Goes one level back; there is none above the first. -/
def shallower (writer : Writer) : Writer :=
  { writer with level := writer.level - 1 }

mutual

/-- Writes a fragment. -/
def write (writer : Writer) : Fragment → Writer
  | .line s => writer.line s
  | .blank => writer.blank
  | .block header body close =>
    let inner := ((writer.line header).deeper.writeAll body).shallower
    match close with
    | some close => inner.line close
    | none => inner
  | .indented body => (writer.deeper.writeAll body).shallower

/-- Writes fragments one after another. -/
def writeAll (writer : Writer) : List Fragment → Writer
  | [] => writer
  | fragment :: rest => (writer.write fragment).writeAll rest

end

end Writer

/-- The text of fragments at the first level. -/
def render (fragments : List Fragment) : String :=
  (Writer.writeAll {} fragments).text

/-- Modifiers, each with a blank behind it. -/
def modifierText (modifiers : List String) : String :=
  Text.concat (modifiers.map (· ++ " "))

/-- The first line of every generated file. -/
def generatedHeader : String := "// Code generated by viewbridge. DO NOT EDIT."

/-- A file's text under a first line, with an empty line between them. -/
def withHeader (header content : String) : String :=
  if content = "" then header ++ "\n" else header ++ "\n\n" ++ content

end ViewGlue.Code
