import ViewGlue.Text.Rest
import ViewGlue.TypeExpr.Basic
import ViewGlue.TypeExpr.Token

/-!
# Reading type expressions

A type is read from its tokens:

    type      ::= 'dynamic' | variable ['?'] | class ['?'] | function | '(' type ')' ['?']
    class     ::= word {'.' word} ['<' argument {',' argument} '>']
    function  ::= '(' [type {',' type}] ')' '->' type
    argument  ::= '*' | ['out' | 'in'] type

A single word is the dynamic type if it says so, a type variable if the declaration has one
of this name, and a class otherwise. `out` and `in` are markers when a type follows them and
class names when none does. Every reader returns the tokens it left, with a proof that it took
some, so reading terminates.
-/

namespace ViewGlue.TypeExpr

open Text (Rest)

/-- Why a text is not a type. -/
inductive Reason where
  /-- A type has to start here, and nothing does. -/
  | expectedType
  /-- No type starts with this character. -/
  | unexpectedCharacter
  /-- A name has to stand here. -/
  | expectedIdentifier
  /-- This mark has to stand here. -/
  | expectedMark (c : Char)
  /-- Parentheses with no type or several in them need an arrow behind them. -/
  | missingArrow
  /-- The type is complete, and something stands behind it. -/
  | trailingInput
  deriving DecidableEq, Repr

/-- The wording of a reason. -/
def Reason.message : Reason → String
  | expectedType => "expected a type"
  | unexpectedCharacter => "unexpected character"
  | expectedIdentifier => "expected an identifier"
  | expectedMark c => "expected '" ++ String.singleton c ++ "'"
  | missingArrow => "parameter list must be followed by '->'"
  | trailingInput => "unexpected trailing input"

/-- A reason and the bytes it is about. -/
structure Fault where
  /-- What is wrong. -/
  reason : Reason
  /-- The offset of the first byte that it is about. -/
  offset : Nat
  /-- How many bytes it is about. -/
  length : Nat
  deriving DecidableEq, Repr

/-- A reading of tokens: a value with what is left, or a fault. -/
abbrev Reading (α : Type) (s : List Token) : Type :=
  Except Fault (α × Rest s)

/-- Where the next token starts; the text ends at offset `size`. -/
def position (size : Nat) : List Token → Nat
  | [] => size
  | token :: _ => token.start

/-- A fault at the first character of the next token, or of no length at the end. -/
def faultAt (size : Nat) (reason : Reason) : List Token → Fault
  | [] => ⟨reason, size, 0⟩
  | token :: _ => ⟨reason, token.start, token.width⟩

/-- Takes a question mark if one follows. -/
def takeQuestion {s : List Token} (rest : Rest s) : Bool × Rest s :=
  match rest.next? with
  | some (⟨.question, _, _, _⟩, left) => (true, left)
  | _ => (false, rest)

/-- Takes the words that dots add to a name; each dot stands directly behind the word before
it. -/
def takeSegments (size : Nat) {s : List Token} :
    (left : List Token) → left.length < s.length → Reading (List String) s
  | ⟨.dot, _, _, false⟩ :: ⟨.word word, _, _, _⟩ :: left, shorter => do
    let (words, rest) ← takeSegments size left (by grind)
    return (word :: words, rest)
  | ⟨.dot, _, _, false⟩ :: left, _ => .error (faultAt size .expectedIdentifier left)
  | left, shorter => .ok ([], ⟨left, shorter⟩)

/-- Whether a type can start at the next token. -/
def startsType : List Token → Bool
  | ⟨.word _, _, _, _⟩ :: _ => true
  | ⟨.leftParen, _, _, _⟩ :: _ => true
  | _ => false

/-- The variance that a lexeme marks when `rest` follows it. -/
def markedVariance (lexeme : Lexeme) (rest : List Token) : Option Variance :=
  match lexeme with
  | .word "out" => if startsType rest then some .covariant else none
  | .word "in" => if startsType rest then some .contravariant else none
  | _ => none

mutual

/-- Reads a type. -/
def readType (typeParameters : List String) (size : Nat) (s : List Token) : Reading TypeExpr s :=
  match s with
  | [] => .error (faultAt size .expectedType [])
  | token :: rest =>
    match token.lexeme with
    | .leftParen => do
      let (parameters, inner) ← readParameters typeParameters size rest
      let after := (Rest.behind token rest).through inner
      match after.next? with
      | some (⟨.arrow, _, _, _⟩, left) =>
        let (result, inner) ← readType typeParameters size left.left
        return (.function parameters result false, left.through inner)
      | _ =>
        match parameters with
        | [type] =>
          let (nullable, left) := takeQuestion after
          return (if nullable then type.withNullable true else type, left)
        | _ => .error ⟨.missingArrow, token.start, position size after.left - token.start⟩
    | .word word => do
      let (words, after) ← takeSegments size (s := token :: rest) rest (by simp)
      if words = [] ∧ word = "dynamic" then
        return (.dynamic, after)
      else if words = [] ∧ word ∈ typeParameters then
        let (nullable, left) := takeQuestion after
        return (.variable word nullable, left)
      else
        let name := QualifiedName.ofDotted (Text.joinWith "." (word :: words))
        match after.next? with
        | some (⟨.less, _, _, _⟩, left) =>
          let (arguments, inner) ← readArguments typeParameters size left.left
          let (nullable, left) := takeQuestion (left.through inner)
          return (.named name arguments nullable, left)
        | _ =>
          let (nullable, left) := takeQuestion after
          return (.named name [] nullable, left)
    | _ => .error (faultAt size .unexpectedCharacter (token :: rest))
termination_by 3 * s.length
decreasing_by all_goals grind

/-- Reads the types behind an opening parenthesis, and the closing one. -/
def readParameters (typeParameters : List String) (size : Nat) (s : List Token) :
    Reading (List TypeExpr) s :=
  match s with
  | [] => readItems typeParameters size []
  | token :: rest =>
    if token.lexeme = .rightParen then .ok ([], .behind token rest)
    else readItems typeParameters size (token :: rest)
termination_by 3 * s.length + 2
decreasing_by all_goals grind

/-- Reads one or more types with commas between them, and a closing parenthesis. -/
def readItems (typeParameters : List String) (size : Nat) (s : List Token) :
    Reading (List TypeExpr) s := do
  let (type, after) ← readType typeParameters size s
  match after.next? with
  | some (⟨.comma, _, _, _⟩, left) =>
    let (types, inner) ← readItems typeParameters size left.left
    return (type :: types, left.through inner)
  | some (⟨.rightParen, _, _, _⟩, left) => return ([type], left)
  | _ => .error (faultAt size (.expectedMark ')') after.left)
termination_by 3 * s.length + 1
decreasing_by all_goals grind

/-- Reads an argument of a class. -/
def readArgument (typeParameters : List String) (size : Nat) (s : List Token) :
    Reading TypeArgument s :=
  match s with
  | [] => .error (faultAt size .expectedType [])
  | token :: rest =>
    if token.lexeme = .star then .ok (.star, .behind token rest)
    else
      match markedVariance token.lexeme rest with
      | some variance => do
        let (type, inner) ← readType typeParameters size rest
        return (.type variance type, (Rest.behind token rest).through inner)
      | none => do
        let (type, left) ← readType typeParameters size (token :: rest)
        return (.type .invariant type, left)
termination_by 3 * s.length + 1
decreasing_by all_goals grind

/-- Reads one or more arguments with commas between them, and a closing bracket. -/
def readArguments (typeParameters : List String) (size : Nat) (s : List Token) :
    Reading (List TypeArgument) s := do
  let (argument, after) ← readArgument typeParameters size s
  match after.next? with
  | some (⟨.comma, _, _, _⟩, left) =>
    let (arguments, inner) ← readArguments typeParameters size left.left
    return (argument :: arguments, left.through inner)
  | some (⟨.greater, _, _, _⟩, left) => return ([argument], left)
  | _ => .error (faultAt size (.expectedMark '>') after.left)
termination_by 3 * s.length + 2
decreasing_by all_goals grind

end

/-- Reads a text that is a type and nothing else. The names in `typeParameters` are the type
parameters in whose scope it stands. -/
def parse (typeParameters : List String) (text : String) : Except Fault TypeExpr := do
  let size := byteLength text.toList
  let (type, rest) ← readType typeParameters size (tokens text)
  if rest.left = [] then return type
  else .error (faultAt size .trailingInput rest.left)

end ViewGlue.TypeExpr
