import ViewGlue.TypeExpr.Token
import ViewGlue.TypeExpr.Basic

/-!
# The grammar of type expressions

The sentences of the language of types as lists of lexemes, each with the type it denotes, and
the texts that spell a list of lexemes. Both are stated without the readers:

    type      ::= 'dynamic' | variable ['?'] | class ['?'] | function | '(' type ')' ['?']
    class     ::= word {'.' word} ['<' argument {',' argument} '>']
    function  ::= '(' [type {',' type}] ')' '->' type
    argument  ::= '*' | ['out' | 'in'] type

A name of one word is the dynamic type if it says so, else a variable if it is a type parameter,
else a class. No side condition tells a marker `out` or `in` from a class of that name: a marker
is a lexeme before the lexemes of a type, a class name has none behind it.
-/

namespace ViewGlue.TypeExpr

/-- The lexemes behind the first word of a dotted name. -/
def furtherParts : List String → List Lexeme
  | [] => []
  | word :: words => .dot :: .word word :: furtherParts words

/-- The lexeme of a type that may be absent. -/
def question (nullable : Bool) : List Lexeme :=
  if nullable then [.question] else []

/-- The word that marks a variance, if it is marked. -/
def marker : Variance → List Lexeme
  | .invariant => []
  | .covariant => [.word "out"]
  | .contravariant => [.word "in"]

/-- A name of these words is a class: it has several words, or its one word is neither the
dynamic type nor a type parameter. -/
def NamesClass (typeParameters : List String) (word : String) (words : List String) : Prop :=
  words = [] → word ≠ "dynamic" ∧ word ∉ typeParameters

/-- The class that these words name. -/
def className (word : String) (words : List String) : QualifiedName :=
  .ofDotted (Text.joinWith "." (word :: words))

mutual

/-- The lexemes are a type and denote it. -/
inductive IsType (typeParameters : List String) : List Lexeme → TypeExpr → Prop
  /-- The word for the dynamic type. -/
  | dynamic : IsType typeParameters [.word "dynamic"] .dynamic
  /-- A declared type parameter, which may be absent. -/
  | typeParameter {name : String} {nullable : Bool} (other : name ≠ "dynamic")
      (declared : name ∈ typeParameters) :
      IsType typeParameters (.word name :: question nullable) (.variable name nullable)
  /-- A class without arguments. -/
  | plain {word : String} {words : List String} {nullable : Bool}
      (isClass : NamesClass typeParameters word words) :
      IsType typeParameters (.word word :: (furtherParts words ++ question nullable))
        (.named (className word words) [] nullable)
  /-- A class with its arguments in angle brackets. -/
  | applied {word : String} {words : List String} {inside : List Lexeme}
      {arguments : List TypeArgument} {nullable : Bool}
      (isClass : NamesClass typeParameters word words)
      (each : IsArguments typeParameters inside arguments) :
      IsType typeParameters
        (.word word :: (furtherParts words ++ .less :: (inside ++ .greater :: question nullable)))
        (.named (className word words) arguments nullable)
  /-- Parameters in parentheses, an arrow and a result; a question mark behind it belongs to the
  result. -/
  | function {inside behind : List Lexeme} {parameters : List TypeExpr} {result : TypeExpr}
      (each : IsParameters typeParameters inside parameters)
      (last : IsType typeParameters behind result) :
      IsType typeParameters (.leftParen :: (inside ++ .rightParen :: .arrow :: behind))
        (.function parameters result false)
  /-- A type in parentheses; a question mark behind them makes it nullable. -/
  | grouped {inside : List Lexeme} {type : TypeExpr} {nullable : Bool}
      (inner : IsType typeParameters inside type) :
      IsType typeParameters (.leftParen :: (inside ++ .rightParen :: question nullable))
        (if nullable then type.withNullable true else type)

/-- The lexemes are the parameters of a function, of which there may be none. -/
inductive IsParameters (typeParameters : List String) : List Lexeme → List TypeExpr → Prop
  /-- No parameters. -/
  | none : IsParameters typeParameters [] []
  /-- One or more parameters. -/
  | some {inside : List Lexeme} {types : List TypeExpr}
      (each : IsTypes typeParameters inside types) : IsParameters typeParameters inside types

/-- The lexemes are one or more types with commas between them. -/
inductive IsTypes (typeParameters : List String) : List Lexeme → List TypeExpr → Prop
  /-- The last type. -/
  | one {inside : List Lexeme} {type : TypeExpr} (only : IsType typeParameters inside type) :
      IsTypes typeParameters inside [type]
  /-- A type with a comma and others behind it. -/
  | more {inside behind : List Lexeme} {type : TypeExpr} {types : List TypeExpr}
      (first : IsType typeParameters inside type)
      (others : IsTypes typeParameters behind types) :
      IsTypes typeParameters (inside ++ .comma :: behind) (type :: types)

/-- The lexemes are an argument of a class. -/
inductive IsArgument (typeParameters : List String) : List Lexeme → TypeArgument → Prop
  /-- Any type. -/
  | star : IsArgument typeParameters [.star] .star
  /-- A type behind its marker of variance, if it has one. -/
  | type {inside : List Lexeme} {variance : Variance} {type : TypeExpr}
      (inner : IsType typeParameters inside type) :
      IsArgument typeParameters (marker variance ++ inside) (.type variance type)

/-- The lexemes are one or more arguments with commas between them. -/
inductive IsArguments (typeParameters : List String) : List Lexeme → List TypeArgument → Prop
  /-- The last argument. -/
  | one {inside : List Lexeme} {argument : TypeArgument}
      (only : IsArgument typeParameters inside argument) :
      IsArguments typeParameters inside [argument]
  /-- An argument with a comma and others behind it. -/
  | more {inside behind : List Lexeme} {argument : TypeArgument}
      {arguments : List TypeArgument}
      (first : IsArgument typeParameters inside argument)
      (others : IsArguments typeParameters behind arguments) :
      IsArguments typeParameters (inside ++ .comma :: behind) (argument :: arguments)

end

/-! ## Spelling

A text spells a list of lexemes if it is made of their characters with plain blanks anywhere
between them. A word is an identifier and as long as it can be, so a blank stands between two
words; a dash directly before a closing bracket belongs to an arrow. -/

namespace Lexeme

/-- The characters of a lexeme. -/
def chars : Lexeme → List Char
  | word text => text.toList
  | leftParen => ['(']
  | rightParen => [')']
  | less => ['<']
  | greater => ['>']
  | comma => [',']
  | dot => ['.']
  | question => ['?']
  | star => ['*']
  | arrow => ['-', '>']
  | other c => [c]

/-- The characters that stand for marks of one character. -/
def marks : List Char := ['(', ')', '<', '>', ',', '.', '?', '*']

/-- The lexeme is complete when these characters follow it. -/
def EndsBefore (behind : List Char) : Lexeme → Prop
  | word text =>
    Text.isIdentifier text = true ∧ ∀ c ∈ behind.head?, Text.continuesName c = false
  | other c =>
    Text.isPlainBlank c = false ∧ Text.startsName c = false ∧ c ∉ marks ∧
      ¬(c = '-' ∧ behind.head? = some '>')
  | _ => True

end Lexeme

/-- The characters spell the lexemes. -/
inductive Spells : List Lexeme → List Char → Prop
  /-- No characters spell nothing. -/
  | nothing : Spells [] []
  /-- Blanks between lexemes have no meaning. -/
  | blank {c : Char} {lexemes : List Lexeme} {s : List Char}
      (plain : Text.isPlainBlank c = true) (behind : Spells lexemes s) : Spells lexemes (c :: s)
  /-- A lexeme is spelled to its end, which the next character must not continue. -/
  | lexeme {lexeme : Lexeme} {lexemes : List Lexeme} {s : List Char}
      (complete : lexeme.EndsBefore s) (behind : Spells lexemes s) :
      Spells (lexeme :: lexemes) (lexeme.chars ++ s)

/-- No plain blank stands directly before a dot. -/
def dotsUnspaced : List Char → Bool
  | [] => true
  | c :: rest => !(Text.isPlainBlank c && rest.head? == some '.') && dotsUnspaced rest

/-- The lexemes of a text. -/
def lexemes (text : String) : List Lexeme :=
  (tokens text).map Token.lexeme

end ViewGlue.TypeExpr
