import ViewGlue.Options
import ViewGlue.TypeExpr.Parser

/-!
# Errors of manifests

Why a manifest cannot be used, where in its text, and what to do about it.
-/

namespace ViewGlue.Manifest

/-- A range of bytes of a manifest's text. -/
structure Span where
  /-- How many bytes stand before it. -/
  offset : Nat
  /-- How many bytes it has. -/
  length : Nat
  deriving DecidableEq, Repr

/-- What a name is a name of. -/
inductive NameKind where
  /-- The package of a source file. -/
  | package
  /-- A function. -/
  | declaration
  /-- A type parameter of a function. -/
  | typeParameter
  /-- A parameter of a function. -/
  | parameter
  /-- The class of an annotation. -/
  | annotation
  deriving DecidableEq, Repr

/-- The wording of a kind of name. -/
def NameKind.word : NameKind → String
  | package => "package"
  | declaration => "declaration"
  | typeParameter => "type parameter"
  | parameter => "parameter"
  | annotation => "annotation"

/-- A value of a manifest that breaks a rule. -/
inductive Violation where
  /-- A name is no identifier, or a dotted one does not consist of identifiers. -/
  | invalidName (kind : NameKind) (name : String)
  /-- The arguments of an annotation lack the last parenthesis. -/
  | unterminatedArguments (name : String)
  deriving DecidableEq, Repr

/-- The wording of a violation. -/
def Violation.message : Violation → String
  | invalidName kind name => "invalid " ++ kind.word ++ " name '" ++ name ++ "'"
  | unterminatedArguments annotation =>
    "unterminated argument list in annotation '" ++ annotation ++ "'"

/-- Why a manifest cannot be used. -/
inductive Error where
  /-- The file cannot be read. -/
  | unreadable (path : String)
  /-- The text is no document, or the document is no manifest. -/
  | malformed
  /-- A text that is to be a type is none. -/
  | invalidType (expression : String) (reason : TypeExpr.Reason) (span : Span)
  /-- A value at this place breaks a rule. -/
  | invalid (violation : Violation) (span : Span)
  /-- An option is needed and not given. -/
  | missingOption (option : MissingOption)
  deriving DecidableEq, Repr

namespace Error

/-- The wording of an error. -/
def message : Error → String
  | unreadable path => "failed to read '" ++ path ++ "'"
  | malformed => "failed to parse bridge.toml"
  | invalidType expression _ _ => "invalid type expression '" ++ expression ++ "'"
  | invalid violation _ => violation.message
  | missingOption option => option.message

/-- The code of an error. -/
def code? : Error → Option String
  | unreadable _ => none
  | malformed => some "viewbridge::parse_error"
  | invalidType .. => some "viewbridge::invalid_type"
  | invalid .. => some "viewbridge::validation_error"
  | missingOption _ => some "viewbridge::missing_option"

/-- What to do about an error. -/
def help? : Error → Option String
  | unreadable _ => some "pass the declarations manifest with --config"
  | malformed => none
  | invalidType .. =>
    some ("use Kotlin syntax with fully-qualified names, e.g. " ++
      "'kotlin.collections.List<kotlin.String>' or '(kotlin.Int) -> kotlin.Unit'")
  | invalid .. => none
  | missingOption option => some option.help

end Error

end ViewGlue.Manifest
