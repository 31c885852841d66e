import ViewGlue.Host.Scope

/-!
# Drafts of host files

A host file while it is being written. It answers one request after another: a name that it
declares takes effect at once, and a class or a type is answered with the text to write for it.
The first reference to a class adds its import if it needs one, and every reference stays on
record with the text that was written for it.
-/

namespace ViewGlue.Host

/-- The scope of a file so far, its imports, and the classes that were referred to, each with the
text that was written for it. -/
structure Draft where
  /-- The package and the owners of simple names. -/
  scope : Scope
  /-- What the file imports. -/
  imports : Code.ImportSet := {}
  /-- The classes with the texts written for them, in the order of the requests. -/
  references : List (QualifiedName × String) := []
  deriving DecidableEq, Repr

/-- What is asked of a draft. -/
inductive Request where
  /-- To claim a simple name for a declaration of the file. -/
  | declare (simple : String)
  /-- To write a class. -/
  | refer (name : QualifiedName)
  /-- To write a type with all classes in it. -/
  | write (type : TypeExpr)

/-- The classes that a request refers to, in their order. -/
def Request.references : Request → List QualifiedName
  | declare _ => []
  | refer name => [name]
  | write type => type.references

namespace Draft

/-- The draft of an empty file. -/
def start (package : String) : Draft where
  scope := ⟨package, []⟩

/-- A class takes its simple name and is imported if it has to be. -/
def claim (draft : Draft) (name : QualifiedName) : Draft :=
  { draft with
    scope := draft.scope.take name
    imports :=
      if draft.scope.needsImport name then draft.imports.add name.package name.simple
      else draft.imports }

/-- A reference comes on record. -/
def record (draft : Draft) (name : QualifiedName) (text : String) : Draft :=
  { draft with references := draft.references ++ [(name, text)] }

/-- The file declares a simple name, which it keeps if another class took it before. -/
def declare (draft : Draft) (simple : String) : Draft :=
  { draft with scope := draft.scope.declare simple }

/-- The text to write for a class: its simple name if that is free or its own, and its full name
if another class has taken it. -/
def refer (draft : Draft) (name : QualifiedName) : String × Draft :=
  if name.package = "" then (name.simple, draft.record name name.simple)
  else
    match draft.scope.owner? name.simple with
    | none => (name.simple, (draft.claim name).record name name.simple)
    | some owner =>
      if owner = name then (name.simple, draft.record name name.simple)
      else (name.dotted, draft.record name name.dotted)

mutual

/-- The text to write for a type, whose classes are referred to from left to right. -/
def write (draft : Draft) : TypeExpr → String × Draft
  | .named name arguments nullable =>
    let (className, draft) := draft.refer name
    let (arguments, draft) := draft.writeArguments arguments
    (className ++ TypeExpr.bracketed arguments ++ TypeExpr.mark nullable, draft)
  | .function parameters result nullable =>
    let (parameters, draft) := draft.writeAll parameters
    let (result, draft) := draft.write result
    (TypeExpr.arrow parameters result nullable, draft)
  | .variable name nullable => (name ++ TypeExpr.mark nullable, draft)
  | .dynamic => ("dynamic", draft)

/-- The texts to write for types. -/
def writeAll (draft : Draft) : List TypeExpr → List String × Draft
  | [] => ([], draft)
  | type :: types =>
    let (text, draft) := draft.write type
    let (texts, draft) := draft.writeAll types
    (text :: texts, draft)

/-- The text to write for an argument. -/
def writeArgument (draft : Draft) : TypeArgument → String × Draft
  | .type variance type =>
    let (text, draft) := draft.write type
    (variance.marker ++ text, draft)
  | .star => ("*", draft)

/-- The texts to write for arguments. -/
def writeArguments (draft : Draft) : List TypeArgument → List String × Draft
  | [] => ([], draft)
  | argument :: arguments =>
    let (text, draft) := draft.writeArgument argument
    let (texts, draft) := draft.writeArguments arguments
    (text :: texts, draft)

end

/-- The answer to a request; nothing is written where a name is declared. -/
def respond (draft : Draft) : Request → Option String × Draft
  | .declare simple => (none, draft.declare simple)
  | .refer name =>
    let (text, draft) := draft.refer name
    (some text, draft)
  | .write type =>
    let (text, draft) := draft.write type
    (some text, draft)

/-- The answers to requests, one after another. -/
def respondAll (draft : Draft) : List Request → List (Option String) × Draft
  | [] => ([], draft)
  | request :: requests =>
    let (reply, draft) := draft.respond request
    let (replies, draft) := draft.respondAll requests
    (reply :: replies, draft)

end Draft

end ViewGlue.Host
