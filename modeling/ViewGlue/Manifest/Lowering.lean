import ViewGlue.Manifest.Error
import ViewGlue.Manifest.Schema

/-!
# From entries to declarations

Names, types and annotations of a manifest are checked where they stand, so that an error can
point at them. The first broken rule in the order of the text's values is reported.
-/

namespace ViewGlue.Manifest

open TypeExpr (byteLength)

/-! ## Where values start -/

/-- What a quoted text may be opened with, the longer ones first. -/
def openings : List (List Char) :=
  ["\"\"\"".toList, "'''".toList, "\"".toList, "'".toList]

/-- The bytes of the quotes that characters start with. -/
def openingLength (s : List Char) : Nat :=
  ((openings.find? (·.isPrefixOf s)).map byteLength).getD 0

/-- The characters from a byte on, or none if no character starts there. -/
def fromByte : Nat → List Char → List Char
  | 0, s => s
  | _ + 1, [] => []
  | start + 1, c :: rest =>
    if c.utf8Size ≤ start + 1 then fromByte (start + 1 - c.utf8Size) rest else []

/-- Where the inside of a value starts, judged by the characters from its first byte on. -/
def valueStart (text : String) (start : Nat) : Nat :=
  start + openingLength (fromByte start text.toList)

/-! ## Values -/

/-- The bytes of a written text with its quotes. -/
def Quoted.span (written : Quoted) : Span :=
  ⟨written.start, written.length⟩

/-- The error of a written text that breaks a rule. -/
def Quoted.violates (written : Quoted) (violation : Violation) : Error :=
  .invalid violation written.span

/-- A written text that is an identifier. -/
def identifier (kind : NameKind) (written : Quoted) : Except Error String :=
  if Text.isIdentifier written.value then .ok written.value
  else .error (written.violates (.invalidName kind written.value))

/-- The package of a source file; an empty one is the root. -/
def package (written : Option Quoted) : Except Error String :=
  match written with
  | none => .ok ""
  | some written =>
    if written.value = "" ∨ Text.isDotted written.value then .ok written.value
    else .error (written.violates (.invalidName .package written.value))

/-- What can be wrong with the text of an annotation, or the annotation it states: a name, or a
name with arguments between the first opening and the last closing parenthesis. -/
def readAnnotation (written : String) : Except Violation Annotation := do
  let written := Text.trimChars written.toList
  let (name, arguments) ←
    match Text.splitFirstChars '(' written with
    | none => pure (written, none)
    | some (name, behind) =>
      if behind.getLast? = some ')' then
        pure (Text.trimChars name,
          some (String.ofList (Text.trimChars behind.dropLast)))
      else throw (.unterminatedArguments (String.ofList written))
  let name := String.ofList name
  if Text.isDotted name then return ⟨.ofDotted name, arguments⟩
  else throw (.invalidName NameKind.annotation name)

/-- The annotation that a written text states. -/
def annotation (written : Quoted) : Except Error Annotation :=
  match readAnnotation written.value with
  | .ok read => .ok read
  | .error violation => .error (written.violates violation)

/-- The type that a value of the text states. An error points at its place behind the opening
quotes. -/
def parameterType (text : String) (typeParameters : List String) (written : Quoted) :
    Except Error TypeExpr :=
  match TypeExpr.parse typeParameters written.value with
  | .ok type => .ok type
  | .error fault =>
    .error (.invalidType written.value fault.reason
      ⟨valueStart text written.start + fault.offset, fault.length⟩)

/-! ## Entries -/

/-- The parameter that an entry states. -/
def parameter (text : String) (typeParameters : List String) (entry : ParameterEntry) :
    Except Error DeclaredParameter := do
  let name ←
    match entry.name with
    | none => pure none
    | some written => (identifier .parameter written).map some
  let type ← parameterType text typeParameters entry.type
  return { name := name, type := type, modifiers := entry.modifiers }

/-- The declaration that an entry states. -/
def declaration (text : String) (file : Option SourceFile) (entry : DeclarationEntry) :
    Except Error Declaration := do
  let name ← identifier .declaration entry.name
  let typeParameters ← entry.typeParameters.mapM (identifier .typeParameter)
  let annotations ← entry.annotations.mapM annotation
  let parameters ← entry.parameters.mapM (parameter text typeParameters)
  return {
    name := name
    isStub := entry.isStub
    visibility := entry.visibility
    file := file
    annotations := annotations
    typeParameters := typeParameters
    bridge := entry.bridge
    renderTarget := entry.renderTarget
    parameters := parameters }

/-- The declarations that entries state, each with its round. -/
def declarationsOf (text : String) (file : Option SourceFile) (entries : List DeclarationEntry) :
    Except Error (List (Nat × Declaration)) :=
  entries.mapM fun entry => (declaration text file entry).map (entry.round, ·)

/-- The declarations of a source file. -/
def fileDeclarations (text : String) (entry : FileEntry) :
    Except Error (List (Nat × Declaration)) := do
  let package ← package entry.package
  declarationsOf text (some ⟨entry.path, package⟩) entry.declarations

end ViewGlue.Manifest
