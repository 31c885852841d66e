import ViewGlue.Diagnostic
import ViewGlue.Options
import ViewGlue.View

/-!
# Reading declarations

A declaration becomes a view or is rejected. The rules are tried in one order and the first
that is broken is reported; a view may come with notices about what was assumed for it.
-/

namespace ViewGlue

/-- What a declaration that leaves it open gets. -/
structure ReadingDefaults where
  /-- The factory group of views that name none. -/
  group : String
  /-- Shows views that a controller hosts. -/
  controllerTarget : QualifiedName
  /-- Shows plain views. -/
  viewTarget : QualifiedName
  deriving DecidableEq, Repr

/-- The defaults that the options give. -/
def ReadingDefaults.ofOptions (options : Options) : ReadingDefaults where
  group := options.factory
  controllerTarget := .ofDotted options.controllerTarget
  viewTarget := .ofDotted options.viewTarget

/-- The composable that shows views of a render mode. -/
def ReadingDefaults.target (defaults : ReadingDefaults) (mode : RenderMode) : QualifiedName :=
  if mode.isControllerHosted then defaults.controllerTarget else defaults.viewTarget

namespace Reading

/-- The class of the parameter that takes the modifier. -/
def slotClass : String := "androidx.compose.ui.Modifier"

/-- Why no glue is generated for a declaration. -/
inductive Rejection where
  /-- The declaration has a body of its own. -/
  | notStub
  /-- The declaration stands in no source file. -/
  | missingFile
  /-- It is not known who may use the declaration. -/
  | unresolvedVisibility
  /-- No modifier of a top-level function writes this visibility. -/
  | unexpressedVisibility (visibility : DeclaredVisibility)
  /-- The parameter at this place, counted from one, has no name. -/
  | unnamedParameter (number : Nat)
  /-- The factory group is no identifier. -/
  | invalidGroup (group : String)
  deriving DecidableEq, Repr

namespace Rejection

/-- The code of a rejection. -/
def code : Rejection → String
  | notStub => "not-stub"
  | missingFile => "missing-file"
  | unresolvedVisibility => "unrecognized-visibility"
  | unexpressedVisibility _ => "unrecognized-visibility"
  | unnamedParameter _ => "unnamed-parameter"
  | invalidGroup _ => "invalid-factory-group"

/-- The wording of a rejection. -/
def message : Rejection → String
  | notStub => "does not support non-stub declarations"
  | missingFile => "declaration is not contained in a source file"
  | unresolvedVisibility => "visibility could not be resolved"
  | unexpressedVisibility visibility =>
    "visibility '" ++ visibility.name ++ "' has no source modifier"
  | unnamedParameter number =>
    "unsupported function parameter #" ++ toString number ++ " without name"
  | invalidGroup group => "factory name '" ++ group ++ "' is not a valid identifier"

end Rejection

/-- What was assumed for a view. -/
inductive Notice where
  /-- The written render mode is none of the known ones. -/
  | unknownMode (written : String)
  /-- No parameter takes the modifier. -/
  | missingSlot
  deriving DecidableEq, Repr

namespace Notice

/-- The code of a notice. -/
def code : Notice → String
  | unknownMode _ => "unknown-render-mode"
  | missingSlot => "missing-handle-slot"

/-- The wording of a notice. -/
def message : Notice → String
  | unknownMode written =>
    "unknown view type '" ++ written ++ "', falling back to " ++
      RenderMode.observed.annotationName
  | missingSlot =>
    "no parameter of type " ++ slotClass ++ "; the render target receives a default Modifier"

end Notice

/-- Where reports about a declaration point: its file, or its name if it has none. -/
def location (declaration : Declaration) : String :=
  match declaration.file with
  | some file => file.path
  | none => declaration.name

/-- A report about a declaration. -/
def report (declaration : Declaration) (severity : Severity) (code message : String) :
    Diagnostic where
  severity := severity
  phase := "read"
  code := some code
  message := declaration.name ++ ": " ++ message
  location := some (location declaration)

/-- The report of a rejection. -/
def Rejection.diagnostic (declaration : Declaration) (rejection : Rejection) : Diagnostic :=
  report declaration .error rejection.code rejection.message

/-- The report of a notice. -/
def Notice.diagnostic (declaration : Declaration) (notice : Notice) : Diagnostic :=
  report declaration .warning notice.code notice.message

/-- The visibility of the generated code. -/
def readVisibility : Option DeclaredVisibility → Except Rejection Visibility
  | none => .error .unresolvedVisibility
  | some stated =>
    match stated.visibility? with
    | some visibility => .ok visibility
    | none => .error (.unexpressedVisibility stated)

/-- The parameters with their names; the first of them stands at place `number`. -/
def readParameters (number : Nat) : List DeclaredParameter → Except Rejection (List Parameter)
  | [] => .ok []
  | declared :: rest =>
    match declared.name with
    | none => .error (.unnamedParameter number)
    | some name => do
      let parameters ← readParameters (number + 1) rest
      return ⟨name, declared.type, declared.type.isClass slotClass, declared.modifiers⟩ ::
        parameters

/-- The render mode of a view, which is observed unless another known one is stated. -/
def readMode (written : Option String) : RenderMode × List Notice :=
  match written with
  | none => (.observed, [])
  | some written =>
    match RenderMode.ofAnnotation? written with
    | some mode => (mode, [])
    | none => (.observed, [.unknownMode written])

/-- The override of the render target, if it says anything. -/
def customTarget (stated : Option (Option String)) : Option String :=
  match stated with
  | some (some written) =>
    if Text.trim written = "" then none else some (Text.trim written)
  | _ => none

/-- The view of a declaration, with notices about it. -/
def read (defaults : ReadingDefaults) (declaration : Declaration) :
    Except Rejection (View × List Notice) := do
  if !declaration.isStub then throw .notStub
  let file ←
    match declaration.file with
    | some file => pure file
    | none => throw .missingFile
  let visibility ← readVisibility declaration.visibility
  let parameters ← readParameters 1 declaration.parameters
  let group := declaration.bridge.group.getD defaults.group
  if !Text.isIdentifier group then throw (.invalidGroup group)
  let (mode, modeNotices) := readMode declaration.bridge.mode
  let slotNotices := if parameters.any (·.isSlot) then [] else [Notice.missingSlot]
  let custom := customTarget declaration.renderTarget
  let view : View := {
    name := declaration.name
    parameters := parameters
    group := group
    mode := mode
    retained := declaration.bridge.retained.getD false
    renderTarget :=
      match custom with
      | some written => .ofDotted written
      | none => defaults.target mode
    customTarget := custom
    visibility := visibility
    file := file
    annotations := declaration.annotations
    typeParameters := declaration.typeParameters }
  return (view, modeNotices ++ slotNotices)

/-- The view of a declaration if it is not rejected, and the reports about it. -/
def verdict (defaults : ReadingDefaults) (declaration : Declaration) :
    Option View × List Diagnostic :=
  match read defaults declaration with
  | .ok (view, notices) => (some view, notices.map (·.diagnostic declaration))
  | .error rejection => (none, [rejection.diagnostic declaration])

end Reading

end ViewGlue
