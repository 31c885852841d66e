import ViewGlue.Declaration

/-!
# Views

A view is a declaration that glue can be generated for: everything that the generators need is
present and has one meaning. One of its parameters may be the slot through which the host
passes the view's modifier; the others carry data.
-/

namespace ViewGlue

/-- How the native side provides a view. -/
inductive RenderMode where
  /-- A view built from an observable object. -/
  | observed
  /-- A view controller with a delegate. -/
  | controller
  /-- A plain view with a delegate. -/
  | plain
  deriving DecidableEq, Repr

namespace RenderMode

/-- All render modes. -/
def all : List RenderMode := [observed, controller, plain]

/-- The spelling of a render mode in declarations. -/
def annotationName : RenderMode → String
  | observed => "SwiftUI"
  | controller => "UIViewController"
  | plain => "UIView"

/-- The render mode with this spelling. -/
def ofAnnotation? (s : String) : Option RenderMode :=
  all.find? (·.annotationName == s)

/-- A view controller hosts the view on the native side. -/
def isControllerHosted : RenderMode → Bool
  | observed => true
  | controller => true
  | plain => false

/-- The class of the native handle. -/
def handleClass (mode : RenderMode) : String :=
  if mode.isControllerHosted then "UIViewController" else "UIView"

/-- The package of the native handles on the host side. -/
def handlePackage : String := "platform.UIKit"

/-- The native handle as the host names it. -/
def hostHandle (mode : RenderMode) : QualifiedName :=
  ⟨handlePackage, mode.handleClass⟩

end RenderMode

/-- A parameter of a view. -/
structure Parameter where
  /-- The name as declared. -/
  name : String
  /-- The type as declared; under `vararg` that of a single value. -/
  type : TypeExpr
  /-- The parameter takes the modifier of the view. -/
  isSlot : Bool
  /-- Its modifiers in the order of the declaration. -/
  modifiers : List ParameterModifier := []
  deriving DecidableEq

namespace Parameter

/-- The parameter takes any number of values. -/
def isVararg (parameter : Parameter) : Bool :=
  parameter.modifiers.contains .vararg

/-- The type of the parameter inside the declaration: several values come as an array. -/
def valueType (parameter : Parameter) : TypeExpr :=
  if parameter.isVararg then .named ⟨"kotlin", "Array"⟩ [.type .covariant parameter.type] false
  else parameter.type

end Parameter

/-- A view that glue is generated for. -/
structure View where
  /-- The name of the function that shows it. -/
  name : String
  /-- The parameters of the function in their order. -/
  parameters : List Parameter
  /-- The factory that creates the view. -/
  group : String
  /-- How the native side provides it. -/
  mode : RenderMode
  /-- The view outlives navigation. -/
  retained : Bool
  /-- The composable that shows the view. -/
  renderTarget : QualifiedName
  /-- The override of the composable, as written. -/
  customTarget : Option String
  /-- Who may use the function. -/
  visibility : Visibility
  /-- The file that declares it. -/
  file : SourceFile
  /-- The annotations of the declaration. -/
  annotations : List Annotation
  /-- The names of the type parameters. -/
  typeParameters : List String
  deriving DecidableEq

namespace View

/-- The parameters that carry data. -/
def dataParameters (view : View) : List Parameter :=
  view.parameters.filter (! ·.isSlot)

/-- The parameter that takes the modifier. -/
def slot? (view : View) : Option Parameter :=
  view.parameters.find? (·.isSlot)

/-- The view has type parameters. -/
def isGeneric (view : View) : Bool :=
  !view.typeParameters.isEmpty

end View

end ViewGlue
