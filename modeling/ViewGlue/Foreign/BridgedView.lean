import ViewGlue.Foreign.File
import ViewGlue.Foreign.Statement
import ViewGlue.Foreign.TypeMap
import ViewGlue.Naming
import ViewGlue.Project

/-!
# Bridged views

A view can be bridged if the native side has a counterpart for the type of each of its data
parameters and it has no type parameters. A view that cannot be bridged is left out there and
reported.
-/

namespace ViewGlue.Foreign

/-- A data parameter on the native side. -/
structure BridgedParameter where
  /-- The name as native code writes it. -/
  name : String
  /-- The name as declared. -/
  source : String
  /-- The counterpart of the type where a function takes it. -/
  parameterType : String
  /-- The counterpart of the type where a property stores it. -/
  propertyType : String
  deriving DecidableEq, Repr

/-- A view on the native side. -/
structure BridgedView where
  /-- The view as the host has it. -/
  view : View
  /-- Its data parameters in their order. -/
  parameters : List BridgedParameter
  /-- What the native factory gives. -/
  result : String
  deriving DecidableEq

/-- The data parameter on the native side. -/
def BridgedParameter.ofParameter (parameter : Parameter) : Except Unmapped BridgedParameter := do
  let parameterType ← mapType parameter.valueType .parameter
  let propertyType ← mapType parameter.valueType .property
  return ⟨safeName parameter.name, parameter.name, parameterType, propertyType⟩

namespace BridgedView

/-- What the native factory gives for a view: a view for observed ones, and a handle with a
delegate for all others. -/
def factoryResult (view : View) : Except Unmapped String :=
  match view.mode with
  | .observed => .ok "AnyView"
  | mode =>
    mapType
      (.named ⟨"kotlin", "Pair"⟩
        [.type .invariant (.ofDotted (RenderMode.handlePackage ++ "." ++ mode.handleClass)),
         .type .invariant (.ofDotted (Naming.delegate view.name))]
        false)
      .factoryResult

/-- The view on the native side. -/
def ofView (view : View) : Except Unmapped BridgedView :=
  match view.typeParameters with
  | first :: _ => .error ⟨.variable first false⟩
  | [] => do
    let parameters ← view.dataParameters.mapM BridgedParameter.ofParameter
    let result ← factoryResult view
    return ⟨view, parameters, result⟩

/-- The parameters as arguments under their own labels. -/
def forwarded (bridged : BridgedView) : List Expr :=
  bridged.parameters.map fun parameter => .labelled parameter.name (.name parameter.name)

/-- The parameters as native functions declare them. -/
def declared (bridged : BridgedView) : List FunctionParameter :=
  bridged.parameters.map fun parameter =>
    { name := parameter.name, type := parameter.parameterType }

/-- What a report about a view that cannot be bridged names. -/
def subject (view : View) (unmapped : Unmapped) : String :=
  match view.dataParameters.find? (TypeExpr.contains unmapped.type ·.valueType) with
  | some parameter =>
    "parameter '" ++ parameter.name ++ "' of type '" ++ parameter.valueType.text ++ "'"
  | none => "type parameter '" ++ unmapped.type.text ++ "'"

/-- The report about a view that cannot be bridged. -/
def leftOut (view : View) (unmapped : Unmapped) : Diagnostic where
  severity := .error
  phase := "map"
  code := some "unmapped-type"
  message :=
    view.name ++ ": " ++ subject view unmapped ++ " cannot be bridged (" ++ unmapped.message ++
      "); left out of the " ++ language ++ " sources"
  location := some view.file.path

/-- The view on the native side, if it can be bridged. -/
def ofView? (view : View) : Option BridgedView :=
  (ofView view).toOption

/-- The report about a view, if it cannot be bridged. -/
def report? (view : View) : Option Diagnostic :=
  match ofView view with
  | .ok _ => none
  | .error unmapped => some (leftOut view unmapped)

end BridgedView

/-- The groups of a project with the views that can be bridged. -/
def bridgedGroups (project : Project) : List (String × List BridgedView) :=
  project.groups.map fun group => (group.1, group.2.filterMap BridgedView.ofView?)

/-- The reports about the views that cannot be bridged, group by group. -/
def bridgeDiagnostics (project : Project) : List Diagnostic :=
  project.groups.flatMap fun group => group.2.filterMap BridgedView.report?

end ViewGlue.Foreign
