import ViewGlue.Datum
import ViewGlue.Diagnostic
import ViewGlue.View

/-!
# Records

Names, types, declarations, views and diagnostics as data. What a view or a diagnostic may leave
out is left out of its record; a declaration's record has every member.
-/

namespace ViewGlue

/-- The record of a class name. -/
def QualifiedName.datum (name : QualifiedName) : Datum :=
  .object [("package", .text name.package), ("simple_name", .text name.simple)]

/-- The word for a variance in records. -/
def Variance.word : Variance → String
  | .invariant => "invariant"
  | .covariant => "out"
  | .contravariant => "in"

namespace TypeExpr

mutual

/-- The record of a type, which says of what kind it is. -/
def datum : TypeExpr → Datum
  | .named name arguments nullable =>
    .object
      [("kind", .text "class"), ("name", name.datum),
       ("arguments", .list (argumentData arguments)), ("nullable", .truth nullable)]
  | .function parameters result nullable =>
    .object
      [("kind", .text "function"), ("parameters", .list (data parameters)),
       ("returns", result.datum), ("nullable", .truth nullable)]
  | .variable name nullable =>
    .object [("kind", .text "variable"), ("name", .text name), ("nullable", .truth nullable)]
  | .dynamic => .object [("kind", .text "dynamic")]

/-- The records of types. -/
def data : List TypeExpr → List Datum
  | [] => []
  | type :: types => type.datum :: data types

/-- The record of an argument. -/
def argumentDatum : TypeArgument → Datum
  | .type variance type =>
    .object [("variance", .text variance.word), ("type", type.datum)]
  | .star => .object [("variance", .text "star")]

/-- The records of arguments. -/
def argumentData : List TypeArgument → List Datum
  | [] => []
  | argument :: arguments => argumentDatum argument :: argumentData arguments

end

end TypeExpr

/-- The record of a source file. -/
def SourceFile.datum (file : SourceFile) : Datum :=
  .object [("path", .text file.path), ("package", .text file.package)]

/-- The record of an annotation. -/
def Annotation.datum (mark : Annotation) : Datum :=
  .object [("name", mark.name.datum), ("arguments", .textOrAbsent mark.arguments)]

/-- The record of the settings of a bridge annotation. -/
def BridgeSettings.datum (settings : BridgeSettings) : Datum :=
  .object
    [("factory-name", .textOrAbsent settings.group), ("type", .textOrAbsent settings.mode),
     ("keep-state-cross-navigation",
       match settings.retained with
       | some retained => .truth retained
       | none => .absent)]

/-- The record of a parameter as declared. -/
def DeclaredParameter.datum (parameter : DeclaredParameter) : Datum :=
  .object
    [("name", .textOrAbsent parameter.name), ("ty", parameter.type.datum),
     ("modifiers", .texts (parameter.modifiers.map (·.keyword)))]

/-- The record of a declaration. -/
def Declaration.datum (declaration : Declaration) : Datum :=
  .object
    [("name", .text declaration.name), ("is_expect", .truth declaration.isStub),
     ("visibility", .textOrAbsent (declaration.visibility.map (·.name))),
     ("file",
       match declaration.file with
       | some file => file.datum
       | none => .absent),
     ("annotations", .list (declaration.annotations.map (·.datum))),
     ("type_parameters", .texts declaration.typeParameters),
     ("bridge", declaration.bridge.datum),
     ("custom_render_target",
       match declaration.renderTarget with
       | some target => .object [("composable-fqn", .textOrAbsent target)]
       | none => .absent),
     ("parameters", .list (declaration.parameters.map (·.datum)))]

/-- The word for a render mode in records. -/
def RenderMode.word : RenderMode → String
  | .observed => "observed-object"
  | .controller => "view-handle"
  | .plain => "raw-view"

/-- The record of a parameter. -/
def Parameter.datum (parameter : Parameter) : Datum :=
  .object
    ([("name", .text parameter.name), ("ty", parameter.type.datum),
      ("is_view_handle_slot", .truth parameter.isSlot)] ++
      Datum.listMember "modifiers" (parameter.modifiers.map fun modifier =>
        .text modifier.keyword))

/-- The members of a view's record. -/
def View.members (view : View) : List (String × Datum) :=
  [("name", .text view.name), ("parameters", .list (view.parameters.map (·.datum))),
   ("factory_group", .text view.group), ("render_mode", .text view.mode.word),
   ("retain_across_navigation", .truth view.retained),
   ("render_target", view.renderTarget.datum),
   ("custom_render_target", .textOrAbsent view.customTarget),
   ("visibility", .text view.visibility.keyword), ("file", view.file.datum)] ++
    Datum.listMember "annotations" (view.annotations.map (·.datum)) ++
    Datum.listMember "type_parameters" (view.typeParameters.map .text)

/-- The record of a diagnostic. -/
def Diagnostic.datum (diagnostic : Diagnostic) : Datum :=
  .object
    ([("severity", .text diagnostic.severity.name), ("phase", .text diagnostic.phase)] ++
      Datum.textMember "code" diagnostic.code ++
      [("message", .text diagnostic.message)] ++
      Datum.textMember "location" diagnostic.location)

end ViewGlue
