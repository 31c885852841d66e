import ViewGlue.Host.File
import ViewGlue.Naming
import ViewGlue.Output.Path
import ViewGlue.View

/-!
# Delegates

The interface through which the host updates a view: one method for each data parameter.
-/

namespace ViewGlue.Host

/-- The method that updates a parameter. -/
structure UpdateMethod where
  /-- The name of the method. -/
  name : String
  /-- The parameter that it updates, as declared. -/
  parameter : String
  /-- The type of the parameter's value. -/
  type : TypeExpr
  deriving DecidableEq

/-- The method that updates a parameter. -/
def UpdateMethod.ofParameter (parameter : Parameter) : UpdateMethod where
  name := Naming.updateMethod parameter.name
  parameter := parameter.name
  type := parameter.valueType

/-- A method as it is written in a scope. -/
def UpdateMethod.function (scope : Scope) (method : UpdateMethod) : Function where
  name := method.name
  modifiers := ["public"]
  parameters := [{ name := safeName method.parameter, type := scope.writeType method.type }]

/-- The delegate of a view. -/
structure Delegate where
  /-- The view whose data is updated. -/
  view : View
  /-- The package of delegates and of the mark on generated code. -/
  runtime : RuntimePackage

namespace Delegate

/-- The name of the interface. -/
def interfaceName (delegate : Delegate) : String :=
  Naming.delegate delegate.view.name

/-- The methods, in the order of the data parameters. -/
def methods (delegate : Delegate) : List UpdateMethod :=
  delegate.view.dataParameters.map UpdateMethod.ofParameter

/-- The annotation that marks a delegate as generated. -/
def marker (delegate : Delegate) : QualifiedName :=
  .ofDotted delegate.runtime.marker

/-- The scope of the file. -/
def scope (delegate : Delegate) : Scope :=
  (Scope.declare ⟨delegate.runtime.delegates, []⟩ delegate.interfaceName).referAll
    (delegate.marker :: delegate.methods.flatMap (·.type.references))

/-- The mark on the interface, which says what it was generated from. -/
def markerUse (delegate : Delegate) : AnnotationUse where
  name := delegate.scope.write delegate.marker
  arguments := some
    ("factoryName = \"" ++ delegate.view.group ++ "\", type = \"" ++
      delegate.view.mode.annotationName ++ "\", viewName = \"" ++ delegate.view.name ++ "\"")

/-- The interface as it is written. -/
def interface (delegate : Delegate) : Interface where
  name := delegate.interfaceName
  annotations := [delegate.markerUse]
  modifiers := ["public"]
  typeParameters := delegate.view.typeParameters
  functions := delegate.methods.map (·.function delegate.scope)

/-- The file of a delegate. -/
def file (delegate : Delegate) : File where
  scope := delegate.scope
  nodes := [.interface delegate.interface]

/-- The path of the file. -/
def path (delegate : Delegate) : String :=
  Output.sourcePath delegate.runtime.delegates (delegate.interfaceName ++ ".kt")

end Delegate

end ViewGlue.Host
