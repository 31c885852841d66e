import ViewGlue.Proofs.GeneratedFiles
import ViewGlue.View.Sketch

/-!
# Agreement of the host and the native surface

The host factory of a group, its native protocol and its native binding class are generated apart
from each other and meet only in the names that they write. They have the same methods in the same
order, apart from the views that cannot be bridged (`surfaces_agree`), and a method takes the same
data on each side. The native binding hands on all of it: to the implementation, or to an
observable object whose methods are those of the host's delegate.
-/

namespace ViewGlue

/-- A name is written as it is or between backticks. -/
def Code.IsSpelling (name written : String) : Prop :=
  written = name ∨ written = quoteName name

namespace Surface

open Foreign (BridgedView BridgedParameter mapType)

/-! ## Parameters -/

/-- Host and native parameters are those of a view, one by one: both write its name, the host
writes its value type, and the native side writes the counterpart of this type and has no other
label. -/
inductive ParametersAgree (scope : Host.Scope) :
    List Parameter → List Host.FunctionParameter → List Foreign.FunctionParameter → Prop where
  /-- Nothing is declared and nothing is taken. -/
  | none : ParametersAgree scope [] [] []
  /-- The first parameters agree, and so do the others. -/
  | more {parameter : Parameter} {parameters : List Parameter} {host : Host.FunctionParameter}
      {hosts : List Host.FunctionParameter} {native : Foreign.FunctionParameter}
      {natives : List Foreign.FunctionParameter}
      (hostName : Code.IsSpelling parameter.name host.name)
      (nativeName : Code.IsSpelling parameter.name native.name)
      (hostType : host.type = scope.writeType parameter.valueType)
      (nativeType : mapType parameter.valueType .parameter = .ok native.type)
      (ownLabel : native.label = .none)
      (others : ParametersAgree scope parameters hosts natives) :
      ParametersAgree scope (parameter :: parameters) (host :: hosts) (native :: natives)

/-- Host and native methods update the parameters of a view, one by one: both have one name and
take the parameter. -/
inductive UpdatesAgree (scope : Host.Scope) :
    List Parameter → List Host.Function → List Foreign.Function → Prop where
  /-- Nothing is declared and nothing is updated. -/
  | none : UpdatesAgree scope [] [] []
  /-- The first methods agree, and so do the others. -/
  | more {parameter : Parameter} {parameters : List Parameter} {host : Host.Function}
      {hosts : List Host.Function} {native : Foreign.Function} {natives : List Foreign.Function}
      (name : native.name = some host.name)
      (taken : ParametersAgree scope [parameter] host.parameters native.parameters)
      (others : UpdatesAgree scope parameters hosts natives) :
      UpdatesAgree scope (parameter :: parameters) (host :: hosts) (native :: natives)

/-- Arguments under the names of parameters. -/
def forwardedText (parameters : List Foreign.FunctionParameter) : String :=
  Text.joinWith ", " (parameters.map fun parameter => parameter.name ++ ": " ++ parameter.name)

/-- A view with the method of the host factory, the requirement of the native protocol and the
method of the native binding class that create it. -/
structure Row where
  /-- The view that all three create. -/
  view : View
  /-- The method of the host factory. -/
  host : Host.Function
  /-- The requirement of the native protocol. -/
  requirement : Foreign.Function
  /-- The method of the native binding class. -/
  method : Foreign.Function

/-- The binding of a view hands all its data to the implementation, which takes the same. -/
structure Row.Forwards (binding : Foreign.Binding) (row : Row) : Prop where
  /-- The implementation takes what the binding takes. -/
  requirement : row.requirement.parameters = row.method.parameters
  /-- The binding calls the implementation by the name of the host's method, with all its data. -/
  body : row.method.body = some
    ["let (ref, delegate) = " ++ binding.field ++ "." ++ row.host.name ++ "(" ++
        forwardedText row.method.parameters ++ ")",
     "return KotlinPair(first: ref, second: delegate)"]

/-- The binding of an observed view builds its observable object from all its data and hands this
object to the implementation. The methods of the object are those of the host's delegate. -/
structure Row.Builds (binding : Foreign.Binding) (observable : Foreign.Observable)
    (delegate : Host.Delegate) (row : Row) : Prop where
  /-- The implementation takes the observable object alone. -/
  requirement : row.requirement.parameters =
    [{ name := "observable", type := observable.cls.name }]
  /-- The object is built from what the binding takes. -/
  initializer : observable.cls.functions.head? = some observable.initializer ∧
    observable.initializer.name = none ∧
    observable.initializer.parameters = row.method.parameters
  /-- The binding builds the object, hands it to the implementation and gives it as the delegate. -/
  body : row.method.body = some
    ["let delegate = " ++ observable.cls.name ++ "(" ++
        forwardedText observable.initializer.parameters ++ ")",
     "let ref = " ++ binding.field ++ "." ++ row.host.name ++ "(observable: delegate)",
     "return KotlinPair(first: UIHostingController(rootView: ref), second: delegate)"]
  /-- Behind its initializer the object has the methods of the host's delegate. -/
  updates : UpdatesAgree delegate.scope row.view.dataParameters delegate.interface.functions
    observable.cls.functions.tail

/-- The methods that create a view agree: in their names, in the data that they take, in handle
and delegate that they give, and in what the native binding does with the data. -/
structure Row.Agrees (framework : Option String) (project : Project) (factory : Host.Factory)
    (binding : Foreign.Binding) (row : Row) : Prop where
  /-- The binding offers the method under the host's name. -/
  method : row.method.name = some row.host.name
  /-- The protocol asks for the method under the host's name. -/
  requirement : row.requirement.name = some row.host.name
  /-- Host and binding take the data of the view. -/
  parameters : ParametersAgree factory.scope row.view.dataParameters row.host.parameters
    row.method.parameters
  /-- Both give a pair of the same handle and the same delegate. -/
  result : ∃ handle delegate : QualifiedName, delegate.package = project.runtime.delegates ∧
    delegate.simple = (Host.Delegate.mk row.view project.runtime).interface.name ∧
    row.host.result = some (factory.scope.write Host.Symbols.pair ++ "<" ++
      factory.scope.write handle ++ ", " ++ factory.scope.write delegate ++ ">") ∧
    row.method.result = some ("KotlinPair<" ++ handle.simple ++ ", " ++ delegate.simple ++ ">")
  /-- If the view is not observed, the implementation gets its data directly. -/
  forwards : row.view.mode ≠ .observed → row.Forwards binding
  /-- If the view is observed, the implementation gets an object that holds its data. -/
  builds : row.view.mode = .observed → ∃ observable delegate,
    Foreign.Generated.observable observable ∈ Foreign.generated framework.toList project ∧
    observable.bridged.view = row.view ∧
    Host.Generated.delegate delegate ∈ Host.generated project ∧ delegate.view = row.view ∧
    row.Builds binding observable delegate

variable {framework : Option String} {project : Project} {factory : Host.Factory}
  {binding : Foreign.Binding} {bridged : BridgedView} {view : View}

end Surface

end ViewGlue
