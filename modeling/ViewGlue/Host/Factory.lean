import ViewGlue.Host.File
import ViewGlue.Host.Symbols
import ViewGlue.Naming
import ViewGlue.Output.Path
import ViewGlue.Platform
import ViewGlue.View

/-!
# Factories

The interface through which the host creates the views of a group. The primary target has a
method for each view; the common target declares the interface and an alias for it, and any
other target declares it empty.
-/

namespace ViewGlue.Host

/-- The method that creates a view: it takes the view's data and gives a native handle and the
delegate that updates it. -/
structure CreateMethod where
  /-- The name of the method. -/
  name : String
  /-- The type parameters of the view. -/
  typeParameters : List String
  /-- The names of the view's data with the types of the values. -/
  parameters : List (String × TypeExpr)
  /-- The class of the native handle. -/
  handle : QualifiedName
  /-- The delegate that updates the view. -/
  delegate : QualifiedName
  deriving DecidableEq

namespace CreateMethod

/-- The method that creates a view. -/
def ofView (runtime : RuntimePackage) (view : View) : CreateMethod where
  name := Naming.createMethod view.name
  typeParameters := view.typeParameters
  parameters := view.dataParameters.map fun parameter => (parameter.name, parameter.valueType)
  handle := view.mode.hostHandle
  delegate := ⟨runtime.delegates, Naming.delegate view.name⟩

/-- The classes that a method names, in their order. -/
def references (method : CreateMethod) : List QualifiedName :=
  method.parameters.flatMap (·.2.references) ++ [Symbols.pair, method.handle, method.delegate]

/-- A method as it is written in a scope. -/
def function (scope : Scope) (method : CreateMethod) : Function where
  name := method.name
  modifiers := ["public"]
  typeParameters := method.typeParameters
  parameters := method.parameters.map fun parameter =>
    { name := safeName parameter.1, type := scope.writeType parameter.2 }
  result := some
    (scope.write Symbols.pair ++ "<" ++ scope.write method.handle ++ ", " ++
      scope.write method.delegate ++ typeParameterText method.typeParameters ++ ">")

end CreateMethod

/-- The factory of a group for a build target. -/
structure Factory where
  /-- The group whose views it creates. -/
  group : String
  /-- The build target, which says whether the interface is expected or actual. -/
  target : BuildTarget
  /-- The package that the interface belongs to. -/
  runtime : RuntimePackage
  /-- The methods in the order of the views. -/
  methods : List CreateMethod

namespace Factory

/-- The factory of a group. Only the primary target has methods. -/
def ofGroup (target : BuildTarget) (runtime : RuntimePackage) (group : String)
    (views : List View) : Factory where
  group := group
  target := target
  runtime := runtime
  methods := if target = .primary then views.map (CreateMethod.ofView runtime) else []

/-- The name of the interface. -/
def interfaceName (factory : Factory) : String :=
  Naming.factoryInterface factory.group

/-- The names that the file declares. -/
def declared (factory : Factory) : List String :=
  factory.interfaceName ::
    (if factory.target = .common then [Naming.factoryAlias factory.group] else [])

/-- The scope of the file. -/
def scope (factory : Factory) : Scope :=
  (factory.declared.foldl Scope.declare ⟨factory.runtime.root, []⟩).referAll
    (factory.methods.flatMap (·.references))

/-- The interface as it is written. -/
def interface (factory : Factory) : Interface where
  name := factory.interfaceName
  modifiers := ["public", if factory.target = .common then "expect" else "actual"]
  functions := factory.methods.map (·.function factory.scope)

/-- The file of a factory. -/
def file (factory : Factory) : File where
  scope := factory.scope
  nodes :=
    .interface factory.interface ::
      (if factory.target = .common then
        [.typeAlias
          { name := Naming.factoryAlias factory.group
            target := factory.interfaceName
            modifiers := ["public"] }]
      else [])

/-- The path of the file; it differs between build targets. -/
def path (factory : Factory) : String :=
  Output.sourcePath factory.runtime.root
    (factory.interfaceName ++ factory.target.fileSuffix ++ ".kt")

end Factory

end ViewGlue.Host
