import ViewGlue.Foreign.BridgedView

/-!
# Native files of views

Three kinds of native files: the protocol that the application implements to create the views
of a group, the class that offers such an implementation to the host, and the observable object
of a view.
-/

namespace ViewGlue.Foreign

/-- The module of observed views. -/
def viewModule : String := "SwiftUI"

/-- The module of native handles. -/
def handleModule : String := "UIKit"

/-- The protocol of a group. -/
structure FactoryProtocol where
  /-- The group that it creates views for. -/
  group : String
  /-- The views of the group that can be bridged. -/
  views : List BridgedView
  /-- Further modules to import. -/
  modules : List String

namespace FactoryProtocol

/-- What an implementation must offer for a view: an observed view gets its observable object,
any other gets the data. -/
def requirement (bridged : BridgedView) : Function where
  name := some (Naming.createMethod bridged.view.name)
  parameters :=
    match bridged.view.mode with
    | .observed => [{ name := "observable", type := Naming.observable bridged.view.name }]
    | _ => bridged.declared
  result := some bridged.result

/-- The protocol as it is written. -/
def protocol (factory : FactoryProtocol) : Protocol where
  name := Naming.factoryAlias factory.group
  modifiers := ["public"]
  requirements := factory.views.map requirement

/-- The file of a protocol. -/
def file (factory : FactoryProtocol) : File where
  modules := viewModule :: handleModule :: factory.modules
  nodes := [.protocol factory.protocol]

/-- The path of the file. -/
def path (factory : FactoryProtocol) : String :=
  Naming.factoryAlias factory.group ++ ".swift"

end FactoryProtocol

/-- The class that offers a group's implementation to the host. -/
structure Binding where
  /-- The group whose implementation it offers. -/
  group : String
  /-- The views of the group that can be bridged. -/
  views : List BridgedView
  /-- Further modules to import. -/
  modules : List String

namespace Binding

/-- The protocol of the implementation. -/
def protocolName (binding : Binding) : String :=
  Naming.factoryAlias binding.group

/-- The property that holds the implementation. -/
def field (binding : Binding) : String :=
  Text.lowerFirst binding.protocolName

/-- What the host gets: handle and delegate. -/
def resultType (bridged : BridgedView) : String :=
  "KotlinPair<" ++ bridged.view.mode.handleClass ++ ", " ++
    Naming.delegate bridged.view.name ++ ">"

/-- The call of the implementation. -/
def creation (binding : Binding) (bridged : BridgedView) (arguments : List Expr) : Expr :=
  .call (.member (.name binding.field) (Naming.createMethod bridged.view.name)) arguments

/-- The pair that the host gets. -/
def pair (first second : Expr) : Statement :=
  .result (.invoke "KotlinPair" [.labelled "first" first, .labelled "second" second])

/-- The body of a method. An observed view is created from a new observable object, which is
also its delegate. -/
def body (binding : Binding) (bridged : BridgedView) : List Statement :=
  match bridged.view.mode with
  | .observed =>
    [.bind "delegate" (.invoke (Naming.observable bridged.view.name) bridged.forwarded),
     .bind "ref"
      (binding.creation bridged [.labelled "observable" (.name "delegate")]),
     pair (.invoke "UIHostingController" [.labelled "rootView" (.name "ref")])
      (.name "delegate")]
  | _ =>
    [.bindPair "ref" "delegate" (binding.creation bridged bridged.forwarded),
     pair (.name "ref") (.name "delegate")]

/-- The method that creates a view. -/
def method (binding : Binding) (bridged : BridgedView) : Function where
  name := some (Naming.createMethod bridged.view.name)
  modifiers := ["public"]
  parameters := bridged.declared
  result := some (resultType bridged)
  body := some ((binding.body bridged).map Statement.text)

/-- The initializer, which takes the implementation. -/
def initializer (binding : Binding) : Function where
  name := none
  modifiers := ["public"]
  parameters := [{ name := binding.field, type := binding.protocolName, label := some "_" }]
  body := some
    [(Statement.assign (.member (.name "self") binding.field) (.name binding.field)).text]

/-- The class as it is written. -/
def cls (binding : Binding) : Class where
  name := Naming.bindingClass binding.group
  modifiers := ["public"]
  conformances := [Naming.factoryInterface binding.group]
  properties :=
    [{ name := binding.field, type := binding.protocolName, modifiers := ["private"] }]
  functions := binding.initializer :: binding.views.map binding.method

/-- The file of the class. -/
def file (binding : Binding) : File where
  modules := viewModule :: handleModule :: binding.modules
  nodes := [.cls binding.cls]

/-- The path of the file. -/
def path (binding : Binding) : String :=
  Naming.bindingClass binding.group ++ ".swift"

end Binding

/-- The observable object of a view. -/
structure Observable where
  /-- The view whose data it holds. -/
  bridged : BridgedView
  /-- Further modules to import. -/
  modules : List String

namespace Observable

/-- The name of the class. -/
def className (observable : Observable) : String :=
  Naming.observable observable.bridged.view.name

/-- The statement that stores a parameter. -/
def store (parameter : BridgedParameter) : Statement :=
  .assign (.member (.name "self") parameter.name) (.name parameter.name)

/-- The property of a parameter, which tells observers of its changes. -/
def property (parameter : BridgedParameter) : Property where
  name := parameter.name
  type := parameter.propertyType
  isMutable := true
  attributes := ["Published"]
  modifiers := ["public"]

/-- The initializer, which takes all data. -/
def initializer (observable : Observable) : Function where
  name := none
  modifiers := ["public"]
  parameters := observable.bridged.declared
  body := some (observable.bridged.parameters.map fun parameter => (store parameter).text)

/-- The method that updates a parameter. -/
def update (parameter : BridgedParameter) : Function where
  name := some (Naming.updateMethod parameter.source)
  modifiers := ["public"]
  parameters := [{ name := parameter.name, type := parameter.parameterType }]
  body := some [(store parameter).text]

/-- The class as it is written. -/
def cls (observable : Observable) : Class where
  name := observable.className
  modifiers := ["public"]
  conformances := [Naming.delegate observable.bridged.view.name, "ObservableObject"]
  properties := observable.bridged.parameters.map property
  functions := observable.initializer :: observable.bridged.parameters.map update

/-- The file of the class. -/
def file (observable : Observable) : File where
  modules := viewModule :: observable.modules
  nodes := [.cls observable.cls]

/-- The path of the file. -/
def path (observable : Observable) : String :=
  observable.className ++ ".swift"

end Observable

end ViewGlue.Foreign
