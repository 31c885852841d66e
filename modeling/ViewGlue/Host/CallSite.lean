import ViewGlue.Host.File
import ViewGlue.Host.Statement
import ViewGlue.Host.Symbols
import ViewGlue.Naming
import ViewGlue.Output.Path
import ViewGlue.Platform
import ViewGlue.View

/-!
# Call sites

The bodies of the declared functions. A body creates the view through the factory of its group,
forwards each data parameter when it changes, and hands the view to the composable that shows
it. A view that outlives navigation is kept by a view model; any other is remembered.
-/

namespace ViewGlue.Host

/-- The body of a view's function, with the names of its parts. -/
structure Body where
  /-- The view that the function shows. -/
  view : View
  /-- Where the factory, the delegate and the composables come from. -/
  runtime : RuntimePackage

namespace Body

/-- The accessor of the group's factory. -/
def accessor (body : Body) : QualifiedName :=
  ⟨body.runtime.root, Naming.factoryAccessor body.view.group⟩

/-- The class that keeps a view. -/
def holder (body : Body) : QualifiedName :=
  .ofDotted body.runtime.viewHolder

/-- The default modifier is needed when the slot is missing or may be absent. -/
def needsModifier (body : Body) : Bool :=
  match body.view.slot? with
  | some slot => slot.type.isNullable
  | none => true

/-- The classes that the body names, in their order. -/
def references (body : Body) : List QualifiedName :=
  [body.accessor, Symbols.remember] ++
    (if body.view.retained then
      [Symbols.rememberSaveable, Symbols.random, Symbols.viewModel, body.holder]
    else []) ++
    (if body.needsModifier then [Symbols.modifier] else []) ++
    [body.view.renderTarget]

/-- The data parameters as arguments. -/
def arguments (body : Body) : List Expr :=
  body.view.dataParameters.map fun parameter => .name (safeName parameter.name)

/-- The call that creates the view. -/
def creation (body : Body) : Expr :=
  .call (.member (.name "factory") (Naming.createMethod body.view.name))
    body.view.typeParameters body.arguments

/-- The value of an expression, remembered as long as `key` is the same. -/
def remembered (scope : Scope) (key : String) (value : Expr) : Expr :=
  .applied (.invoke (scope.write Symbols.remember) [.name key]) value

/-- The statements that bring view and delegate about when the view outlives navigation. -/
def retainedView (scope : Scope) (body : Body) : List Statement :=
  [.bind "key"
    (.applied (.name (scope.write Symbols.rememberSaveable))
      (.call
        (.member (.call (.member (.name (scope.write Symbols.random)) "nextInt") [] [])
          "toString")
        [] [.number 16])),
   .bindBlock "holder"
    (.invoke (scope.write Symbols.viewModel) [.labelled "key" (.name "key")])
    (.invoke (scope.write body.holder) [.closure body.creation]),
   .bind "delegate" (remembered scope "holder" (.member (.name "holder") "delegate")),
   .bind "view" (remembered scope "holder" (.member (.name "holder") "view"))]

/-- The statements that bring view and delegate about when the view is remembered. -/
def rememberedView (scope : Scope) (body : Body) : List Statement :=
  [.bindBlock "viewFactory" (.name (scope.write Symbols.remember)) body.creation,
   .bind "delegate" (remembered scope "viewFactory" (.member (.name "viewFactory") "second")),
   .bind "view" (remembered scope "viewFactory" (.member (.name "viewFactory") "first"))]

/-- The statement that forwards a parameter when it changes. -/
def update (scope : Scope) (parameter : Parameter) : Statement :=
  .run (remembered scope (safeName parameter.name)
    (.call (.member (.name "delegate") (Naming.updateMethod parameter.name)) []
      [.name (safeName parameter.name)]))

/-- The statements that forward the data parameters, behind an empty line if there are any. -/
def updates (scope : Scope) (body : Body) : List Statement :=
  if body.view.dataParameters.isEmpty then []
  else .gap :: body.view.dataParameters.map (update scope)

/-- The modifier that the view gets. -/
def modifier (scope : Scope) (body : Body) : Expr :=
  match body.view.slot? with
  | some slot =>
    if slot.type.isNullable then
      .orElse (.name (safeName slot.name)) (.name (scope.write Symbols.modifier))
    else .name (safeName slot.name)
  | none => .name (scope.write Symbols.modifier)

/-- The statements of the body. -/
def statements (scope : Scope) (body : Body) : List Statement :=
  [.bind "factory" (.member (.name (scope.write body.accessor)) "current")] ++
    (if body.view.retained then retainedView scope body else rememberedView scope body) ++
    updates scope body ++
    [.gap,
     .runSpread (scope.write body.view.renderTarget)
      [.labelled "modifier" (modifier scope body),
       .labelled "factory" (.closure (.name "view"))]]

end Body

/-- The function of a view. -/
structure ActualFunction where
  /-- The view that the function shows. -/
  view : View
  /-- Where the factory, the delegate and the composables come from. -/
  runtime : RuntimePackage

namespace ActualFunction

/-- The body of the function. -/
def body (actual : ActualFunction) : Body :=
  ⟨actual.view, actual.runtime⟩

/-- The classes that the function names, in their order. -/
def references (actual : ActualFunction) : List QualifiedName :=
  [Symbols.optIn, Symbols.foreignApi] ++ actual.view.annotations.map (·.name) ++
    actual.view.parameters.flatMap (·.type.references) ++ actual.body.references

/-- The uses of annotations: the consent to native code, then those of the declaration. -/
def annotations (scope : Scope) (actual : ActualFunction) : List AnnotationUse :=
  { name := scope.write Symbols.optIn
    arguments := some (scope.write Symbols.foreignApi ++ "::class") } ::
    actual.view.annotations.map fun annotation =>
      { name := scope.write annotation.name, arguments := annotation.arguments }

/-- A parameter as it is declared. -/
def parameter (scope : Scope) (parameter : Parameter) : FunctionParameter where
  name := safeName parameter.name
  type := scope.writeType parameter.type
  modifiers := parameter.modifiers.map (·.keyword)

/-- The function as it is written in a scope. -/
def function (scope : Scope) (actual : ActualFunction) : Function where
  name := actual.view.name
  annotations := actual.annotations scope
  modifiers := [actual.view.visibility.keyword, "actual"]
  typeParameters := actual.view.typeParameters
  parameters := actual.view.parameters.map (parameter scope)
  body := some ((actual.body.statements scope).map Statement.fragment)
  spread := true

end ActualFunction

/-- The functions of the views that a source file declares. -/
structure CallSite where
  /-- The file that declares the views. -/
  source : SourceFile
  /-- The build target, which tells the names of files apart. -/
  target : BuildTarget
  /-- The functions in the order of the views. -/
  functions : List ActualFunction

namespace CallSite

/-- The functions of a source file's views. -/
def ofSource (target : BuildTarget) (runtime : RuntimePackage) (source : SourceFile)
    (views : List View) : CallSite :=
  ⟨source, target, views.map fun view => ⟨view, runtime⟩⟩

/-- The scope of the file. -/
def scope (callSite : CallSite) : Scope :=
  Scope.referAll ⟨callSite.source.package, []⟩
    (callSite.functions.flatMap (·.references))

/-- The file of the functions. -/
def file (callSite : CallSite) : File where
  scope := callSite.scope
  nodes := callSite.functions.map fun actual => .function (actual.function callSite.scope)

/-- The path of the file: the package and the name of the source file. -/
def path (callSite : CallSite) : String :=
  Output.sourcePath callSite.source.package
    (Output.fileStem callSite.source.path ++ callSite.target.fileSuffix ++ ".kt")

end CallSite

end ViewGlue.Host
