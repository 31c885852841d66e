import ViewGlue.TypeExpr.Basic

/-!
# Declarations

A declaration of a native view as a manifest states it, before it is known whether glue can be
generated for it. Everything that may be missing or wrong there is optional here.
-/

namespace ViewGlue

/-- The source file that a declaration stands in. -/
structure SourceFile where
  /-- Where the file stands. -/
  path : String
  /-- The package that it declares, empty for the package without a name. -/
  package : String
  deriving DecidableEq, Repr

/-- Where generated code may be used; each has a source modifier. -/
inductive Visibility where
  /-- Any code. -/
  | everywhere
  /-- Code of the same module. -/
  | module
  /-- The class and its subclasses. -/
  | subclasses
  /-- The owner alone. -/
  | owner
  deriving DecidableEq, Repr

/-- The source modifier of a visibility. -/
def Visibility.keyword : Visibility → String
  | everywhere => "public"
  | module => "internal"
  | subclasses => "protected"
  | owner => "private"

/-- The visibility that a declaration states: one with a source modifier, or one of the two
that no modifier expresses. -/
inductive DeclaredVisibility where
  /-- A visibility that a modifier writes. -/
  | modifier (visibility : Visibility)
  /-- Code of the same package, as Java has it. -/
  | javaPackage
  /-- What a declaration inside a function has. -/
  | enclosing
  deriving DecidableEq, Repr

namespace DeclaredVisibility

/-- All visibilities that a declaration may state. -/
def all : List DeclaredVisibility :=
  [modifier .everywhere, modifier .module, modifier .subclasses, modifier .owner, javaPackage,
   enclosing]

/-- The written name of a stated visibility. -/
def name : DeclaredVisibility → String
  | modifier visibility => visibility.keyword
  | javaPackage => "java-package"
  | enclosing => "local"

/-- The visibility of the generated code, if a modifier expresses it. -/
def visibility? : DeclaredVisibility → Option Visibility
  | modifier visibility => some visibility
  | javaPackage => none
  | enclosing => none

/-- The stated visibility with this name. -/
def ofName? (s : String) : Option DeclaredVisibility :=
  all.find? (·.name == s)

end DeclaredVisibility

/-- A modifier of a parameter. -/
inductive ParameterModifier where
  | crossinline
  | noinline
  | vararg
  deriving DecidableEq, Repr

namespace ParameterModifier

/-- All parameter modifiers. -/
def all : List ParameterModifier := [crossinline, noinline, vararg]

/-- The written form of a parameter modifier. -/
def keyword : ParameterModifier → String
  | crossinline => "crossinline"
  | noinline => "noinline"
  | vararg => "vararg"

/-- The parameter modifier with this written form. -/
def ofKeyword? (s : String) : Option ParameterModifier :=
  all.find? (·.keyword == s)

end ParameterModifier

/-- An annotation that the generated code repeats. The arguments are kept as written. -/
structure Annotation where
  /-- The class of the annotation. -/
  name : QualifiedName
  /-- The text between its parentheses, if it has any. -/
  arguments : Option String
  deriving DecidableEq, Repr

/-- What the bridge annotation of a declaration says. -/
structure BridgeSettings where
  /-- The factory group that the view joins. -/
  group : Option String := none
  /-- How the view is rendered, as written. -/
  mode : Option String := none
  /-- Whether the view outlives navigation. -/
  retained : Option Bool := none
  deriving DecidableEq, Repr

/-- A parameter as declared; its name may be unknown. -/
structure DeclaredParameter where
  /-- Its name, which a declaration may lack. -/
  name : Option String
  /-- The type as declared; under `vararg` that of a single value. -/
  type : TypeExpr
  /-- Its modifiers in the order of the declaration. -/
  modifiers : List ParameterModifier := []
  deriving DecidableEq

/-- A declaration as stated. -/
structure Declaration where
  /-- The name of the function. -/
  name : String
  /-- The declaration has no body of its own, so that a body can be generated. -/
  isStub : Bool := true
  /-- Who may use it, if that was resolved. -/
  visibility : Option DeclaredVisibility := some (.modifier .everywhere)
  /-- The file where it stands, if it stands in one. -/
  file : Option SourceFile
  /-- Its annotations in their order. -/
  annotations : List Annotation := []
  /-- The names of its type parameters. -/
  typeParameters : List String := []
  /-- What it says about its view. -/
  bridge : BridgeSettings := {}
  /-- The composable that shows the view instead of the default one, where the outer option
  says whether an override is present at all. -/
  renderTarget : Option (Option String) := none
  /-- Its parameters in their order. -/
  parameters : List DeclaredParameter := []
  deriving DecidableEq

end ViewGlue
