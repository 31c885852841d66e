import ViewGlue.Code.Imports
import ViewGlue.TypeExpr.Basic

/-!
# Names in a host file

A file refers to classes by their simple names where it can. Each simple name belongs to the
class that took it first, which is written short; any other class of that simple name is
written in full. A name is never given up, so a class is written the same way throughout, and
the imports follow from the owners.
-/

namespace ViewGlue.Host

/-- Packages whose classes need no import. -/
def defaultPackages : List String :=
  ["kotlin", "kotlin.annotation", "kotlin.collections", "kotlin.comparisons", "kotlin.io",
   "kotlin.ranges", "kotlin.sequences", "kotlin.text"]

/-- The package of a file and the classes that own their simple names in it. -/
structure Scope where
  /-- The package of the file. -/
  package : String
  /-- The owners in the order of their claims. -/
  owners : List QualifiedName := []
  deriving DecidableEq, Repr

namespace Scope

/-- The class that owns a simple name. -/
def owner? (scope : Scope) (simple : String) : Option QualifiedName :=
  scope.owners.find? (·.simple = simple)

/-- Gives a simple name to a class unless it has an owner. -/
def take (scope : Scope) (name : QualifiedName) : Scope :=
  match scope.owner? name.simple with
  | some _ => scope
  | none => { scope with owners := scope.owners ++ [name] }

/-- The file itself declares a simple name. -/
def declare (scope : Scope) (simple : String) : Scope :=
  scope.take ⟨scope.package, simple⟩

/-- The file refers to a class. A class without a package has no other name to be confused
with. -/
def refer (scope : Scope) (name : QualifiedName) : Scope :=
  if name.package = "" then scope else scope.take name

/-- The file refers to classes, one after another. -/
def referAll (scope : Scope) (names : List QualifiedName) : Scope :=
  names.foldl refer scope

/-- The file refers to the classes of a type. -/
def referType (scope : Scope) (type : TypeExpr) : Scope :=
  scope.referAll type.references

/-- How a class is written: by its simple name if it owns that, and in full otherwise. -/
def write (scope : Scope) (name : QualifiedName) : String :=
  if name.package = "" ∨ scope.owner? name.simple = some name then name.simple
  else name.dotted

/-- How a type is written. -/
def writeType (scope : Scope) (type : TypeExpr) : String :=
  type.textWith scope.write

/-- Whether a class that owns its simple name has to be imported. -/
def needsImport (scope : Scope) (name : QualifiedName) : Bool :=
  name.package != scope.package && !defaultPackages.contains name.package

/-- The imports of the file. -/
def imports (scope : Scope) : Code.ImportSet :=
  (scope.owners.filter scope.needsImport).foldl
    (fun imports name => imports.add name.package name.simple) {}

end Scope

end ViewGlue.Host
