import ViewGlue.Host.File
import ViewGlue.Host.Statement
import ViewGlue.Host.Symbols
import ViewGlue.Naming
import ViewGlue.Output.Path

/-!
# Compositions

The values through which compositions reach the factories, one for each group.
-/

namespace ViewGlue.Host

/-- The accessors of groups. -/
structure Compositions where
  /-- The names of the groups. -/
  groups : List String
  /-- The package that the file belongs to. -/
  runtime : RuntimePackage

namespace Compositions

/-- The interface of a group's factory. -/
def factoryInterface (compositions : Compositions) (group : String) : QualifiedName :=
  ⟨compositions.runtime.root, Naming.factoryInterface group⟩

/-- The scope of the file. -/
def scope (compositions : Compositions) : Scope :=
  Scope.referAll ⟨compositions.runtime.root, []⟩
    (Symbols.compositionLocal :: Symbols.compositionLocalOf ::
      compositions.groups.map compositions.factoryInterface)

/-- The accessor of a group; reading it without a factory fails. -/
def accessor (compositions : Compositions) (group : String) : Property where
  name := Naming.factoryAccessor group
  type :=
    compositions.scope.write Symbols.compositionLocal ++ "<" ++
      compositions.scope.write (compositions.factoryInterface group) ++ ">"
  value :=
    (Expr.invoke (compositions.scope.write Symbols.compositionLocalOf)
      [.labelled "defaultFactory"
        (.closure (.invoke "error"
          [.quoted ("You have to provide " ++ Naming.factoryAccessor group)]))]).text
  modifiers := ["public"]

/-- The file of the accessors. -/
def file (compositions : Compositions) : File where
  scope := compositions.scope
  nodes := compositions.groups.map fun group => .property (compositions.accessor group)

/-- The path of the file. -/
def path (compositions : Compositions) : String :=
  Output.sourcePath compositions.runtime.root "Compositions.kt"

end Compositions

end ViewGlue.Host
