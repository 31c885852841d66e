import ViewGlue.QualifiedName
import ViewGlue.Text.Identifier

/-!
# Derived names

The names that generated code uses follow from the names of views, groups and parameters and
from the package of the shared runtime.
-/

namespace ViewGlue

namespace Naming

/-- The interface that the host calls to create the views of a group. -/
def factoryInterface (group : String) : String := "Compose" ++ group ++ "Factory"

/-- The short name of a group's factory: an alias on the host side, a protocol on the native
side. -/
def factoryAlias (group : String) : String := group ++ "Factory"

/-- The accessor through which a composition reaches a group's factory. -/
def factoryAccessor (group : String) : String := "Local" ++ group ++ "Factory"

/-- The class that offers a native factory to the host. -/
def bindingClass (group : String) : String := "Foreign" ++ group ++ "Factory"

/-- The interface through which the host updates a view. -/
def delegate (view : String) : String := view ++ "Delegate"

/-- The observable object of a view. -/
def observable (view : String) : String := view ++ "Observable"

/-- The factory method that creates a view. -/
def createMethod (view : String) : String := "create" ++ view

/-- The delegate method that updates a parameter. -/
def updateMethod (parameter : String) : String := "update" ++ Text.pascalCase parameter

end Naming

/-- The package of the shared runtime. -/
structure RuntimePackage where
  /-- The name of the package itself; those of its parts start with it. -/
  root : String
  deriving DecidableEq, Repr

namespace RuntimePackage

/-- The package of the delegates. -/
def delegates (runtime : RuntimePackage) : String := runtime.root ++ ".delegate"

/-- The class that keeps a view while its screen is away. -/
def viewHolder (runtime : RuntimePackage) : String :=
  runtime.root ++ ".NativeViewHolderViewModel"

/-- The annotation that marks generated delegates. -/
def marker (runtime : RuntimePackage) : String := runtime.root ++ ".GeneratedBridgeView"

end RuntimePackage

end ViewGlue
