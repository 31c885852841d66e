import ViewGlue.Text.Order

/-!
# Imports

The modules that code imports, each with the symbols taken from it. Modules keep the order in
which they were first named; symbols and sorted modules are in the order of their code points.
-/

namespace ViewGlue.Code

/-- Modules with their symbols. -/
structure ImportSet where
  /-- The modules in the order of their first calls, each with its symbols. -/
  modules : List (String × List String) := []
  deriving DecidableEq, Repr

namespace ImportSet

/-- Changes the symbols of a module, which starts with none. -/
def changeModule (module : String) (change : List String → List String) :
    List (String × List String) → List (String × List String)
  | [] => [(module, change [])]
  | entry :: rest =>
    if entry.1 = module then (module, change entry.2) :: rest
    else entry :: changeModule module change rest

/-- Imports a symbol from a module. -/
def add (imports : ImportSet) (module symbol : String) : ImportSet :=
  ⟨changeModule module (Text.insertSorted symbol) imports.modules⟩

/-- Imports a module. -/
def addModule (imports : ImportSet) (module : String) : ImportSet :=
  ⟨changeModule module id imports.modules⟩

/-- Imports what another set imports. -/
def merge (imports other : ImportSet) : ImportSet :=
  ⟨other.modules.foldl (fun modules entry =>
    changeModule entry.1
      (fun symbols => entry.2.foldl (fun sorted s => Text.insertSorted s sorted) symbols)
      modules) imports.modules⟩

/-- The symbols of a module, if it is imported. -/
def symbols? (imports : ImportSet) (module : String) : Option (List String) :=
  (imports.modules.find? (·.1 = module)).map (·.2)

/-- Whether a module is imported. -/
def hasModule (imports : ImportSet) (module : String) : Bool :=
  (imports.symbols? module).isSome

/-- Whether a symbol is imported from a module. -/
def hasSymbol (imports : ImportSet) (module symbol : String) : Bool :=
  ((imports.symbols? module).getD []).contains symbol

/-- The modules in the order of their code points. -/
def sorted (imports : ImportSet) : List (String × List String) :=
  Text.sortByName imports.modules

/-- Nothing is imported. -/
def isEmpty (imports : ImportSet) : Bool :=
  imports.modules.isEmpty

/-- How many modules are imported. -/
def size (imports : ImportSet) : Nat :=
  imports.modules.length

end ImportSet

end ViewGlue.Code
