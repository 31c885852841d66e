import ViewGlue.Diagnostic
import ViewGlue.Output.Path

/-!
# Registries

The files of a run, each path once: the first file registered for a path is kept, and every
later one is a collision that is reported. Files are listed by category.
-/

namespace ViewGlue.Output

/-- What a file is for; files are listed in this order. -/
inductive Category where
  /-- Creates views: factories and their accessors. -/
  | factory
  /-- Updates a view. -/
  | delegate
  /-- Shows views. -/
  | callSite
  /-- Belongs to the native side. -/
  | foreign
  deriving DecidableEq, Repr

/-- All categories in the order in which they are listed. -/
def Category.all : List Category := [factory, delegate, callSite, foreign]

/-- A file of a run. -/
structure Entry where
  /-- The path below the directory of its language. -/
  path : String
  /-- The text of the file. -/
  content : String
  /-- What the file is for. -/
  category : Category
  deriving DecidableEq, Repr

/-- Where an entry is written below a directory. -/
def Entry.fullPath (entry : Entry) (base : String) : String :=
  joinPath base entry.path

/-- The files that were registered and those that came too late. -/
structure Registry where
  /-- The first file of each path, in the order of registration. -/
  kept : List Entry := []
  /-- The files whose paths were taken, in the order of registration. -/
  collisions : List Entry := []
  deriving DecidableEq, Repr

namespace Registry

/-- The file that is kept for a path. -/
def find? (registry : Registry) (path : String) : Option Entry :=
  registry.kept.find? (·.path = path)

/-- Whether a path is still free. -/
def admits (registry : Registry) (entry : Entry) : Bool :=
  (registry.find? entry.path).isNone

/-- Keeps a file if its path is still free. -/
def register (registry : Registry) (entry : Entry) : Registry :=
  if registry.admits entry then { registry with kept := registry.kept ++ [entry] }
  else { registry with collisions := registry.collisions ++ [entry] }

/-- Registers files, one after another. -/
def registerAll (registry : Registry) (entries : List Entry) : Registry :=
  entries.foldl register registry

/-- The registry of files. -/
def ofList (entries : List Entry) : Registry :=
  registerAll {} entries

/-- The kept files of a category in the order of their registration. -/
def inCategory (registry : Registry) (category : Category) : List Entry :=
  registry.kept.filter (·.category = category)

/-- The kept files by category. -/
def entries (registry : Registry) : List Entry :=
  Category.all.flatMap registry.inCategory

/-- What is shown of the kept files before they are written: where each goes, and its content. -/
def preview (registry : Registry) : List (String × String) :=
  registry.entries.map fun entry => (entry.path, entry.content)

/-- The report of a file that came too late. -/
def collision (entry : Entry) : Diagnostic where
  severity := .error
  phase := "generate"
  code := some "path-collision"
  message := entry.path ++ " is generated more than once; only the first version is written"
  location := some entry.path

/-- The reports of all files that came too late. -/
def diagnostics (registry : Registry) : List Diagnostic :=
  registry.collisions.map collision

/-- How many files are kept. -/
def size (registry : Registry) : Nat :=
  registry.kept.length

end Registry

/-- The generated sources of a language. -/
structure Sources where
  /-- The name of the language, for reports. -/
  language : String
  /-- The ending of its files. -/
  extension : String
  /-- The files of the language. -/
  registry : Registry
  /-- The reports of its generator. -/
  diagnostics : List Diagnostic

end ViewGlue.Output
