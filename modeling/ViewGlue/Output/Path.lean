import ViewGlue.Text.Split

/-!
# Paths

Paths are texts with slashes between their parts. A path that starts with a slash stands on its
own; any other is below the directory it is joined to.
-/

namespace ViewGlue.Output

/-- A path below a directory. -/
def joinPath (base path : String) : String :=
  if path.toList.head? = some '/' ∨ base = "" then path
  else if base.toList.getLast? = some '/' then base ++ path
  else base ++ "/" ++ path

/-- A name that leads on from where it stands, unlike an empty one and a single dot. -/
def isStep (name : String) : Bool := name != "" && name != "."

/-- The path of the folder that the last name of a path is looked for in. -/
def folderPath (path : String) : String :=
  let names := (Text.splitAt (· == '/') path).reverse.dropWhile (! isStep ·)
  Text.joinWith "/" ((names.drop 1).dropWhile (! isStep ·)).reverse

/-- The characters without an ending: what stands before the last dot, unless that comes
first. -/
def withoutEnding (name : List Char) : List Char :=
  match Text.splitLastChars '.' name with
  | some ([], _) => name
  | some (before, _) => before
  | none => name

/-- The name of a file without directories, of either kind of slash, and without its ending. -/
def fileStem (path : String) : String :=
  String.ofList
    (withoutEnding
      ((Text.splitChars (fun c => c == '/' || c == '\\') path.toList).getLastD []))

/-- The directory of a package: its parts with slashes between them. -/
def packagePath (package : String) : String :=
  Text.joinWith "/" ((Text.splitAt (· == '.') package).filter (· ≠ ""))

/-- A file in the directory of a package. -/
def sourcePath (package fileName : String) : String :=
  if packagePath package = "" then fileName else packagePath package ++ "/" ++ fileName

end ViewGlue.Output
