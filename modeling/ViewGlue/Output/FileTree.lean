import ViewGlue.Output.Path

/-!
# File trees

The files and folders below a working directory. A place is the names that lead to it; a path is
walked name by name, and folders that are missing on the way to a file are created before the
file is written. A file that is found with the content is left alone.
-/

namespace ViewGlue.Output

/-- The names that lead to a file or folder, the last one first. The first one of an absolute
path is a slash, and what is above the working directory has double dots. -/
structure Place where
  /-- How many names there are, by which most places differ. -/
  depth : Nat
  /-- The names from the file up to the top. -/
  names : List String
  /-- The depth is that of the names. -/
  depth_eq : depth = names.length
  deriving DecidableEq, Repr

namespace Place

/-- The working directory. -/
def start : Place := ⟨0, [], rfl⟩

/-- The root of absolute paths. -/
def root : Place := ⟨1, ["/"], rfl⟩

/-- The place with a name in a folder. -/
def inside (folder : Place) (name : String) : Place :=
  ⟨folder.depth + 1, name :: folder.names, by simp [folder.depth_eq]⟩

/-- The working directory and what is directly above it. -/
def isAbove (place : Place) : Bool := place.names.all (· == "..")

/-- Places that are folders without being listed: the working directory, the root of absolute
paths, and what is directly above the working directory. -/
def isGround (place : Place) : Bool := place = root || place.isAbove

/-- The folder that a folder is in. -/
def above (place : Place) : Place :=
  if place = root then place
  else if place.isAbove then place.inside ".."
  else ⟨place.depth - 1, place.names.tail, by simp [place.depth_eq]⟩

/-- Where a path starts. -/
def origin (path : String) : Place :=
  if path.toList.head? = some '/' then root else start

/-- A place below the working directory. -/
def isLocal (place : Place) : Bool :=
  place.names.getLast? != some "/" && place.names.getLast? != some ".."

/-- The path of a place below the working directory. -/
def path (place : Place) : String := Text.joinWith "/" place.names.reverse

end Place

/-- What stands at a place. -/
inductive Item where
  /-- A folder. -/
  | folder
  /-- A file with its content. -/
  | file (content : String)
  deriving DecidableEq, Repr

/-- Files and folders with their places, each place once. -/
structure FileTree where
  /-- What stands where; the ground is not listed. -/
  items : List (Place × Item) := []
  deriving DecidableEq, Repr

/-- What became of a file that was to be written. -/
inductive WriteOutcome where
  /-- The file has the new content. -/
  | written
  /-- The file had the content already. -/
  | unchanged
  /-- The file cannot be written there. -/
  | refused
  deriving DecidableEq, Repr

namespace FileTree

/-- What stands at a place. -/
def item? (tree : FileTree) (place : Place) : Option Item :=
  if place.isGround then some .folder
  else (tree.items.find? (·.1 = place)).map (·.2)

/-- Puts an item at a place. -/
def put (tree : FileTree) (place : Place) (item : Item) : FileTree :=
  ⟨tree.items.filter (·.1 ≠ place) ++ [(place, item)]⟩

/-- The names of a path. Empty ones and single dots stay where they are. -/
def names (path : String) : List String :=
  (Text.splitAt (· == '/') path).filter isStep

/-- A path that can only name a folder, because it ends in a slash or a dot. -/
def namesFolder (path : String) : Bool :=
  let last := (Text.splitAt (· == '/') path).getLastD ""
  last == "" || last == "." || last == ".."

/-- Names that a file or folder may have: at most 255 bytes. -/
def isUsable (name : String) : Bool :=
  name.utf8ByteSize ≤ 255

/-- Paths that can be followed: at most 4095 bytes, none of them null. -/
def isPath (path : String) : Bool :=
  path.utf8ByteSize ≤ 4095 && !path.toList.contains '\x00'

/-- The folder that names lead to, if all folders on the way exist. -/
def folderAt? (tree : FileTree) (place : Place) : List String → Option Place
  | [] => some place
  | name :: rest =>
    if name = ".." then tree.folderAt? place.above rest
    else
      match tree.item? (place.inside name) with
      | some .folder => tree.folderAt? (place.inside name) rest
      | _ => none

/-- The folder that names lead to, with the folders on the way created. A file in the way stops
it; the folders before it stay. -/
def makeFolders (tree : FileTree) (place : Place) : List String → FileTree × Option Place
  | [] => (tree, some place)
  | name :: rest =>
    if name = ".." then tree.makeFolders place.above rest
    else
      match tree.item? (place.inside name) with
      | some .folder => tree.makeFolders (place.inside name) rest
      | some (.file _) => (tree, none)
      | none =>
        if isUsable name then
          (tree.put (place.inside name) .folder).makeFolders (place.inside name) rest
        else (tree, none)

/-- The content of the file at a path. -/
def read? (tree : FileTree) (path : String) : Option String :=
  if !isPath path || namesFolder path then none
  else
    match (names path).reverse with
    | [] => none
    | name :: before =>
      match tree.folderAt? (Place.origin path) before.reverse with
      | none => none
      | some folder =>
        match tree.item? (folder.inside name) with
        | some (.file content) => some content
        | _ => none

/-- Whether a file or folder is at a path. -/
def contains (tree : FileTree) (path : String) : Bool :=
  if path = "" || !isPath path then false
  else (tree.read? path).isSome || (tree.folderAt? (Place.origin path) (names path)).isSome

/-- Writes a file, whatever was in it before. Nothing can be written where a folder is or where a
file stands in the way. Folders are created unless the path of the last one cannot be
followed. -/
def replace (tree : FileTree) (path content : String) : WriteOutcome × FileTree :=
  match (names path).reverse with
  | [] => (.refused, tree)
  | name :: before =>
    if !isPath (folderPath path) then (.refused, tree)
    else
      match tree.makeFolders (Place.origin path) before.reverse with
      | (tree, none) => (.refused, tree)
      | (tree, some folder) =>
        if !isPath path || namesFolder path || !isUsable name then (.refused, tree)
        else
          match tree.item? (folder.inside name) with
          | some .folder => (.refused, tree)
          | _ => (.written, tree.put (folder.inside name) (.file content))

/-- Writes a file unless it has the content already. -/
def write (tree : FileTree) (path content : String) : WriteOutcome × FileTree :=
  if tree.read? path = some content then (.unchanged, tree)
  else tree.replace path content

/-- The files below the working directory, each with its path. -/
def files (tree : FileTree) : List (String × String) :=
  tree.items.filterMap fun entry =>
    match entry with
    | (place, .file content) => if place.isLocal then some (place.path, content) else none
    | (_, .folder) => none

end FileTree

end ViewGlue.Output
