import ViewGlue.Output.FileTree
import ViewGlue.Output.Registry

/-!
# Writing sources

The files of a registry are written below a directory in the order in which they are listed.
Writing stops at the first file that cannot be written.
-/

namespace ViewGlue.Output

/-- The files of a registry that were written and those that had their content already. -/
structure Written where
  /-- The paths of the files that were written. -/
  written : List String := []
  /-- The paths of the files that were left as they are. -/
  unchanged : List String := []
  deriving DecidableEq, Repr

/-- The record with one more file, or nothing if it could not be written. -/
def Written.add? (record : Written) (path : String) : WriteOutcome → Option Written
  | .written => some { record with written := record.written ++ [path] }
  | .unchanged => some { record with unchanged := record.unchanged ++ [path] }
  | .refused => none

/-- How many files there were. -/
def Written.total (record : Written) : Nat :=
  record.written.length + record.unchanged.length

/-- Writes an entry below a directory. -/
def FileTree.writeEntry (tree : FileTree) (base : String) (entry : Entry) :
    WriteOutcome × FileTree :=
  tree.write (entry.fullPath base) entry.content

/-- Writes entries below a directory, adding to a record. -/
def FileTree.writeEntries (tree : FileTree) (base : String) (record : Written) :
    List Entry → Option Written × FileTree
  | [] => (some record, tree)
  | entry :: rest =>
    let (outcome, tree) := tree.writeEntry base entry
    match record.add? entry.path outcome with
    | some record => tree.writeEntries base record rest
    | none => (none, tree)

/-- Without entries nothing is written. -/
theorem FileTree.writeEntries_nil (tree : FileTree) (base : String) (record : Written) :
    tree.writeEntries base record [] = (some record, tree) := by
  exact rfl

/-- Entries are written one after another, as long as none is refused. -/
theorem FileTree.writeEntries_cons (tree : FileTree) (base : String) (record : Written)
    (entry : Entry) (rest : List Entry) :
    tree.writeEntries base record (entry :: rest) =
      match record.add? entry.path (tree.writeEntry base entry).1 with
      | some next => (tree.writeEntry base entry).2.writeEntries base next rest
      | none => (none, (tree.writeEntry base entry).2) := by
  exact rfl

/-- Writes the files of a registry below a directory. -/
def FileTree.writeRegistry (tree : FileTree) (base : String) (registry : Registry) :
    Option Written × FileTree :=
  tree.writeEntries base {} registry.entries

end ViewGlue.Output
