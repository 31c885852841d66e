import ViewGlue.Code.Reserved
import ViewGlue.Host.Scope
import ViewGlue.Host.Syntax

/-!
# Host files

A host file is a scope and the declarations written in it. Its text starts with the package and
the imports; empty lines separate these and the declarations.
-/

namespace ViewGlue.Host

open Code (Fragment Writer)

/-- Words that host code reserves. -/
def reservedWords : List String :=
  ["as", "break", "class", "continue", "do", "else", "false", "for", "fun", "if", "in",
   "interface", "is", "null", "object", "package", "return", "super", "this", "throw",
   "true", "try", "typealias", "typeof", "val", "var", "when", "while"]

/-- A name as host code writes it. -/
def safeName (name : String) : String :=
  Code.safeName reservedWords name

/-- A host file. -/
structure File where
  /-- The package of the file and the owners of simple names in it. -/
  scope : Scope
  /-- Its declarations in the order of the text. -/
  nodes : List Node := []

namespace File

/-- The import lines, sorted by package and symbol. -/
def importLines (scope : Scope) : List Fragment :=
  scope.imports.sorted.flatMap fun entry =>
    entry.2.map fun symbol => .line ("import " ++ entry.1 ++ "." ++ symbol)

/-- The lines before the declarations. -/
def preamble (scope : Scope) : List Fragment :=
  let package : List Fragment :=
    if scope.package = "" then [] else [.line ("package " ++ scope.package)]
  let imports := importLines scope
  if package.isEmpty || imports.isEmpty then package ++ imports
  else package ++ .blank :: imports

/-- Writes a declaration behind an empty line, unless it is the first thing in the file. -/
def writeNode (writer : Writer) (node : Node) : Writer :=
  (if writer.text = "" then writer else writer.blank).writeAll node.fragments

/-- The text of a host file. -/
def render (file : File) : String :=
  (file.nodes.foldl writeNode (Writer.writeAll {} (preamble file.scope))).text

/-- The text of a host file under the header of generated files. -/
def renderGenerated (file : File) : String :=
  Code.withHeader Code.generatedHeader file.render

end File

end ViewGlue.Host
