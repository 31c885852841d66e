import ViewGlue.Code.Reserved
import ViewGlue.Foreign.Syntax
import ViewGlue.Text.Order

/-!
# Native files

A native file imports whole modules. Its text starts with the imports in the order of their
code points; an empty line stands before each declaration but the first thing in the file.
-/

namespace ViewGlue.Foreign

open Code (Fragment Writer)

/-- Words that native code reserves. -/
def reservedWords : List String :=
  ["associatedtype", "class", "deinit", "enum", "extension", "fileprivate", "func", "import",
   "init", "inout", "internal", "let", "open", "operator", "private", "protocol", "public",
   "rethrows", "static", "struct", "subscript", "typealias", "var", "break", "case",
   "continue", "default", "defer", "do", "else", "fallthrough", "for", "guard", "if", "in",
   "repeat", "return", "switch", "where", "while", "as", "Any", "catch", "false", "is", "nil",
   "self", "Self", "super", "throw", "throws", "true", "try"]

/-- A name as native code writes it. -/
def safeName (name : String) : String :=
  Code.safeName reservedWords name

/-- A native file. -/
structure File where
  /-- The modules that it imports. -/
  modules : List String := []
  /-- Its declarations in the order of the text. -/
  nodes : List Node := []

namespace File

/-- The modules, each once, in the order of their code points. -/
def imports (file : File) : List String :=
  file.modules.foldl (fun sorted module => Text.insertSorted module sorted) []

/-- Nothing is in the file. -/
def isEmpty (file : File) : Bool :=
  file.imports.isEmpty && file.nodes.isEmpty

/-- The declarations with an empty line between neighbours. -/
def body : List Node → List Fragment
  | [] => []
  | [node] => node.fragments
  | node :: next :: rest => node.fragments ++ .blank :: body (next :: rest)

/-- The lines of a native file. -/
def fragments (file : File) : List Fragment :=
  file.imports.map (fun module => .line ("import " ++ module)) ++
    (if file.imports.isEmpty || file.nodes.isEmpty then [] else [.blank]) ++ body file.nodes

/-- The text of a native file. -/
def render (file : File) : String :=
  Code.render file.fragments

/-- The text of a native file under the header of generated files. -/
def renderGenerated (file : File) : String :=
  Code.withHeader Code.generatedHeader file.render

end File

end ViewGlue.Foreign
