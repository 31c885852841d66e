import ViewGlue.Manifest.Lowering

/-!
# Manifests

A manifest lists platforms, options and declarations. A declaration names the round in which it
is discovered; a round keeps the order in which its declarations are written, those of source
files before those without one.
-/

namespace ViewGlue

/-- What a manifest says. -/
structure Manifest where
  /-- The platforms that the compilation builds for. -/
  platforms : List Platform
  /-- The options, ascending by key. -/
  options : List (String × String)
  /-- The declarations in the order of the text, each with its round. -/
  discovered : List (Nat × Declaration)

namespace Manifest

/-- Adds a declaration to its round; rounds ascend. -/
def addToRound (number : Nat) (declaration : Declaration) :
    List (Nat × List Declaration) → List (Nat × List Declaration)
  | [] => [(number, [declaration])]
  | round :: rest =>
    if number < round.1 then (number, [declaration]) :: round :: rest
    else if number = round.1 then (number, round.2 ++ [declaration]) :: rest
    else round :: addToRound number declaration rest

/-- The declarations by round. -/
def rounds (manifest : Manifest) : List (Nat × List Declaration) :=
  manifest.discovered.foldl (fun rounds entry => addToRound entry.1 entry.2 rounds) []

/-- How many declarations there are. -/
def declarationCount (manifest : Manifest) : Nat :=
  (manifest.rounds.flatMap (·.2)).length

/-- The manifest that the layout of a text states. -/
def ofLayout (text : String) (layout : Layout) : Except Error Manifest := do
  let inFiles ← layout.files.mapM (fileDeclarations text)
  let loose ← declarationsOf text none layout.declarations
  return ⟨layout.platforms, layout.options, inFiles.flatten ++ loose⟩

/-- Reads a manifest. A text that is no manifest is reported as such before any broken rule. -/
def parse (text : String) : Except Error Manifest :=
  match document? text >>= layout with
  | none => .error .malformed
  | some layout => ofLayout text layout

end Manifest

end ViewGlue
