import ViewGlue.Run.Execution

/-!
# The program

Reads the manifest and writes the generated files; everything else is decided by the library.
-/

namespace ViewGlue.Main

open Output Run

/-- The content of a file, if it can be read. -/
def readFile? (path : String) : IO (Option String) := do
  try
    return some (← IO.FS.readFile path)
  catch _ =>
    return none

/-- Writes a file unless it has the content already. -/
def writeFile (path content : String) : IO WriteOutcome := do
  if (← readFile? path) == some content then
    return .unchanged
  try
    if folderPath path ≠ "" then
      IO.FS.createDirAll (folderPath path)
    IO.FS.writeFile path content
    return .written
  catch _ =>
    return .refused

/-- Writes the files of sources below a directory. -/
def writeSources (sources : Sources) (base : String) : IO (Option Written) := do
  let mut record : Written := {}
  for entry in sources.registry.entries do
    match record.add? entry.path (← writeFile (entry.fullPath base) entry.content) with
    | some next => record := next
    | none => return none
  return some record

/-- Writes the sources of a project. -/
def generate (project : Project) (destination : Destination) :
    IO (Except WriteFailure GenerateReport) := do
  let mut written : List WrittenSources := []
  for (sources, base) in outputs project destination do
    match ← writeSources sources base with
    | some record => written := written ++ [⟨sources.language, base, record⟩]
    | none => return .error ⟨sources.language⟩
  return .ok (generateReport project destination (.written written))

/-- Carries out what a command line asks for. -/
def execute : Invocation → IO Ending
  | .version => return { exitCode := 0, output := versionText }
  | .check input format => return checkEnding input format (← readFile? input.config)
  | .generate input directory dryRun => do
    match loadForGenerating input directory (← readFile? input.config) with
    | .error error => return .failure error.message
    | .ok (project, destination) =>
      if dryRun then return generateEnding (.ok (preview project destination))
      else return generateEnding (← generate project destination)

end ViewGlue.Main

/-- Carries out a command line. -/
def main (arguments : List String) : IO UInt32 := do
  let ending ←
    match ViewGlue.Run.readArguments arguments with
    | .error error => pure (ViewGlue.Run.Ending.usage error)
    | .ok invocation => ViewGlue.Main.execute invocation
  IO.print ending.output
  IO.eprint ending.errors
  return ending.exitCode.toUInt32
