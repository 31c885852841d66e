import ViewGlue.Declaration
import ViewGlue.Manifest.Document
import ViewGlue.Platform
import ViewGlue.Text.Order

/-!
# The shape of manifests

Which tables and values a manifest may hold. Every table has a fixed set of keys; a key that is
not among them, a missing key and a value of another kind all make the document no manifest.
A table may also be given as the array of its values in the order of the keys, and a word from
a fixed set as the only key of a table whose value is empty.
-/

namespace ViewGlue.Manifest

/-- A table with known keys, or the array of its values in the order of the keys. -/
inductive Record where
  /-- The entries of a table. -/
  | named (entries : Entries)
  /-- The items of an array. -/
  | positional (items : List Node)

/-- What the field of a record that may be left out is when it is. -/
inductive Absent (α : Type) where
  /-- The field must be given. -/
  | refused
  /-- A table may leave the field out; an array has to reach it. -/
  | inTables (value : α)
  /-- The field may be left out. -/
  | anywhere (value : α)

/-- The record that a value is, if it has no key but the known ones. -/
def Record.ofNode? (keys : List String) : Node → Option Record
  | .table _ entries =>
    if entries.all (keys.contains ·.1) then some (.named entries) else none
  | .array items => some (.positional items)
  | .tables items => some (.positional items)
  | _ => none

/-- Reads the field with a key, which is at a place of the array form. -/
def Record.field {α : Type} (record : Record) (place : Nat) (key : String)
    (read : Node → Option α) (absent : Absent α) : Option α :=
  match record with
  | .named entries =>
    match entries.find? key, absent with
    | some node, _ => read node
    | none, .refused => none
    | none, .inTables value => some value
    | none, .anywhere value => some value
  | .positional items =>
    match items[place]?, absent with
    | some node, _ => read node
    | none, .anywhere value => some value
    | none, _ => none

/-- Reads a text with its place. -/
def quoted (node : Node) : Option Quoted :=
  match node with
  | .text text => some text
  | _ => none

/-- Reads a text. -/
def text (node : Node) : Option String :=
  (quoted node).map (·.value)

/-- Reads a truth value. -/
def boolean : Node → Option Bool
  | .boolean value => some value
  | _ => none

/-- How many numbers 32 bits have. -/
def wordCount : Nat := 4294967296

/-- Reads a number of 32 bits without a sign. -/
def natural32 : Node → Option Nat
  | .integer (.ofNat value) => if value < wordCount then some value else none
  | _ => none

/-- Reads the items of an array. -/
def listOf {α : Type} (read : Node → Option α) : Node → Option (List α)
  | .array items => items.mapM read
  | .tables items => items.mapM read
  | _ => none

/-- A value that holds nothing. -/
def isEmptyNode : Node → Bool
  | .array [] => true
  | .table _ [] => true
  | _ => false

/-- Reads a word from a fixed set. -/
def wordOf {α : Type} (ofName? : String → Option α) : Node → Option α
  | .text quoted => ofName? quoted.value
  | .table _ [(name, node)] => if isEmptyNode node then ofName? name else none
  | _ => none

/-- The key under which a table of texts holds a moment. -/
def momentKey : String := "$__toml_private_datetime"

/-- Reads a table of texts, ascending by key. A moment is a table of its text alone. -/
def textTable : Node → Option (List (String × String))
  | .table _ entries => do
    let pairs ← entries.mapM fun entry => (text entry.2).map (entry.1, ·)
    return Text.sortByName pairs
  | .moment moment => some [(momentKey, moment.text)]
  | _ => none

/-- A parameter as written. -/
structure ParameterEntry where
  /-- The name, if one is given. -/
  name : Option Quoted
  /-- The text of the type, unread. -/
  type : Quoted
  /-- The modifiers in the order of the text. -/
  modifiers : List ParameterModifier

/-- A declaration as written. -/
structure DeclarationEntry where
  /-- The name of the function. -/
  name : Quoted
  /-- The function has no body of its own. -/
  isStub : Bool
  /-- Who may use it; this may be left unresolved. -/
  visibility : Option DeclaredVisibility
  /-- The texts of the annotations, unread. -/
  annotations : List Quoted
  /-- The names of the type parameters. -/
  typeParameters : List Quoted
  /-- The round in which it is discovered. -/
  round : Nat
  /-- What it says about its view. -/
  bridge : BridgeSettings
  /-- The override of the composable that shows the view. -/
  renderTarget : Option (Option String)
  /-- The parameters in the order of the text. -/
  parameters : List ParameterEntry

/-- A source file as written. -/
structure FileEntry where
  /-- Where the file stands. -/
  path : String
  /-- The package, if one is given. -/
  package : Option Quoted
  /-- The declarations of the file in the order of the text. -/
  declarations : List DeclarationEntry

/-- A manifest as written. -/
structure Layout where
  /-- The platforms that the compilation builds for. -/
  platforms : List Platform
  /-- The options, ascending by key. -/
  options : List (String × String)
  /-- The source files with their declarations. -/
  files : List FileEntry
  /-- The declarations without a source file. -/
  declarations : List DeclarationEntry

/-- Reads a parameter. -/
def parameterEntry (node : Node) : Option ParameterEntry := do
  let record ← Record.ofNode? ["name", "type", "modifiers"] node
  let name ← record.field 0 "name" (fun node => (quoted node).map some) (.inTables none)
  let type ← record.field 1 "type" quoted .refused
  let modifiers ←
    record.field 2 "modifiers" (listOf (wordOf ParameterModifier.ofKeyword?)) (.anywhere [])
  return { name, type, modifiers }

/-- Reads the settings of the bridge annotation. -/
def bridgeSettings (node : Node) : Option BridgeSettings := do
  let record ← Record.ofNode? ["factory-name", "type", "keep-state-cross-navigation"] node
  let group ← record.field 0 "factory-name" (fun node => (text node).map some) (.inTables none)
  let mode ← record.field 1 "type" (fun node => (text node).map some) (.inTables none)
  let retained ←
    record.field 2 "keep-state-cross-navigation" (fun node => (boolean node).map some)
      (.inTables none)
  return { group, mode, retained }

/-- Reads an override of the render target. -/
def renderTarget (node : Node) : Option (Option String) := do
  let record ← Record.ofNode? ["composable-fqn"] node
  record.field 0 "composable-fqn" (fun node => (text node).map some) (.inTables none)

/-- The keys of a declaration. -/
def declarationKeys : List String :=
  ["name", "expect", "visibility", "annotations", "type-parameters", "round", "bridge",
   "custom-render-target", "parameters"]

/-- Reads a declaration. -/
def declarationEntry (node : Node) : Option DeclarationEntry := do
  let record ← Record.ofNode? declarationKeys node
  let name ← record.field 0 "name" quoted .refused
  let isStub ← record.field 1 "expect" boolean (.anywhere true)
  let visibility ←
    record.field 2 "visibility" (fun node => (wordOf DeclaredVisibility.ofName? node).map some)
      (.inTables none)
  let annotations ← record.field 3 "annotations" (listOf quoted) (.anywhere [])
  let typeParameters ← record.field 4 "type-parameters" (listOf quoted) (.anywhere [])
  let round ← record.field 5 "round" natural32 (.anywhere 1)
  let bridge ← record.field 6 "bridge" bridgeSettings (.anywhere {})
  let renderTarget ←
    record.field 7 "custom-render-target" (fun node => (renderTarget node).map some)
      (.inTables none)
  let parameters ← record.field 8 "parameters" (listOf parameterEntry) (.anywhere [])
  return { name, isStub, visibility, annotations, typeParameters, round, bridge, renderTarget,
           parameters }

/-- Reads a source file. -/
def fileEntry (node : Node) : Option FileEntry := do
  let record ← Record.ofNode? ["path", "package", "declarations"] node
  let path ← record.field 0 "path" text .refused
  let package ← record.field 1 "package" (fun node => (quoted node).map some) (.inTables none)
  let declarations ← record.field 2 "declarations" (listOf declarationEntry) (.anywhere [])
  return { path, package, declarations }

/-- Reads a manifest. -/
def layout (entries : Entries) : Option Layout := do
  let record ←
    Record.ofNode? ["platforms", "options", "files", "declarations"] (.table .header entries)
  let platforms ← record.field 0 "platforms" (listOf (wordOf Platform.ofName?)) (.anywhere [])
  let options ← record.field 1 "options" textTable (.anywhere [])
  let files ← record.field 2 "files" (listOf fileEntry) (.anywhere [])
  let declarations ←
    record.field 3 "declarations" (listOf declarationEntry) (.anywhere [])
  return { platforms, options, files, declarations }

end ViewGlue.Manifest
