import ViewGlue.Text.Identifier

/-!
# Platforms and build targets

A compilation lists the platforms it builds for. From them follows the build target, which
decides what is generated: shared declarations for several platforms, full glue for the
primary target, empty counterparts for any other.
-/

namespace ViewGlue

/-- A platform that a compilation builds for. -/
inductive Platform where
  | jvm
  | js
  | native
  | wasm
  deriving DecidableEq, Repr

namespace Platform

/-- All platforms, in the order in which messages list them. -/
def all : List Platform := [jvm, js, native, wasm]

/-- The written name of a platform. -/
def name : Platform → String
  | jvm => "jvm"
  | js => "js"
  | native => "native"
  | wasm => "wasm"

/-- The platform with exactly this name. -/
def ofName? (s : String) : Option Platform :=
  all.find? (·.name == s)

/-- A name that belongs to no platform, with its plain letters made small. -/
structure UnknownPlatform where
  /-- The name as it is reported. -/
  name : String
  deriving DecidableEq, Repr

/-- The wording of an unknown platform. -/
def UnknownPlatform.message (error : UnknownPlatform) : String :=
  "unknown platform '" ++ error.name ++ "', expected one of: " ++
    Text.joinWith ", " (Platform.all.map Platform.name)

/-- Reads a platform written with plain letters of either case. -/
def read (s : String) : Except UnknownPlatform Platform :=
  match ofName? (Text.lowerPlain s) with
  | some platform => .ok platform
  | none => .error ⟨Text.lowerPlain s⟩

end Platform

/-- What a compilation generates. -/
inductive BuildTarget where
  /-- Declarations that several platforms share. -/
  | common
  /-- Full glue for the platform that hosts the native views. -/
  | primary
  /-- Empty counterparts for a platform without native views. -/
  | other
  deriving DecidableEq, Repr

namespace BuildTarget

/-- The written name of a build target. -/
def name : BuildTarget → String
  | common => "common"
  | primary => "primary"
  | other => "other"

/-- All build targets. -/
def all : List BuildTarget := [common, primary, other]

/-- The build target with exactly this name. -/
def ofName? (s : String) : Option BuildTarget :=
  all.find? (·.name == s)

/-- What stands between the stem and the extension of a generated file, so that files for
different targets never meet. -/
def fileSuffix : BuildTarget → String
  | common => ""
  | primary => ".primary"
  | other => ".nonprimary"

end BuildTarget

end ViewGlue
