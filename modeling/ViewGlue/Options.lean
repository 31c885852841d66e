import ViewGlue.Platform
import ViewGlue.Text.Blank

/-!
# Options

Options are texts under keys. A key keeps the place where it was first given and the value
given last. A value that is blank counts as absent, and every option but two has a default.
-/

namespace ViewGlue

/-- Options in the order in which their keys were first given. -/
structure Options where
  /-- The keys with their values, each key once. -/
  entries : List (String × String) := []
  deriving DecidableEq, Repr

/-- An option without which nothing can be generated. -/
inductive MissingOption where
  /-- No platform is named. -/
  | platforms
  /-- The native target has no name. -/
  | targetName
  /-- The native sources have no directory. -/
  | swiftOutputPath
  deriving DecidableEq, Repr

namespace Options

/-- Key of the factory group of views that name none. -/
def factoryKey : String := "viewbridge.defaultFactoryName"

/-- Key of the name of the native target. -/
def targetNameKey : String := "viewbridge.targetName"

/-- Key of the directory for the sources of the native side. -/
def swiftOutputKey : String := "viewbridge.swiftOutputPath"

/-- Key of the composable that shows view controllers. -/
def controllerTargetKey : String := "viewbridge.defaultViewControllerInteropComposableFqn"

/-- Key of the composable that shows plain views. -/
def viewTargetKey : String := "viewbridge.defaultUiKitViewInteropComposableFqn"

/-- Key of the package of the shared runtime. -/
def runtimeKey : String := "viewbridge.runtimePackage"

/-- Key of the module that native sources import. -/
def frameworkKey : String := "viewbridge.swiftFrameworkModule"

/-- Gives a key a value in a list of entries. -/
def putEntry (key value : String) : List (String × String) → List (String × String)
  | [] => [(key, value)]
  | entry :: rest =>
    if entry.1 = key then (key, value) :: rest else entry :: putEntry key value rest

/-- Gives a key a value. -/
def put (options : Options) (key value : String) : Options :=
  ⟨putEntry key value options.entries⟩

/-- Gives keys values, one after another. -/
def merge (options : Options) (overrides : List (String × String)) : Options :=
  overrides.foldl (fun options entry => options.put entry.1 entry.2) options

/-- Options from entries, of which the last for a key counts. -/
def ofList (entries : List (String × String)) : Options :=
  merge {} entries

/-- The value under a key without the blanks around it, unless nothing else is there. -/
def get? (options : Options) (key : String) : Option String :=
  match options.entries.find? (·.1 = key) with
  | some entry => if Text.trim entry.2 = "" then none else some (Text.trim entry.2)
  | none => none

/-- The factory group of views that name none. -/
def factory (options : Options) : String :=
  (options.get? factoryKey).getD "NativeView"

/-- The composable that shows view controllers. -/
def controllerTarget (options : Options) : String :=
  (options.get? controllerTargetKey).getD "androidx.compose.ui.interop.UIKitViewController"

/-- The composable that shows plain views. -/
def viewTarget (options : Options) : String :=
  (options.get? viewTargetKey).getD "androidx.compose.ui.interop.UIKitView"

/-- The package of the shared runtime. -/
def runtime (options : Options) : String :=
  (options.get? runtimeKey).getD "dev.viewbridge"

/-- The module that native sources import. -/
def framework? (options : Options) : Option String :=
  options.get? frameworkKey

/-- The directory for the sources of the native side. -/
def swiftOutput (options : Options) : Except MissingOption String :=
  match options.get? swiftOutputKey with
  | some path => .ok path
  | none => .error .swiftOutputPath

/-- Several platforms share declarations; a native target is primary if its name says so, and
any other single platform gets counterparts only. -/
def buildTarget (options : Options) : List Platform → Except MissingOption BuildTarget
  | [] => .error .platforms
  | [.native] =>
    match options.get? targetNameKey with
    | none => .error .targetName
    | some name =>
      if Text.containsChars "ios".toList (Text.lowerPlain name).toList then .ok .primary
      else .ok .other
  | [_] => .ok .other
  | _ :: _ :: _ => .ok .common

/-- A text that gives no key a value. -/
structure NotAnOverride where
  /-- The text as given. -/
  text : String
  deriving DecidableEq, Repr

/-- The wording of a text that gives no key a value. -/
def NotAnOverride.message (error : NotAnOverride) : String :=
  "expected KEY=VALUE, got '" ++ error.text ++ "'"

/-- Reads a key and its value, split at the first equals sign. Blanks around the key do not
count, and the value is kept as it is. -/
def readOverride (s : String) : Except NotAnOverride (String × String) :=
  match Text.splitFirstChars '=' s.toList with
  | some (key, value) =>
    if Text.trimChars key = [] then .error ⟨s⟩
    else .ok (String.ofList (Text.trimChars key), String.ofList value)
  | none => .error ⟨s⟩

end Options

namespace MissingOption

/-- The key of a missing option. -/
def key : MissingOption → String
  | platforms => "platforms"
  | targetName => Options.targetNameKey
  | swiftOutputPath => Options.swiftOutputKey

/-- How to give a missing option. -/
def help : MissingOption → String
  | platforms => "declare at least one platform in bridge.toml or pass --platform"
  | targetName => "native compilations must name their target, e.g. 'iosArm64'"
  | swiftOutputPath =>
    "the primary target emits Swift sources and needs a directory for them"

/-- The wording of a missing option. -/
def message (option : MissingOption) : String :=
  "missing required option '" ++ option.key ++ "'"

end MissingOption

end ViewGlue
