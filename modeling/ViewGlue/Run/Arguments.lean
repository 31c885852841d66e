import ViewGlue.Options

/-!
# Command lines

A command line is a command with options behind it, in any order. An option with a value takes
it from the same argument, behind an equals sign, or from the next one; options of one letter
may stand together behind one hyphen. An option that is given once must not be given again.
-/

namespace ViewGlue.Run

/-- How a check report is written. -/
inductive Format where
  | text
  | json
  deriving DecidableEq, Repr

/-- Where the declarations come from and what they are read with. -/
structure Input where
  /-- The path of the manifest. -/
  config : String := "bridge.toml"
  /-- The platforms that take the place of the manifest's, if there are any. -/
  platforms : List Platform := []
  /-- The options that override those of the manifest, in their order. -/
  overrides : List (String × String) := []
  deriving DecidableEq, Repr

/-- What a command line asks for. -/
inductive Invocation where
  /-- To say which version this is. -/
  | version
  /-- To read and lint the views, and report. -/
  | check (input : Input) (format : Format)
  /-- To generate into a directory, or only show what would be generated. -/
  | generate (input : Input) (directory : String) (dryRun : Bool)
  deriving DecidableEq, Repr

/-- Why a command line asks for nothing. -/
inductive UsageError where
  /-- No command is named. -/
  | missingCommand
  /-- Nothing takes this argument. -/
  | unexpected (argument : String)
  /-- An option is given twice that may be given once. -/
  | repeated (option : String)
  /-- An option has no value behind it. -/
  | missingValue (option : String)
  /-- An option does not take this value. -/
  | invalidValue (option value : String)
  deriving DecidableEq, Repr

/-- The wording of a usage error. -/
def UsageError.message : UsageError → String
  | missingCommand => "a command is required"
  | unexpected argument => "unexpected argument '" ++ argument ++ "'"
  | repeated option => "the option '" ++ option ++ "' cannot be used multiple times"
  | missingValue option => "a value is required for '" ++ option ++ "'"
  | invalidValue option value => "invalid value '" ++ value ++ "' for '" ++ option ++ "'"

/-- The commands. -/
inductive Command where
  | check
  | generate
  deriving DecidableEq, Repr

/-- The command with this name. -/
def Command.ofName? (s : String) : Option Command :=
  if s = "check" then some .check else if s = "generate" then some .generate else none

/-- The options of commands. -/
inductive Flag where
  | verbose
  | config
  | platform
  | option
  | format
  | output
  | dryRun
  deriving DecidableEq, Repr

namespace Flag

/-- The name of an option. -/
def name : Flag → String
  | verbose => "verbose"
  | config => "config"
  | platform => "platform"
  | option => "option"
  | format => "format"
  | output => "output"
  | dryRun => "dry-run"

/-- The letter of an option. -/
def letter? : Flag → Option Char
  | verbose => some 'v'
  | config => some 'c'
  | output => some 'o'
  | _ => none

/-- The option is followed by a value. -/
def takesValue : Flag → Bool
  | verbose => false
  | dryRun => false
  | _ => true

/-- The options of a command. -/
def ofCommand : Command → List Flag
  | .check => [verbose, config, platform, option, format]
  | .generate => [verbose, config, platform, option, output, dryRun]

end Flag

/-- The options read so far. -/
structure Draft where
  /-- The path of the manifest, if given. -/
  config : Option String := none
  /-- The platforms so far. -/
  platforms : List Platform := []
  /-- The overriding options so far. -/
  overrides : List (String × String) := []
  /-- How the check is reported, if given. -/
  format : Option Format := none
  /-- The directory of generated sources, if given. -/
  output : Option String := none
  /-- Nothing is to be written. -/
  dryRun : Bool := false
  deriving DecidableEq, Repr

namespace Draft

/-- Takes an option without a value. -/
def takeFlag (draft : Draft) (flag : Flag) : Except UsageError Draft :=
  match flag with
  | .dryRun =>
    if draft.dryRun then .error (.repeated flag.name) else .ok { draft with dryRun := true }
  | .verbose => .ok draft
  | flag => .error (.missingValue flag.name)

/-- A path, which must not be empty. -/
def path (flag : Flag) (previous : Option String) (value : String) :
    Except UsageError (Option String) :=
  if previous.isSome then .error (.repeated flag.name)
  else if value = "" then .error (.invalidValue flag.name value)
  else .ok (some value)

/-- Takes an option with its value. -/
def takeValue (draft : Draft) (flag : Flag) (value : String) : Except UsageError Draft :=
  match flag with
  | .config => (path flag draft.config value).map fun config => { draft with config }
  | .output => (path flag draft.output value).map fun output => { draft with output }
  | .platform =>
    match Platform.read value with
    | .ok platform => .ok { draft with platforms := draft.platforms ++ [platform] }
    | .error _ => .error (.invalidValue flag.name value)
  | .option =>
    match Options.readOverride value with
    | .ok entry => .ok { draft with overrides := draft.overrides ++ [entry] }
    | .error _ => .error (.invalidValue flag.name value)
  | .format =>
    if draft.format.isSome then .error (.repeated flag.name)
    else if value = "text" then .ok { draft with format := some .text }
    else if value = "json" then .ok { draft with format := some .json }
    else .error (.invalidValue flag.name value)
  | flag => .error (.unexpected flag.name)

/-- What the options say about the input. -/
def input (draft : Draft) : Input where
  config := draft.config.getD "bridge.toml"
  platforms := draft.platforms
  overrides := draft.overrides

/-- What a command with these options asks for. -/
def invocation (draft : Draft) : Command → Invocation
  | .check => .check draft.input (draft.format.getD .text)
  | .generate => .generate draft.input (draft.output.getD ".") draft.dryRun

end Draft

/-- Takes letters that stand together. An option with a value takes the letters behind it, or
is still to get its value from the next argument. -/
def takeLetters (command : Command) (draft : Draft) :
    List Char → Except UsageError (Draft × Option Flag)
  | [] => .ok (draft, none)
  | c :: rest =>
    match (Flag.ofCommand command).find? (·.letter? = some c) with
    | none => .error (.unexpected (String.singleton c))
    | some flag =>
      if flag.takesValue then
        match rest with
        | [] => .ok (draft, some flag)
        | '=' :: value => (draft.takeValue flag (String.ofList value)).map (·, none)
        | value => (draft.takeValue flag (String.ofList value)).map (·, none)
      else
        match draft.takeFlag flag with
        | .ok draft => takeLetters command draft rest
        | .error error => .error error

/-- Takes an option that is written out, with its value if that is in the same argument. -/
def takeName (command : Command) (draft : Draft) (written : List Char) :
    Except UsageError (Draft × Option Flag) :=
  let (name, value) :=
    match Text.splitFirstChars '=' written with
    | some (name, value) => (String.ofList name, some (String.ofList value))
    | none => (String.ofList written, none)
  match (Flag.ofCommand command).find? (·.name = name) with
  | none => .error (.unexpected ("--" ++ String.ofList written))
  | some flag =>
    match flag.takesValue, value with
    | true, some value => (draft.takeValue flag value).map (·, none)
    | true, none => .ok (draft, some flag)
    | false, some value => .error (.invalidValue flag.name value)
    | false, none => (draft.takeFlag flag).map (·, none)

/-- Whether an argument is a value rather than an option: it does not start with a hyphen, or
is nothing but one. -/
def isValue (argument : String) : Bool :=
  match argument.toList with
  | ['-'] => true
  | '-' :: _ => false
  | _ => true

/-- Takes the arguments behind a command. The option in `waiting` gets its value from the first
of them. -/
def takeArguments (command : Command) (draft : Draft) (waiting : Option Flag) :
    List String → Except UsageError Invocation
  | [] =>
    match waiting with
    | some flag => .error (.missingValue flag.name)
    | none => .ok (draft.invocation command)
  | argument :: rest =>
    match waiting with
    | some flag =>
      if isValue argument then
        match draft.takeValue flag argument with
        | .ok draft => takeArguments command draft none rest
        | .error error => .error error
      else .error (.missingValue flag.name)
    | none =>
      match argument.toList with
      | ['-', '-'] =>
        match rest with
        | [] => .ok (draft.invocation command)
        | next :: _ => .error (.unexpected next)
      | '-' :: '-' :: name =>
        match takeName command draft name with
        | .ok (draft, waiting) => takeArguments command draft waiting rest
        | .error error => .error error
      | '-' :: letter :: letters =>
        match takeLetters command draft (letter :: letters) with
        | .ok (draft, waiting) => takeArguments command draft waiting rest
        | .error error => .error error
      | _ => .error (.unexpected argument)

/-- Whether letters in front of the command ask for the version. -/
def lettersAskVersion : List Char → Except UsageError Bool
  | [] => .ok false
  | 'v' :: rest => lettersAskVersion rest
  | 'V' :: _ => .ok true
  | c :: _ => .error (.unexpected (String.singleton c))

/-- Reads a command line. -/
def readArguments : List String → Except UsageError Invocation
  | [] => .error .missingCommand
  | argument :: rest =>
    if argument = "--version" then .ok .version
    else if argument = "--verbose" then readArguments rest
    else
      match Command.ofName? argument with
      | some command => takeArguments command {} none rest
      | none =>
        match argument.toList with
        | '-' :: letter :: letters =>
          match lettersAskVersion (letter :: letters) with
          | .ok true => .ok .version
          | .ok false => readArguments rest
          | .error error => .error error
        | _ => .error (.unexpected argument)

end ViewGlue.Run
