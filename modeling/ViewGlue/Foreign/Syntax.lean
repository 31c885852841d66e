import ViewGlue.Code.Fragment

/-!
# Declarations of native files

The declarations that native files are made of, with the lines they are written as.
-/

namespace ViewGlue.Foreign

open Code (Fragment)

/-- A parameter of a function, as written. -/
structure FunctionParameter where
  /-- The name that the body uses. -/
  name : String
  /-- The text of its type. -/
  type : String
  /-- The name that callers use, if it differs. -/
  label : Option String := none
  deriving DecidableEq, Repr

/-- The written form of a parameter. -/
def FunctionParameter.text (parameter : FunctionParameter) : String :=
  match parameter.label with
  | some label => label ++ " " ++ parameter.name ++ ": " ++ parameter.type
  | none => parameter.name ++ ": " ++ parameter.type

/-- A function, or the initializer of a class if it has no name. -/
structure Function where
  /-- Its name; an initializer has none. -/
  name : Option String
  /-- The words before its keyword. -/
  modifiers : List String := []
  /-- What it takes. -/
  parameters : List FunctionParameter := []
  /-- The text of the type that it gives, if it gives anything. -/
  result : Option String := none
  /-- The lines of its body; a requirement has none. -/
  body : Option (List String) := none
  deriving DecidableEq, Repr

namespace Function

/-- The first line of a function, without the brace. -/
def signature (function : Function) : String :=
  Code.modifierText function.modifiers ++
    (match function.name with
     | some name => "func " ++ name
     | none => "init") ++
    "(" ++ Text.joinWith ", " (function.parameters.map FunctionParameter.text) ++ ")" ++
    (match function.result with
     | some type => " -> " ++ type
     | none => "")

/-- The lines of a function. -/
def fragments (function : Function) : List Fragment :=
  match function.body with
  | some lines => [.braced (function.signature ++ " \x7b") (lines.map Fragment.line)]
  | none => [.line function.signature]

end Function

/-- A protocol with its requirements. -/
structure Protocol where
  /-- The name of the protocol. -/
  name : String
  /-- The words before its keyword. -/
  modifiers : List String := []
  /-- The functions that an implementation has to offer. -/
  requirements : List Function := []
  deriving DecidableEq, Repr

/-- The lines of a protocol. -/
def Protocol.fragments (protocol : Protocol) : List Fragment :=
  [.braced (Code.modifierText protocol.modifiers ++ "protocol " ++ protocol.name ++ " \x7b")
    (protocol.requirements.flatMap Function.fragments)]

/-- A stored property. -/
structure Property where
  /-- The name of the property. -/
  name : String
  /-- The text of its type. -/
  type : String
  /-- The property can be set again. -/
  isMutable : Bool := false
  /-- The marks before it, without their signs. -/
  attributes : List String := []
  /-- The words before its keyword. -/
  modifiers : List String := []
  deriving DecidableEq, Repr

/-- The written form of a stored property. -/
def Property.text (property : Property) : String :=
  Text.concat (property.attributes.map fun mark => "@" ++ mark ++ " ") ++
    Code.modifierText property.modifiers ++ (if property.isMutable then "var" else "let") ++
    " " ++ property.name ++ ": " ++ property.type

/-- A class. -/
structure Class where
  /-- The name of the class. -/
  name : String
  /-- The words before its keyword. -/
  modifiers : List String := []
  /-- What it extends and implements. -/
  conformances : List String := []
  /-- What it stores. -/
  properties : List Property := []
  /-- Its initializers and methods. -/
  functions : List Function := []
  deriving DecidableEq, Repr

namespace Class

/-- Functions, each behind an empty line unless it is the first thing. -/
def members (before : List Fragment) (functions : List Function) : List Fragment :=
  functions.foldl
    (fun body function =>
      body ++ (if body.isEmpty then [] else [.blank]) ++ function.fragments)
    before

/-- The lines of a class. -/
def fragments (cls : Class) : List Fragment :=
  [.braced
    (Code.modifierText cls.modifiers ++ "class " ++ cls.name ++
      (if cls.conformances.isEmpty then ""
       else ": " ++ Text.joinWith ", " cls.conformances) ++
      " \x7b")
    (members (cls.properties.map fun property => .line property.text) cls.functions)]

end Class

/-- A declaration of a native file. -/
inductive Node where
  /-- A function of the file itself. -/
  | function (node : Function)
  /-- A protocol. -/
  | protocol (node : Protocol)
  /-- A class. -/
  | cls (node : Class)

/-- The lines of a declaration. -/
def Node.fragments : Node → List Fragment
  | function node => node.fragments
  | protocol node => node.fragments
  | cls node => node.fragments

end ViewGlue.Foreign
