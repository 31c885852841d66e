import ViewGlue.Code.Fragment

/-!
# Declarations of host files

The declarations that host files are made of, with the lines they are written as.
-/

namespace ViewGlue.Host

open Code (Fragment)

/-- A use of an annotation. -/
structure AnnotationUse where
  /-- The text of its class. -/
  name : String
  /-- The text between its parentheses, if it has any. -/
  arguments : Option String := none
  deriving DecidableEq, Repr

/-- The written form of a use of an annotation. -/
def AnnotationUse.text (use : AnnotationUse) : String :=
  match use.arguments with
  | some arguments => "@" ++ use.name ++ "(" ++ arguments ++ ")"
  | none => "@" ++ use.name

/-- The lines of uses of annotations. -/
def annotationLines (annotations : List AnnotationUse) : List Fragment :=
  annotations.map fun annotation => .line annotation.text

/-- Type parameters in angle brackets, or nothing. -/
def typeParameterText (typeParameters : List String) : String :=
  if typeParameters.isEmpty then ""
  else "<" ++ Text.joinWith ", " typeParameters ++ ">"

/-- A parameter of a function, as written. -/
structure FunctionParameter where
  /-- Its name, in backticks if need be. -/
  name : String
  /-- The text of its type. -/
  type : String
  /-- The words before its name. -/
  modifiers : List String := []
  deriving DecidableEq, Repr

/-- The written form of a parameter. -/
def FunctionParameter.text (parameter : FunctionParameter) : String :=
  Code.modifierText parameter.modifiers ++ parameter.name ++ ": " ++ parameter.type

/-- A function, with or without a body. -/
structure Function where
  /-- The name of the function. -/
  name : String
  /-- The marks on the lines before it. -/
  annotations : List AnnotationUse := []
  /-- The words before its keyword. -/
  modifiers : List String := []
  /-- The names in angle brackets before its name. -/
  typeParameters : List String := []
  /-- What it takes. -/
  parameters : List FunctionParameter := []
  /-- The text of the type that it gives, if it gives anything. -/
  result : Option String := none
  /-- The pieces of its body; a member of an interface has none. -/
  body : Option (List Fragment) := none
  /-- Each parameter stands on a line of its own. -/
  spread : Bool := false

namespace Function

/-- What stands before the parameters. -/
def opening (function : Function) : String :=
  Code.modifierText function.modifiers ++ "fun " ++
    (if function.typeParameters.isEmpty then ""
     else typeParameterText function.typeParameters ++ " ") ++
    function.name ++ "("

/-- What stands behind the parameters. -/
def closing (function : Function) : String :=
  (match function.result with
   | some type => "): " ++ type
   | none => ")") ++
    (if function.body.isSome then " \x7b" else "")

/-- The lines of a function. -/
def fragments (function : Function) : List Fragment :=
  let close := function.body.map fun _ => "\x7d"
  let body := function.body.getD []
  annotationLines function.annotations ++
    (if function.spread && !function.parameters.isEmpty then
      [.line function.opening,
       .indented (function.parameters.map fun parameter => .line (parameter.text ++ ",")),
       .block function.closing body close]
    else
      [.block
        (function.opening ++
          Text.joinWith ", " (function.parameters.map FunctionParameter.text) ++
          function.closing)
        body close])

end Function

/-- An interface. -/
structure Interface where
  /-- The name of the interface. -/
  name : String
  /-- The marks on the lines before it. -/
  annotations : List AnnotationUse := []
  /-- The words before its keyword. -/
  modifiers : List String := []
  /-- The names in angle brackets behind its name. -/
  typeParameters : List String := []
  /-- Its members in their order. -/
  functions : List Function := []

namespace Interface

/-- The first line of an interface, without the brace. -/
def heading (interface : Interface) : String :=
  Code.modifierText interface.modifiers ++ "interface " ++ interface.name ++
    typeParameterText interface.typeParameters

/-- Functions with an empty line between neighbours. -/
def members : List Function → List Fragment
  | [] => []
  | [function] => function.fragments
  | function :: next :: rest => function.fragments ++ .blank :: members (next :: rest)

/-- The lines of an interface. -/
def fragments (interface : Interface) : List Fragment :=
  annotationLines interface.annotations ++
    (if interface.functions.isEmpty then [.line interface.heading]
     else [.braced (interface.heading ++ " \x7b") (members interface.functions)])

end Interface

/-- Another name for a type. -/
structure TypeAlias where
  /-- The new name. -/
  name : String
  /-- The text of the type that it stands for. -/
  target : String
  /-- The words before its keyword. -/
  modifiers : List String := []
  deriving DecidableEq, Repr

/-- The line of another name for a type. -/
def TypeAlias.fragments (synonym : TypeAlias) : List Fragment :=
  [.line (Code.modifierText synonym.modifiers ++ "typealias " ++ synonym.name ++ " = " ++
    synonym.target)]

/-- A value with a name. -/
structure Property where
  /-- The name of the property. -/
  name : String
  /-- The text of its type. -/
  type : String
  /-- The text of the expression that it is set to. -/
  value : String
  /-- The words before its keyword. -/
  modifiers : List String := []
  deriving DecidableEq, Repr

/-- The line of a value with a name. -/
def Property.fragments (property : Property) : List Fragment :=
  [.line (Code.modifierText property.modifiers ++ "val " ++ property.name ++ ": " ++
    property.type ++ " = " ++ property.value)]

/-- A declaration of a host file. -/
inductive Node where
  /-- A mark on the whole file. -/
  | annotation (node : AnnotationUse)
  /-- A function. -/
  | function (node : Function)
  /-- An interface. -/
  | interface (node : Interface)
  /-- A name for a type. -/
  | typeAlias (node : TypeAlias)
  /-- A property. -/
  | property (node : Property)

/-- The lines of a declaration. -/
def Node.fragments : Node → List Fragment
  | annotation node => annotationLines [node]
  | function node => node.fragments
  | interface node => node.fragments
  | typeAlias node => node.fragments
  | property node => node.fragments

end ViewGlue.Host
