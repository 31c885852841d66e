import ViewGlue.TypeExpr.Basic

/-!
# Types on the native side

How the native side writes the types of parameters. Not every type has a counterpart there; the
innermost type without one is reported. A type inside another is written as an object, so
numbers and truth values are boxed there, and also where they may be absent.
-/

namespace ViewGlue.Foreign

/-- A type without a counterpart on the native side. -/
structure Unmapped where
  /-- The type, or the part of one, that has no counterpart. -/
  type : TypeExpr
  deriving DecidableEq

/-- The language of the native side. -/
def language : String := "swift"

/-- The wording of a type without a counterpart. -/
def Unmapped.message (error : Unmapped) : String :=
  "type '" ++ error.type.text ++ "' has no " ++ language ++ " counterpart"

/-- Where a type stands. -/
inductive Position where
  /-- The type of what a function takes. -/
  | parameter
  /-- The type of what is stored. -/
  | property
  /-- The type of what the native factory gives. -/
  | factoryResult
  deriving DecidableEq, Repr

/-- Classes with a plain and a boxed counterpart. -/
def primitives : List (String × String × String) :=
  [("kotlin.Boolean", "Bool", "KotlinBoolean"),
   ("kotlin.Byte", "Int8", "KotlinByte"),
   ("kotlin.Short", "Int16", "KotlinShort"),
   ("kotlin.Int", "Int32", "KotlinInt"),
   ("kotlin.Long", "Int64", "KotlinLong"),
   ("kotlin.Float", "Float", "KotlinFloat"),
   ("kotlin.Double", "Double", "KotlinDouble")]

/-- Classes with one counterpart. -/
def simpleClasses : List (String × String) :=
  [("kotlin.String", "String"), ("kotlin.Any", "Any"), ("kotlin.Unit", "Void")]

/-- What the counterpart of a class with some number of arguments is made of. -/
inductive ClassShape where
  /-- A class with a plain counterpart and a boxed one. -/
  | primitive (plain boxed : String)
  /-- A class that has one counterpart everywhere. -/
  | simple (name : String)
  /-- Values in an order. -/
  | list
  /-- Values without an order. -/
  | set
  /-- Values with keys. -/
  | map
  /-- Two values. -/
  | pair
  /-- A class from outside the standard packages, known by its simple name. -/
  | other (name : String)
  /-- A class of the standard packages without a counterpart. -/
  | unmapped
  deriving DecidableEq, Repr

/-- Packages whose classes have no counterpart but the listed ones. -/
def isStandardPackage (package : String) : Bool :=
  package == "kotlin" || "kotlin.".toList.isPrefixOf package.toList

/-- The shape of a class that is no container. -/
def plainShape (name : QualifiedName) : ClassShape :=
  match primitives.find? (·.1 = name.dotted), simpleClasses.find? (·.1 = name.dotted) with
  | some primitive, _ => .primitive primitive.2.1 primitive.2.2
  | none, some simple => .simple simple.2
  | none, none => if isStandardPackage name.package then .unmapped else .other name.simple

/-- The shape of a class with this many arguments. -/
def classShape (name : QualifiedName) (arity : Nat) : ClassShape :=
  match arity with
  | 0 => plainShape name
  | 1 =>
    if name.dotted ∈ ["kotlin.collections.List", "kotlin.collections.MutableList"] then .list
    else if name.dotted ∈ ["kotlin.collections.Set", "kotlin.collections.MutableSet"] then .set
    else .unmapped
  | 2 =>
    if name.dotted ∈ ["kotlin.collections.Map", "kotlin.collections.MutableMap"] then .map
    else if name.dotted = "kotlin.Pair" then .pair
    else .unmapped
  | _ => .unmapped

/-- The labels of a pair: a factory names its results. -/
def pairLabels : Position → String × String
  | .factoryResult => ("view", "delegate")
  | .parameter => ("first", "second")
  | .property => ("first", "second")

/-- A question mark follows a type that may be absent. -/
def optional (nullable : Bool) (s : String) : String :=
  if nullable then s ++ "?" else s

/-- The written form of a class from those of its arguments. -/
def classText (labels : String × String) (boxed nullable : Bool) :
    ClassShape → List String → Option String
  | .primitive plain object, _ =>
    some (optional nullable (if boxed || nullable then object else plain))
  | .simple name, _ => some (optional nullable name)
  | .list, [item] => some (optional nullable ("[" ++ item ++ "]"))
  | .set, [item] => some (optional nullable ("Set<" ++ item ++ ">"))
  | .map, [key, value] => some (optional nullable ("[" ++ key ++ ": " ++ value ++ "]"))
  | .pair, [first, second] =>
    some (optional nullable
      ("(" ++ labels.1 ++ ": " ++ first ++ ", " ++ labels.2 ++ ": " ++ second ++ ")"))
  | .other name, _ => some (optional nullable name)
  | _, _ => none

mutual

/-- The written form of a type, where pairs have these labels and numbers and truth values are
boxed or not. -/
def typeText (labels : String × String) (boxed : Bool) : TypeExpr → Except Unmapped String
  | .named name arguments nullable =>
    match classShape name arguments.length with
    | .unmapped => .error ⟨.named name arguments nullable⟩
    | shape => do
      let texts ← argumentTexts (.named name arguments nullable) arguments
      match classText labels boxed nullable shape texts with
      | some text => return text
      | none => .error ⟨.named name arguments nullable⟩
  | .function parameters result nullable => do
    let parameters ← insideTexts parameters
    let result ← typeText ("first", "second") true result
    return TypeExpr.arrow parameters result nullable
  | .variable name nullable => .error ⟨.variable name nullable⟩
  | .dynamic => .error ⟨.dynamic⟩

/-- The written forms of types inside another one. -/
def insideTexts : List TypeExpr → Except Unmapped (List String)
  | [] => .ok []
  | type :: types => do
    let text ← typeText ("first", "second") true type
    let texts ← insideTexts types
    return text :: texts

/-- The written form of an argument of `owner`; a star has none. -/
def argumentText (owner : TypeExpr) : TypeArgument → Except Unmapped String
  | .type _ type => typeText ("first", "second") true type
  | .star => .error ⟨owner⟩

/-- The written forms of the arguments of `owner`. -/
def argumentTexts (owner : TypeExpr) : List TypeArgument → Except Unmapped (List String)
  | [] => .ok []
  | argument :: arguments => do
    let text ← argumentText owner argument
    let texts ← argumentTexts owner arguments
    return text :: texts

end

/-- A closure that cannot be absent outlives the call it is passed to. -/
def escapes : TypeExpr → Bool
  | .function _ _ nullable => !nullable
  | .named .. => false
  | .variable .. => false
  | .dynamic => false

/-- How a type is written where it stands. -/
def mapType (type : TypeExpr) (position : Position) : Except Unmapped String := do
  let text ← typeText (pairLabels position) false type
  return if position = .parameter ∧ escapes type then "@escaping " ++ text else text

end ViewGlue.Foreign
