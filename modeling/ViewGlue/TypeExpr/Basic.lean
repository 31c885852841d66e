import ViewGlue.QualifiedName

/-!
# Type expressions

The types of declared parameters: class types with arguments, function types, type variables
and the dynamic type. `TypeExpr.text` writes a type; `TypeExpr.references` lists the classes
it names in the order in which they are written.
-/

namespace ViewGlue

/-- How an argument of a class type may vary. -/
inductive Variance where
  /-- No marker. -/
  | invariant
  /-- The argument is only given. -/
  | covariant
  /-- The argument is only taken. -/
  | contravariant
  deriving DecidableEq, Repr

/-- What is written before an argument of this variance. -/
def Variance.marker : Variance → String
  | .invariant => ""
  | .covariant => "out "
  | .contravariant => "in "

mutual

/-- A type as a declaration states it. -/
inductive TypeExpr where
  /-- A class with its arguments. -/
  | named (name : QualifiedName) (arguments : List TypeArgument) (nullable : Bool)
  /-- A function from parameters to a result. -/
  | function (parameters : List TypeExpr) (result : TypeExpr) (nullable : Bool)
  /-- A type parameter of the declaration. -/
  | variable (name : String) (nullable : Bool)
  /-- The type that is not checked. -/
  | dynamic

/-- An argument of a class type: a type with its variance, or a star for any type. -/
inductive TypeArgument where
  /-- A type with its variance. -/
  | type (variance : Variance) (type : TypeExpr)
  /-- Any type. -/
  | star

end

instance : Inhabited TypeExpr := ⟨.dynamic⟩

mutual

/-- Equality of types is decidable. -/
def TypeExpr.decEq : (left right : TypeExpr) → Decidable (left = right)
  | .named n as k, .named n' as' k' =>
    if same : n = n' ∧ k = k' then
      match TypeArgument.decEqList as as' with
      | .isTrue equal => .isTrue (by rw [same.1, same.2, equal])
      | .isFalse differ => .isFalse (by intro h; cases h; exact differ rfl)
    else .isFalse (by intro h; cases h; exact same ⟨rfl, rfl⟩)
  | .function ps r k, .function ps' r' k' =>
    if same : k = k' then
      match TypeExpr.decEqList ps ps', TypeExpr.decEq r r' with
      | .isTrue parameters, .isTrue result => .isTrue (by rw [same, parameters, result])
      | .isFalse differ, _ => .isFalse (by intro h; cases h; exact differ rfl)
      | _, .isFalse differ => .isFalse (by intro h; cases h; exact differ rfl)
    else .isFalse (by intro h; cases h; exact same rfl)
  | .variable n k, .variable n' k' =>
    if same : n = n' ∧ k = k' then .isTrue (by rw [same.1, same.2])
    else .isFalse (by intro h; cases h; exact same ⟨rfl, rfl⟩)
  | .dynamic, .dynamic => .isTrue rfl
  | .named .., .function .. => .isFalse nofun
  | .named .., .variable .. => .isFalse nofun
  | .named .., .dynamic => .isFalse nofun
  | .function .., .named .. => .isFalse nofun
  | .function .., .variable .. => .isFalse nofun
  | .function .., .dynamic => .isFalse nofun
  | .variable .., .named .. => .isFalse nofun
  | .variable .., .function .. => .isFalse nofun
  | .variable .., .dynamic => .isFalse nofun
  | .dynamic, .named .. => .isFalse nofun
  | .dynamic, .function .. => .isFalse nofun
  | .dynamic, .variable .. => .isFalse nofun

/-- Equality of lists of types is decidable. -/
def TypeExpr.decEqList : (left right : List TypeExpr) → Decidable (left = right)
  | [], [] => .isTrue rfl
  | [], _ :: _ => .isFalse nofun
  | _ :: _, [] => .isFalse nofun
  | t :: ts, t' :: ts' =>
    match TypeExpr.decEq t t', TypeExpr.decEqList ts ts' with
    | .isTrue first, .isTrue others => .isTrue (by rw [first, others])
    | .isFalse differ, _ => .isFalse (by intro h; cases h; exact differ rfl)
    | _, .isFalse differ => .isFalse (by intro h; cases h; exact differ rfl)

/-- Equality of arguments is decidable. -/
def TypeArgument.decEq : (left right : TypeArgument) → Decidable (left = right)
  | .type v t, .type v' t' =>
    if same : v = v' then
      match TypeExpr.decEq t t' with
      | .isTrue equal => .isTrue (by rw [same, equal])
      | .isFalse differ => .isFalse (by intro h; cases h; exact differ rfl)
    else .isFalse (by intro h; cases h; exact same rfl)
  | .star, .star => .isTrue rfl
  | .type .., .star => .isFalse nofun
  | .star, .type .. => .isFalse nofun

/-- Equality of argument lists is decidable. -/
def TypeArgument.decEqList : (left right : List TypeArgument) → Decidable (left = right)
  | [], [] => .isTrue rfl
  | [], _ :: _ => .isFalse nofun
  | _ :: _, [] => .isFalse nofun
  | a :: as, a' :: as' =>
    match TypeArgument.decEq a a', TypeArgument.decEqList as as' with
    | .isTrue first, .isTrue others => .isTrue (by rw [first, others])
    | .isFalse differ, _ => .isFalse (by intro h; cases h; exact differ rfl)
    | _, .isFalse differ => .isFalse (by intro h; cases h; exact differ rfl)

end

instance : DecidableEq TypeExpr := TypeExpr.decEq

instance : DecidableEq TypeArgument := TypeArgument.decEq

namespace TypeExpr

/-- The class with this dotted name, without arguments. -/
def ofDotted (dotted : String) : TypeExpr :=
  .named (.ofDotted dotted) [] false

/-- The type admits an absent value. -/
def isNullable : TypeExpr → Bool
  | .named _ _ nullable => nullable
  | .function _ _ nullable => nullable
  | .variable _ nullable => nullable
  | .dynamic => true

/-- The same type, admitting an absent value or not; the dynamic type always does. -/
def withNullable (value : Bool) : TypeExpr → TypeExpr
  | .named name arguments _ => .named name arguments value
  | .function parameters result _ => .function parameters result value
  | .variable name _ => .variable name value
  | .dynamic => .dynamic

/-- The class of a class type. -/
def className? : TypeExpr → Option QualifiedName
  | .named name _ _ => some name
  | _ => none

/-- Whether this is a class type of the class with this dotted name. -/
def isClass (type : TypeExpr) (dotted : String) : Bool :=
  type.className?.any (·.isDotted dotted)

/-- A question mark follows a type that admits an absent value. -/
def mark (nullable : Bool) : String :=
  if nullable then "?" else ""

/-- Arguments stand in angle brackets; without any there are no brackets. -/
def bracketed (arguments : List String) : String :=
  if arguments.isEmpty then "" else "<" ++ Text.joinWith ", " arguments ++ ">"

/-- A function type, with an outer pair of parentheses before its question mark. -/
def arrow (parameters : List String) (result : String) (nullable : Bool) : String :=
  let signature := "(" ++ Text.joinWith ", " parameters ++ ") -> " ++ result
  if nullable then "(" ++ signature ++ ")?" else signature

mutual

/-- The written form of a type, where `className` writes the classes. -/
def textWith (className : QualifiedName → String) : TypeExpr → String
  | .named name arguments nullable =>
    className name ++ bracketed (argumentTexts className arguments) ++ mark nullable
  | .function parameters result nullable =>
    arrow (texts className parameters) (result.textWith className) nullable
  | .variable name nullable => name ++ mark nullable
  | .dynamic => "dynamic"

/-- The written forms of types. -/
def texts (className : QualifiedName → String) : List TypeExpr → List String
  | [] => []
  | type :: types => type.textWith className :: texts className types

/-- The written form of an argument. -/
def argumentText (className : QualifiedName → String) : TypeArgument → String
  | .type variance type => variance.marker ++ type.textWith className
  | .star => "*"

/-- The written forms of arguments. -/
def argumentTexts (className : QualifiedName → String) : List TypeArgument → List String
  | [] => []
  | argument :: arguments =>
    argumentText className argument :: argumentTexts className arguments

end

/-- The written form of a type with the full names of its classes. -/
def text (type : TypeExpr) : String :=
  type.textWith QualifiedName.dotted

mutual

/-- The classes of a type in the order in which they are written. -/
def references : TypeExpr → List QualifiedName
  | .named name arguments _ => name :: argumentListReferences arguments
  | .function parameters result _ => listReferences parameters ++ result.references
  | .variable .. => []
  | .dynamic => []

/-- The classes of types in the order in which they are written. -/
def listReferences : List TypeExpr → List QualifiedName
  | [] => []
  | type :: types => type.references ++ listReferences types

/-- The classes of an argument in the order in which they are written. -/
def argumentReferences : TypeArgument → List QualifiedName
  | .type _ type => type.references
  | .star => []

/-- The classes of arguments in the order in which they are written. -/
def argumentListReferences : List TypeArgument → List QualifiedName
  | [] => []
  | argument :: arguments => argumentReferences argument ++ argumentListReferences arguments

end

mutual

/-- Whether a type is, or contains, another type. -/
def contains (inner : TypeExpr) : TypeExpr → Bool
  | .named name arguments nullable =>
    decide (inner = .named name arguments nullable) || argumentListContains inner arguments
  | .function parameters result nullable =>
    decide (inner = .function parameters result nullable) || listContains inner parameters ||
      contains inner result
  | .variable name nullable => decide (inner = .variable name nullable)
  | .dynamic => decide (inner = .dynamic)

/-- Whether one of the types is, or contains, another type. -/
def listContains (inner : TypeExpr) : List TypeExpr → Bool
  | [] => false
  | type :: types => contains inner type || listContains inner types

/-- Whether an argument contains a type. -/
def argumentContains (inner : TypeExpr) : TypeArgument → Bool
  | .type _ type => contains inner type
  | .star => false

/-- Whether one of the arguments contains a type. -/
def argumentListContains (inner : TypeExpr) : List TypeArgument → Bool
  | [] => false
  | argument :: arguments =>
    argumentContains inner argument || argumentListContains inner arguments

end

end TypeExpr

end ViewGlue
