import ViewGlue.Text.Split

/-!
# Statements of native functions

The bodies of generated native functions as expressions and statements.
-/

namespace ViewGlue.Foreign

/-- An expression. -/
inductive Expr where
  /-- A name, as it is written. -/
  | name (text : String)
  /-- A member of a value. -/
  | member (receiver : Expr) (field : String)
  /-- A call with its arguments. -/
  | call (callee : Expr) (arguments : List Expr)
  /-- An argument with its label. -/
  | labelled (label : String) (value : Expr)
  deriving Inhabited

mutual

/-- The written form of an expression. -/
def Expr.text : Expr → String
  | .name written => written
  | .member receiver field => receiver.text ++ "." ++ field
  | .call callee arguments =>
    callee.text ++ "(" ++ Text.joinWith ", " (Expr.texts arguments) ++ ")"
  | .labelled label value => label ++ ": " ++ value.text

/-- The written forms of expressions. -/
def Expr.texts : List Expr → List String
  | [] => []
  | expression :: rest => expression.text :: Expr.texts rest

end

/-- A call of a function by its name. -/
def Expr.invoke (function : String) (arguments : List Expr) : Expr :=
  .call (.name function) arguments

/-- A statement. -/
inductive Statement where
  /-- Gives a value a name. -/
  | bind (name : String) (value : Expr)
  /-- Binds two names to the parts of a pair. -/
  | bindPair (first second : String) (value : Expr)
  /-- Sets a property. -/
  | assign (target value : Expr)
  /-- Gives a value back. -/
  | result (value : Expr)

namespace Statement

/-- The line of a statement. -/
def text : Statement → String
  | bind name value => "let " ++ name ++ " = " ++ value.text
  | bindPair first second value =>
    "let (" ++ first ++ ", " ++ second ++ ") = " ++ value.text
  | assign target value => target.text ++ " = " ++ value.text
  | result value => "return " ++ value.text

/-- The names that a statement binds. -/
def bound : Statement → List String
  | bind name _ => [name]
  | bindPair first second _ => [first, second]
  | assign _ _ => []
  | result _ => []

/-- The names that statements bind, in their order. -/
def boundNames (statements : List Statement) : List String :=
  statements.flatMap bound

end Statement

end ViewGlue.Foreign
