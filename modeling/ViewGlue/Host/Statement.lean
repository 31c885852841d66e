import ViewGlue.Code.Fragment

/-!
# Statements of host functions

The bodies of generated functions as expressions and statements. A statement that binds a name
says which one, so that the names a body uses can be told from those it introduces.
-/

namespace ViewGlue.Host

open Code (Fragment)

/-- An expression. -/
inductive Expr where
  /-- A name, as it is written. -/
  | name (text : String)
  /-- A number in decimal digits. -/
  | number (value : Nat)
  /-- A text between three quotes. -/
  | quoted (text : String)
  /-- A member of a value. -/
  | member (receiver : Expr) (field : String)
  /-- A call with its type arguments and arguments. -/
  | call (callee : Expr) (typeArguments : List String) (arguments : List Expr)
  /-- An argument with its label. -/
  | labelled (label : String) (value : Expr)
  /-- Code that its receiver runs. -/
  | closure (body : Expr)
  /-- A call whose last argument is a closure. -/
  | applied (function : Expr) (body : Expr)
  /-- A value, or another one if it is absent. -/
  | orElse (value fallback : Expr)
  deriving Inhabited

mutual

/-- The written form of an expression. -/
def Expr.text : Expr → String
  | .name written => written
  | .number value => toString value
  | .quoted inside => "\"\"\"" ++ inside ++ "\"\"\""
  | .member receiver field => receiver.text ++ "." ++ field
  | .call callee typeArguments arguments =>
    callee.text ++
      (if typeArguments.isEmpty then ""
       else "<" ++ Text.joinWith ", " typeArguments ++ ">") ++
      "(" ++ Text.joinWith ", " (Expr.texts arguments) ++ ")"
  | .labelled label value => label ++ " = " ++ value.text
  | .closure body => "\x7b " ++ body.text ++ " \x7d"
  | .applied function body => function.text ++ " \x7b " ++ body.text ++ " \x7d"
  | .orElse value fallback => value.text ++ " ?: " ++ fallback.text

/-- The written forms of expressions. -/
def Expr.texts : List Expr → List String
  | [] => []
  | expression :: rest => expression.text :: Expr.texts rest

end

/-- A call of a function by its name. -/
def Expr.invoke (function : String) (arguments : List Expr) : Expr :=
  .call (.name function) [] arguments

/-- A statement. -/
inductive Statement where
  /-- Binds a name to a value. -/
  | bind (name : String) (value : Expr)
  /-- Binds a name to a call whose closure stands on lines of its own. -/
  | bindBlock (name : String) (function : Expr) (body : Expr)
  /-- Evaluates an expression for what it does. -/
  | run (expression : Expr)
  /-- A call whose arguments stand on lines of their own. -/
  | runSpread (callee : String) (arguments : List Expr)
  /-- An empty line. -/
  | gap

namespace Statement

/-- The lines of a statement. -/
def fragment : Statement → Fragment
  | bind name value => .line ("val " ++ name ++ " = " ++ value.text)
  | bindBlock name function body =>
    .braced ("val " ++ name ++ " = " ++ function.text ++ " \x7b") [.line body.text]
  | run expression => .line expression.text
  | runSpread callee arguments =>
    .block (callee ++ "(") (arguments.map fun argument => .line (argument.text ++ ",")) (some ")")
  | gap => .blank

/-- The name that a statement binds. -/
def bound? : Statement → Option String
  | bind name _ => some name
  | bindBlock name _ _ => some name
  | run _ => none
  | runSpread _ _ => none
  | gap => none

/-- The names that statements bind, in their order. -/
def boundNames (statements : List Statement) : List String :=
  statements.filterMap bound?

end Statement

end ViewGlue.Host
