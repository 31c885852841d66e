import ViewGlue.Text.Split

/-!
# Qualified names

A class is named by its package and its simple name. The dotted form puts a dot between them;
a name without a package is written as its simple name alone.
-/

namespace ViewGlue

/-- A class name, split into package and simple name. -/
structure QualifiedName where
  /-- The package, empty for the package without a name. -/
  package : String
  /-- The name of the class in its package. -/
  simple : String
  deriving DecidableEq, Repr

namespace QualifiedName

/-- Splits a dotted name at its last dot. -/
def ofDotted (dotted : String) : QualifiedName :=
  match Text.splitLastChars '.' dotted.toList with
  | some (package, simple) => ⟨String.ofList package, String.ofList simple⟩
  | none => ⟨"", dotted⟩

/-- The dotted form. -/
def dotted (name : QualifiedName) : String :=
  if name.package = "" then name.simple else name.package ++ "." ++ name.simple

/-- Whether a dotted name splits into this name. -/
def isDotted (name : QualifiedName) (dotted : String) : Bool :=
  name == ofDotted dotted

/-- The simple part of a split name holds no dot. -/
theorem dot_notMem_simple_ofDotted (dotted : String) :
    '.' ∉ (ofDotted dotted).simple.toList := by
  simp only [ofDotted]
  cases split : Text.splitLastChars '.' dotted.toList with
  | none => exact Text.splitLastChars_eq_none_iff.1 split
  | some parts =>
    obtain ⟨package, simple⟩ := parts
    simpa using (Text.splitLastChars_eq_some split).2

end QualifiedName

end ViewGlue
