/-!
# Reserved words

A language keeps some words for itself. They may still be used as names when they stand between
backticks.
-/

namespace ViewGlue.Code

/-- A name between backticks. -/
def quoteName (name : String) : String := "`" ++ name ++ "`"

/-- A name as it may be written where some words are reserved. -/
def safeName (reserved : List String) (name : String) : String :=
  if name ∈ reserved then quoteName name else name

end ViewGlue.Code
