/-!
# Console lines

A report is a list of lines of several kinds. On a terminal the warnings go to the error
stream and all other lines to the output.
-/

namespace ViewGlue.Run

/-- A line of a report. -/
inductive ConsoleLine where
  /-- The title of what follows. -/
  | heading (name : String)
  /-- A value with its label. -/
  | keyValue (key value : String)
  /-- An item of a list. -/
  | listItem (text : String)
  /-- A file that was written. -/
  | addedItem (text : String)
  /-- A report that deserves attention. -/
  | warning (message : String)
  /-- A rule with a label in it. -/
  | divider (label : String)
  /-- A text shown as it is. -/
  | preformatted (text : String)
  /-- An empty line. -/
  | newline
  deriving DecidableEq, Repr

namespace ConsoleLine

/-- What a line adds to the output. -/
def output : ConsoleLine → String
  | heading name => name ++ ":\n"
  | keyValue key value => key ++ ": " ++ value ++ "\n"
  | listItem text => "  - " ++ text ++ "\n"
  | addedItem text => "  + " ++ text ++ "\n"
  | warning _ => ""
  | divider label => "── " ++ label ++ " ──\n"
  | preformatted text => text ++ "\n"
  | newline => "\n"

/-- What a line adds to the error stream. -/
def errors : ConsoleLine → String
  | warning message => message ++ "\n"
  | _ => ""

end ConsoleLine

/-- "s" unless there is exactly one. -/
def plural (count : Nat) : String :=
  if count = 1 then "" else "s"

end ViewGlue.Run
