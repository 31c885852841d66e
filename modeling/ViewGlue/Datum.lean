import ViewGlue.Text.Split

/-!
# Data

Values as they are written for other programs: objects with one member a line. Texts keep their
characters but for quotes, backslashes and control characters.
-/

namespace ViewGlue

/-- A value. -/
inductive Datum where
  /-- No value. -/
  | absent
  /-- A truth value. -/
  | truth (value : Bool)
  /-- A text. -/
  | text (value : String)
  /-- Values one behind the other. -/
  | list (items : List Datum)
  /-- Named values in their order. -/
  | object (members : List (String × Datum))
  deriving Inhabited

namespace Datum

/-- A list of texts. -/
def texts (values : List String) : Datum :=
  .list (values.map .text)

/-- A text that may be absent. -/
def textOrAbsent (value : Option String) : Datum :=
  match value with
  | some value => .text value
  | none => .absent

/-- A member that is left out when its value is absent. -/
def textMember (name : String) (value : Option String) : List (String × Datum) :=
  match value with
  | some value => [(name, .text value)]
  | none => []

/-- A member that is left out when its list is empty. -/
def listMember (name : String) (items : List Datum) : List (String × Datum) :=
  if items.isEmpty then [] else [(name, .list items)]

/-- A digit of base 16, with small letters. -/
def hexDigit (value : Nat) : Char :=
  if value < 10 then Char.ofNat ('0'.toNat + value) else Char.ofNat ('a'.toNat + value - 10)

/-- A character as it stands in a quoted text. -/
def escape (c : Char) : List Char :=
  if c = '"' then ['\\', '"']
  else if c = '\\' then ['\\', '\\']
  else if c = '\x08' then ['\\', 'b']
  else if c = '\x0c' then ['\\', 'f']
  else if c = '\n' then ['\\', 'n']
  else if c = '\r' then ['\\', 'r']
  else if c = '\t' then ['\\', 't']
  else if c.toNat < 0x20 then
    ['\\', 'u', '0', '0', hexDigit (c.toNat / 16), hexDigit (c.toNat % 16)]
  else [c]

/-- A text in quotes. -/
def quote (s : String) : String :=
  "\"" ++ String.ofList (s.toList.flatMap escape) ++ "\""

/-- Two blanks for each level. -/
def margin : Nat → String
  | 0 => ""
  | level + 1 => "  " ++ margin level

/-- Parts between brackets, each on a line of its own. -/
def enclosed (level : Nat) (opening closing : String) (parts : List String) : String :=
  if parts.isEmpty then opening ++ closing
  else
    opening ++ "\n" ++ margin (level + 1) ++
      Text.joinWith (",\n" ++ margin (level + 1)) parts ++ "\n" ++ margin level ++ closing

mutual

/-- The text of a value at a level. -/
def render (level : Nat) : Datum → String
  | .absent => "null"
  | .truth value => if value then "true" else "false"
  | .text value => quote value
  | .list items => enclosed level "[" "]" (renderAll (level + 1) items)
  | .object members => enclosed level "\x7b" "\x7d" (renderMembers (level + 1) members)

/-- The texts of values. -/
def renderAll (level : Nat) : List Datum → List String
  | [] => []
  | item :: rest => item.render level :: renderAll level rest

/-- The texts of members with their names. -/
def renderMembers (level : Nat) : List (String × Datum) → List String
  | [] => []
  | (name, value) :: rest =>
    (quote name ++ ": " ++ value.render level) :: renderMembers level rest

end

end Datum

end ViewGlue
