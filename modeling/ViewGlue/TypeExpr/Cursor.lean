import ViewGlue.TypeExpr.Parser

/-!
# Walking over the bytes of type expressions

The readers of types once more, over the bytes of a text instead of its tokens. A cursor looks at
one byte at a time and counts the bytes it has passed; where the walk needs characters, the text is
cut at the cursor. A text can be cut between characters only, so every move of the cursor is
checked: one that would end inside a character or behind the end stops the walk there
(`Stop.offBoundary`). What a walk returns tells how far it came, so walking terminates.
-/

namespace ViewGlue.TypeExpr

/-- Why a walk over the bytes of a text stops. -/
inductive Stop where
  /-- The text is not a type. -/
  | fault (fault : Fault)
  /-- The cursor would move to this offset, and no character starts or ends there. -/
  | offBoundary (offset : Nat)
  deriving DecidableEq, Repr

/-- A position of the text, behind this many of its bytes or more. -/
structure Arrival (text : String) (least : Nat) where
  /-- The position, where a character starts or ends. -/
  position : text.Pos
  /-- It is not before the bytes that were read. -/
  reached : least ≤ position.offset.byteIdx

variable {text : String}

namespace Arrival

/-- The walk came this far or farther. -/
theorem le_byteIdx {least : Nat} (arrival : Arrival text least) :
    least ≤ arrival.position.offset.byteIdx :=
  arrival.reached

grind_pattern le_byteIdx => arrival.position

/-- No position is behind the end. -/
theorem byteIdx_le {least : Nat} (arrival : Arrival text least) :
    arrival.position.offset.byteIdx ≤ text.utf8ByteSize :=
  arrival.position.isValid.le_utf8ByteSize

grind_pattern byteIdx_le => arrival.position

/-- A walk that passed so many bytes passed one less too. -/
def oneLess {least : Nat} (arrival : Arrival text (least + 1)) : Arrival text least :=
  ⟨arrival.position, Nat.le_of_succ_le arrival.reached⟩

/-- Where a walk comes that goes on from an arrival. -/
def extend {least : Nat} (arrival : Arrival text least)
    (next : Arrival text arrival.position.offset.byteIdx) : Arrival text least :=
  ⟨next.position, Nat.le_trans arrival.reached next.reached⟩

/-- Where a walk comes that goes on from an arrival over a byte or more. -/
def extendPast {least : Nat} (arrival : Arrival text least)
    (next : Arrival text (arrival.position.offset.byteIdx + 1)) : Arrival text (least + 1) :=
  ⟨next.position, Nat.le_trans (Nat.succ_le_succ arrival.reached) next.reached⟩

/-- Where a walk comes that goes on over a byte or more, which are not counted. -/
def past {least : Nat} (arrival : Arrival text least)
    (next : Arrival text (arrival.position.offset.byteIdx + 1)) : Arrival text least :=
  (arrival.extendPast next).oneLess

end Arrival

/-- Where the cursor is after it looked for a mark: behind the mark, or where another byte stands
behind the blanks. -/
inductive Search (text : String) (start : Nat) where
  /-- The mark was there, and at least its byte was read. -/
  | found (arrival : Arrival text (start + 1))
  /-- The mark was not there; blanks may have been read. -/
  | missed (arrival : Arrival text start)

/-- What a walk returns that starts at an offset and passes a byte or more. -/
abbrev Walk (text : String) (α : Type) (start : Nat) : Type :=
  Except Stop (α × Arrival text (start + 1))

namespace Cursor

/-- The byte at the cursor; there is none at the end. -/
def byte? (cursor : text.Pos) : Option UInt8 :=
  text.toUTF8[cursor.offset.byteIdx]?

/-- Whether the byte at the cursor is a character below 128 with this property. -/
def sees (property : Char → Bool) (cursor : text.Pos) : Bool :=
  (byte? cursor).any fun byte => byte < 128 && property (Char.ofNat byte.toNat)

/-- Moves the cursor over bytes, if it does not leave the boundaries of characters. -/
def advance (cursor : text.Pos) (bytes : Nat) :
    Except Stop (Arrival text (cursor.offset.byteIdx + bytes)) :=
  if onBoundary : String.Pos.Raw.IsValid text ⟨cursor.offset.byteIdx + bytes⟩ then
    .ok ⟨⟨_, onBoundary⟩, Nat.le_refl _⟩
  else .error (.offBoundary (cursor.offset.byteIdx + bytes))

/-- Moves the cursor over all bytes that are characters below 128 with this property. -/
def skipWhile (property : Char → Bool) (cursor : text.Pos) :
    Except Stop (Arrival text cursor.offset.byteIdx) :=
  if sees property cursor then do
    let next ← advance cursor 1
    let last ← skipWhile property next.position
    return (next.extend last).oneLess
  else .ok ⟨cursor, Nat.le_refl _⟩
termination_by text.utf8ByteSize - cursor.offset.byteIdx
decreasing_by grind

/-- Moves the cursor over blanks. -/
def skipBlanks (cursor : text.Pos) : Except Stop (Arrival text cursor.offset.byteIdx) :=
  skipWhile Text.isPlainBlank cursor

/-- A fault at the cursor, as long as the first character of what is left of the text. -/
def faultHere (reason : Reason) (cursor : text.Pos) : Stop :=
  let left := (String.extract cursor text.endPos).toList
  .fault ⟨reason, cursor.offset.byteIdx, (left.head?.map Char.utf8Size).getD 0⟩

/-- Takes a mark behind blanks. -/
def eat (mark : Char) (cursor : text.Pos) :
    Except Stop (Search text cursor.offset.byteIdx) := do
  let next ← skipBlanks cursor
  if sees (· == mark) next.position then
    let behind ← advance next.position 1
    return .found (next.extendPast behind)
  else return .missed next

/-- Takes an arrow behind blanks, if what is left of the text starts with it. -/
def eatArrow (cursor : text.Pos) : Except Stop (Search text cursor.offset.byteIdx) := do
  let next ← skipBlanks cursor
  if ['-', '>'] <+: (String.extract next.position text.endPos).toList then
    let behind ← advance next.position 2
    return .found (next.extendPast behind.oneLess)
  else return .missed next

/-- Takes a mark that must be there. -/
def expect (mark : Char) (cursor : text.Pos) :
    Except Stop (Arrival text (cursor.offset.byteIdx + 1)) := do
  match ← eat mark cursor with
  | .found behind => return behind
  | .missed here => throw (faultHere (.expectedMark mark) here.position)

/-- Takes a question mark if one follows. -/
def eatQuestion (cursor : text.Pos) :
    Except Stop (Bool × Arrival text cursor.offset.byteIdx) := do
  match ← eat '?' cursor with
  | .found behind => return (true, behind.oneLess)
  | .missed here => return (false, here)

/-- Takes a comma, or the closing mark that must be there without one, and tells whether it was a
comma. -/
def separator (closing : Char) (cursor : text.Pos) : Walk text Bool cursor.offset.byteIdx := do
  match ← eat ',' cursor with
  | .found behind => return (true, behind)
  | .missed here =>
    let behind ← expect closing here.position
    return (false, here.extendPast behind)

/-- Takes an identifier behind blanks. -/
def identifier (cursor : text.Pos) : Walk text String cursor.offset.byteIdx := do
  let start ← skipBlanks cursor
  if sees Text.startsName start.position then
    let second ← advance start.position 1
    let behind ← skipWhile Text.continuesName second.position
    return (String.extract start.position behind.position,
      start.extendPast (second.extend behind))
  else throw (faultHere .expectedIdentifier start.position)

/-- Takes the words that dots add to a name; each dot stands at the cursor. -/
def segments (cursor : text.Pos) :
    Except Stop (List String × Arrival text cursor.offset.byteIdx) :=
  if sees (· == '.') cursor then do
    let dot ← advance cursor 1
    let (word, behind) ← identifier dot.position
    let (words, last) ← segments behind.position
    return (word :: words, (dot.past (behind.extend last)).oneLess)
  else .ok ([], ⟨cursor, Nat.le_refl _⟩)
termination_by text.utf8ByteSize - cursor.offset.byteIdx
decreasing_by grind

/-- The variance that a word marks. -/
def variance? (word : String) : Option Variance :=
  if word = "out" then some .covariant
  else if word = "in" then some .contravariant
  else none

/-- Takes a marker of variance if a type can start behind it. -/
def marker? (cursor : text.Pos) :
    Except Stop (Option (Variance × Arrival text (cursor.offset.byteIdx + 1))) := do
  let start ← skipBlanks cursor
  if sees Text.isLetter start.position then
    let (word, behind) ← identifier start.position
    match variance? word with
    | some variance =>
      let next ← skipBlanks behind.position
      if sees (fun c => Text.startsName c || c == '(') next.position then
        return some (variance, start.extendPast (behind.extend next))
      else return none
    | none => return none
  else return none

mutual

/-- Walks over a type. -/
def walkType (typeParameters : List String) (cursor : text.Pos) :
    Walk text TypeExpr cursor.offset.byteIdx := do
  let start ← skipBlanks cursor
  if sees (· == '(') start.position then
    let inside ← expect '(' start.position
    let (parameters, closed) ← walkParameters typeParameters inside.position
    match ← eatArrow closed.position with
    | .found behind =>
      let (result, last) ← walkType typeParameters behind.position
      return (.function parameters result false,
        start.extendPast (inside.past (closed.past (behind.past last))))
    | .missed after =>
      match parameters with
      | [type] =>
        let (nullable, last) ← eatQuestion after.position
        return (if nullable then type.withNullable true else type,
          start.extendPast (inside.past (closed.extend (after.extend last))))
      | _ =>
        let length := after.position.offset.byteIdx - start.position.offset.byteIdx
        throw (.fault ⟨.missingArrow, start.position.offset.byteIdx, length⟩)
  else if sees Text.startsName start.position then
    let (word, behind) ← identifier start.position
    let (words, after) ← segments behind.position
    if words = [] ∧ word = "dynamic" then
      return (.dynamic, start.extendPast (behind.extend after))
    else if words = [] ∧ word ∈ typeParameters then
      let (nullable, last) ← eatQuestion after.position
      return (.variable word nullable,
        start.extendPast (behind.extend (after.extend last)))
    else
      let name := QualifiedName.ofDotted (Text.joinWith "." (word :: words))
      match ← eat '<' after.position with
      | .found inside =>
        let (arguments, closed) ← walkArguments typeParameters inside.position
        let (nullable, last) ← eatQuestion closed.position
        return (.named name arguments nullable,
          start.extendPast (behind.extend (after.past (inside.past (closed.extend last)))))
      | .missed here =>
        let (nullable, last) ← eatQuestion here.position
        return (.named name [] nullable,
          start.extendPast (behind.extend (after.extend (here.extend last))))
  else if byte? start.position = none then throw (faultHere .expectedType start.position)
  else throw (faultHere .unexpectedCharacter start.position)
termination_by 3 * (text.utf8ByteSize - cursor.offset.byteIdx)
decreasing_by all_goals grind

/-- Walks over the types behind an opening parenthesis, and the closing one. -/
def walkParameters (typeParameters : List String) (cursor : text.Pos) :
    Walk text (List TypeExpr) cursor.offset.byteIdx := do
  match ← eat ')' cursor with
  | .found behind => return ([], behind)
  | .missed here =>
    let (types, last) ← walkItems typeParameters here.position
    return (types, here.extendPast last)
termination_by 3 * (text.utf8ByteSize - cursor.offset.byteIdx) + 2
decreasing_by all_goals grind

/-- Walks over one or more types with commas between them, and a closing parenthesis. -/
def walkItems (typeParameters : List String) (cursor : text.Pos) :
    Walk text (List TypeExpr) cursor.offset.byteIdx := do
  let (type, after) ← walkType typeParameters cursor
  let (more, behind) ← separator ')' after.position
  if more then
    let (types, last) ← walkItems typeParameters behind.position
    return (type :: types, after.past (behind.past last))
  else return ([type], after.past behind)
termination_by 3 * (text.utf8ByteSize - cursor.offset.byteIdx) + 1
decreasing_by all_goals grind

/-- Walks over an argument of a class. -/
def walkArgument (typeParameters : List String) (cursor : text.Pos) :
    Walk text TypeArgument cursor.offset.byteIdx := do
  match ← eat '*' cursor with
  | .found behind => return (.star, behind)
  | .missed here =>
    match ← marker? here.position with
    | some (variance, behind) =>
      let (type, last) ← walkType typeParameters behind.position
      return (.type variance type, here.extendPast (behind.past last))
    | none =>
      let (type, last) ← walkType typeParameters here.position
      return (.type .invariant type, here.extendPast last)
termination_by 3 * (text.utf8ByteSize - cursor.offset.byteIdx) + 1
decreasing_by all_goals grind

/-- Walks over one or more arguments with commas between them, and a closing bracket. -/
def walkArguments (typeParameters : List String) (cursor : text.Pos) :
    Walk text (List TypeArgument) cursor.offset.byteIdx := do
  let (argument, after) ← walkArgument typeParameters cursor
  let (more, behind) ← separator '>' after.position
  if more then
    let (arguments, last) ← walkArguments typeParameters behind.position
    return (argument :: arguments, after.past (behind.past last))
  else return ([argument], after.past behind)
termination_by 3 * (text.utf8ByteSize - cursor.offset.byteIdx) + 2
decreasing_by all_goals grind

end

end Cursor

/-- Walks over a text that is a type and nothing else. The names in `typeParameters` are the type
parameters in whose scope it stands. -/
def parseBytes (typeParameters : List String) (text : String) : Except Stop TypeExpr := do
  let (type, after) ← Cursor.walkType typeParameters text.startPos
  let last ← Cursor.skipBlanks after.position
  if last.position.offset.byteIdx < text.utf8ByteSize then
    throw (Cursor.faultHere .trailingInput last.position)
  else return type

end ViewGlue.TypeExpr
