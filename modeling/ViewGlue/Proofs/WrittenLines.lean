import ViewGlue.Code.Fragment

/-!
# Written lines

A writer keeps the level of its next line while it goes into a tree of code and out again. What it
appends is what the tree means (`Writer.writes_lines`): the lines of the tree from top to bottom,
each with one indentation for every level of the writer and of its depth in the tree. The text
before stays as it was, and so does the level.
-/

namespace ViewGlue

namespace Code

/-- A margin is one indentation for each level. -/
theorem margin_eq (level : Nat) :
    margin level = Text.concat (List.replicate level indentation) := by
  induction level with
  | zero => rfl
  | succ level ih => rw [margin, ih, List.replicate_succ, Text.concat]

/-- A line of a tree that stands at a level, with its indentations and its end. Empty lines have no
indentation. -/
def Line.standing (level : Nat) : Line → String
  | empty => "\n"
  | code depth text => Text.concat (List.replicate (level + depth) indentation) ++ text ++ "\n"

/-- The text of lines of a tree that stands at a level. -/
def standingText (level : Nat) (lines : List Line) : String :=
  Text.concat (lines.map (Line.standing level))

namespace Writer

/-- The writer with lines of a tree behind its text; the tree stands at a level. -/
def withLines (writer : Writer) (level : Nat) (lines : List Line) : Writer :=
  { writer with text := writer.text ++ standingText level lines }

/-- Lines leave the level of a writer as it is. -/
@[simp]
theorem withLines_level (writer : Writer) (level : Nat) (lines : List Line) :
    (writer.withLines level lines).level = writer.level :=
  rfl

/-- No lines change nothing. -/
@[simp]
theorem withLines_nil (writer : Writer) (level : Nat) : writer.withLines level [] = writer := by
  simp [withLines, standingText, Text.concat]

/-- Lines may be appended in two parts. -/
theorem withLines_append (writer : Writer) (level : Nat) (lines others : List Line) :
    writer.withLines level (lines ++ others) =
      (writer.withLines level lines).withLines level others := by
  simp [withLines, standingText, Text.concat_append, String.append_assoc]

/-- What is appended one level deeper is appended, and the level is back. -/
theorem shallower_withLines_deeper (writer : Writer) (level : Nat) (lines : List Line) :
    (writer.deeper.withLines level lines).shallower = writer.withLines level lines :=
  rfl

/-- A line gets one indentation for each level of the writer. -/
theorem line_eq {writer : Writer} {level depth : Nat} (stands : writer.level = level + depth)
    (text : String) : writer.line text = writer.withLines level [.code depth text] := by
  simp [line, withLines, standingText, Line.standing, Text.concat, margin_eq, stands]

/-- An empty line has no indentation. -/
theorem blank_eq (writer : Writer) (level : Nat) :
    writer.blank = writer.withLines level [.empty] := by
  simp [blank, withLines, standingText, Line.standing, Text.concat]

-- The level of the writer grows with the depth in the tree, so the step into a body needs the
-- statement at every depth and not only at the top.
mutual

/-- In a tree that stands at a level, a writer appends the lines of a fragment at its depth. -/
theorem write_eq {writer : Writer} {level depth : Nat} (stands : writer.level = level + depth) :
    ∀ fragment : Fragment,
      writer.write fragment = writer.withLines level (fragment.lines depth)
  | .line text => by rw [write, Fragment.lines, line_eq stands]
  | .blank => by rw [write, Fragment.lines, blank_eq writer level]
  | .block header body close => by
    have inside : (writer.line header).deeper.level = level + (depth + 1) :=
      congrArg (· + 1) stands
    have opened : ((writer.line header).deeper.writeAll body).shallower =
        writer.withLines level (.code depth header :: listLines (depth + 1) body) := by
      rw [writeAll_eq inside body, shallower_withLines_deeper, line_eq stands,
        ← withLines_append, List.singleton_append]
    cases close with
    | none => rw [write, opened, Fragment.lines, Option.map_none, Option.toList_none,
        List.append_nil]
    | some close =>
      rw [write, opened, Fragment.lines, withLines_append]
      exact line_eq ((withLines_level writer level _).trans stands) close
  | .indented body => by
    have inside : writer.deeper.level = level + (depth + 1) := congrArg (· + 1) stands
    rw [write, Fragment.lines, writeAll_eq inside body, shallower_withLines_deeper]

/-- In a tree that stands at a level, a writer appends the lines of fragments at their depth. -/
theorem writeAll_eq {writer : Writer} {level depth : Nat} (stands : writer.level = level + depth) :
    ∀ fragments : List Fragment,
      writer.writeAll fragments = writer.withLines level (listLines depth fragments)
  | [] => by rw [writeAll, listLines, withLines_nil]
  | fragment :: rest => by
    have behind := writeAll_eq ((withLines_level writer level (fragment.lines depth)).trans stands)
      rest
    rw [writeAll, write_eq stands fragment, behind, listLines, withLines_append]

end

/-- A writer at any level appends to its text exactly the lines of a tree, or of trees one after
another: from top to bottom, with one indentation for each of its levels and for each level of depth
in the tree, and none on empty lines. Its level is the same afterwards. -/
theorem writes_lines (writer : Writer) :
    (∀ fragment : Fragment, writer.write fragment =
      { level := writer.level
        text := writer.text ++ standingText writer.level (fragment.lines 0) }) ∧
    ∀ fragments : List Fragment, writer.writeAll fragments =
      { level := writer.level
        text := writer.text ++ standingText writer.level (listLines 0 fragments) } := by
  have stands : writer.level = writer.level + 0 := (Nat.add_zero writer.level).symm
  exact ⟨write_eq stands, writeAll_eq stands⟩

/-- Below a first line at level one, a block with a deeper line in it. -/
example :
    (Writer.mk 1 "first\n").write
        (.braced "open \x7b" [.line "inner", .indented [.line "deeper"], .blank]) =
      ⟨1, "first\n    open \x7b\n        inner\n            deeper\n\n    \x7d\n"⟩ := by
  decide

end Writer

end Code

end ViewGlue
