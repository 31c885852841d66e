/-!
# What is left of an input

A reader that takes something from the front of a list returns what is left together with a
proof that it is shorter. Reading again from there terminates.
-/

namespace ViewGlue.Text

/-- What is left of a list after some elements were taken from its front. -/
structure Rest {α : Type} (s : List α) where
  /-- The elements that are left. -/
  left : List α
  /-- At least one element was taken, which lets readers recurse on the rest. -/
  shorter : left.length < s.length

namespace Rest

variable {α : Type}

/-- Something was taken. -/
theorem length_lt {s : List α} (rest : Rest s) : rest.left.length < s.length :=
  rest.shorter

grind_pattern length_lt => rest.left

/-- What is left when more is taken from what was left. -/
def through {s : List α} (outer : Rest s) (inner : Rest outer.left) : Rest s :=
  ⟨inner.left, Nat.lt_trans inner.shorter outer.shorter⟩

/-- What is left of a list that is no longer is left of a longer one. -/
def within {s t : List α} (inner : Rest t) (noLonger : t.length ≤ s.length) : Rest s :=
  ⟨inner.left, Nat.lt_of_lt_of_le inner.shorter noLonger⟩

/-- What is left when the first element is taken. -/
def behind (a : α) (s : List α) : Rest (a :: s) :=
  ⟨s, by simp⟩

/-- The next element, with what is left behind it. -/
def next? {s : List α} (rest : Rest s) : Option (α × Rest s) :=
  match same : rest.left with
  | [] => none
  | a :: left => some (a, ⟨left, by grind⟩)

end Rest

end ViewGlue.Text
