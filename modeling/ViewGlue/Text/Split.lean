/-!
# Splitting and joining

Texts made of parts with separators between them. `splitAt` cuts at the separators and
`joinWith` puts a separator between the parts; `joinChars_splitChars` says that nothing else
is lost or added.
-/

namespace ViewGlue.Text

/-- The parts between the characters that satisfy `isSeparator`; there is always one more part
than there are separators. -/
def splitChars (isSeparator : Char → Bool) : List Char → List (List Char)
  | [] => [[]]
  | c :: rest =>
    if isSeparator c then [] :: splitChars isSeparator rest
    else
      match splitChars isSeparator rest with
      | [] => [[c]]
      | part :: parts => (c :: part) :: parts

/-- The parts of a text between the characters that satisfy `isSeparator`. -/
def splitAt (isSeparator : Char → Bool) (s : String) : List String :=
  (splitChars isSeparator s.toList).map String.ofList

/-- The parts with one separator character between neighbours. -/
def joinChars (separator : Char) : List (List Char) → List Char
  | [] => []
  | [part] => part
  | part :: next :: parts => part ++ separator :: joinChars separator (next :: parts)

/-- The texts with a separator between neighbours. -/
def joinWith (separator : String) : List String → String
  | [] => ""
  | [part] => part
  | part :: next :: parts => part ++ separator ++ joinWith separator (next :: parts)

/-- The texts one after another. -/
def concat : List String → String
  | [] => ""
  | part :: parts => part ++ concat parts

/-- The text before and after the last occurrence of a character, if it occurs. -/
def splitLastChars (mark : Char) : List Char → Option (List Char × List Char)
  | [] => none
  | c :: rest =>
    match splitLastChars mark rest with
    | some (before, behind) => some (c :: before, behind)
    | none => if c = mark then some ([], rest) else none

/-- The text before and after the first occurrence of a character, if it occurs. -/
def splitFirstChars (mark : Char) : List Char → Option (List Char × List Char)
  | [] => none
  | c :: rest =>
    if c = mark then some ([], rest)
    else (splitFirstChars mark rest).map fun (before, behind) => (c :: before, behind)

/-- The texts of two lists, one behind the other. -/
theorem concat_append (texts others : List String) :
    concat (texts ++ others) = concat texts ++ concat others := by
  induction texts with
  | nil => simp [concat]
  | cons text texts ih => simp [concat, ih, String.append_assoc]

/-- There is always a first part. -/
theorem splitChars_ne_nil (isSeparator : Char → Bool) (s : List Char) :
    splitChars isSeparator s ≠ [] := by
  cases s with
  | nil => simp [splitChars]
  | cons c rest =>
    simp only [splitChars]
    split
    · simp
    · split <;> simp

/-- Joining the parts between the occurrences of a character gives the text back. -/
theorem joinChars_splitChars (separator : Char) (s : List Char) :
    joinChars separator (splitChars (· == separator) s) = s := by
  induction s with
  | nil => rfl
  | cons c rest ih =>
    have parts := splitChars_ne_nil (· == separator) rest
    simp only [splitChars]
    split
    · rename_i same
      cases split : splitChars (· == separator) rest with
      | nil => exact absurd split parts
      | cons part others =>
        rw [split] at ih
        simp only [beq_iff_eq] at same
        simp [joinChars, ih, same]
    · cases split : splitChars (· == separator) rest with
      | nil => exact absurd split parts
      | cons part others =>
        rw [split] at ih
        cases others with
        | nil => simpa [joinChars] using ih
        | cons next others => simpa [joinChars] using ih

/-- A split at the last occurrence gives the text back, and the mark is not in what follows. -/
theorem splitLastChars_eq_some {mark : Char} {s before behind : List Char}
    (split : splitLastChars mark s = some (before, behind)) :
    s = before ++ mark :: behind ∧ mark ∉ behind := by
  induction s generalizing before behind with
  | nil => simp [splitLastChars] at split
  | cons c rest ih =>
    simp only [splitLastChars] at split
    split at split
    · rename_i inner tail found
      simp only [Option.some.injEq, Prod.mk.injEq] at split
      obtain ⟨rfl, rfl⟩ := split
      have := ih found
      simp [this.1, this.2]
    · rename_i missing
      split at split
      · rename_i same
        simp only [Option.some.injEq, Prod.mk.injEq] at split
        obtain ⟨rfl, rfl⟩ := split
        refine ⟨by simp [same], fun inside => ?_⟩
        clear ih
        induction rest with
        | nil => simp at inside
        | cons d rest ih =>
          simp only [splitLastChars] at missing
          split at missing
          · simp at missing
          · rename_i absent
            split at missing
            · simp at missing
            · rename_i differs
              rcases List.mem_cons.1 inside with rfl | later
              · exact differs rfl
              · exact ih absent later
      · simp at split

/-- A text without the mark has no last occurrence of it, and conversely. -/
theorem splitLastChars_eq_none_iff {mark : Char} {s : List Char} :
    splitLastChars mark s = none ↔ mark ∉ s := by
  induction s with
  | nil => simp [splitLastChars]
  | cons c rest ih =>
    simp only [splitLastChars, List.mem_cons, not_or]
    split
    · rename_i found
      have inside : mark ∈ rest := by
        apply Classical.byContradiction
        intro outside
        rw [ih.2 outside] at found
        cases found
      simp [inside]
    · rename_i missing
      by_cases same : c = mark
      · simp [same]
      · simp [same, ih.1 missing, Ne.symm same]

/-- A text is cut at its first mark. -/
theorem splitFirstChars_append {mark : Char} {before : List Char} (outside : mark ∉ before)
    (behind : List Char) :
    splitFirstChars mark (before ++ mark :: behind) = some (before, behind) := by
  induction before with
  | nil => simp [splitFirstChars]
  | cons c rest ih =>
    rw [List.mem_cons, not_or] at outside
    simp [splitFirstChars, Ne.symm outside.1, ih outside.2]

/-- A text without the mark is not cut. -/
theorem splitFirstChars_of_notMem {mark : Char} {s : List Char} (outside : mark ∉ s) :
    splitFirstChars mark s = none := by
  induction s with
  | nil => rfl
  | cons c rest ih =>
    rw [List.mem_cons, not_or] at outside
    simp [splitFirstChars, Ne.symm outside.1, ih outside.2]

/-- Where a text is cut, the mark is between the parts and not in the first one. -/
theorem splitFirstChars_eq_some {mark : Char} {s before behind : List Char}
    (split : splitFirstChars mark s = some (before, behind)) :
    s = before ++ mark :: behind ∧ mark ∉ before := by
  by_cases inside : mark ∈ s
  · obtain ⟨front, back, rfl, outside⟩ := List.eq_append_cons_of_mem inside
    rw [splitFirstChars_append outside, Option.some.injEq, Prod.mk.injEq] at split
    obtain ⟨rfl, rfl⟩ := split
    exact ⟨rfl, outside⟩
  · rw [splitFirstChars_of_notMem inside] at split
    cases split

end ViewGlue.Text
