import ViewGlue.Code.Reserved

/-!
# Names in generated bodies

A generated body introduces names of its own beside the parameters of its function, which users
choose. A name that is used behind the statement that introduces it denotes what was introduced,
so a parameter of the same name can no longer be reached there. `Referent.of` says what a name
denotes, `StandsBehind` where it is used, and `Code.IsPlain` which introduced names cannot be met
by the spelling of another name.
-/

namespace ViewGlue

/-! ## What names denote -/

/-- What a name in the body of a function denotes. -/
inductive Referent where
  /-- A name that an earlier statement of the body introduced. -/
  | introduced
  /-- A parameter of the function. -/
  | parameter
  /-- Anything outside of the function. -/
  | enclosing
  deriving DecidableEq, Repr

/-- What a name denotes behind statements that introduced some names. The nearest meaning wins. -/
def Referent.of (introduced parameters : List String) (name : String) : Referent :=
  if name ∈ introduced then .introduced
  else if name ∈ parameters then .parameter
  else .enclosing

/-- The name of a parameter denotes it unless the body introduced the same name before. -/
theorem Referent.of_eq_parameter_iff {introduced parameters : List String} {name : String}
    (inside : name ∈ parameters) :
    Referent.of introduced parameters name = .parameter ↔ name ∉ introduced := by
  unfold Referent.of
  by_cases hidden : name ∈ introduced <;> simp [hidden, inside]

/-- A name that the body does not introduce denotes something outside of the function unless a
parameter has it. -/
theorem Referent.of_eq_enclosing_iff {introduced parameters : List String} {name : String}
    (free : name ∉ introduced) :
    Referent.of introduced parameters name = .enclosing ↔ name ∉ parameters := by
  unfold Referent.of
  by_cases taken : name ∈ parameters <;> simp [free, taken]

/-! ## Where statements stand -/

section StandsBehind

variable {α : Type} {statements before front rest : List α} {statement : α} {holds : α → Prop}

/-- A statement with a property stands right behind the first ones. -/
def StandsBehind (statements : List α) (holds : α → Prop) (before : List α) : Prop :=
  ∃ statement after, statements = before ++ statement :: after ∧ holds statement

/-- Every statement stands behind some others. -/
theorem exists_standsBehind (inside : statement ∈ statements) (here : holds statement) :
    ∃ before, StandsBehind statements holds before := by
  obtain ⟨before, after, split⟩ := List.append_of_mem inside
  exact ⟨before, statement, after, split, here⟩

/-- A statement that is none of the first ones stands behind all of them. -/
theorem StandsBehind.exists_append (place : StandsBehind (front ++ rest) holds before)
    (none : ∀ statement ∈ front, ¬ holds statement) :
    ∃ others, before = front ++ others ∧ StandsBehind rest holds others := by
  obtain ⟨statement, after, split, here⟩ := place
  obtain ⟨others, whole, behind⟩ | ⟨others, whole, behind⟩ := List.append_eq_append_iff.1 split
  · exact ⟨others, whole, statement, after, behind, here⟩
  · cases others with
    | nil =>
      exact ⟨[], by simpa using whole.symm, statement, after, by simpa using behind.symm, here⟩
    | cons first others =>
      obtain ⟨rfl, -⟩ := List.cons.inj behind
      exact absurd here (none _ (by simp [whole]))

/-- If no other statement has a property, one that has it stands behind those before it. -/
theorem standsBehind_iff_of_unique (noneBefore : ∀ other ∈ front, ¬ holds other)
    (noneAfter : ∀ other ∈ rest, ¬ holds other) :
    StandsBehind (front ++ statement :: rest) holds before ↔ before = front ∧ holds statement := by
  constructor
  · intro place
    obtain ⟨others, rfl, other, after, split, here⟩ := place.exists_append noneBefore
    cases others with
    | nil =>
      obtain ⟨rfl, -⟩ := List.cons.inj split
      exact ⟨List.append_nil front, here⟩
    | cons first others =>
      obtain ⟨-, rest⟩ := List.cons.inj split
      exact absurd here (noneAfter _ (by simp [rest]))
  · rintro ⟨rfl, here⟩
    exact ⟨statement, rest, rfl, here⟩

end StandsBehind

/-! ## Written names -/

namespace Code

/-- A name that is written as it is, and as which no other name is written. -/
def IsPlain (reserved : List String) (name : String) : Prop :=
  name ∉ reserved ∧ name.toList.getLast? ≠ some '\x60'

instance (reserved : List String) (name : String) : Decidable (IsPlain reserved name) :=
  inferInstanceAs (Decidable (_ ∧ _))

/-- A name between backticks ends with one. -/
theorem getLast?_quoteName (name : String) :
    (quoteName name).toList.getLast? = some '\x60' := by
  have split : (quoteName name).toList = '\x60' :: name.toList ++ ['\x60'] := by simp [quoteName]
  rw [split, List.getLast?_concat]

/-- Only a plain name itself is written as that name. -/
theorem IsPlain.safeName_eq_iff {reserved : List String} {plain name : String}
    (isPlain : IsPlain reserved plain) : safeName reserved name = plain ↔ name = plain := by
  unfold safeName
  split
  · rename_i kept
    constructor
    · rintro rfl
      exact absurd (getLast?_quoteName name) isPlain.2
    · rintro rfl
      exact absurd kept isPlain.1
  · rfl

/-- A name is written as one of some plain names only if it is one of them. -/
theorem safeName_mem_iff {reserved plain : List String} {name : String}
    (arePlain : ∀ other ∈ plain, IsPlain reserved other) :
    safeName reserved name ∈ plain ↔ name ∈ plain := by
  constructor
  · intro inside
    rwa [((arePlain _ inside).safeName_eq_iff.1 rfl)]
  · intro inside
    rwa [(arePlain _ inside).safeName_eq_iff.2 rfl]

end Code

end ViewGlue
