import Mathlib.Data.List.Forall2

/-!
# Traversals that may fail

A step that may fail succeeds with what its parts succeed with, and a list is traversed with
success exactly if every element is.
-/

namespace ViewGlue

variable {ε α β : Type}

/-- Two steps succeed if the first does and the second does with what it gave. -/
theorem bind_eq_ok_iff {first : Except ε α} {next : α → Except ε β} {result : β} :
    first >>= next = .ok result ↔ ∃ value, first = .ok value ∧ next value = .ok result := by
  cases first with
  | error fault => simp [bind, Except.bind]
  | ok value => simp [bind, Except.bind]

/-- Two steps fail if the first does, or the second with what the first gave. -/
theorem bind_eq_error_iff {first : Except ε α} {next : α → Except ε β} {fault : ε} :
    first >>= next = .error fault ↔
      first = .error fault ∨ ∃ value, first = .ok value ∧ next value = .error fault := by
  cases first with
  | error fault => simp [bind, Except.bind]
  | ok value => simp [bind, Except.bind]

/-- Steps that fail alike succeed alike. -/
theorem exists_eq_ok_iff {first : Except ε α} {second : Except ε β}
    (alike : ∀ fault, first = .error fault ↔ second = .error fault) :
    (∃ value, first = .ok value) ↔ ∃ value, second = .ok value := by
  cases first with
  | error fault => simp [(alike fault).1 rfl]
  | ok value =>
    cases second with
    | error fault => cases (alike fault).2 rfl
    | ok other => simp

/-- A step with a changed result succeeds if the step does. -/
theorem map_eq_ok_iff {first : Except ε α} {change : α → β} {result : β} :
    first.map change = .ok result ↔ ∃ value, first = .ok value ∧ change value = result := by
  cases first <;> simp [Except.map]

/-- A traversal succeeds with the results of all elements in their order. -/
theorem mapM_eq_ok_iff {step : α → Except ε β} {elements : List α} {results : List β} :
    elements.mapM step = .ok results ↔
      List.Forall₂ (fun element result => step element = .ok result) elements results := by
  induction elements generalizing results with
  | nil => cases results <;> simp [pure, Except.pure]
  | cons element elements ih =>
    rw [List.mapM_cons, bind_eq_ok_iff, List.forall₂_cons_left_iff]
    simp only [bind_eq_ok_iff, ih, pure, Except.pure, Except.ok.injEq]
    constructor
    · rintro ⟨result, one, others, all, rfl⟩
      exact ⟨result, others, one, all, rfl⟩
    · rintro ⟨result, others, one, all, rfl⟩
      exact ⟨result, one, others, all, rfl⟩

/-- A traversal fails with the fault of an element if all elements before it succeed. -/
theorem mapM_eq_error_iff {step : α → Except ε β} {elements : List α} {fault : ε} :
    elements.mapM step = .error fault ↔
      ∃ before element behind, elements = before ++ element :: behind ∧
        (∀ other ∈ before, ∃ result, step other = .ok result) ∧ step element = .error fault := by
  induction elements with
  | nil => simp [pure, Except.pure]
  | cons first rest ih =>
    rw [List.mapM_cons, bind_eq_error_iff]
    simp only [bind_eq_error_iff, ih, pure, Except.pure, reduceCtorEq, and_false, exists_false,
      or_false]
    constructor
    · rintro (fails | ⟨result, one, before, element, behind, rfl, all, fails⟩)
      · exact ⟨[], first, rest, rfl, nofun, fails⟩
      · exact ⟨first :: before, element, behind, rfl, List.forall_mem_cons.2 ⟨⟨result, one⟩, all⟩,
          fails⟩
    · rintro ⟨before, element, behind, place, all, fails⟩
      cases before with
      | nil =>
        obtain ⟨rfl, rfl⟩ := List.cons.inj place
        exact .inl fails
      | cons other before =>
        obtain ⟨rfl, rfl⟩ := List.cons.inj place
        obtain ⟨⟨result, one⟩, others⟩ := List.forall_mem_cons.1 all
        exact .inr ⟨result, one, before, element, behind, rfl, others, fails⟩

/-- A traversal fails exactly if one of the elements does. -/
theorem exists_mapM_eq_error_iff {step : α → Except ε β} {elements : List α} :
    (∃ fault, elements.mapM step = .error fault) ↔
      ∃ element ∈ elements, ∃ fault, step element = .error fault := by
  induction elements with
  | nil => simp [pure, Except.pure]
  | cons first rest ih =>
    rw [List.mapM_cons, List.exists_mem_cons_iff, ← ih]
    cases one : step first <;>
      simp [bind_eq_error_iff, pure, Except.pure]

/-- Where lists are related element by element, every element has a partner. -/
theorem exists_of_mem_forall₂ {R : α → β → Prop} {elements : List α} {results : List β}
    (all : List.Forall₂ R elements results) {result : β} (inside : result ∈ results) :
    ∃ element ∈ elements, R element result := by
  induction all with
  | nil => cases inside
  | @cons element found elements others one _ ih =>
    rcases List.mem_cons.1 inside with rfl | later
    · exact ⟨element, List.mem_cons_self, one⟩
    · obtain ⟨other, listed, same⟩ := ih later
      exact ⟨other, List.mem_cons_of_mem element listed, same⟩

/-- What a traversal gives comes from its elements. -/
theorem exists_of_mem_mapM {step : α → Except ε β} {elements : List α} {results : List β}
    (done : elements.mapM step = .ok results) {result : β} (inside : result ∈ results) :
    ∃ element ∈ elements, step element = .ok result :=
  exists_of_mem_forall₂ (mapM_eq_ok_iff.1 done) inside

/-- What is read off the results is what is read off the elements if each step keeps it. -/
theorem map_eq_of_mapM {γ : Type} {step : α → Except ε β} {elements : List α} {results : List β}
    {ofResult : β → γ} {ofElement : α → γ}
    (keeps : ∀ element result, step element = .ok result → ofResult result = ofElement element)
    (done : elements.mapM step = .ok results) :
    results.map ofResult = elements.map ofElement := by
  have all := mapM_eq_ok_iff.1 done
  clear done
  induction all with
  | nil => rfl
  | cons one _ ih => rw [List.map_cons, List.map_cons, ih, keeps _ _ one]

/-- Where lists are related element by element, an element and its partner may be replaced by
others that are related. -/
theorem exists_forall₂_replace {R : α → β → Prop} {before behind : List α} {element : α}
    {results : List β} (each : List.Forall₂ R (before ++ element :: behind) results) :
    ∃ front result back, results = front ++ result :: back ∧ R element result ∧
      ∀ other found, R other found →
        List.Forall₂ R (before ++ other :: behind) (front ++ found :: back) := by
  induction before generalizing results with
  | nil =>
    obtain ⟨result, back, one, rest, rfl⟩ := List.forall₂_cons_left_iff.1 each
    exact ⟨[], result, back, rfl, one, fun _ _ related => .cons related rest⟩
  | cons first before ih =>
    obtain ⟨found, others, one, rest, rfl⟩ := List.forall₂_cons_left_iff.1 each
    obtain ⟨front, result, back, rfl, partner, replaced⟩ := ih rest
    exact ⟨found :: front, result, back, rfl, partner,
      fun other new related => .cons one (replaced other new related)⟩

end ViewGlue
