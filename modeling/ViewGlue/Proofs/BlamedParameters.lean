import ViewGlue.Proofs.BridgeableTypes
import ViewGlue.Proofs.Coverage
import ViewGlue.View.Sketch

/-!
# Blamed parameters

A view is left out of the native sources for a type without a counterpart there, and the report
looks for the parameter again from that type alone. It finds the right one: a type with a
counterpart has no part without one (`Foreign.exists_insideText_eq_error_of_contains`), so no
parameter before the first one without a counterpart contains the reported type
(`Foreign.BridgedView.left_out_view_blames_first_parameter`). Nothing is assumed here about how the
names of classes are split.
-/

namespace ViewGlue

namespace TypeExpr

/-- What holds of a type if it holds of the types inside it holds of every type. -/
@[elab_as_elim]
theorem inductionOnParts {motive : TypeExpr → Prop} (type : TypeExpr)
    (named : ∀ name arguments nullable,
      (∀ variance part, .type variance part ∈ arguments → motive part) →
        motive (.named name arguments nullable))
    (function : ∀ parameters result nullable, (∀ part ∈ parameters, motive part) →
      motive result → motive (.function parameters result nullable))
    (typeVariable : ∀ name nullable, motive (.variable name nullable))
    (dynamic : motive .dynamic) : motive type := by
  refine @TypeExpr.rec motive
    (fun argument => ∀ variance part, argument = .type variance part → motive part)
    (fun arguments => ∀ variance part, .type variance part ∈ arguments → motive part)
    (fun parameters => ∀ part ∈ parameters, motive part)
    named function typeVariable dynamic ?_ ?_ ?_ ?_ ?_ ?_ type
  · rintro _ type holds _ _ ⟨⟩
    exact holds
  · nofun
  · nofun
  · intro argument arguments first others variance part inside
    rcases List.mem_cons.1 inside with same | later
    · exact first variance part same.symm
    · exact others variance part later
  · nofun
  · intro parameter parameters first others part inside
    rcases List.mem_cons.1 inside with rfl | later
    · exact first
    · exact others part later

/-- Some of the arguments contains a part exactly if a type among them does. -/
theorem argumentListContains_iff {inner : TypeExpr} {arguments : List TypeArgument} :
    argumentListContains inner arguments = true ↔
      ∃ variance part, .type variance part ∈ arguments ∧ contains inner part = true := by
  induction arguments with
  | nil => simp [argumentListContains]
  | cons argument arguments ih =>
    cases argument with
    | type variance type =>
      simp only [argumentListContains, argumentContains, Bool.or_eq_true, ih]
      constructor
      · rintro (inside | ⟨other, part, listed, inside⟩)
        · exact ⟨variance, type, List.mem_cons_self, inside⟩
        · exact ⟨other, part, List.mem_cons_of_mem _ listed, inside⟩
      · rintro ⟨other, part, listed, inside⟩
        rcases List.mem_cons.1 listed with same | later
        · obtain ⟨-, rfl⟩ := TypeArgument.type.inj same
          exact .inl inside
        · exact .inr ⟨other, part, later, inside⟩
    | star => simp [argumentListContains, argumentContains, ih]

end TypeExpr

namespace Foreign

open Text TypeExpr

/-! ## Types without a counterpart -/

/-- The written form of a type inside another one. -/
def insideText (type : TypeExpr) : Except Unmapped String :=
  typeText ("first", "second") true type

/-- Types inside another one are written one after the other. -/
theorem insideTexts_eq_mapM (types : List TypeExpr) :
    insideTexts types = types.mapM insideText := by
  induction types with
  | nil => rfl
  | cons type types ih => rw [insideTexts, ih, List.mapM_cons, insideText]

/-- Arguments are written one after the other. -/
theorem argumentTexts_eq_mapM (owner : TypeExpr) (arguments : List TypeArgument) :
    argumentTexts owner arguments = arguments.mapM (argumentText owner) := by
  induction arguments with
  | nil => rfl
  | cons argument arguments ih => rw [argumentTexts, ih, List.mapM_cons]

section Faults

variable {labels : String × String} {boxed : Bool} {unmapped : Unmapped}

/-- A class has no counterpart if it has no shape, and then it is reported, or if an argument has
none. -/
theorem typeText_named_eq_error_iff {name : QualifiedName} {arguments : List TypeArgument}
    {nullable : Bool} :
    typeText labels boxed (.named name arguments nullable) = .error unmapped ↔
      (classShape name arguments.length = .unmapped ∧
        ⟨.named name arguments nullable⟩ = unmapped) ∨
      (classShape name arguments.length ≠ .unmapped ∧
        arguments.mapM (argumentText (.named name arguments nullable)) = .error unmapped) := by
  rw [typeText]
  split
  · rename_i shapeless
    simp [shapeless]
  · rename_i present
    have shaped : classShape name arguments.length ≠ .unmapped := present
    clear present
    rw [argumentTexts_eq_mapM]
    cases each : arguments.mapM (argumentText (.named name arguments nullable)) with
    | error fault => simp [shaped, bind, Except.bind]
    | ok texts =>
      have complete := (mapM_eq_ok_iff.1 each).length_eq
      rw [complete] at shaped ⊢
      obtain ⟨text, written⟩ := exists_classText labels boxed nullable shaped
      simp [shaped, written, bind, Except.bind, pure, Except.pure]

/-- A function has no counterpart if a parameter has none, or else its result. -/
theorem typeText_function_eq_error_iff {parameters : List TypeExpr} {result : TypeExpr}
    {nullable : Bool} :
    typeText labels boxed (.function parameters result nullable) = .error unmapped ↔
      parameters.mapM insideText = .error unmapped ∨
      ((∃ texts, parameters.mapM insideText = .ok texts) ∧
        insideText result = .error unmapped) := by
  rw [typeText, insideTexts_eq_mapM, bind_eq_error_iff]
  simp only [bind_eq_error_iff, insideText, pure, Except.pure, reduceCtorEq, and_false,
    exists_false, or_false, exists_and_right]

/-- Whether a type has a counterpart depends neither on its position nor on what it stands in, and
neither does what is reported. -/
theorem typeText_eq_error_iff {type : TypeExpr} :
    typeText labels boxed type = .error unmapped ↔ insideText type = .error unmapped := by
  rw [insideText]
  cases type with
  | named => rw [typeText_named_eq_error_iff, typeText_named_eq_error_iff]
  | function => rw [typeText_function_eq_error_iff, typeText_function_eq_error_iff]
  | _ => rw [typeText, typeText]

/-- A type has no counterpart in a position if it has none inside another type. -/
theorem mapType_eq_error_iff {type : TypeExpr} {position : Position} :
    mapType type position = .error unmapped ↔ insideText type = .error unmapped := by
  rw [mapType, bind_eq_error_iff, typeText_eq_error_iff]
  simp [pure, Except.pure]

/-- The reported type is a part of the type, and reported for itself. -/
theorem insideText_of_reported {type : TypeExpr} (refused : insideText type = .error unmapped) :
    contains unmapped.type type = true ∧ insideText unmapped.type = .error unmapped := by
  -- A class is reported itself, or what its first failing argument reports.
  induction type using inductionOnParts with
  | named name arguments nullable ih =>
    obtain ⟨-, rfl⟩ | ⟨-, fails⟩ := typeText_named_eq_error_iff.1 refused
    · exact ⟨contains_self _, refused⟩
    · obtain ⟨before, argument, behind, rfl, -, fault⟩ := mapM_eq_error_iff.1 fails
      cases argument with
      | star =>
        -- A star has no text of its own; its owner is reported.
        obtain rfl := Except.error.inj fault
        exact ⟨contains_self _, refused⟩
      | type variance part =>
        obtain ⟨inside, self⟩ := ih variance part (by simp) (typeText_eq_error_iff.1 fault)
        refine ⟨?_, self⟩
        rw [contains, argumentListContains_iff.2 ⟨variance, part, by simp, inside⟩, Bool.or_true]
  | function parameters result nullable parts last =>
    obtain fails | ⟨-, fails⟩ := typeText_function_eq_error_iff.1 refused
    · obtain ⟨before, part, behind, rfl, -, fault⟩ := mapM_eq_error_iff.1 fails
      obtain ⟨inside, self⟩ := parts part (by simp) fault
      refine ⟨?_, self⟩
      rw [contains, listContains_iff.2 ⟨part, by simp, inside⟩, Bool.or_true, Bool.true_or]
    · obtain ⟨inside, self⟩ := last fails
      refine ⟨?_, self⟩
      rw [contains, inside, Bool.or_true]
  | typeVariable | dynamic =>
    obtain rfl := Except.error.inj refused
    exact ⟨contains_self _, refused⟩

/-- A type has no counterpart if a part of it has none. -/
theorem exists_insideText_eq_error_of_contains {inner type : TypeExpr}
    (refused : insideText inner = .error unmapped) (inside : contains inner type = true) :
    ∃ other, insideText type = .error other := by
  induction type using inductionOnParts with
  | named name arguments nullable ih =>
    rw [contains, Bool.or_eq_true, decide_eq_true_eq, argumentListContains_iff] at inside
    obtain rfl | ⟨variance, part, listed, inside⟩ := inside
    · exact ⟨unmapped, refused⟩
    · -- The arguments fail with the one that has the part, or with an earlier one.
      obtain ⟨other, fault⟩ := ih variance part listed inside
      obtain ⟨first, fails⟩ := exists_mapM_eq_error_iff.2
        ⟨_, listed, other, show argumentText (.named name arguments nullable) _ = _ from fault⟩
      by_cases shaped : classShape name arguments.length = .unmapped
      · exact ⟨_, typeText_named_eq_error_iff.2 (.inl ⟨shaped, rfl⟩)⟩
      · exact ⟨first, typeText_named_eq_error_iff.2 (.inr ⟨shaped, fails⟩)⟩
  | function parameters result nullable parts last =>
    simp only [contains, Bool.or_eq_true, decide_eq_true_eq, listContains_iff] at inside
    cases each : parameters.mapM insideText with
    | error other => exact ⟨other, typeText_function_eq_error_iff.2 (.inl each)⟩
    | ok texts =>
      obtain (rfl | ⟨part, listed, inside⟩) | inside := inside
      · exact ⟨unmapped, refused⟩
      · obtain ⟨first, fails⟩ := exists_mapM_eq_error_iff.2 ⟨part, listed, parts part listed inside⟩
        rw [each] at fails
        cases fails
      · obtain ⟨other, fault⟩ := last inside
        exact ⟨other, typeText_function_eq_error_iff.2 (.inr ⟨⟨texts, each⟩, fault⟩)⟩
  | typeVariable | dynamic =>
    obtain rfl := of_decide_eq_true inside
    exact ⟨unmapped, refused⟩

/-- A type has a counterpart everywhere or nowhere. -/
theorem exists_mapType_eq_ok_iff {type : TypeExpr} {position : Position} :
    (∃ text, mapType type position = .ok text) ↔ ∃ text, insideText type = .ok text :=
  exists_eq_ok_iff fun _ => mapType_eq_error_iff

/-- A data parameter cannot be bridged if its value type has no counterpart. -/
theorem BridgedParameter.ofParameter_eq_error_iff {parameter : Parameter} :
    ofParameter parameter = .error unmapped ↔
      insideText parameter.valueType = .error unmapped := by
  simp only [ofParameter, bind_eq_error_iff, mapType_eq_error_iff, pure, Except.pure, reduceCtorEq,
    and_false, exists_false, or_false]
  refine or_iff_left ?_
  rintro ⟨text, written, refused⟩
  rw [← @mapType_eq_error_iff _ _ .parameter, written] at refused
  cases refused

/-- A data parameter can be bridged if its value type has a counterpart. -/
theorem BridgedParameter.exists_ofParameter_eq_ok_iff {parameter : Parameter} :
    (∃ bridged, ofParameter parameter = .ok bridged) ↔
      ∃ text, insideText parameter.valueType = .ok text :=
  exists_eq_ok_iff fun _ => ofParameter_eq_error_iff

end Faults

/-! ## Views that are left out -/

namespace BridgedView

variable {view : View} {unmapped : Unmapped}

/-- The name of a delegate is a class without a package if the view's name is an identifier. -/
theorem ofDotted_delegate (isName : isIdentifier view.name = true) :
    QualifiedName.ofDotted (Naming.delegate view.name) = ⟨"", Naming.delegate view.name⟩ := by
  have dotless : '.' ∉ (Naming.delegate view.name).toList := by
    simp [Naming.delegate, dot_notMem_of_isIdentifierChars isName]
  have name : (QualifiedName.mk "" (Naming.delegate view.name)).dotted =
      Naming.delegate view.name := if_pos rfl
  exact name ▸ QualifiedName.ofDotted_dotted dotless

/-- The handle of a view with its delegate. -/
def handlePair (view : View) : TypeExpr :=
  .named ⟨"kotlin", "Pair"⟩
    [.type .invariant (.ofDotted (RenderMode.handlePackage ++ "." ++ view.mode.handleClass)),
     .type .invariant (.ofDotted (Naming.delegate view.name))]
    false

/-- The native factory gives a view for an observed view and a pair for all others. -/
theorem factoryResult_eq (view : View) :
    factoryResult view =
      if view.mode = .observed then .ok "AnyView"
      else mapType (handlePair view) .factoryResult := by
  unfold factoryResult handlePair
  cases view.mode <;> rfl

/-- The pair has a counterpart if the view's name is an identifier. -/
theorem bridgeable_handlePair (isName : isIdentifier view.name = true) :
    Bridgeable (handlePair view) := by
  refine .pair (.elsewhere ?_) (.elsewhere ?_)
  · rw [← isStandardPackage_iff]
    cases view.mode <;> decide
  · rw [← isStandardPackage_iff, ofDotted_delegate isName]
    show ¬ isStandardPackage "" = true
    decide

/-- The native factory has a result for a view of which the name is an identifier. -/
theorem exists_factoryResult (isName : isIdentifier view.name = true) :
    ∃ result, factoryResult view = .ok result := by
  have split : AreSplit (handlePair view).references := by
    simp only [AreSplit, handlePair, references, argumentListReferences, argumentReferences,
      TypeExpr.ofDotted, List.append_nil, List.cons_append, List.nil_append, List.forall_mem_cons]
    exact ⟨⟨"kotlin.Pair", by decide⟩, ⟨_, rfl⟩, ⟨_, rfl⟩, List.forall_mem_nil _⟩
  have written :=
    (decides_mapType split .factoryResult).written_iff.2 (bridgeable_handlePair isName)
  rw [factoryResult_eq]
  split_ifs
  · exact ⟨_, rfl⟩
  · exact written

/-- A view without type parameters cannot be bridged if one of its data parameters cannot, and the
fault is that of the first one. -/
theorem ofView_eq_error_iff (isName : isIdentifier view.name = true)
    (plain : view.typeParameters = []) :
    ofView view = .error unmapped ↔
      ∃ before parameter behind, view.dataParameters = before ++ parameter :: behind ∧
        (∀ other ∈ before, ∃ text, insideText other.valueType = .ok text) ∧
        insideText parameter.valueType = .error unmapped := by
  obtain ⟨result, made⟩ := exists_factoryResult isName
  simp only [ofView, plain, made, bind_eq_error_iff, mapM_eq_error_iff, pure, Except.pure,
    reduceCtorEq, and_false, exists_false, or_false, BridgedParameter.ofParameter_eq_error_iff,
    BridgedParameter.exists_ofParameter_eq_ok_iff]

/-- The report about a data parameter for which a view is left out. -/
def blames (view : View) (parameter : Parameter) (unmapped : Unmapped) : Diagnostic where
  severity := .error
  phase := "map"
  code := some "unmapped-type"
  message :=
    view.name ++ ": parameter '" ++ parameter.name ++ "' of type '" ++ parameter.valueType.text ++
      "' cannot be bridged (" ++ unmapped.message ++ "); left out of the swift sources"
  location := some view.file.path

/-- The first parameter of which the value type has no counterpart is the first one that contains
the reported type. -/
theorem find?_contains {before behind : List Parameter} {parameter : Parameter}
    (place : view.dataParameters = before ++ parameter :: behind)
    (mapped : ∀ other ∈ before, ∃ text, insideText other.valueType = .ok text)
    (refused : insideText parameter.valueType = .error unmapped) :
    view.dataParameters.find? (contains unmapped.type ·.valueType) = some parameter := by
  obtain ⟨inside, self⟩ := insideText_of_reported refused
  refine List.find?_eq_some_iff_append.2 ⟨inside, before, behind, place, fun other earlier => ?_⟩
  simp only [Bool.not_eq_true']
  by_contra found
  obtain ⟨text, written⟩ := mapped other earlier
  obtain ⟨fault, fails⟩ := exists_insideText_eq_error_of_contains self (by simpa using found)
  rw [written] at fails
  cases fails

/-- A view that is left out is reported with the first parameter without a counterpart. -/
theorem report?_eq_some_blames {before behind : List Parameter} {parameter : Parameter}
    (fails : ofView view = .error unmapped)
    (place : view.dataParameters = before ++ parameter :: behind)
    (mapped : ∀ other ∈ before, ∃ text, insideText other.valueType = .ok text)
    (refused : insideText parameter.valueType = .error unmapped) :
    report? view = some (blames view parameter unmapped) := by
  have named := find?_contains place mapped refused
  have joined (rest : String) : ": " ++ ("parameter '" ++ rest) = ": parameter '" ++ rest := by
    rw [← String.append_assoc]
    rfl
  simp [report?, fails, leftOut, blames, subject, named, language,
    String.append_assoc, joined]

/-- A view without type parameters of which the name is an identifier is left out of the native
sources exactly if a data parameter has a value type without a counterpart. The one error that is
reported about it names the first such parameter with its value type: all earlier ones have
counterparts wherever they stand, and this one has none anywhere. The type that is named as the
reason is a part of the value type, and the one that is reported for this part as well. -/
theorem left_out_view_blames_first_parameter (project : Project) {earlier later : List View}
    (place : project.views = earlier ++ view :: later)
    (isName : isIdentifier view.name = true) (plain : view.typeParameters = []) :
    ((∃ unmapped, ofView view = .error unmapped) ↔
      ∃ parameter ∈ view.dataParameters, ∀ position, ∃ unmapped,
        mapType parameter.valueType position = .error unmapped) ∧
    ∀ unmapped, ofView view = .error unmapped →
      ∃ before parameter behind, view.dataParameters = before ++ parameter :: behind ∧
        (∀ other ∈ before, ∀ position, ∃ text, mapType other.valueType position = .ok text) ∧
        (∀ position, mapType parameter.valueType position = .error unmapped) ∧
        (contains unmapped.type parameter.valueType = true ∧
          ∀ position, mapType unmapped.type position = .error unmapped) ∧
        (bridgeDiagnostics project).Perm
          (blames view parameter unmapped :: (earlier ++ later).filterMap report?) := by
  have somewhere : Nonempty Position := ⟨.parameter⟩
  simp only [mapType_eq_error_iff, exists_mapType_eq_ok_iff, forall_const]
  refine ⟨?_, fun unmapped fails => ?_⟩
  · simp only [ofView_eq_error_iff isName plain, ← mapM_eq_error_iff, exists_mapM_eq_error_iff]
  · obtain ⟨before, parameter, behind, split, mapped, refused⟩ :=
      (ofView_eq_error_iff isName plain).1 fails
    have reported := report?_eq_some_blames fails split mapped refused
    exact ⟨before, parameter, behind, split, mapped, refused, insideText_of_reported refused,
      bridgeDiagnostics_perm_of_reported place reported⟩

/-- Letters, which have no counterpart. -/
def letter : TypeExpr := .ofDotted "kotlin.Char"

/-- Cells with lists of letters. -/
def letterCells : Parameter where
  name := "cells"
  type := .named (.ofDotted "kotlin.collections.Map")
    [.type .invariant (.ofDotted "kotlin.String"),
     .type .covariant
      (.named (.ofDotted "kotlin.collections.List") [.type .invariant letter] false)] true
  isSlot := false

/-- A grid with titles that have a counterpart, cells that have none, and a mark that has none. -/
def gridSketch : View :=
  (((View.sketch "ShowGrid").takes "titles" (.named (.ofDotted "kotlin.collections.List")
    [.type .invariant (.ofDotted "kotlin.String")] false)).takes letterCells.name
      letterCells.type).takes "mark" letter

/-- The grid beside a map that can be bridged. -/
def gridProject : Project :=
  .ofViews .primary ⟨"dev.viewbridge"⟩ [.mapSketch, gridSketch]

/-- The grid is left out for its cells, since letters have no counterpart. -/
theorem grid_is_left_out_for_cells :
    bridgeDiagnostics gridProject = [blames gridSketch letterCells ⟨letter⟩] ∧
      (blames gridSketch letterCells ⟨letter⟩).message =
        "ShowGrid: parameter 'cells' of type 'kotlin.collections.Map<kotlin.String, " ++
          "out kotlin.collections.List<kotlin.Char>>?' cannot be bridged (type 'kotlin.Char' " ++
          "has no swift counterpart); left out of the swift sources" := by
  have refused : ofView gridSketch = .error ⟨letter⟩ := by with_unfolding_all rfl
  have found :
      gridSketch.dataParameters.find? (contains letter ·.valueType) = some letterCells := by
    with_unfolding_all rfl
  have place : gridProject.views = [View.mapSketch] ++ gridSketch :: [] := rfl
  obtain ⟨-, blamed⟩ :=
    left_out_view_blames_first_parameter gridProject place (by decide) rfl
  obtain ⟨before, parameter, behind, split, mapped, fault, -, reported⟩ := blamed _ refused
  have named := find?_contains split
    (fun other inside => exists_mapType_eq_ok_iff.1 (mapped other inside .parameter))
    (mapType_eq_error_iff.1 (fault .parameter))
  obtain rfl := Option.some.inj (found.symm.trans named)
  exact ⟨List.perm_singleton.1 reported, by decide +kernel⟩

end BridgedView

end Foreign

end ViewGlue
