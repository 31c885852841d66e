import ViewGlue.Proofs.Contributions
import ViewGlue.Proofs.GeneratedFiles
import ViewGlue.View.Sketch

/-!
# Clashing methods

Views of one name in one group get create methods of one name in the group's factory
(`View.Overloads`). The lint warns about the later ones and says whether the methods also have the
same types. It compares the types that the declarations state, and the factory has the types of the
values: an argument that takes any number of values is an array there. So the verdict fits the
factory where parameters take several values at the same places
(`Lint.Duplicates.verdict_compares_stated_types`), and not otherwise
(`Lint.Duplicates.varargs_are_overlooked`). As the first view the lint names the first one of the
name and group, whatever its types are (`Lint.Duplicates.named_first_is_first_overload`).
-/

namespace ViewGlue

/-- The methods that create the two views have one name in one factory. -/
def View.Overloads (other view : View) : Prop :=
  other.name = view.name ∧ other.group = view.group

instance : DecidableRel View.Overloads := fun other view =>
  inferInstanceAs (Decidable (other.name = view.name ∧ other.group = view.group))

/-- Which of the data parameters take any number of values. -/
def View.varargs (view : View) : List Bool :=
  view.dataParameters.map (·.isVararg)

/-- The types of a method's parameters. -/
def Host.CreateMethod.types (method : Host.CreateMethod) : List TypeExpr :=
  method.parameters.map (·.2)

/-! ## Types of parameters and of their values -/

/-- Lists that agree in one thing agree in a second exactly if they do in a third, if this holds of
their elements. -/
theorem map_eq_map_iff {α β γ δ : Type} {given : α → β} {first : α → γ} {second : α → δ}
    (each : ∀ {element other}, given element = given other →
      (first element = first other ↔ second element = second other))
    {left right : List α} (alike : left.map given = right.map given) :
    left.map first = right.map first ↔ left.map second = right.map second := by
  induction left generalizing right with
  | nil => cases right <;> simp at alike ⊢
  | cons element left ih =>
    cases right with
    | nil => simp at alike
    | cons other right =>
      obtain ⟨here, behind⟩ := List.cons.inj alike
      simp only [List.map_cons, List.cons.injEq, each here, ih behind]

namespace Parameter

/-- No type is an array of itself. -/
theorem array_ne (type : TypeExpr) :
    TypeExpr.named ⟨"kotlin", "Array"⟩ [.type .covariant type] false ≠ type := by
  intro same
  have sizes := congrArg sizeOf same
  simp at sizes
  omega

/-- Parameters that take as many values state one type exactly if their values have one. -/
theorem valueType_eq_iff {left right : Parameter} (alike : left.isVararg = right.isVararg) :
    left.valueType = right.valueType ↔ left.type = right.type := by
  unfold valueType
  rw [alike]
  cases right.isVararg <;> simp

/-- Values of parameters of one stated type have one type exactly if these take as many. -/
theorem valueType_eq_iff_isVararg {left right : Parameter} (same : left.type = right.type) :
    left.valueType = right.valueType ↔ left.isVararg = right.isVararg := by
  unfold valueType
  rw [same]
  cases left.isVararg <;> cases right.isVararg <;> simp [array_ne, (array_ne _).symm]

end Parameter

namespace Host.CreateMethod

open Lint.Duplicates

/-- The parameters of a method have the types of the values of the data parameters. -/
theorem types_ofView (runtime : RuntimePackage) (view : View) :
    (ofView runtime view).types = view.dataParameters.map (·.valueType) := by
  simp [types, ofView, Function.comp_def]

/-- Two views state the same types exactly where their methods have the same, if those that agree in
one of the two take several values at the same places; and only then. -/
theorem dataTypes_eq_iff_types_eq_iff (runtime : RuntimePackage) (other view : View) :
    (dataTypes other = dataTypes view ↔
        (ofView runtime other).types = (ofView runtime view).types) ↔
      (dataTypes other = dataTypes view ∨
        (ofView runtime other).types = (ofView runtime view).types →
          other.varargs = view.varargs) := by
  rw [types_ofView, types_ofView]
  have alike (spread : other.varargs = view.varargs) :
      other.dataParameters.map (·.valueType) = view.dataParameters.map (·.valueType) ↔
        dataTypes other = dataTypes view :=
    map_eq_map_iff Parameter.valueType_eq_iff spread
  have stated (same : dataTypes other = dataTypes view) :
      other.dataParameters.map (·.valueType) = view.dataParameters.map (·.valueType) ↔
        other.varargs = view.varargs :=
    map_eq_map_iff Parameter.valueType_eq_iff_isVararg same
  constructor
  · rintro agree (same | same)
    · exact (stated same).1 (agree.1 same)
    · exact (stated (agree.2 same)).1 same
  · intro spread
    exact ⟨fun same => (alike (spread (.inl same))).2 same,
      fun same => (alike (spread (.inr same))).1 same⟩

end Host.CreateMethod

/-! ## Warnings -/

namespace Lint.Duplicates

/-- What is said about a view of which the method has the types of an earlier one. -/
def identicalTypes (view : View) (path : String) : String :=
  "factory method '" ++ Naming.createMethod view.name ++ "' in group '" ++ view.group ++
    "' is declared twice with identical parameter types (first in " ++ path ++ ")"

/-- What is said about a view of which the method has other types than all earlier ones. -/
def sharedDelegate (view : View) (path : String) : String :=
  "overload of '" ++ Naming.createMethod view.name ++ "' in group '" ++ view.group ++
    "' shares the delegate name '" ++ Naming.delegate view.name ++ "' (first in " ++ path ++ ")"

/-- The warning about a view behind others, if one of them has its name. -/
def warning? (earlier : List View) (view : View) : Option Diagnostic :=
  (clash? (earlier.filter (·.name = view.name)) view).map fun clash =>
    warning lintName view (clash.message view)

/-- The first view is warned about before all others. -/
theorem warnings_cons (earlier : List View) (view : View) (rest : List View) :
    warnings earlier (view :: rest) =
      (warning? earlier view).toList ++ warnings (earlier ++ [view]) rest := by
  rw [warnings, warning?]
  cases clash? (earlier.filter (·.name = view.name)) view <;> rfl

/-- Views are warned about in their order. -/
theorem warnings_append (earlier before behind : List View) :
    warnings earlier (before ++ behind) =
      warnings earlier before ++ warnings (earlier ++ before) behind := by
  induction before generalizing earlier with
  | nil => simp [warnings]
  | cons view before ih => simp [warnings_cons, ih, List.append_assoc]

/-- The warning about a view stands behind those about all earlier views. -/
theorem check_append_cons (before : List View) (view : View) (behind : List View) :
    duplicates.check (before ++ view :: behind) =
      duplicates.check before ++
        ((warning? before view).toList ++ warnings (before ++ [view]) behind) := by
  show warnings [] (before ++ view :: behind) = _
  rw [warnings_append, List.nil_append, warnings_cons]
  rfl

/-- A view is warned about in its place exactly if the warning is the one about it. -/
theorem check_eq_iff {before : List View} {view : View} {diagnostic : Diagnostic}
    (behind : List View) :
    duplicates.check (before ++ view :: behind) =
        duplicates.check before ++ diagnostic :: warnings (before ++ [view]) behind ↔
      warning? before view = some diagnostic := by
  rw [check_append_cons, List.append_right_inj]
  cases warning? before view with
  | none => simp
  | some other => simp

/-- A view clashes with the first earlier one of its name and group, by its types if one of them
states these; or else with the first of its name. -/
theorem clash?_eq (earlier : List View) (view : View) :
    clash? (earlier.filter (·.name = view.name)) view =
      match earlier.find? (·.Overloads view) with
      | some first =>
        some (if ∃ other ∈ earlier, other.Overloads view ∧ dataTypes other = dataTypes view then
          .sameMethod first else .overload first)
      | none => (earlier.find? (·.name = view.name)).map .otherGroup := by
  have overloads : (earlier.filter (·.name = view.name)).filter (·.group = view.group) =
      earlier.filter (·.Overloads view) := by
    rw [List.filter_filter]
    refine List.filter_congr fun other _ => ?_
    rw [Bool.and_comm, ← Bool.decide_and]
    rfl
  have some_iff : (earlier.filter (·.Overloads view)).any (dataTypes · = dataTypes view) = true ↔
      ∃ other ∈ earlier, other.Overloads view ∧ dataTypes other = dataTypes view := by
    simp [List.any_eq_true]
  unfold clash?
  rw [overloads, ← List.head?_filter, ← List.head?_filter]
  cases named : earlier.filter (·.name = view.name) with
  | nil =>
    rw [named] at overloads
    rw [← overloads]
    rfl
  | cons first others =>
    cases listed : earlier.filter (·.Overloads view) with
    | nil => rfl
    | cons groupFirst groupOthers =>
      rw [listed] at some_iff
      simp only [List.head?_cons, some_iff]
      split <;> rfl

/-! ### Texts of warnings -/

/-- Warnings about a view are told apart by what they say. -/
theorem warning_inj {view : View} {said other : String} :
    warning lintName view said = warning lintName view other ↔ said = other := by
  simp [warning, String.append_right_inj]

/-- What is said of identical types tells the file that is named. -/
theorem identicalTypes_inj {view : View} {path other : String} :
    identicalTypes view path = identicalTypes view other ↔ path = other := by
  unfold identicalTypes
  rw [String.append_left_inj, String.append_right_inj]

/-- What is said of identical types starts with this letter. -/
theorem head?_identicalTypes (view : View) (path : String) :
    (identicalTypes view path).toList.head? = some 'f' := by
  have start : "factory method '".toList.head? = some 'f' := by decide
  unfold identicalTypes
  simp only [String.toList_append, List.append_assoc, List.head?_append, start, Option.some_or]

/-- What starts with another letter is not said of identical types. -/
theorem ne_identicalTypes {view : View} {said path : String} {letter : Char}
    (start : said.toList.head? = some letter) (other : letter ≠ 'f') :
    said ≠ identicalTypes view path := by
  rintro rfl
  rw [head?_identicalTypes] at start
  exact other (Option.some.inj start).symm

/-- Nothing is said both of identical types and of an overload. -/
theorem sharedDelegate_ne_identicalTypes {view : View} {path other : String} :
    sharedDelegate view path ≠ identicalTypes view other := by
  have start : "overload of '".toList.head? = some 'o' := by decide
  refine ne_identicalTypes ?_ (show 'o' ≠ 'f' by decide)
  unfold sharedDelegate
  simp only [String.toList_append, List.append_assoc, List.head?_append, start, Option.some_or]

/-- Nothing is said both of identical types and of other groups. -/
theorem otherGroup_ne_identicalTypes {view first : View} {path : String} :
    (Clash.otherGroup first).message view ≠ identicalTypes view path := by
  have start : "declared in groups '".toList.head? = some 'd' := by decide
  refine ne_identicalTypes ?_ (show 'd' ≠ 'f' by decide)
  unfold Clash.message
  simp only [String.toList_append, List.append_assoc, List.head?_append, start, Option.some_or]

variable {before behind : List View} {view : View}

/-- The warning about a view with an earlier overload speaks of identical types exactly if one of
the overloads states the types of the view, and it names the file of the first overload. -/
theorem warning?_of_find? {first : View} (found : before.find? (·.Overloads view) = some first) :
    warning? before view = some (warning lintName view
      (if ∃ other ∈ before, other.Overloads view ∧ dataTypes other = dataTypes view then
        identicalTypes view first.file.path else sharedDelegate view first.file.path)) := by
  rw [warning?, clash?_eq, found]
  simp only [Option.map_some]
  split <;> rfl

/-- Identical types are reported exactly if an earlier overload states them, with the file of the
first overload. -/
theorem warning?_eq_identicalTypes_iff {path : String} :
    warning? before view = some (warning lintName view (identicalTypes view path)) ↔
      ∃ first, before.find? (·.Overloads view) = some first ∧
        (∃ other ∈ before, other.Overloads view ∧ dataTypes other = dataTypes view) ∧
        path = first.file.path := by
  cases found : before.find? (·.Overloads view) with
  | some first =>
    rw [warning?_of_find? found, Option.some.injEq, warning_inj]
    split
    · rename_i identical
      rw [identicalTypes_inj, eq_comm]
      simp [identical]
    · rename_i different
      simp [sharedDelegate_ne_identicalTypes, different]
  | none =>
    rw [warning?, clash?_eq, found]
    cases before.find? (·.name = view.name) with
    | none => simp
    | some first => simp [warning_inj, otherGroup_ne_identicalTypes]

/-! ## Verdicts -/

/-- One of the two things is said, and the condition tells which. -/
theorem exists_identicalTypes_iff {path : String} {condition : Prop} [Decidable condition] :
    (∃ other, (if condition then identicalTypes view path else sharedDelegate view path) =
      identicalTypes view other) ↔ condition := by
  split
  · rename_i holds
    exact iff_of_true ⟨path, rfl⟩ holds
  · rename_i fails
    exact iff_of_false (fun ⟨_, same⟩ => sharedDelegate_ne_identicalTypes same) fails

/-- The other thing is said where the condition fails. -/
theorem exists_sharedDelegate_iff {path : String} {condition : Prop} [Decidable condition] :
    (∃ other, (if condition then identicalTypes view path else sharedDelegate view path) =
      sharedDelegate view other) ↔ ¬ condition := by
  split
  · rename_i holds
    exact iff_of_false (fun ⟨_, same⟩ => sharedDelegate_ne_identicalTypes same.symm)
      (not_not.2 holds)
  · rename_i fails
    exact iff_of_true ⟨path, rfl⟩ fails

/-- The first element with a property is also the first one with a second property if it has it. -/
theorem find?_and_eq_some {α : Type} {first second : α → Prop} [DecidablePred first]
    [DecidablePred second] {elements : List α} {element : α}
    (found : elements.find? (first ·) = some element) (also : second element) :
    elements.find? (fun other => first other ∧ second other) = some element := by
  obtain ⟨holds, before, behind, rfl, others⟩ := List.find?_eq_some_iff_append.1 found
  refine List.find?_eq_some_iff_append.2 ⟨?_, before, behind, rfl, fun other inside => ?_⟩
  · simpa [also] using holds
  · have fails := others other inside
    simp at fails
    simp [fails]

/-- A view with an earlier one of its name in its group is warned about in its place. The warning
speaks of identical types exactly if one of these earlier views *states* the types of the view, and
of an overload otherwise. The factory of the group has a method for each of its views. Two of them
agree in the stated types exactly where their methods agree, if they take several values at the same
places wherever they agree in one of the two, and only then. So where all of the earlier views do,
identical types are reported exactly if one of their methods has the types of the view's. -/
theorem verdict_compares_stated_types (project : Project) (primary : project.target = .primary)
    (place : project.views = before ++ view :: behind)
    (repeated : ∃ other ∈ before, other.Overloads view) :
    let method := Host.CreateMethod.ofView project.runtime
    ∃ said factory,
      duplicates.check project.views =
        duplicates.check before ++
          warning lintName view said :: warnings (before ++ [view]) behind ∧
      ((∃ path, said = identicalTypes view path) ↔
        ∃ other ∈ before, other.Overloads view ∧ dataTypes other = dataTypes view) ∧
      ((∃ path, said = sharedDelegate view path) ↔
        ∀ other ∈ before, other.Overloads view → dataTypes other ≠ dataTypes view) ∧
      (Host.Generated.factory factory ∈ Host.generated project ∧ factory.group = view.group ∧
        factory.methods = (project.views.filter (·.group = view.group)).map method) ∧
      (∀ other : View, (dataTypes other = dataTypes view ↔
          (method other).types = (method view).types) ↔
        (dataTypes other = dataTypes view ∨ (method other).types = (method view).types →
          other.varargs = view.varargs)) ∧
      ((∀ other ∈ before, other.Overloads view →
          dataTypes other = dataTypes view ∨ (method other).types = (method view).types →
            other.varargs = view.varargs) →
        ((∃ path, said = identicalTypes view path) ↔
          ∃ other ∈ before, other.Overloads view ∧
            (method other).types = (method view).types)) := by
  intro method
  obtain ⟨first, found⟩ : ∃ first, before.find? (·.Overloads view) = some first := by
    rw [← Option.isSome_iff_exists, List.find?_isSome]
    simpa using repeated
  have inside : view ∈ project.views := by simp [place]
  have generated := Host.mem_generated_factory.2 ⟨_, Project.mem_groups_of_mem inside, rfl⟩
  have warned := (check_eq_iff behind).2 (warning?_of_find? found)
  have agree := fun other =>
    Host.CreateMethod.dataTypes_eq_iff_types_eq_iff project.runtime other view
  refine ⟨_, _, place ▸ warned, exists_identicalTypes_iff, ?_, ⟨generated, rfl,
    (Host.methods_of_mem_generated generated primary).2⟩, agree, fun spread => ?_⟩
  · rw [exists_sharedDelegate_iff]
    simp
  · rw [exists_identicalTypes_iff]
    refine exists_congr fun other => and_congr_right fun earlier => and_congr_right fun same => ?_
    exact (agree other).2 (spread other earlier same)

/-- Views with tags: any number of them, one number, any number of other ones. -/
def taggedProject : Project :=
  .ofViews .primary ⟨"dev.viewbridge"⟩
    [((View.sketch "ShowTags").takes "tags" (.ofDotted "kotlin.String")).modified .vararg,
     (View.sketch "ShowTags").takes "count" (.ofDotted "kotlin.Int"),
     ((View.sketch "ShowTags").takes "labels" (.ofDotted "kotlin.String")).modified .vararg,
     View.sketch "ShowMap"]

/-- The third view takes several values where the first does, and the second one differs from it in
both types; so its warning about identical types is right. -/
theorem verdict_of_taggedProject :
    ∃ several number view behind, taggedProject.views = [several, number] ++ view :: behind ∧
      (∃ other ∈ [several, number], other.Overloads view) ∧
      ∃ said path, duplicates.check taggedProject.views =
          duplicates.check [several, number] ++
            warning lintName view said :: warnings [several, number, view] behind ∧
        said = identicalTypes view path ∧
        (Host.CreateMethod.ofView taggedProject.runtime several).types =
          (Host.CreateMethod.ofView taggedProject.runtime view).types := by
  obtain ⟨several, number, view, behind, place, repeated, spread, same⟩ :
      ∃ several number view behind, taggedProject.views = [several, number] ++ view :: behind ∧
        (∃ other ∈ [several, number], other.Overloads view) ∧
        (∀ other ∈ [several, number], other.Overloads view →
          dataTypes other = dataTypes view ∨
            (Host.CreateMethod.ofView taggedProject.runtime other).types =
              (Host.CreateMethod.ofView taggedProject.runtime view).types →
          other.varargs = view.varargs) ∧
        several.Overloads view ∧ (Host.CreateMethod.ofView taggedProject.runtime several).types =
          (Host.CreateMethod.ofView taggedProject.runtime view).types :=
    ⟨_, _, _, _, rfl, by decide +kernel, by decide +kernel, by decide +kernel⟩
  obtain ⟨said, factory, warned, -, -, -, -, right⟩ :=
    verdict_compares_stated_types taggedProject rfl place repeated
  obtain ⟨path, named⟩ := (right spread).2 ⟨several, List.mem_cons_self, same⟩
  exact ⟨several, number, view, behind, place, repeated, said, path, warned, named, same.2⟩

/-- A declaration with a modifier and tags of this type. -/
def tagDeclaration (path : String) (tags : TypeExpr) (modifiers : List ParameterModifier) :
    Declaration where
  name := "ShowTags"
  file := some ⟨path, "com.example"⟩
  parameters :=
    [⟨some "modifier", .ofDotted Reading.slotClass, []⟩, ⟨some "tags", tags, modifiers⟩]

/-- The type of a tag. -/
def tag : TypeExpr := .ofDotted "kotlin.String"

/-- The type of an array of tags. -/
def tagArray : TypeExpr := .named ⟨"kotlin", "Array"⟩ [.type .covariant tag] false

/-- Any number of tags, one tag, and an array of tags. -/
def tagDeclarations : List Declaration :=
  [tagDeclaration "A.kt" tag [.vararg], tagDeclaration "B.kt" tag [],
   tagDeclaration "C.kt" tagArray []]

/-- All three are accepted. The method of the second has other types than that of the first, and the
lint reports identical types; the method of the third has the types of that of the first, and the
lint reports an overload. -/
theorem varargs_are_overlooked :
    let project := Discovery.project {} [tagDeclarations] .primary
    ∃ several single array factory, project.views = [several, single, array] ∧
      project.diagnostics = [warning lintName single (identicalTypes single "A.kt"),
        warning lintName array (sharedDelegate array "A.kt")] ∧
      Host.Generated.factory factory ∈ Host.generated project ∧
      factory.methods = [several, single, array].map (Host.CreateMethod.ofView project.runtime) ∧
      factory.methods.map (·.types) = [[tagArray], [tag], [tagArray]] ∧
      factory.interface.functions.map (fun method => method.parameters.map (·.type)) =
        [["Array<out String>"], ["String"], ["Array<out String>"]] := by
  intro project
  let factory := Host.Factory.ofGroup .primary project.runtime "NativeView" project.views
  obtain ⟨several, single, array, views, warned⟩ : ∃ several single array,
      project.views = [several, single, array] ∧
      project.diagnostics = [warning lintName single (identicalTypes single "A.kt"),
        warning lintName array (sharedDelegate array "A.kt")] := ⟨_, _, _, rfl, by decide +kernel⟩
  have generated : Host.Generated.factory factory ∈ Host.generated project :=
    Host.mem_generated_factory.2 ⟨("NativeView", project.views), by decide +kernel, rfl⟩
  refine ⟨several, single, array, factory, views, warned, generated, ?_, ?_, by decide +kernel⟩
  · rw [← views]
    rfl
  · decide +kernel

/-- The warning about identical types names the file of the first earlier view of the name and
group. That view is the first one of these with the stated types exactly if it states them
itself. -/
theorem named_first_is_first_overload (before : List View) (view : View) (behind : List View)
    (path : String) :
    duplicates.check (before ++ view :: behind) =
        duplicates.check before ++
          warning lintName view (identicalTypes view path) :: warnings (before ++ [view]) behind ↔
      ∃ first clashing, before.find? (·.Overloads view) = some first ∧
        before.find? (fun other => other.Overloads view ∧ dataTypes other = dataTypes view) =
          some clashing ∧
        path = first.file.path ∧ (first = clashing ↔ dataTypes first = dataTypes view) := by
  rw [check_eq_iff, warning?_eq_identicalTypes_iff]
  constructor
  · rintro ⟨first, found, identical, named⟩
    obtain ⟨clashing, clashes⟩ : ∃ clashing, before.find? (fun other =>
        other.Overloads view ∧ dataTypes other = dataTypes view) = some clashing := by
      rw [← Option.isSome_iff_exists, List.find?_isSome]
      simpa using identical
    refine ⟨first, clashing, found, clashes, named, ?_, fun same => ?_⟩
    · rintro rfl
      have both := List.find?_some clashes
      exact (of_decide_eq_true both).2
    · rw [find?_and_eq_some found same] at clashes
      exact Option.some.inj clashes
  · rintro ⟨first, clashing, found, clashes, named, -⟩
    have both := List.find?_some clashes
    exact ⟨first, found, ⟨clashing, List.mem_of_find?_eq_some clashes, of_decide_eq_true both⟩,
      named⟩

/-- A declaration with a modifier and one number or text. -/
def mapDeclaration (path name : String) (type : TypeExpr) : Declaration where
  name := "ShowMap"
  file := some ⟨path, "com.example"⟩
  parameters :=
    [⟨some "modifier", .ofDotted Reading.slotClass, []⟩, ⟨some name, type, []⟩]

/-- A map with a title, one with a zoom and one with a level. -/
def mapDeclarations : List Declaration :=
  [mapDeclaration "A.kt" "title" (.ofDotted "kotlin.String"),
   mapDeclaration "B.kt" "zoom" (.ofDotted "kotlin.Int"),
   mapDeclaration "C.kt" "level" (.ofDotted "kotlin.Int")]

/-- The third map has the types of the second one and not those of the first, and the warning about
identical types names the file of the first. -/
theorem first_in_names_other_types :
    let project := Discovery.project {} [mapDeclarations] .primary
    ∃ title zoom level, project.views = [title, zoom, level] ∧
      project.diagnostics = [warning lintName zoom (sharedDelegate zoom "A.kt"),
        warning lintName level (identicalTypes level "A.kt")] ∧
      [title, zoom].find? (fun other => other.Overloads level ∧ dataTypes other = dataTypes level) =
        some zoom ∧
      zoom.file.path = "B.kt" :=
  ⟨_, _, _, rfl, by decide +kernel, by decide +kernel, rfl⟩

end Lint.Duplicates

end ViewGlue
