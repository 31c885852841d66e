import ViewGlue.Discovery
import ViewGlue.Proofs.GeneratedFiles
import ViewGlue.Proofs.Referents

/-!
# Bindings that lose their factory

A method of a binding class introduces two names and uses the property of the factory without
naming the object that has it. `Foreign.Binding.method_names_denote` says what the names in such a
method denote: the arguments are always the parameters, and the receiver is the property unless a
parameter has its name. `Foreign.factory_property_is_captured` is a view with such a parameter.
-/

namespace ViewGlue

namespace Foreign

mutual

/-- An expression and all expressions inside it. -/
def Expr.parts : Expr → List Expr
  | .name text => [.name text]
  | .member receiver field => .member receiver field :: receiver.parts
  | .call callee arguments => .call callee arguments :: (callee.parts ++ Expr.listParts arguments)
  | .labelled label value => .labelled label value :: value.parts

/-- All expressions in a list and inside its members. -/
def Expr.listParts : List Expr → List Expr
  | [] => []
  | expression :: rest => expression.parts ++ Expr.listParts rest

end

/-- An expression is one of its parts. -/
theorem Expr.self_mem_parts (expression : Expr) : expression ∈ expression.parts := by
  cases expression <;> simp [parts]

/-- The parts of members are parts of the list. -/
theorem Expr.mem_listParts {part : Expr} {expressions : List Expr} :
    part ∈ Expr.listParts expressions ↔ ∃ expression ∈ expressions, part ∈ expression.parts := by
  induction expressions with
  | nil => simp [listParts]
  | cons expression expressions ih => simp [listParts, ih]

/-- All expressions in a statement. -/
def Statement.parts : Statement → List Expr
  | bind _ value => value.parts
  | bindPair _ _ value => value.parts
  | assign target value => target.parts ++ value.parts
  | result value => value.parts

namespace Binding

variable {binding : Binding} {bridged : BridgedView} {before : List Statement}

/-- The names of the parameters of a method, as written. -/
def signature (binding : Binding) (bridged : BridgedView) : List String :=
  (binding.method bridged).parameters.map (·.name)

/-- The method of a bridged view writes the safe names of its data parameters. -/
theorem signature_eq (maps : BridgedView.ofView? bridged.view = some bridged) :
    binding.signature bridged = bridged.view.dataParameters.map (safeName ·.name) := by
  have parameters :=
    names_of_mapM (BridgedView.ofView_eq_ok_iff.1 (BridgedView.ofView?_eq_some_iff.1 maps)).2.2.1
  rw [← parameters]
  simp [signature, method, BridgedView.declared]

/-! ## The name of the property -/

/-- The property is named for the factory. -/
theorem suffix_field (binding : Binding) : "actory".toList <:+ binding.field.toList := by
  have split : binding.protocolName.toList = binding.group.toList ++ 'F' :: "actory".toList := by
    simp [protocolName, Naming.factoryAlias]
  unfold field Text.lowerFirst
  rw [split]
  cases binding.group.toList with
  | nil => exact ⟨Text.LetterCase.small 'F', by simp⟩
  | cons first rest => exact ⟨Text.LetterCase.small first ++ (rest ++ ['F']), by simp⟩

/-- No reserved word and no name that a method introduces ends like the property. -/
theorem not_suffix_of_mem : ∀ name ∈ "ref" :: "delegate" :: reservedWords,
    ¬ "actory".toList <:+ name.toList := by
  decide

/-- No other name is written as the name of the property. -/
theorem isPlain_field (binding : Binding) : Code.IsPlain reservedWords binding.field := by
  constructor
  · intro inside
    exact not_suffix_of_mem _ (by simp [inside]) binding.suffix_field
  · obtain ⟨front, whole⟩ := binding.suffix_field
    rw [← whole, List.getLast?_append]
    simp

/-- The property has none of the names that methods introduce. -/
theorem field_notMem (binding : Binding) : binding.field ∉ ["ref", "delegate"] := by
  intro inside
  refine not_suffix_of_mem binding.field ?_ binding.suffix_field
  exact List.mem_append_left reservedWords inside

/-- All names that are used in methods beside those of parameters are plain. -/
theorem isPlain_of_mem (binding : Binding) :
    ∀ name ∈ ["ref", "delegate", binding.field], Code.IsPlain reservedWords name := by
  have fixed : ∀ name ∈ ["ref", "delegate"], Code.IsPlain reservedWords name := by decide
  intro name inside
  simp only [List.mem_cons, List.not_mem_nil, or_false] at inside fixed
  obtain named | named | rfl := inside
  · exact fixed _ (.inl named)
  · exact fixed _ (.inr named)
  · exact binding.isPlain_field

/-! ## The statements of methods -/

/-- A statement forwards the parameter of a name under its own label. -/
def Forwards (name : String) (statement : Statement) : Prop :=
  .labelled name (.name name) ∈ statement.parts

/-- A statement calls the factory. -/
def Creates (binding : Binding) (bridged : BridgedView) (statement : Statement) : Prop :=
  ∃ arguments, binding.creation bridged arguments ∈ statement.parts

/-- The names that a method introduces before it calls the factory. -/
def earlyNames (mode : RenderMode) : List String :=
  if mode = .observed then ["delegate"] else []

/-- A method introduces two names. -/
theorem mem_boundNames_body {name : String} :
    name ∈ Statement.boundNames (binding.body bridged) ↔ name ∈ ["ref", "delegate"] := by
  unfold body
  split <;> simp [Statement.boundNames, Statement.bound, pair, or_comm]

/-- The arguments forward the parameters of a bridged view. -/
theorem labelled_mem_forwarded {name : String} :
    .labelled name (.name name) ∈ Expr.listParts bridged.forwarded ↔
      name ∈ bridged.parameters.map (·.name) := by
  simp [Expr.mem_listParts, BridgedView.forwarded, Expr.parts, eq_comm]

/-- The arguments call nothing. -/
theorem call_notMem_forwarded (bridged : BridgedView) (callee : Expr) (arguments : List Expr) :
    .call callee arguments ∉ Expr.listParts bridged.forwarded := by
  simp [Expr.mem_listParts, BridgedView.forwarded, Expr.parts]

/-- A method forwards its parameters and nothing else, before it introduces any name. -/
theorem standsBehind_forwards_iff {name : String} :
    StandsBehind (binding.body bridged) (Forwards name) before ↔
      before = [] ∧ name ∈ bridged.parameters.map (·.name) := by
  rw [← labelled_mem_forwarded]
  unfold body
  -- Behind the first statement, no label is the name of its own value.
  split
  · rw [← List.nil_append (_ :: _), standsBehind_iff_of_unique (by simp)]
    · simp [Forwards, Statement.parts, Expr.invoke, Expr.parts]
    · have apart : (name = "observable" → name ≠ "delegate") ∧
          (name = "rootView" → name ≠ "ref") ∧ (name = "second" → name ≠ "delegate") := by
        refine ⟨?_, ?_, ?_⟩ <;> (rintro rfl; decide)
      simpa [Forwards, Statement.parts, creation, pair, Expr.invoke, Expr.parts, Expr.listParts]
        using apart
  · rw [← List.nil_append (_ :: _), standsBehind_iff_of_unique (by simp)]
    · simp [Forwards, Statement.parts, creation, Expr.parts]
    · have apart : (name = "first" → name ≠ "ref") ∧ (name = "second" → name ≠ "delegate") := by
        constructor <;> (rintro rfl; decide)
      simpa [Forwards, Statement.parts, pair, Expr.invoke, Expr.parts, Expr.listParts] using apart

/-- A method calls the factory. -/
theorem exists_standsBehind_creates (binding : Binding) (bridged : BridgedView) :
    ∃ before, StandsBehind (binding.body bridged) (binding.Creates bridged) before := by
  unfold body
  split
  · exact exists_standsBehind (.tail _ (.head _)) ⟨_, Expr.self_mem_parts _⟩
  · exact exists_standsBehind (.head _) ⟨_, Expr.self_mem_parts _⟩

/-- Where a method calls the factory, it has introduced an observable object or nothing. -/
theorem boundNames_of_creates
    (place : StandsBehind (binding.body bridged) (binding.Creates bridged) before) :
    Statement.boundNames before = earlyNames bridged.view.mode := by
  unfold body at place
  split at place
  · rename_i observed
    rw [← List.singleton_append, standsBehind_iff_of_unique] at place
    · rw [place.1, observed]
      rfl
    · simp [Creates, Statement.parts, creation, Expr.invoke, Expr.parts, call_notMem_forwarded]
    · simp [Creates, Statement.parts, creation, pair, Expr.invoke, Expr.parts, Expr.listParts]
  · rename_i other
    rw [← List.nil_append (_ :: _), standsBehind_iff_of_unique (by simp)] at place
    · rw [place.1, earlyNames, if_neg other]
      rfl
    · simp [Creates, Statement.parts, creation, pair, Expr.invoke, Expr.parts, Expr.listParts]

/-- Where a method calls the factory, it has not introduced the name of the property. -/
theorem field_notMem_of_creates
    (place : StandsBehind (binding.body bridged) (binding.Creates bridged) before) :
    binding.field ∉ Statement.boundNames before := by
  have other := binding.field_notMem
  rw [boundNames_of_creates place, earlyNames]
  split
  · exact fun inside => other (List.mem_cons_of_mem _ inside)
  · exact List.not_mem_nil

/-- A data parameter has one of the names that a method uses exactly if it is written as that. -/
theorem signature_avoids_iff (binding : Binding) {names : List String}
    (maps : BridgedView.ofView? bridged.view = some bridged)
    (arePlain : ∀ name ∈ names, Code.IsPlain reservedWords name) :
    (∀ written ∈ binding.signature bridged, written ∉ names) ↔
      ∀ parameter ∈ bridged.view.dataParameters, parameter.name ∉ names := by
  rw [signature_eq maps, List.forall_mem_map]
  exact forall₂_congr fun parameter _ => not_congr (Code.safeName_mem_iff arePlain)

/-- What the names in the methods of a binding class denote. A method introduces `ref` and
`delegate`, and with the property that holds the factory these are the names that its parameters
would have to avoid. Its arguments denote its parameters whatever their names are. The receiver of
its call denotes the property as long as no data parameter has the name of the property. -/
theorem method_names_denote (framework : Option String) (options : Options)
    (rounds : List (List Declaration)) {binding : Binding} {bridged : BridgedView}
    (generated : Generated.binding binding ∈
      Foreign.generated framework.toList (Discovery.project options rounds .primary))
    (inside : bridged ∈ binding.views) :
    (binding.cls.properties.map (·.name) = [binding.field] ∧
        ∀ name, name ∈ Statement.boundNames (binding.body bridged) ↔ name ∈ ["ref", "delegate"]) ∧
      ((∀ written ∈ binding.signature bridged,
          written ∉ Statement.boundNames (binding.body bridged) ∧ written ≠ binding.field) ↔
        ∀ parameter ∈ bridged.view.dataParameters,
          parameter.name ∉ ["ref", "delegate", binding.field]) ∧
      (∀ parameter ∈ bridged.view.dataParameters,
        (∃ before,
          StandsBehind (binding.body bridged) (Forwards (safeName parameter.name)) before) ∧
          ∀ before,
            StandsBehind (binding.body bridged) (Forwards (safeName parameter.name)) before →
            Referent.of (Statement.boundNames before) (binding.signature bridged)
              (safeName parameter.name) = .parameter) ∧
      (∃ before, StandsBehind (binding.body bridged) (binding.Creates bridged) before) ∧
        ∀ before, StandsBehind (binding.body bridged) (binding.Creates bridged) before →
          (Referent.of (Statement.boundNames before) (binding.signature bridged) binding.field =
              .enclosing ↔
            ∀ parameter ∈ bridged.view.dataParameters, parameter.name ≠ binding.field) := by
  have maps := ofView?_of_mem_views generated inside
  refine ⟨⟨rfl, fun name => mem_boundNames_body⟩, ?_, fun parameter data => ?_,
    exists_standsBehind_creates binding bridged, fun before place => ?_⟩
  · rw [← signature_avoids_iff binding maps binding.isPlain_of_mem]
    refine forall₂_congr fun written _ => ?_
    rw [mem_boundNames_body]
    simp [and_assoc]
  · have listed : safeName parameter.name ∈ binding.signature bridged := by
      rw [signature_eq maps]
      exact List.mem_map_of_mem (f := fun parameter => safeName parameter.name) data
    have written : safeName parameter.name ∈ bridged.parameters.map (·.name) := by
      simpa [signature, method, BridgedView.declared] using listed
    refine ⟨⟨[], standsBehind_forwards_iff.2 ⟨rfl, written⟩⟩, fun before place => ?_⟩
    obtain ⟨rfl, -⟩ := standsBehind_forwards_iff.1 place
    exact (Referent.of_eq_parameter_iff listed).2 (by simp [Statement.boundNames])
  · rw [Referent.of_eq_enclosing_iff (field_notMem_of_creates place)]
    have avoids := signature_avoids_iff binding maps
      (List.forall_mem_singleton.2 binding.isPlain_field)
    simp only [List.mem_singleton] at avoids
    rw [← avoids, List.forall_mem_ne']

end Binding

/-- A plain map with one data parameter of a name. -/
def mapTaking (name : String) : Declaration where
  name := "ShowMap"
  file := some ⟨"src/Views.kt", "com.example"⟩
  bridge := { mode := some "UIView" }
  parameters :=
    [⟨some "modifier", .ofDotted Reading.slotClass, []⟩,
     ⟨some name, .ofDotted "kotlin.String", []⟩]

/-- The view of the map. -/
def mapTakingView (name : String) : View where
  name := "ShowMap"
  parameters :=
    [⟨"modifier", .ofDotted Reading.slotClass, true, []⟩,
     ⟨name, .ofDotted "kotlin.String", false, []⟩]
  group := "NativeView"
  mode := .plain
  retained := false
  renderTarget := .ofDotted "androidx.compose.ui.interop.UIKitView"
  customTarget := none
  visibility := .everywhere
  file := ⟨"src/Views.kt", "com.example"⟩
  annotations := []
  typeParameters := []

/-- The map is accepted as its view. -/
theorem read_mapTaking (name : String) :
    Reading.read (.ofOptions {}) (mapTaking name) = .ok (mapTakingView name, []) := by
  have mode : Reading.readMode (some "UIView") = (.plain, []) := rfl
  simp only [Reading.read, mapTaking, mode]
  rfl

/-- A project of the map has its view only. -/
theorem views_mapTaking (name : String) :
    (Discovery.project {} [[mapTaking name]] .primary).views = [mapTakingView name] := by
  show (Reading.verdict (.ofOptions {}) (mapTaking name)).1.toList = _
  rw [Reading.verdict, read_mapTaking]
  rfl

/-- The map can be bridged. -/
theorem exists_ofView_mapTaking (name : String) :
    ∃ bridged, BridgedView.ofView (mapTakingView name) = .ok bridged := by
  have one : BridgedParameter.ofParameter ⟨name, .ofDotted "kotlin.String", false, []⟩ =
      .ok ⟨safeName name, name, "String", "String"⟩ :=
    BridgedParameter.ofParameter_eq_ok_iff.2 ⟨rfl, rfl, rfl, rfl⟩
  -- The result does not depend on the name, and only a closed type can be mapped by evaluation.
  obtain ⟨result, written⟩ : ∃ result, BridgedView.factoryResult (mapTakingView "") = .ok result :=
    ⟨_, rfl⟩
  refine ⟨⟨mapTakingView name, [⟨safeName name, name, "String", "String"⟩], result⟩,
    BridgedView.ofView_eq_ok_iff.2 ⟨rfl, rfl, ?_, written⟩⟩
  show [_].mapM BridgedParameter.ofParameter = _
  rw [List.mapM_cons, one]
  rfl

/-- The map is one of the views of the binding class of its group. -/
theorem exists_binding_mapTaking (name : String) :
    ∃ binding, Generated.binding binding ∈
        Foreign.generated [] (Discovery.project {} [[mapTaking name]] .primary) ∧
      binding.field = "nativeViewFactory" ∧
      ∃ bridged ∈ binding.views, bridged.view = mapTakingView name := by
  let project := Discovery.project {} [[mapTaking name]] .primary
  have inside : mapTakingView name ∈ project.views := by
    rw [views_mapTaking]
    exact .head _
  have grouped : ("NativeView", bridgedOf (mapTakingView name) project.views) ∈
      targetGroups project :=
    mem_bridgedGroups_of_mem inside
  obtain ⟨bridged, maps⟩ := exists_ofView_mapTaking name
  have found := BridgedView.ofView?_eq_some_iff.2 maps
  have field : Text.lowerFirst "NativeViewFactory" = "nativeViewFactory" := rfl
  refine ⟨⟨"NativeView", _, []⟩, mem_generated_binding.2 ⟨_, grouped, rfl⟩, field, bridged, ?_,
    BridgedView.view_of_ofView? found⟩
  exact List.mem_filterMap.2 ⟨_, List.mem_filter.2 ⟨inside, by simp⟩, found⟩

/-- A data parameter that shares its name with the delegate is forwarded all the same, and the
factory is called, although the signature does not avoid that name. -/
theorem delegate_parameter_denotes :
    ∃ binding, Generated.binding binding ∈
        Foreign.generated [] (Discovery.project {} [[mapTaking "delegate"]] .primary) ∧
      ∃ bridged ∈ binding.views,
        (¬ ∀ written ∈ binding.signature bridged,
          written ∉ Statement.boundNames (binding.body bridged) ∧ written ≠ binding.field) ∧
        (∀ before, StandsBehind (binding.body bridged) (Binding.Forwards "delegate") before →
          Referent.of (Statement.boundNames before) (binding.signature bridged) "delegate" =
            .parameter) ∧
        ∀ before, StandsBehind (binding.body bridged) (binding.Creates bridged) before →
          Referent.of (Statement.boundNames before) (binding.signature bridged) binding.field =
            .enclosing := by
  obtain ⟨binding, generated, field, bridged, inside, view⟩ := exists_binding_mapTaking "delegate"
  obtain ⟨-, avoids, forwarded, -, received⟩ :=
    Binding.method_names_denote none {} _ generated inside
  have data :
      bridged.view.dataParameters = [⟨"delegate", .ofDotted "kotlin.String", false, []⟩] := by
    rw [view]
    rfl
  rw [data, List.forall_mem_singleton] at forwarded
  rw [data, List.forall_mem_singleton] at avoids
  refine ⟨binding, generated, bridged, inside, ?_, forwarded.2, fun before place => ?_⟩
  · rw [avoids]
    simp
  · rw [received before place, data, List.forall_mem_singleton, field]
    decide

/-- A data parameter with the name of the property takes its place: the method calls its own
argument instead of the factory. -/
theorem factory_property_is_captured :
    ∃ binding, Generated.binding binding ∈
        Foreign.generated [] (Discovery.project {} [[mapTaking "nativeViewFactory"]] .primary) ∧
      ∃ bridged ∈ binding.views, binding.field ∈ binding.signature bridged ∧
        (∃ before, StandsBehind (binding.body bridged) (binding.Creates bridged) before) ∧
        ∀ before, StandsBehind (binding.body bridged) (binding.Creates bridged) before →
          Referent.of (Statement.boundNames before) (binding.signature bridged) binding.field =
            .parameter := by
  obtain ⟨binding, generated, field, bridged, inside, view⟩ :=
    exists_binding_mapTaking "nativeViewFactory"
  have listed : binding.field ∈ binding.signature bridged := by
    rw [Binding.signature_eq (ofView?_of_mem_views generated inside), view, field]
    decide
  refine ⟨binding, generated, bridged, inside, listed,
    Binding.exists_standsBehind_creates binding bridged, fun before place => ?_⟩
  rw [Referent.of_eq_parameter_iff listed]
  exact binding.field_notMem_of_creates place

end Foreign

end ViewGlue
