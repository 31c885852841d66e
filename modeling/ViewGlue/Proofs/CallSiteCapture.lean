import ViewGlue.Host.CallSite
import ViewGlue.Proofs.Referents
import ViewGlue.Reading

/-!
# Call sites that capture parameters

The body of a call site introduces its factory, its delegate, its view and what these come from
under fixed names. `Host.forwarded_parameters_denote` says which parameters are still reached where
the body hands them on; `Host.factory_parameter_is_captured` is a declaration whose data never
reaches the delegate.
-/

namespace ViewGlue

namespace Host

mutual

/-- An expression and all expressions inside it. -/
def Expr.parts : Expr → List Expr
  | .name text => [.name text]
  | .number value => [.number value]
  | .quoted text => [.quoted text]
  | .member receiver field => .member receiver field :: receiver.parts
  | .call callee typeArguments arguments =>
    .call callee typeArguments arguments :: (callee.parts ++ Expr.listParts arguments)
  | .labelled label value => .labelled label value :: value.parts
  | .closure body => .closure body :: body.parts
  | .applied function body => .applied function body :: (function.parts ++ body.parts)
  | .orElse value fallback => .orElse value fallback :: (value.parts ++ fallback.parts)

/-- All expressions in a list and inside its members. -/
def Expr.listParts : List Expr → List Expr
  | [] => []
  | expression :: rest => expression.parts ++ Expr.listParts rest

end

/-- An expression is one of its parts. -/
theorem Expr.self_mem_parts (expression : Expr) : expression ∈ expression.parts := by
  cases expression <;> simp [parts]

/-- All expressions in a statement. -/
def Statement.parts : Statement → List Expr
  | bind _ value => value.parts
  | bindBlock _ function body => function.parts ++ body.parts
  | run expression => expression.parts
  | runSpread _ arguments => Expr.listParts arguments
  | gap => []

/-- How a body hands a parameter on. -/
inductive Use where
  /-- As an argument of the call that creates the view. -/
  | creation
  /-- As the key and the argument of the call that updates the view. -/
  | update
  /-- As the modifier of the view. -/
  | modifier
  deriving DecidableEq, Repr

/-- Views hand on their data and their slot. -/
def Use.Takes (view : View) (parameter : Parameter) : Use → Prop
  | creation => parameter ∈ view.dataParameters
  | update => parameter ∈ view.dataParameters
  | modifier => view.slot? = some parameter

/-- A statement hands a parameter on. -/
inductive HandsOn (scope : Scope) (body : Body) (parameter : Parameter) : Use → Statement → Prop
  /-- The call that creates the view is part of the statement and takes all data. -/
  | creation {statement : Statement} (data : parameter ∈ body.view.dataParameters)
      (inside : body.creation ∈ statement.parts) : HandsOn scope body parameter .creation statement
  /-- The statement updates this parameter. -/
  | update (data : parameter ∈ body.view.dataParameters) :
      HandsOn scope body parameter .update (Body.update scope parameter)
  /-- The statement hands the slot to the composable that shows the view. -/
  | modifier {statement : Statement} (slot : body.view.slot? = some parameter)
      (inside : .labelled "modifier" (body.modifier scope) ∈ statement.parts) :
      HandsOn scope body parameter .modifier statement

/-- A body hands a parameter on right behind some statements. -/
def HandsOnBehind (scope : Scope) (body : Body) (parameter : Parameter) (use : Use) :
    List Statement → Prop :=
  StandsBehind (body.statements scope) (HandsOn scope body parameter use)

/-- The names that a body introduces before it creates the view. -/
def earlyNames (retained : Bool) : List String :=
  if retained then ["factory", "key"] else ["factory"]

/-- The names that a body introduces when it creates the view, and from it. -/
def lateNames (retained : Bool) : List String :=
  if retained then ["holder", "delegate", "view"] else ["viewFactory", "delegate", "view"]

/-- The names that a body has introduced where it hands a parameter on. -/
def Use.introduced (retained : Bool) : Use → List String
  | creation => earlyNames retained
  | update => earlyNames retained ++ lateNames retained
  | modifier => earlyNames retained ++ lateNames retained

/-- None of the names that bodies introduce is written in another way. -/
theorem isPlain_of_mem_introduced (retained : Bool) :
    ∀ name ∈ earlyNames retained ++ lateNames retained, Code.IsPlain reservedWords name := by
  cases retained <;> decide

/-- The name that a parameter is written as is introduced by a body if its own name is. -/
theorem safeName_mem_introduced (use : Use) {retained : Bool} {name : String} :
    safeName name ∈ use.introduced retained ↔ name ∈ use.introduced retained := by
  refine Code.safeName_mem_iff fun other inside => isPlain_of_mem_introduced retained other ?_
  cases use with
  | creation => exact List.mem_append_left _ inside
  | update => exact inside
  | modifier => exact inside

namespace Body

variable {scope : Scope} {body : Body} {parameter : Parameter} {statement : Statement}

/-- The statement that shows the view. -/
def rendering (scope : Scope) (body : Body) : Statement :=
  .runSpread (scope.write body.view.renderTarget)
    [.labelled "modifier" (modifier scope body), .labelled "factory" (.closure (.name "view"))]

/-- The statements behind those that introduce names. -/
def closing (scope : Scope) (body : Body) : List Statement :=
  updates scope body ++ [.gap, rendering scope body]

/-- The arguments are names, so nothing in them has a label. -/
theorem labelled_notMem_arguments (body : Body) (label : String) (value : Expr) :
    .labelled label value ∉ Expr.listParts body.arguments := by
  unfold arguments
  induction body.view.dataParameters with
  | nil => simp [Expr.listParts]
  | cons parameter parameters ih => simp [Expr.listParts, Expr.parts, ih]

/-- What the statements that introduce names are, one of which creates the view. -/
structure Introduces (scope : Scope) (body : Body) (early : List Statement) (creating : Statement)
    (late : List Statement) : Prop where
  /-- The statements fall into these parts, with the closing ones at the end. -/
  statements_eq : body.statements scope = early ++ creating :: (late ++ closing scope body)
  /-- What is bound before the view is created. -/
  boundNames_early : Statement.boundNames early = earlyNames body.view.retained
  /-- What is bound by the creation and behind it. -/
  boundNames_late : Statement.boundNames (creating :: late) = lateNames body.view.retained
  /-- This statement creates the view. -/
  creation_mem : body.creation ∈ creating.parts
  /-- No other statement creates it. -/
  creation_notMem : ∀ statement ∈ early ++ late, body.creation ∉ statement.parts
  /-- Each of them binds a name. -/
  binds : ∀ statement ∈ early ++ creating :: late, statement.bound?.isSome
  /-- None of them hands a modifier on. -/
  modifier_notMem : ∀ statement ∈ early ++ creating :: late, ∀ value,
    .labelled "modifier" value ∉ statement.parts

/-- A body whose view outlives navigation starts with statements that introduce names. -/
theorem exists_introduces_of_retained (scope : Scope) (kept : body.view.retained = true) :
    ∃ early creating late, body.Introduces scope early creating late := by
  -- The random number is the one other call of a member without arguments of its own.
  have other : "nextInt" ≠ Naming.createMethod body.view.name := by
    simp [Naming.createMethod, String.ext_iff]
  refine ⟨[?factory, ?key], ?holder, [?delegate, ?view], ?introduces⟩
  case introduces =>
    constructor
    case statements_eq =>
      simp only [statements, kept, retainedView, closing, rendering, if_true, List.cons_append,
        List.nil_append]
      rfl
    case boundNames_early => simp [Statement.boundNames, Statement.bound?, kept, earlyNames]
    case boundNames_late => simp [Statement.boundNames, Statement.bound?, kept, lateNames]
    case creation_mem =>
      simp [Statement.parts, Expr.parts, Expr.invoke, Expr.listParts, Expr.self_mem_parts]
    case creation_notMem =>
      simp [Statement.parts, Expr.parts, Expr.invoke, Expr.listParts, remembered, creation,
        other.symm]
    case binds => simp [Statement.bound?]
    case modifier_notMem =>
      simp [Statement.parts, Expr.parts, Expr.invoke, Expr.listParts, remembered, creation,
        labelled_notMem_arguments]

/-- A body that remembers its view starts with statements that introduce names. -/
theorem exists_introduces_of_remembered (scope : Scope) (kept : body.view.retained = false) :
    ∃ early creating late, body.Introduces scope early creating late := by
  refine ⟨[?factory], ?viewFactory, [?delegate, ?view], ?introduces⟩
  case introduces =>
    constructor
    case statements_eq =>
      simp only [statements, kept, rememberedView, closing, rendering, List.cons_append,
        List.nil_append, Bool.false_eq_true, if_false]
      rfl
    case boundNames_early => simp [Statement.boundNames, Statement.bound?, kept, earlyNames]
    case boundNames_late => simp [Statement.boundNames, Statement.bound?, kept, lateNames]
    case creation_mem => simp [Statement.parts, Expr.self_mem_parts]
    case creation_notMem =>
      simp [Statement.parts, Expr.parts, Expr.invoke, Expr.listParts, remembered, creation]
    case binds => simp [Statement.bound?]
    case modifier_notMem =>
      simp [Statement.parts, Expr.parts, Expr.invoke, Expr.listParts, remembered, creation,
        labelled_notMem_arguments]

/-- A body starts with statements that introduce names. -/
theorem exists_introduces (scope : Scope) (body : Body) :
    ∃ early creating late, body.Introduces scope early creating late := by
  cases kept : body.view.retained with
  | true => exact exists_introduces_of_retained scope kept
  | false => exact exists_introduces_of_remembered scope kept

/-- The statements behind those that introduce names are updates, a gap and the rendering. -/
theorem mem_closing : statement ∈ closing scope body ↔
    (∃ parameter ∈ body.view.dataParameters, statement = update scope parameter) ∨
      statement = .gap ∨ statement = rendering scope body := by
  unfold closing updates
  cases data : body.view.dataParameters with
  | nil => simp
  | cons parameter parameters =>
    simp only [List.isEmpty_cons, Bool.false_eq_true, if_false, List.mem_append, List.mem_cons,
      List.mem_map, List.not_mem_nil, or_false]
    grind

/-- The statements behind those that introduce names introduce none. -/
theorem boundNames_closing (scope : Scope) (body : Body) :
    Statement.boundNames (closing scope body) = [] := by
  refine List.filterMap_eq_nil_iff.2 fun statement inside => ?_
  obtain ⟨parameter, -, rfl⟩ | rfl | rfl := mem_closing.1 inside
  · rfl
  · rfl
  · rfl

/-- The view is not created anew behind the statements that introduce names. -/
theorem creation_notMem_closing (inside : statement ∈ closing scope body) :
    body.creation ∉ statement.parts := by
  obtain ⟨parameter, -, rfl⟩ | rfl | rfl := mem_closing.1 inside
  · simp [update, Statement.parts, Expr.parts, Expr.invoke, Expr.listParts, remembered, creation]
  · simp [Statement.parts]
  · unfold rendering modifier
    split
    · split <;> simp [Statement.parts, Expr.listParts, Expr.parts, creation]
    · simp [Statement.parts, Expr.listParts, Expr.parts, creation]

/-- Behind all statements that introduce names, no name is missing and none is added. -/
theorem Introduces.boundNames_of_behind {early late before : List Statement} {creating : Statement}
    {holds : Statement → Prop} (introduces : body.Introduces scope early creating late)
    (place : StandsBehind (body.statements scope) holds before)
    (none : ∀ statement ∈ early ++ creating :: late, ¬ holds statement) :
    Statement.boundNames before =
      earlyNames body.view.retained ++ lateNames body.view.retained := by
  rw [introduces.statements_eq, ← List.cons_append, ← List.append_assoc] at place
  obtain ⟨others, rfl, statement, after, split, -⟩ := place.exists_append none
  have added := boundNames_closing scope body
  rw [split, Statement.boundNames, List.filterMap_append, List.append_eq_nil_iff] at added
  rw [← introduces.boundNames_early, ← introduces.boundNames_late]
  simp only [Statement.boundNames, List.filterMap_append, added.1, List.append_nil]

/-- Where a body hands a parameter on, it has introduced the names that belong to that use. -/
theorem boundNames_of_handsOn {use : Use} {before : List Statement}
    (place : HandsOnBehind scope body parameter use before) :
    Statement.boundNames before = use.introduced body.view.retained := by
  obtain ⟨early, creating, late, introduces⟩ := exists_introduces scope body
  cases use with
  | creation =>
    -- One statement creates the view, so it stands behind those before it and no others.
    rw [HandsOnBehind, introduces.statements_eq, standsBehind_iff_of_unique] at place
    · rw [place.1]
      exact introduces.boundNames_early
    · rintro other inside ⟨-, created⟩
      exact introduces.creation_notMem other (List.mem_append_left _ inside) created
    · rintro other inside ⟨-, created⟩
      obtain inside | inside := List.mem_append.1 inside
      · exact introduces.creation_notMem other (List.mem_append_right _ inside) created
      · exact creation_notMem_closing inside created
  | update =>
    -- An update introduces no name, so it is none of the statements that do.
    refine introduces.boundNames_of_behind place ?_
    rintro other inside ⟨-⟩
    cases introduces.binds _ inside
  | modifier =>
    refine introduces.boundNames_of_behind place ?_
    rintro other inside (_ | _ | ⟨-, labelled⟩)
    exact introduces.modifier_notMem other inside _ labelled

/-- A body hands a parameter on in all uses that take it, and in no others. -/
theorem exists_handsOnBehind_iff {use : Use} :
    (∃ before, HandsOnBehind scope body parameter use before) ↔ use.Takes body.view parameter := by
  constructor
  · rintro ⟨before, statement, after, -, data | data | slot⟩
    · exact data
    · exact data
    · exact slot
  · intro takes
    obtain ⟨early, creating, late, introduces⟩ := exists_introduces scope body
    have whole := introduces.statements_eq
    cases use with
    | creation =>
      exact exists_standsBehind (by simp [whole]) (.creation takes introduces.creation_mem)
    | update =>
      have updated : update scope parameter ∈ closing scope body :=
        mem_closing.2 (.inl ⟨parameter, takes, rfl⟩)
      exact exists_standsBehind (by simp [whole, updated]) (.update takes)
    | modifier =>
      have shown : rendering scope body ∈ closing scope body := mem_closing.2 (.inr (.inr rfl))
      have handed : HandsOn scope body parameter .modifier (rendering scope body) :=
        .modifier takes
          (by simp [rendering, Statement.parts, Expr.listParts, Expr.self_mem_parts])
      exact exists_standsBehind (by simp [whole, shown]) handed

/-- The names that a body introduces. -/
theorem boundNames_statements (scope : Scope) (body : Body) :
    Statement.boundNames (body.statements scope) =
      earlyNames body.view.retained ++ lateNames body.view.retained := by
  obtain ⟨early, creating, late, introduces⟩ := exists_introduces scope body
  rw [introduces.statements_eq, ← introduces.boundNames_early, ← introduces.boundNames_late,
    ← List.cons_append]
  have none := boundNames_closing scope body
  unfold Statement.boundNames at none ⊢
  simp only [List.filterMap_append, none, List.append_nil]

end Body

namespace ActualFunction

/-- The names of the parameters of a function, as written. -/
def signature (scope : Scope) (actual : ActualFunction) : List String :=
  (actual.function scope).parameters.map (·.name)

/-- The function writes the safe names of all parameters. -/
theorem signature_eq (scope : Scope) (actual : ActualFunction) :
    actual.signature scope = actual.view.parameters.map (safeName ·.name) := by
  simp [signature, function, parameter]

end ActualFunction

/-- A parameter that is handed on is a parameter of the view. -/
theorem Use.Takes.mem_parameters {use : Use} {view : View} {parameter : Parameter}
    (takes : use.Takes view parameter) : parameter ∈ view.parameters := by
  cases use with
  | creation => exact (List.mem_filter.1 takes).1
  | update => exact (List.mem_filter.1 takes).1
  | modifier => exact List.mem_of_find?_eq_some takes

/-- Parameters are written as no name that the body introduces unless one of them has such a name.
What a parameter's name denotes where it is handed on depends on the names introduced before: the
view is created behind the first ones, and everything else stands behind all of them. -/
theorem forwarded_parameters_denote (scope : Scope) (actual : ActualFunction) :
    Statement.boundNames (actual.body.statements scope) =
        earlyNames actual.view.retained ++ lateNames actual.view.retained ∧
      ((∀ written ∈ actual.signature scope,
          written ∉ Statement.boundNames (actual.body.statements scope)) ↔
        ∀ parameter ∈ actual.view.parameters,
          parameter.name ∉ earlyNames actual.view.retained ++ lateNames actual.view.retained) ∧
      (∀ use parameter, (∃ before, HandsOnBehind scope actual.body parameter use before) ↔
        use.Takes actual.view parameter) ∧
      ∀ use parameter before, HandsOnBehind scope actual.body parameter use before →
        (Referent.of (Statement.boundNames before) (actual.signature scope)
            (safeName parameter.name) = .parameter ↔
          parameter.name ∉ use.introduced actual.view.retained) := by
  refine ⟨Body.boundNames_statements scope actual.body, ?_,
    fun use parameter => Body.exists_handsOnBehind_iff, fun use parameter before place => ?_⟩
  · rw [Body.boundNames_statements, ActualFunction.signature_eq, List.forall_mem_map]
    exact forall₂_congr fun parameter inside =>
      not_congr (safeName_mem_introduced .update)
  · have takes := Body.exists_handsOnBehind_iff.1 ⟨before, place⟩
    have written : safeName parameter.name ∈ actual.signature scope := by
      rw [ActualFunction.signature_eq]
      exact List.mem_map_of_mem (f := fun parameter => safeName parameter.name) takes.mem_parameters
    rw [Referent.of_eq_parameter_iff written, Body.boundNames_of_handsOn place]
    exact not_congr (safeName_mem_introduced use)

/-- A map with a data parameter that has the name of the factory. -/
def factoryTaker : Declaration where
  name := "ShowMap"
  file := some ⟨"src/Views.kt", "com.example"⟩
  parameters :=
    [⟨some "modifier", .ofDotted Reading.slotClass, []⟩,
     ⟨some "factory", .ofDotted "kotlin.String", []⟩]

/-- The map is accepted, and each time its data parameter is handed on, the name denotes the factory
instead. -/
theorem factory_parameter_is_captured :
    ∃ view, Reading.read (.ofOptions {}) factoryTaker = .ok (view, []) ∧
      ∃ parameter ∈ view.dataParameters, safeName parameter.name = "factory" ∧
        ∀ scope runtime, "factory" ∈ ActualFunction.signature scope ⟨view, runtime⟩ ∧
          "factory" ∈ Statement.boundNames (Body.statements scope ⟨view, runtime⟩) ∧
          (∃ before, HandsOnBehind scope ⟨view, runtime⟩ parameter .creation before) ∧
          ∀ use before, HandsOnBehind scope ⟨view, runtime⟩ parameter use before →
            Referent.of (Statement.boundNames before)
              (ActualFunction.signature scope ⟨view, runtime⟩) "factory" = .introduced := by
  refine ⟨_, rfl, ⟨"factory", .ofDotted "kotlin.String", false, []⟩, .head _, rfl,
    fun scope runtime => ⟨.tail _ (.head _), ?_, Body.exists_handsOnBehind_iff.2 (.head _),
      fun use before place => ?_⟩⟩
  · rw [Body.boundNames_statements]
    exact .head _
  · rw [Body.boundNames_of_handsOn place]
    cases use <;> rfl

end Host

end ViewGlue
