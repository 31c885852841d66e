import ViewGlue.Proofs.CallSiteCapture
import ViewGlue.Proofs.Coverage
import ViewGlue.View.Sketch

/-!
# Agreement of the host artifacts of a view

The host has three artifacts of a view, which are generated apart from each other: a method in the
factory of its group, a delegate, and a function among the call sites of its source file. The body
of the function calls the factory once, with the data that the method takes, and calls each method
of the delegate once, with the data that this method takes (`artifacts_agree`). Only the function
itself has the slot of the view.
-/

namespace ViewGlue

namespace Host

/-! ## Calls of an object -/

/-- A call of a member of the object with this name. -/
def Expr.isCallOn (object : String) : Expr → Bool
  | .call (.member (.name written) _) _ _ => written == object
  | _ => false

/-- The calls of members of an object in an expression. -/
def Expr.callsOn (object : String) (expression : Expr) : List Expr :=
  expression.parts.filter (isCallOn object)

/-- The calls of members of an object in a statement. -/
def Statement.callsOn (object : String) (statement : Statement) : List Expr :=
  statement.parts.filter (Expr.isCallOn object)

/-- Names are not calls. -/
theorem Expr.filter_listParts_names (object : String) (names : List String) :
    (listParts (names.map Expr.name)).filter (isCallOn object) = [] := by
  induction names with
  | nil => rfl
  | cons name names ih => simpa [listParts, parts, isCallOn] using ih

/-- The call of a member of an object, with names as arguments, is the only call in it. -/
theorem Expr.callsOn_call (object written member : String) (typeArguments names : List String) :
    (Expr.call (.member (.name written) member) typeArguments (names.map .name)).callsOn object =
      if written = object then
        [.call (.member (.name written) member) typeArguments (names.map .name)]
      else [] := by
  have arguments := filter_listParts_names object names
  by_cases same : written = object <;> simp [callsOn, parts, isCallOn, arguments, same]

/-- The random number that keys a view is drawn from nothing that a body introduces. -/
theorem write_random_ne (scope : Scope) {object : String}
    (isObject : object ∈ ["factory", "delegate"]) :
    scope.write Symbols.random ≠ object := by
  have shown : scope.write Symbols.random = Symbols.random.simple ∨
      scope.write Symbols.random = Symbols.random.dotted := by
    unfold Scope.write
    split
    · exact .inl rfl
    · exact .inr rfl
  simp only [List.mem_cons, List.not_mem_nil, or_false] at isObject
  obtain written | written := shown <;> obtain rfl | rfl := isObject <;> rw [written] <;> decide

namespace Body

variable {scope : Scope} {body : Body} {object : String}

/-- The written names of the data parameters. -/
def dataNames (body : Body) : List String :=
  body.view.dataParameters.map (safeName ·.name)

/-- The call that updates a parameter. -/
def updating (parameter : Parameter) : Expr :=
  .call (.member (.name "delegate") (Naming.updateMethod parameter.name)) []
    [.name (safeName parameter.name)]

/-- The arguments are the written names of the data parameters. -/
theorem arguments_eq (body : Body) : body.arguments = body.dataNames.map .name := by
  simp [arguments, dataNames]

/-- The call that creates the view calls the factory and nothing else. -/
theorem callsOn_creation (object : String) (body : Body) :
    body.creation.callsOn object = if "factory" = object then [body.creation] else [] := by
  rw [creation, arguments_eq]
  exact Expr.callsOn_call _ _ _ _ _

/-- Remembering a value calls what the value calls. -/
theorem callsOn_remembered (object : String) (scope : Scope) (key : String) (value : Expr) :
    (remembered scope key value).callsOn object = value.callsOn object := by
  simp [Expr.callsOn, remembered, Expr.invoke, Expr.parts, Expr.listParts, Expr.isCallOn]

/-- The statement that forwards a parameter calls the delegate and nothing else. -/
theorem callsOn_update (object : String) (scope : Scope) (parameter : Parameter) :
    (update scope parameter).callsOn object =
      if "delegate" = object then [updating parameter] else [] := by
  show (remembered scope (safeName parameter.name) (updating parameter)).callsOn object = _
  rw [callsOn_remembered]
  exact Expr.callsOn_call object "delegate" (Naming.updateMethod parameter.name) []
    [safeName parameter.name]

/-- The statements that bring view and delegate about. -/
def creating (scope : Scope) (body : Body) : List Statement :=
  if body.view.retained then retainedView scope body else rememberedView scope body

/-- A body finds the factory, brings view and delegate about, and shows the view. -/
theorem statements_eq (scope : Scope) (body : Body) :
    body.statements scope =
      .bind "factory" (.member (.name (scope.write body.accessor)) "current") ::
        (creating scope body ++ closing scope body) := by
  simp [statements, creating, closing, rendering]

/-- View and delegate are brought about by the call that creates the view and no other. -/
theorem callsOn_creating (isObject : object ∈ ["factory", "delegate"]) :
    (creating scope body).flatMap (Statement.callsOn object) = body.creation.callsOn object := by
  have random := write_random_ne scope isObject
  have members : ∀ name field, (Expr.member (.name name) field).callsOn object = [] := by
    simp [Expr.callsOn, Expr.parts, Expr.isCallOn]
  have kept : ∀ name key field, (Statement.bind name
      (remembered scope key (.member (.name key) field))).callsOn object = [] := by
    intro name key field
    show (remembered scope key _).callsOn object = []
    rw [callsOn_remembered, members]
  unfold creating
  split
  · have key : (Statement.bind "key" (.applied (.name (scope.write Symbols.rememberSaveable))
        (.call (.member (.call (.member (.name (scope.write Symbols.random)) "nextInt") [] [])
          "toString") [] [.number 16]))).callsOn object = [] := by
      simp [Statement.callsOn, Statement.parts, Expr.parts, Expr.listParts, Expr.isCallOn, random]
    have holder : (Statement.bindBlock "holder"
        (.invoke (scope.write Symbols.viewModel) [.labelled "key" (.name "key")])
        (.invoke (scope.write body.holder) [.closure body.creation])).callsOn object =
          body.creation.callsOn object := by
      simp [Statement.callsOn, Statement.parts, Expr.invoke, Expr.parts, Expr.listParts,
        Expr.isCallOn, Expr.callsOn]
    simp only [retainedView, List.flatMap_cons, List.flatMap_nil, key, holder, kept,
      List.nil_append, List.append_nil]
  · have factory : (Statement.bindBlock "viewFactory" (.name (scope.write Symbols.remember))
        body.creation).callsOn object = body.creation.callsOn object := by
      simp [Statement.callsOn, Statement.parts, Expr.parts, Expr.isCallOn, Expr.callsOn]
    simp only [rememberedView, List.flatMap_cons, List.flatMap_nil, factory, kept,
      List.append_nil]

/-- Showing the view calls no object. -/
theorem callsOn_rendering (object : String) (scope : Scope) (body : Body) :
    (rendering scope body).callsOn object = [] := by
  have modifier : (modifier scope body).callsOn object = [] := by
    unfold Body.modifier
    split
    · split <;> simp [Expr.callsOn, Expr.parts, Expr.isCallOn]
    · simp [Expr.callsOn, Expr.parts, Expr.isCallOn]
  unfold Expr.callsOn at modifier
  simp [Statement.callsOn, rendering, Statement.parts, Expr.listParts, Expr.parts, Expr.isCallOn,
    modifier]

/-- The statements behind the creation of the view update the parameters in their order. -/
theorem callsOn_closing (object : String) (scope : Scope) (body : Body) :
    (closing scope body).flatMap (Statement.callsOn object) =
      body.view.dataParameters.flatMap fun parameter =>
        if "delegate" = object then [updating parameter] else [] := by
  have gap : Statement.gap.callsOn object = [] := rfl
  have forwarded : (updates scope body).flatMap (Statement.callsOn object) =
      body.view.dataParameters.flatMap fun parameter =>
        if "delegate" = object then [updating parameter] else [] := by
    have each : ∀ parameters : List Parameter,
        (parameters.map (update scope)).flatMap (Statement.callsOn object) =
          parameters.flatMap fun parameter =>
            if "delegate" = object then [updating parameter] else [] := by
      intro parameters
      simp only [List.flatMap_map, callsOn_update]
    unfold updates
    split
    · rename_i none
      rw [List.isEmpty_iff.1 none]
      rfl
    · rw [List.flatMap_cons, gap, each, List.nil_append]
  rw [closing, List.flatMap_append, forwarded]
  simp only [List.flatMap_cons, List.flatMap_nil, gap, callsOn_rendering, List.append_nil]

/-- A body calls the factory once, to create the view. -/
theorem callsOn_factory (scope : Scope) (body : Body) :
    (body.statements scope).flatMap (Statement.callsOn "factory") = [body.creation] := by
  rw [statements_eq, List.flatMap_cons, List.flatMap_append, callsOn_creating (by simp),
    callsOn_closing, callsOn_creation]
  simp [Statement.callsOn, Statement.parts, Expr.parts, Expr.isCallOn]

/-- A body calls the delegate once for each data parameter, in their order. -/
theorem callsOn_delegate (scope : Scope) (body : Body) :
    (body.statements scope).flatMap (Statement.callsOn "delegate") =
      body.view.dataParameters.map updating := by
  rw [statements_eq, List.flatMap_cons, List.flatMap_append, callsOn_creating (by simp),
    callsOn_closing, callsOn_creation]
  simp [Statement.callsOn, Statement.parts, Expr.parts, Expr.isCallOn, List.map_eq_flatMap]

/-- The statements that call the delegate are those that forward the data parameters. -/
theorem filter_callsOn_delegate (scope : Scope) (body : Body) :
    (body.statements scope).filter (fun statement => !(statement.callsOn "delegate").isEmpty) =
      body.view.dataParameters.map (update scope) := by
  have early : (creating scope body).filter
      (fun statement => !(statement.callsOn "delegate").isEmpty) = [] := by
    have silent : (creating scope body).flatMap (Statement.callsOn "delegate") = [] := by
      rw [callsOn_creating (by simp), callsOn_creation]
      rfl
    refine List.filter_eq_nil_iff.2 fun statement inside => ?_
    rw [List.flatMap_eq_nil_iff.1 silent statement inside]
    decide
  have forwarded : (updates scope body).filter
      (fun statement => !(statement.callsOn "delegate").isEmpty) =
        body.view.dataParameters.map (update scope) := by
    have each : (body.view.dataParameters.map (update scope)).filter
        (fun statement => !(statement.callsOn "delegate").isEmpty) =
          body.view.dataParameters.map (update scope) := by
      refine List.filter_eq_self.2 fun statement inside => ?_
      obtain ⟨parameter, -, rfl⟩ := List.mem_map.1 inside
      simp [callsOn_update]
    unfold updates
    split
    · rename_i none
      rw [List.isEmpty_iff.1 none]
      rfl
    · rw [List.filter_cons_of_neg (by simp [Statement.callsOn, Statement.parts]), each]
  have accessor : (Statement.bind "factory"
      (.member (.name (scope.write body.accessor)) "current")).callsOn "delegate" = [] := by
    simp [Statement.callsOn, Statement.parts, Expr.parts, Expr.isCallOn]
  have last : [Statement.gap, rendering scope body].filter
      (fun statement => !(statement.callsOn "delegate").isEmpty) = [] := by
    have gap : Statement.gap.callsOn "delegate" = [] := rfl
    simp [callsOn_rendering, gap]
  rw [statements_eq, List.filter_cons_of_neg (by simp [accessor]), List.filter_append, early,
    closing, List.filter_append, forwarded, last, List.nil_append, List.append_nil]

end Body

/-! ## Agreement -/

/-- The line that hands the data of an update method to the delegate when it changes. -/
def updateLine (remember : String) (update : Function) : String :=
  let data := Text.joinWith ", " (update.parameters.map (·.name))
  remember ++ "(" ++ data ++ ") \x7b delegate." ++ update.name ++ "(" ++ data ++ ") \x7d"

/-- What the body of a view's function does with the method of the factory and the methods of the
delegate: it calls the one to create the view, and each of the others to update it. -/
structure BodyAgrees (scope : Scope) (method : Function) (updates : List Function)
    (statements : List Statement) : Prop where
  /-- The factory is called once, with all the data that its method takes, in its order. -/
  creation : statements.flatMap (Statement.callsOn "factory") =
    [.call (.member (.name "factory") method.name) method.typeParameters
      (method.parameters.map fun parameter => .name parameter.name)]
  /-- Each method of the delegate is called once, in their order, with what it takes. -/
  updating : statements.flatMap (Statement.callsOn "delegate") =
    updates.map fun update => .call (.member (.name "delegate") update.name) update.typeParameters
      (update.parameters.map fun parameter => .name parameter.name)
  /-- Each of these calls stands on a line of its own, with its data as the key. -/
  lines : (statements.filter fun statement => !(statement.callsOn "delegate").isEmpty).map
      Statement.fragment =
    updates.map fun update => .line (updateLine (scope.write Symbols.remember) update)

/-- A method of a factory, a delegate and a function agree on a view. Each is written in the scope
of its own file. -/
structure ArtifactsAgree (view : View) (inFactory inDelegate atCallSite : Scope)
    (delegates : String) (method : Function) (delegate : Interface) (actual : ActualFunction) :
    Prop where
  /-- The lines of the function are those of its statements. -/
  body : (actual.function atCallSite).body =
    some ((actual.body.statements atCallSite).map Statement.fragment)
  /-- The statements call the method of the factory and those of the delegate. -/
  bodyAgrees : BodyAgrees atCallSite method delegate.functions (actual.body.statements atCallSite)
  /-- The factory takes the data parameters, in their order and with their types. -/
  methodData : method.parameters = view.dataParameters.map fun parameter =>
    { name := safeName parameter.name, type := inFactory.writeType parameter.valueType }
  /-- The delegate has one method for each data parameter, which takes this parameter alone. -/
  delegateData : delegate.functions.map (fun update => (update.name, update.parameters)) =
    view.dataParameters.map fun parameter => (Naming.updateMethod parameter.name,
      [{ name := safeName parameter.name, type := inDelegate.writeType parameter.valueType }])
  /-- All three have the type parameters of the view. -/
  typeParameters : method.typeParameters = view.typeParameters ∧
    delegate.typeParameters = view.typeParameters ∧
    (actual.function atCallSite).typeParameters = view.typeParameters
  /-- The factory gives the handle of the render mode and this delegate. -/
  result : method.result = some (inFactory.write Symbols.pair ++ "<" ++
    inFactory.write view.mode.hostHandle ++ ", " ++ inFactory.write ⟨delegates, delegate.name⟩ ++
    typeParameterText delegate.typeParameters ++ ">")
  /-- The modifier of the view is handed to none of them. -/
  noSlot : ∀ taken ∈ method.parameters ++ delegate.functions.flatMap (·.parameters),
    ∃ parameter ∈ view.parameters, parameter.isSlot = false ∧ taken.name = safeName parameter.name
  /-- The function has all parameters as the declaration states them. -/
  signature : (actual.function atCallSite).parameters = view.parameters.map fun parameter =>
    { name := safeName parameter.name, type := atCallSite.writeType parameter.type
      modifiers := parameter.modifiers.map (·.keyword) }

/-- The line of an update is the statement that forwards the parameter. -/
theorem fragment_update (inDelegate scope : Scope) (parameter : Parameter) :
    (Body.update scope parameter).fragment =
      .line (updateLine (scope.write Symbols.remember)
        ((UpdateMethod.ofParameter parameter).function inDelegate)) := by
  simp only [Body.update, Body.remembered, Statement.fragment, Expr.text, Expr.texts, Expr.invoke,
    updateLine, UpdateMethod.function, UpdateMethod.ofParameter, Text.joinWith, List.map_cons,
    List.map_nil, Code.Fragment.line.injEq]
  apply String.toList_inj.1
  simp

/-- The method, the delegate and the function of one view agree. -/
theorem artifactsAgree_of_view (view : View) (runtime : RuntimePackage)
    (inFactory atCallSite : Scope) :
    ArtifactsAgree view inFactory (Delegate.scope ⟨view, runtime⟩) atCallSite runtime.delegates
      ((CreateMethod.ofView runtime view).function inFactory) (Delegate.interface ⟨view, runtime⟩)
      ⟨view, runtime⟩ := by
  have data : ∀ parameter ∈ view.dataParameters,
      parameter ∈ view.parameters ∧ parameter.isSlot = false := by
    intro parameter inside
    simpa [View.dataParameters] using inside
  refine ⟨rfl, ⟨?_, ?_, ?_⟩, ?_, ?_, ⟨rfl, rfl, rfl⟩, rfl, ?_, rfl⟩
  · rw [Body.callsOn_factory, Body.creation, Body.arguments_eq, Body.dataNames]
    simp [CreateMethod.function, CreateMethod.ofView, ActualFunction.body]
  · rw [Body.callsOn_delegate]
    simp [Delegate.interface, Delegate.methods, UpdateMethod.function, UpdateMethod.ofParameter,
      Body.updating, ActualFunction.body]
  · rw [Body.filter_callsOn_delegate]
    simp only [Delegate.interface, Delegate.methods, List.map_map, Function.comp_def,
      ← fragment_update, ActualFunction.body]
  · simp [CreateMethod.function, CreateMethod.ofView]
  · simp [Delegate.interface, Delegate.methods, UpdateMethod.function, UpdateMethod.ofParameter]
  · intro taken inside
    have named : ∃ parameter ∈ view.dataParameters, safeName parameter.name = taken.name := by
      simp only [CreateMethod.function, CreateMethod.ofView, Delegate.interface, Delegate.methods,
        UpdateMethod.function, List.map_map, List.mem_append, List.mem_flatMap,
        List.mem_map] at inside
      obtain ⟨parameter, found, rfl⟩ | ⟨_, ⟨parameter, found, rfl⟩, taken⟩ := inside
      · exact ⟨parameter, found, rfl⟩
      · obtain rfl := List.mem_singleton.1 taken
        exact ⟨parameter, found, rfl⟩
    obtain ⟨parameter, found, same⟩ := named
    exact ⟨parameter, (data parameter found).1, (data parameter found).2, same.symm⟩

variable {project : Project} {before behind : List View} {view : View}

/-- An element stands behind as many others as it has before it. -/
theorem getElem?_map_append {α β : Type} (written : α → β) (front rest : List α) (element : α) :
    ((front ++ element :: rest).map written)[front.length]? = some (written element) := by
  simp

/-- Every view of a primary project has three artifacts that agree: a method in the only factory of
its group and a function at the only call sites of its source file, each at the place that the view
has among the views there, and a delegate. -/
theorem artifacts_agree (primary : project.target = .primary)
    (place : project.views = before ++ view :: behind) :
    ∃ factory delegate callSite,
      (Generated.factory factory ∈ generated project ∧ factory.group = view.group ∧
        ∀ other, Generated.factory other ∈ generated project → other.group = view.group →
          other = factory) ∧
      (Generated.delegate delegate ∈ generated project ∧ delegate.view = view) ∧
      (Generated.callSite callSite ∈ generated project ∧ callSite.source = view.file ∧
        ∀ other, Generated.callSite other ∈ generated project → other.source = view.file →
          other = callSite) ∧
      factory.file.nodes = [.interface factory.interface] ∧
      delegate.file.nodes = [.interface delegate.interface] ∧
      ∃ method actual,
        factory.interface.functions[(view.groupOf before).length]? = some method ∧
        callSite.file.nodes[(view.fileOf before).length]? =
          some (.function (actual.function callSite.scope)) ∧
        ArtifactsAgree view factory.scope delegate.scope callSite.scope project.runtime.delegates
          method delegate.interface actual := by
  have inside : view ∈ project.views := by simp [place]
  have group := Project.mem_groups_of_mem inside
  have source := Project.mem_sourceFiles_of_mem inside
  let factory := Factory.ofGroup project.target project.runtime view.group
    (view.groupOf project.views)
  let callSite := CallSite.ofSource project.target project.runtime view.file
    (view.fileOf project.views)
  refine ⟨factory, ⟨view, project.runtime⟩, callSite,
    ⟨mem_generated_factory.2 ⟨_, group, rfl⟩, rfl, ?_⟩,
    ⟨(mem_generated_delegate primary).2 ⟨inside, rfl⟩, rfl⟩,
    ⟨(mem_generated_callSite primary).2 ⟨_, source, rfl⟩, rfl, ?_⟩, ?_, rfl, ?_⟩
  · intro other generated named
    obtain ⟨otherGroup, found, rfl⟩ := mem_generated_factory.1 generated
    rw [Project.eq_of_mem_groups group found named]
  · intro other generated named
    obtain ⟨otherSource, found, rfl⟩ := (mem_generated_callSite primary).1 generated
    rw [Project.eq_of_mem_sourceFiles source found named]
  · simp [Factory.file, factory, Factory.ofGroup, primary]
  · refine ⟨_, _, ?_, ?_, artifactsAgree_of_view view project.runtime factory.scope callSite.scope⟩
    · have created : factory.methods =
          (view.groupOf project.views).map (CreateMethod.ofView project.runtime) := if_pos primary
      have grouped : view.groupOf project.views =
          view.groupOf before ++ view :: view.groupOf behind := by simp [place, View.groupOf]
      rw [Factory.interface, created, grouped, List.map_map]
      exact getElem?_map_append _ _ _ _
    · have filed : view.fileOf project.views =
          view.fileOf before ++ view :: view.fileOf behind := by simp [place, View.fileOf]
      have listed : callSite.functions =
          (view.fileOf project.views).map fun other => ⟨other, project.runtime⟩ := rfl
      rw [CallSite.file, listed, filed, List.map_map]
      exact getElem?_map_append _ _ _ _

/-- A list of a type parameter, which outlives navigation and takes any number of values. Its slot
stands between two data parameters, one of which has a reserved name. -/
def listSketch : View :=
  { ((View.sketch "ShowList").generic "T").retain with
    parameters :=
      [⟨"values", .variable "T" false, false, [.vararg]⟩,
       ⟨"modifier", .ofDotted Reading.slotClass, true, []⟩,
       ⟨"val", .ofDotted "kotlin.String", false, []⟩] }

/-- A project in which the list stands between two other views. -/
def listProject : Project :=
  .ofViews .primary ⟨"dev.viewbridge"⟩ [View.mapSketch, listSketch, View.badgeSketch]

/-- The list has the second method of its factory, and its artifacts agree. -/
theorem artifacts_of_listSketch_agree :
    ∃ factory inDelegate atCallSite method delegate actual,
      Generated.factory factory ∈ generated listProject ∧
      factory.interface.functions[1]? = some method ∧
      method.parameters.map (·.name) = ["values", "`val`"] ∧
      delegate.functions.map (·.name) = ["updateValues", "updateVal"] ∧
      (actual.function atCallSite).parameters.map (·.name) = ["values", "modifier", "`val`"] ∧
      ArtifactsAgree listSketch factory.scope inDelegate atCallSite "dev.viewbridge.delegate" method
        delegate actual := by
  have place : listProject.views = [View.mapSketch] ++ listSketch :: [View.badgeSketch] := rfl
  obtain ⟨factory, delegate, callSite, ⟨isFactory, -⟩, -, -, -, -, method, actual, second, -,
    agree⟩ := artifacts_agree rfl place
  have methodNames := congrArg (List.map (·.name)) agree.methodData
  have updateNames := congrArg (List.map Prod.fst) agree.delegateData
  have functionNames := congrArg (List.map (·.name)) agree.signature
  rw [List.map_map] at methodNames updateNames functionNames
  rw [List.map_map] at updateNames
  exact ⟨factory, _, _, method, _, actual, isFactory, second, methodNames, updateNames,
    functionNames, agree⟩

end Host

end ViewGlue
