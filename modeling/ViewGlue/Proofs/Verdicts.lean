import ViewGlue.Discovery

/-!
# Verdicts

A declaration is rejected for the first rule that it breaks and for no other, or it becomes a view
that has everything it states. The rules are said here without the reader, in their order
(`Reading.Rule.all`); `Reading.verdict_follows_rules` says that the reader follows them, that a
rejected declaration leaves one error and no warning behind, and that reports made before stay as
they are.
-/

namespace ViewGlue

namespace Reading

/-! ## Rules -/

/-- What a declaration has to keep to become a view. -/
inductive Rule where
  /-- It has no body of its own. -/
  | stub
  /-- It stands in a source file. -/
  | file
  /-- A source modifier expresses its visibility. -/
  | visibility
  /-- Its parameters have names. -/
  | names
  /-- The factory group that it joins is an identifier. -/
  | group
  deriving DecidableEq, Repr

namespace Rule

variable (defaults : ReadingDefaults) (declaration : Declaration)

/-- The rules in the order in which they are tried. -/
def all : List Rule := [stub, file, visibility, names, group]

/-- Whether a declaration breaks a rule. -/
def isBroken : Rule → Bool
  | stub => !declaration.isStub
  | file => declaration.file.isNone
  | visibility => (declaration.visibility.bind DeclaredVisibility.visibility?).isNone
  | names => declaration.parameters.any (·.name.isNone)
  | group => !Text.isIdentifier (declaration.bridge.group.getD defaults.group)

/-- The first rule that a declaration breaks. -/
def firstBroken? : Option Rule :=
  all.find? (isBroken defaults declaration)

/-- The code of the error about a broken rule. -/
def code : Rule → String
  | stub => "not-stub"
  | file => "missing-file"
  | visibility => "unrecognized-visibility"
  | names => "unnamed-parameter"
  | group => "invalid-factory-group"

/-- The cause that the error about a broken rule names: for parameters the place of the first one
without a name, counted from one. -/
def cause : Rule → Rejection
  | stub => .notStub
  | file => .missingFile
  | visibility =>
    match declaration.visibility with
    | none => .unresolvedVisibility
    | some stated => .unexpressedVisibility stated
  | names => .unnamedParameter (declaration.parameters.findIdx (·.name.isNone) + 1)
  | group => .invalidGroup (declaration.bridge.group.getD defaults.group)

/-- The error about a broken rule. -/
def fault (rule : Rule) : Diagnostic :=
  report declaration .error rule.code (rule.cause defaults declaration).message

/-- The cause has the code of its rule. -/
theorem code_cause (rule : Rule) : (rule.cause defaults declaration).code = rule.code := by
  cases rule with
  | visibility =>
    unfold cause
    cases declaration.visibility <;> rfl
  | stub => rfl
  | file => rfl
  | names => rfl
  | group => rfl

variable {defaults declaration}

/-- A broken rule is the first one if all rules before it are kept. -/
theorem firstBroken?_eq_some {rule : Rule} (before : List Rule) {behind : List Rule}
    (order : all = before ++ rule :: behind)
    (kept : ∀ earlier ∈ before, isBroken defaults declaration earlier = false)
    (broken : isBroken defaults declaration rule = true) :
    firstBroken? defaults declaration = some rule := by
  have none : before.find? (isBroken defaults declaration) = none := by simpa using kept
  simp [firstBroken?, order, none, broken]

end Rule

/-! ## Parameters and visibility -/

/-- A parameter as a declaration states it. -/
def declared (parameter : Parameter) : DeclaredParameter :=
  ⟨some parameter.name, parameter.type, parameter.modifiers⟩

/-- The first parameter without a name is reported by its place. -/
theorem readParameters_of_unnamed {parameters : List DeclaredParameter} (number : Nat)
    (unnamed : parameters.any (·.name.isNone) = true) :
    readParameters number parameters =
      .error (.unnamedParameter (parameters.findIdx (·.name.isNone) + number)) := by
  induction parameters generalizing number with
  | nil => simp at unnamed
  | cons first rest ih =>
    cases name : first.name with
    | none => simp [readParameters, name, List.findIdx_cons]
    | some name =>
      have later : rest.any (·.name.isNone) = true := by simpa [name] using unnamed
      have place : rest.findIdx (·.name.isNone) + (number + 1) =
          rest.findIdx (·.name.isNone) + 1 + number := by omega
      simp [readParameters, name, ih (number + 1) later, List.findIdx_cons, place, bind,
        Except.bind]

/-- Parameters with names are all kept, and those of the class that takes the modifier are slots. -/
theorem exists_readParameters_of_named {parameters : List DeclaredParameter} (number : Nat)
    (named : parameters.any (·.name.isNone) = false) :
    ∃ kept, readParameters number parameters = .ok kept ∧ kept.map declared = parameters ∧
      ∀ parameter ∈ kept, parameter.isSlot = parameter.type.isClass slotClass := by
  induction parameters generalizing number with
  | nil => exact ⟨[], rfl, rfl, by simp⟩
  | cons first rest ih =>
    obtain ⟨name, type, modifiers⟩ := first
    cases name with
    | none => simp at named
    | some name =>
      have later : rest.any (·.name.isNone) = false := by simpa using named
      obtain ⟨kept, read, same, slots⟩ := ih (number + 1) later
      refine ⟨⟨name, type, type.isClass slotClass, modifiers⟩ :: kept, ?_, ?_, ?_⟩
      · simp [readParameters, read, bind, Except.bind, pure, Except.pure]
      · simp [declared, same]
      · rw [List.forall_mem_cons]
        exact ⟨rfl, slots⟩

/-- A visibility without a source modifier is the cause of a rejection. -/
theorem readVisibility_of_broken (defaults : ReadingDefaults) {declaration : Declaration}
    (broken : Rule.isBroken defaults declaration .visibility = true) :
    readVisibility declaration.visibility =
      .error (Rule.cause defaults declaration .visibility) := by
  unfold Rule.isBroken at broken
  unfold readVisibility Rule.cause
  cases stated : declaration.visibility with
  | none => rfl
  | some visibility =>
    rw [stated, Option.bind_some, Option.isNone_iff_eq_none] at broken
    simp only [broken]

/-- A visibility with a source modifier is kept. -/
theorem exists_readVisibility_of_kept {defaults : ReadingDefaults} {declaration : Declaration}
    (kept : Rule.isBroken defaults declaration .visibility = false) :
    ∃ visibility, readVisibility declaration.visibility = .ok visibility ∧
      declaration.visibility = some (.modifier visibility) := by
  unfold Rule.isBroken at kept
  unfold readVisibility
  cases stated : declaration.visibility with
  | none => simp [stated] at kept
  | some visibility =>
    cases visibility with
    | modifier visibility => exact ⟨visibility, rfl, rfl⟩
    | javaPackage => simp [stated, DeclaredVisibility.visibility?] at kept
    | enclosing => simp [stated, DeclaredVisibility.visibility?] at kept

/-! ## Views -/

/-- The render mode that a declaration states and that is none. -/
def unknownMode? (declaration : Declaration) : Option String :=
  declaration.bridge.mode.filter fun written =>
    RenderMode.all.all (·.annotationName != written)

/-- The warning about a stated render mode that is none. -/
def modeWarnings (declaration : Declaration) : List Diagnostic :=
  (unknownMode? declaration).toList.map fun written =>
    report declaration .warning "unknown-render-mode" (Notice.unknownMode written).message

/-- The warning about a view without a slot. -/
def slotWarnings (declaration : Declaration) (view : View) : List Diagnostic :=
  if view.parameters.any (·.isSlot) then []
  else [report declaration .warning "missing-handle-slot" Notice.missingSlot.message]

/-- A view has everything that its declaration states, and the defaults for what it leaves open. -/
structure Keeps (defaults : ReadingDefaults) (declaration : Declaration) (view : View) : Prop where
  /-- The view has the name of the declaration. -/
  name : view.name = declaration.name
  /-- No parameter is lost, added or changed. -/
  parameters : view.parameters.map declared = declaration.parameters
  /-- The parameters of the class of modifiers are slots. -/
  slots : ∀ parameter ∈ view.parameters, parameter.isSlot = parameter.type.isClass slotClass
  /-- It joins the group that is named, or the default one. -/
  group : view.group = declaration.bridge.group.getD defaults.group
  /-- This group can name generated classes. -/
  isIdentifier_group : Text.isIdentifier view.group = true
  /-- It has the render mode that is written if that is known, and is observed otherwise. -/
  mode : view.mode = (declaration.bridge.mode.bind RenderMode.ofAnnotation?).getD .observed
  /-- It outlives navigation only if that is asked for. -/
  retained : view.retained = declaration.bridge.retained.getD false
  /-- The override of the composable, if it is more than blanks. -/
  customTarget : view.customTarget =
    (declaration.renderTarget.join.map Text.trim).filter (fun written => !written.isEmpty)
  /-- The override shows it, or the default for its render mode. -/
  renderTarget : view.renderTarget =
    (view.customTarget.map QualifiedName.ofDotted).getD (defaults.target view.mode)
  /-- It has the visibility that is stated. -/
  visibility : declaration.visibility = some (.modifier view.visibility)
  /-- It belongs to the source file of the declaration. -/
  file : declaration.file = some view.file
  /-- Its annotations are repeated. -/
  annotations : view.annotations = declaration.annotations
  /-- Its type parameters are the same. -/
  typeParameters : view.typeParameters = declaration.typeParameters

/-- A stated render mode is none exactly if it is unknown, and then it is reported. -/
theorem readMode_eq (declaration : Declaration) :
    readMode declaration.bridge.mode =
      ((declaration.bridge.mode.bind RenderMode.ofAnnotation?).getD .observed,
        (unknownMode? declaration).toList.map .unknownMode) := by
  unfold readMode unknownMode?
  cases stated : declaration.bridge.mode with
  | none => rfl
  | some written =>
    cases known : RenderMode.ofAnnotation? written with
    | none =>
      have others : RenderMode.all.all (·.annotationName != written) = true := by
        simpa [RenderMode.ofAnnotation?] using known
      simp [known, Option.filter_some, others]
    | some mode =>
      have name : mode.annotationName = written := by simpa using List.find?_some known
      have found : RenderMode.all.all (·.annotationName != written) = false := by
        rw [List.all_eq_false]
        exact ⟨mode, List.mem_of_find?_eq_some known, by simp [name]⟩
      simp [known, Option.filter_some, found]

/-- An override counts without the blanks around it, unless nothing else is there. -/
theorem customTarget_eq (stated : Option (Option String)) :
    customTarget stated = (stated.join.map Text.trim).filter (fun written => !written.isEmpty) := by
  unfold customTarget
  obtain _ | _ | written := stated
  · rfl
  · rfl
  · by_cases blank : Text.trim written = "" <;> simp [blank, Option.filter_some]

section Steps

variable {defaults : ReadingDefaults} {declaration : Declaration} {file : SourceFile}
  {visibility : Visibility} {parameters : List Parameter}

/-- The notices about a view. -/
def notices (declaration : Declaration) (view : View) : List Notice :=
  (unknownMode? declaration).toList.map .unknownMode ++
    if view.parameters.any (·.isSlot) then [] else [.missingSlot]

/-- The view of a declaration of which these parts were read. -/
def viewOf (defaults : ReadingDefaults) (declaration : Declaration) (file : SourceFile)
    (visibility : Visibility) (parameters : List Parameter) : View :=
  let mode := (readMode declaration.bridge.mode).1
  let custom := customTarget declaration.renderTarget
  { name := declaration.name
    parameters := parameters
    group := declaration.bridge.group.getD defaults.group
    mode := mode
    retained := declaration.bridge.retained.getD false
    renderTarget := (custom.map QualifiedName.ofDotted).getD (defaults.target mode)
    customTarget := custom
    visibility := visibility
    file := file
    annotations := declaration.annotations
    typeParameters := declaration.typeParameters }

/-- A declaration with a body of its own is rejected first. -/
theorem read_of_body (body : declaration.isStub = false) :
    read defaults declaration = .error .notStub := by
  unfold read
  simp only [body]
  rfl

/-- A stub outside of all source files is rejected. -/
theorem read_of_noFile (stub : declaration.isStub = true) (place : declaration.file = none) :
    read defaults declaration = .error .missingFile := by
  unfold read
  simp only [stub, place]
  rfl

/-- A stub in a file is rejected for its visibility before its parameters are read. -/
theorem read_of_hidden (stub : declaration.isStub = true) (place : declaration.file = some file)
    {rejection : Rejection}
    (hidden : readVisibility declaration.visibility = .error rejection) :
    read defaults declaration = .error rejection := by
  unfold read
  simp only [stub, place, hidden]
  rfl

/-- A visible stub is rejected for its parameters before its group is looked at. -/
theorem read_of_unnamed (stub : declaration.isStub = true) (place : declaration.file = some file)
    (shown : readVisibility declaration.visibility = .ok visibility) {rejection : Rejection}
    (unnamed : readParameters 1 declaration.parameters = .error rejection) :
    read defaults declaration = .error rejection := by
  unfold read
  simp only [stub, place, shown, unnamed]
  rfl

/-- A stub whose parts can all be read is rejected if its group is no identifier. -/
theorem read_of_otherGroup (stub : declaration.isStub = true) (place : declaration.file = some file)
    (shown : readVisibility declaration.visibility = .ok visibility)
    (named : readParameters 1 declaration.parameters = .ok parameters)
    (other : Text.isIdentifier (declaration.bridge.group.getD defaults.group) = false) :
    read defaults declaration =
      .error (.invalidGroup (declaration.bridge.group.getD defaults.group)) := by
  unfold read
  simp only [stub, place, shown, named, other]
  rfl

/-- A declaration whose parts can all be read and whose group is an identifier becomes a view. -/
theorem read_eq_viewOf (stub : declaration.isStub = true) (place : declaration.file = some file)
    (shown : readVisibility declaration.visibility = .ok visibility)
    (named : readParameters 1 declaration.parameters = .ok parameters)
    (identifier : Text.isIdentifier (declaration.bridge.group.getD defaults.group) = true) :
    let view := viewOf defaults declaration file visibility parameters
    read defaults declaration = .ok (view, notices declaration view) := by
  intro view
  have noticed : notices declaration view = (readMode declaration.bridge.mode).2 ++
      if parameters.any (·.isSlot) then [] else [.missingSlot] := by
    rw [readMode_eq]
    rfl
  rw [noticed]
  unfold read
  simp only [stub, place, shown, named, identifier]
  cases custom : customTarget declaration.renderTarget with
  | none =>
    simp only [view, viewOf, custom]
    rfl
  | some written =>
    simp only [view, viewOf, custom]
    rfl

/-- The view of a declaration keeps what is stated if its parts do. -/
theorem keeps_viewOf (place : declaration.file = some file)
    (stated : declaration.visibility = some (.modifier visibility))
    (same : parameters.map declared = declaration.parameters)
    (slots : ∀ parameter ∈ parameters, parameter.isSlot = parameter.type.isClass slotClass)
    (identifier : Text.isIdentifier (declaration.bridge.group.getD defaults.group) = true) :
    Keeps defaults declaration (viewOf defaults declaration file visibility parameters) where
  name := rfl
  parameters := same
  slots := slots
  group := rfl
  isIdentifier_group := identifier
  mode := congrArg Prod.fst (readMode_eq declaration)
  retained := rfl
  customTarget := customTarget_eq declaration.renderTarget
  renderTarget := rfl
  visibility := stated
  file := place
  annotations := rfl
  typeParameters := rfl

end Steps

/-- The rules decide what the reader does: it rejects a declaration for the first rule that is
broken, and if none is, it makes a view that keeps what is stated. -/
theorem read_cases (defaults : ReadingDefaults) (declaration : Declaration) :
    (∃ rule, Rule.firstBroken? defaults declaration = some rule ∧
      read defaults declaration = .error (rule.cause defaults declaration)) ∨
    (Rule.firstBroken? defaults declaration = none ∧ ∃ view,
      read defaults declaration = .ok (view, notices declaration view) ∧
      Keeps defaults declaration view) := by
  by_cases stub : Rule.isBroken defaults declaration .stub = true
  · have body : declaration.isStub = false := by simpa [Rule.isBroken] using stub
    exact .inl ⟨.stub, Rule.firstBroken?_eq_some [] rfl (by simp) stub, read_of_body body⟩
  have isStub : declaration.isStub = true := by simpa [Rule.isBroken] using stub
  by_cases file : Rule.isBroken defaults declaration .file = true
  · have place : declaration.file = none := by simpa [Rule.isBroken] using file
    exact .inl ⟨.file, Rule.firstBroken?_eq_some [.stub] rfl (by simp [stub]) file,
      read_of_noFile isStub place⟩
  obtain ⟨source, place⟩ : ∃ source, declaration.file = some source := by
    simpa [Rule.isBroken, Option.ne_none_iff_exists'] using file
  by_cases modifier : Rule.isBroken defaults declaration .visibility = true
  · have hidden := readVisibility_of_broken defaults modifier
    exact .inl ⟨.visibility, Rule.firstBroken?_eq_some [.stub, .file] rfl (by simp [stub, file])
      modifier, read_of_hidden isStub place hidden⟩
  obtain ⟨visibility, shown, stated⟩ :=
    exists_readVisibility_of_kept (Bool.eq_false_iff.2 modifier)
  by_cases names : Rule.isBroken defaults declaration .names = true
  · have unnamed := readParameters_of_unnamed 1 names
    exact .inl ⟨.names, Rule.firstBroken?_eq_some [.stub, .file, .visibility] rfl
      (by simp [stub, file, modifier]) names, read_of_unnamed isStub place shown unnamed⟩
  obtain ⟨parameters, named, same, slots⟩ :=
    exists_readParameters_of_named 1 (Bool.eq_false_iff.2 names)
  by_cases group : Rule.isBroken defaults declaration .group = true
  · have other : Text.isIdentifier (declaration.bridge.group.getD defaults.group) = false := by
      simpa [Rule.isBroken] using group
    exact .inl ⟨.group, Rule.firstBroken?_eq_some [.stub, .file, .visibility, .names] rfl
      (by simp [stub, file, modifier, names]) group,
      read_of_otherGroup isStub place shown named other⟩
  have identifier : Text.isIdentifier (declaration.bridge.group.getD defaults.group) = true := by
    simpa [Rule.isBroken] using group
  have none : Rule.firstBroken? defaults declaration = none := by
    simp [Rule.firstBroken?, Rule.all, stub, file, modifier, names, group]
  exact .inr ⟨none, _, read_eq_viewOf isStub place shown named identifier,
    keeps_viewOf place stated same slots identifier⟩

/-- What the reader makes of a declaration keeps what is stated. -/
theorem keeps_of_read {defaults : ReadingDefaults} {declaration : Declaration} {view : View}
    {notices : List Notice} (accepted : read defaults declaration = .ok (view, notices)) :
    Keeps defaults declaration view := by
  obtain ⟨rule, -, rejected⟩ | ⟨-, other, made, keeps⟩ := read_cases defaults declaration
  · rw [rejected] at accepted
    cases accepted
  · rw [made] at accepted
    cases accepted
    exact keeps

/-- A declaration is rejected for the first rule that it breaks, with one error about it and nothing
else; if it breaks none, it becomes a view that keeps all it states, with a warning about a render
mode that is none and then one about a missing slot, each exactly where there is cause for it.
Reports made before stay as they are. -/
theorem verdict_follows_rules (discovery : Discovery) (declaration : Declaration) :
    let defaults := discovery.defaults
    let found := verdict defaults declaration
    (discovery.take declaration).diagnostics = discovery.diagnostics ++ found.2 ∧
    (discovery.take declaration).views = discovery.views ++ found.1.toList ∧
    match Rule.firstBroken? defaults declaration with
    | some rule => found = (none, [rule.fault defaults declaration])
    | none => ∃ view, Keeps defaults declaration view ∧
      found = (some view, modeWarnings declaration ++ slotWarnings declaration view) := by
  intro defaults found
  refine ⟨rfl, rfl, ?_⟩
  obtain ⟨rule, first, rejected⟩ | ⟨kept, view, accepted, keeps⟩ :=
    read_cases defaults declaration
  · have outcome : found =
        (none, [(rule.cause defaults declaration).diagnostic declaration]) := by
      simp only [found, verdict, rejected]
    rw [first, outcome, Rejection.diagnostic, Rule.code_cause]
    rfl
  · have outcome : found =
        (some view, (notices declaration view).map (·.diagnostic declaration)) := by
      simp only [found, verdict, accepted]
    rw [kept]
    refine ⟨view, keeps, ?_⟩
    rw [outcome, notices, List.map_append, modeWarnings, slotWarnings, List.map_map]
    split
    · rfl
    · rfl

end Reading

end ViewGlue
