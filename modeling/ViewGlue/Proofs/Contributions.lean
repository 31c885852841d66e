import ViewGlue.Discovery

/-!
# What declarations contribute

Each declaration contributes one view and no error, or no view and one error (`Contributes`). The
views and the reports of a project are what its declarations contribute, in the order in which
they were discovered; the lints add no error.
-/

namespace ViewGlue

namespace Reading

/-- A declaration contributes its view with reports that are no errors, or no view and one error
that starts with its name. -/
inductive Contributes (declaration : Declaration) : Option View × List Diagnostic → Prop where
  /-- A view of the same name and file, with notices at most. -/
  | accepted {view : View} {notices : List Diagnostic} (named : view.name = declaration.name)
      (filed : declaration.file = some view.file)
      (harmless : ∀ notice ∈ notices, notice.isError = false) :
      Contributes declaration (some view, notices)
  /-- No view, and the one error of the rejection. -/
  | rejected {fault : Diagnostic} (grave : fault.isError = true) (phase : fault.phase = "read")
      (named : declaration.name.toList <+: fault.message.toList) :
      Contributes declaration (none, [fault])

/-- A declaration that became a view breaks no rule, and the view has what it states. -/
structure Accepted (defaults : ReadingDefaults) (declaration : Declaration) (view : View) :
    Prop where
  /-- A body can be generated for it. -/
  isStub : declaration.isStub = true
  /-- The view has its name. -/
  named : view.name = declaration.name
  /-- The view belongs to its source file. -/
  filed : declaration.file = some view.file
  /-- The view has the visibility that it states. -/
  visible : readVisibility declaration.visibility = .ok view.visibility
  /-- The view has its parameters, all of which have names. -/
  parameters : readParameters 1 declaration.parameters = .ok view.parameters
  /-- The view joins the group that it names, or the default one. -/
  grouped : view.group = declaration.bridge.group.getD defaults.group
  /-- This group can name generated classes. -/
  isGroup : Text.isIdentifier view.group = true

/-- Every rule that is broken rejects a declaration. -/
theorem accepted_of_read {defaults : ReadingDefaults} {declaration : Declaration}
    {view : View} {notices : List Notice}
    (accepted : read defaults declaration = .ok (view, notices)) :
    Accepted defaults declaration view := by
  unfold read at accepted
  cases stub : declaration.isStub with
  | false =>
    rw [stub] at accepted
    cases accepted
  | true =>
    cases place : declaration.file with
    | none =>
      simp only [stub, place] at accepted
      cases accepted
    | some file =>
      cases modifier : readVisibility declaration.visibility with
      | error rejection =>
        simp only [stub, place, modifier] at accepted
        cases accepted
      | ok visibility =>
        cases list : readParameters 1 declaration.parameters with
        | error rejection =>
          simp only [stub, place, modifier, list] at accepted
          cases accepted
        | ok parameters =>
          cases identifier : Text.isIdentifier (declaration.bridge.group.getD defaults.group) with
          | false =>
            simp only [stub, place, modifier, list, identifier] at accepted
            cases accepted
          | true =>
            simp only [stub, place, modifier, list, identifier] at accepted
            cases accepted
            exact ⟨stub, rfl, place, modifier, list, rfl, identifier⟩

/-- A report about a declaration starts with its name. -/
theorem name_prefix_report (declaration : Declaration) (severity : Severity)
    (code message : String) :
    declaration.name.toList <+: (report declaration severity code message).message.toList := by
  simp [report, List.append_assoc]

/-- Every declaration contributes a view or an error. -/
theorem contributes_verdict (defaults : ReadingDefaults) (declaration : Declaration) :
    Contributes declaration (verdict defaults declaration) := by
  unfold verdict
  cases outcome : read defaults declaration with
  | ok found =>
    obtain ⟨view, notices⟩ := found
    have rules := accepted_of_read outcome
    refine .accepted rules.named rules.filed fun notice inside => ?_
    obtain ⟨cause, -, rfl⟩ := List.mem_map.1 inside
    rfl
  | error rejection =>
    exact .rejected rfl rfl (name_prefix_report declaration .error rejection.code rejection.message)

end Reading

namespace Discovery

/-- The views that declarations contribute. -/
def contributedViews (defaults : ReadingDefaults) (declarations : List Declaration) : List View :=
  declarations.filterMap fun declaration => (Reading.verdict defaults declaration).1

/-- A view that declarations contribute is read from one of them. -/
theorem read_of_mem_contributedViews {defaults : ReadingDefaults}
    {declarations : List Declaration} {view : View}
    (inside : view ∈ contributedViews defaults declarations) :
    ∃ declaration ∈ declarations, ∃ notices,
      Reading.read defaults declaration = .ok (view, notices) := by
  obtain ⟨declaration, listed, contributed⟩ := List.mem_filterMap.1 inside
  refine ⟨declaration, listed, ?_⟩
  rw [Reading.verdict] at contributed
  split at contributed
  · rename_i outcome
    cases contributed
    exact ⟨_, outcome⟩
  · cases contributed

/-- The reports that declarations contribute. -/
def contributedReports (defaults : ReadingDefaults) (declarations : List Declaration) :
    List Diagnostic :=
  declarations.flatMap fun declaration => (Reading.verdict defaults declaration).2

/-- A discovery has what declarations contributed behind what another one had. -/
structure Extends (later earlier : Discovery) (declarations : List Declaration) : Prop where
  /-- Declarations are read with the same defaults. -/
  defaults : later.defaults = earlier.defaults
  /-- The runtime is the same. -/
  runtime : later.runtime = earlier.runtime
  /-- The checks are the same. -/
  lints : later.lints = earlier.lints
  /-- The views of the declarations are behind the earlier ones. -/
  views : later.views = earlier.views ++ contributedViews earlier.defaults declarations
  /-- The reports about the declarations are behind the earlier ones. -/
  diagnostics :
    later.diagnostics = earlier.diagnostics ++ contributedReports earlier.defaults declarations

/-- Contributions of some declarations and then of others are those of all of them. -/
theorem Extends.trans {first second third : Discovery} {front behind : List Declaration}
    (later : third.Extends second behind) (earlier : second.Extends first front) :
    third.Extends first (front ++ behind) where
  defaults := later.defaults.trans earlier.defaults
  runtime := later.runtime.trans earlier.runtime
  lints := later.lints.trans earlier.lints
  views := by
    rw [later.views, earlier.views, earlier.defaults, List.append_assoc, contributedViews,
      contributedViews, contributedViews, List.filterMap_append]
  diagnostics := by
    rw [later.diagnostics, earlier.diagnostics, earlier.defaults, List.append_assoc,
      contributedReports, contributedReports, contributedReports, List.flatMap_append]

/-- One more declaration contributes behind all others. -/
theorem extends_take (discovery : Discovery) (declaration : Declaration) :
    (discovery.take declaration).Extends discovery [declaration] where
  defaults := rfl
  runtime := rfl
  lints := rfl
  views := by
    cases found : (Reading.verdict discovery.defaults declaration).1 <;>
      simp [take, contributedViews, found]
  diagnostics := by simp [take, contributedReports]

/-- Several more declarations contribute behind all others. -/
theorem extends_foldl_take (discovery : Discovery) (declarations : List Declaration) :
    (declarations.foldl take discovery).Extends discovery declarations := by
  induction declarations generalizing discovery with
  | nil => exact ⟨rfl, rfl, rfl, by simp [contributedViews], by simp [contributedReports]⟩
  | cons declaration rest ih =>
    exact (ih (discovery.take declaration)).trans (extends_take discovery declaration)

/-- A round contributes behind the rounds before. -/
theorem extends_round (discovery : Discovery) (declarations : List Declaration) :
    (discovery.round declarations).Extends discovery declarations :=
  -- Counting the round leaves everything else as it was.
  ⟨(extends_foldl_take _ _).defaults, (extends_foldl_take _ _).runtime,
    (extends_foldl_take _ _).lints, (extends_foldl_take _ _).views,
    (extends_foldl_take _ _).diagnostics⟩

/-- Rounds contribute one after another. -/
theorem extends_rounds (discovery : Discovery) (rounds : List (List Declaration)) :
    (rounds.foldl round discovery).Extends discovery rounds.flatten := by
  induction rounds generalizing discovery with
  | nil => exact ⟨rfl, rfl, rfl, by simp [contributedViews], by simp [contributedReports]⟩
  | cons declarations rest ih =>
    exact (ih (discovery.round declarations)).trans (extends_round discovery declarations)

variable (options : Options) (rounds : List (List Declaration)) (target : BuildTarget)

/-- The views of a project are those that its declarations contribute. -/
theorem views_project :
    (project options rounds target).views =
      contributedViews (.ofOptions options) rounds.flatten := by
  have whole := (extends_rounds (start options Lint.builtin) rounds).views
  rw [project, finish, whole]
  simp [start]

/-- The reports of a project are those that its declarations contribute, and those of the lints
behind them. -/
theorem diagnostics_project :
    (project options rounds target).diagnostics =
      contributedReports (.ofOptions options) rounds.flatten ++
        Lint.builtin.flatMap (·.check (project options rounds target).views) := by
  have whole := extends_rounds (start options Lint.builtin) rounds
  rw [project, finish, whole.diagnostics, whole.lints]
  simp [start]

end Discovery

namespace Lint

/-- A clash of names is no error. -/
theorem Duplicates.isError_of_mem_warnings {earlier views : List View} {diagnostic : Diagnostic}
    (inside : diagnostic ∈ Duplicates.warnings earlier views) : diagnostic.isError = false := by
  induction views generalizing earlier with
  | nil => simp [Duplicates.warnings] at inside
  | cons view rest ih =>
    rw [Duplicates.warnings, List.mem_append] at inside
    cases inside with
    | inl first =>
      split at first
      · rw [List.mem_singleton] at first
        rw [first]
        rfl
      · simp at first
    | inr later => exact ih later

/-- A render target without a package is no error. -/
theorem UnqualifiedTarget.isError_of_warning? {view : View} {diagnostic : Diagnostic}
    (warned : warning? view = some diagnostic) : diagnostic.isError = false := by
  unfold warning? at warned
  split at warned
  · cases warned
  · split at warned
    · cases warned
    · rw [← Option.some.inj warned]
      rfl

/-- The lints report no errors. -/
theorem isError_of_mem_check {lint : Lint} (builtin : lint ∈ Lint.builtin) {views : List View}
    {diagnostic : Diagnostic} (inside : diagnostic ∈ lint.check views) :
    diagnostic.isError = false := by
  simp only [Lint.builtin, List.mem_cons, List.not_mem_nil, or_false] at builtin
  rcases builtin with rfl | rfl
  · exact Duplicates.isError_of_mem_warnings inside
  · obtain ⟨view, -, warned⟩ := List.mem_filterMap.1 inside
    exact UnqualifiedTarget.isError_of_warning? warned

end Lint

end ViewGlue
