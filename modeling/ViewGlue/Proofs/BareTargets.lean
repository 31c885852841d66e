import ViewGlue.Proofs.TargetAgreement
import ViewGlue.Proofs.Verdicts

/-!
# Render targets without a package

A call site writes a render target by its simple name, with nothing in the file that says where it
comes from, exactly if the target has no package (`written_bare_iff`). The lint about render targets
looks for a dot in what a declaration states. These two differ for a simple name with a dot in
front, which splits into a name without a package (`package_ofDotted_eq_empty_iff`): the lint warns
of all other targets without a package that a declaration states (`warns_of_bare_targets`), and of
such a one it does not (`dotted_target_is_overlooked`).
-/

namespace ViewGlue

/-! ## Names that split into one without a package -/

namespace QualifiedName

/-- A text without dots is a name without a package. -/
theorem ofDotted_of_notMem {written : String} (outside : '.' ∉ written.toList) :
    ofDotted written = ⟨"", written⟩ := by
  simp [ofDotted, Text.splitLastChars_eq_none_iff.2 outside]

/-- A text splits into a name without a package exactly if it has no dot or one in front only. -/
theorem package_ofDotted_eq_empty_iff (written : String) :
    (ofDotted written).package = "" ↔
      '.' ∉ written.toList ∨ written = "." ++ (ofDotted written).simple := by
  cases split : Text.splitLastChars '.' written.toList with
  | none =>
    have outside : '.' ∉ written.toList := Text.splitLastChars_eq_none_iff.1 split
    simp [ofDotted_of_notMem outside, outside]
  | some parts =>
    obtain ⟨before, behind⟩ := parts
    obtain ⟨letters, -⟩ := Text.splitLastChars_eq_some split
    have parts : ofDotted written = ⟨String.ofList before, String.ofList behind⟩ := by
      simp [ofDotted, split]
    have inside : '.' ∈ written.toList := by simp [letters]
    have dotted : ("." ++ String.ofList behind).toList = '.' :: behind := by simp
    have front : written = "." ++ String.ofList behind ↔ before = [] := by
      rw [← String.toList_inj, letters, dotted]
      exact List.append_left_eq_self
    have bare : String.ofList before = "" ↔ before = [] := by
      rw [← String.toList_inj, String.toList_ofList]
      rfl
    simp [parts, inside, front, bare]

end QualifiedName

/-! ## Names in call sites -/

namespace Host

namespace Scope

/-- A file says where a simple name in it comes from: the class owns it, and is imported, declared
in the package of the file, or visible by default. -/
structure Places (scope : Scope) (name : QualifiedName) : Prop where
  /-- The simple name belongs to the class. -/
  owned : scope.owner? name.simple = some name
  /-- The file sees the class under its simple name. -/
  visible : (name.package, name.simple) ∈ scope.imports.entries ∨ name.package = scope.package ∨
    name.package ∈ defaultPackages

/-- Classes that own simple names by reference have packages. -/
theorem packaged_of_mem_owners {package : String} {names : List QualifiedName}
    {owner : QualifiedName} (inside : owner ∈ (referAll ⟨package, []⟩ names).owners) :
    owner.package ≠ "" := by
  induction names using List.reverseRecOn with
  | nil => cases inside
  | append_singleton names last ih =>
    have step : referAll ⟨package, []⟩ (names ++ [last]) =
        (referAll ⟨package, []⟩ names).refer last := by
      simp [referAll]
    rw [step, refer] at inside
    split at inside
    · exact ih inside
    · rename_i packaged
      unfold take at inside
      split at inside
      · exact ih inside
      · rcases List.mem_append.1 inside with before | here
        · exact ih before
        · rw [List.mem_singleton.1 here]
          exact packaged

/-- In a file without declarations of its own a class is written by its simple name, with nothing
that says where it comes from, exactly if it has no package. -/
theorem written_bare_iff (package : String) (names : List QualifiedName) (name : QualifiedName) :
    let scope := referAll ⟨package, []⟩ names
    scope.write name = name.simple ∧ ¬ scope.Places name ↔ name.package = "" := by
  intro scope
  constructor
  · rintro ⟨short, unplaced⟩
    by_cases bare : name.package = ""
    · exact bare
    · have differ := QualifiedName.dotted_ne_simple bare
      obtain full | ⟨-, owned, imported⟩ := (distinct_referAll package names).names_write name
      · exact absurd (full.symm.trans short) differ
      · refine absurd ⟨owned, ?_⟩ unplaced
        by_cases needed : scope.needsImport name = true
        · exact .inl (imported needed)
        · have visible : name.package = scope.package ∨ name.package ∈ defaultPackages := by
            simpa [needsImport, or_iff_not_imp_left] using needed
          exact .inr visible
  · intro bare
    refine ⟨by simp [write, bare], fun placed => ?_⟩
    exact packaged_of_mem_owners (List.mem_of_find?_eq_some placed.owned) bare

end Scope

end Host

/-! ## Warnings -/

/-- A view that declarations contribute keeps what one of them states. -/
theorem Discovery.keeps_of_mem_contributedViews {defaults : ReadingDefaults}
    {declarations : List Declaration} {view : View}
    (inside : view ∈ contributedViews defaults declarations) :
    ∃ declaration ∈ declarations, Reading.Keeps defaults declaration view := by
  obtain ⟨declaration, listed, _, outcome⟩ := read_of_mem_contributedViews inside
  exact ⟨declaration, listed, Reading.keeps_of_read outcome⟩

namespace View

/-- A view has a render target of its own whose name splits into one without a package. -/
def lacksPackage (view : View) : Bool :=
  view.customTarget.isSome && view.renderTarget.package == ""

/-- The render target of a view's own is stated as a simple name with a dot in front. -/
def dotsTarget (view : View) : Bool :=
  view.customTarget == some ("." ++ view.renderTarget.simple)

end View

namespace Lint.UnqualifiedTarget

/-- The warning about a view with a render target that has no package. -/
def report (view : View) : Diagnostic :=
  warning lintName view
    ("custom render target '" ++ view.renderTarget.simple ++
      "' is not fully qualified; resolving it in package '" ++ view.file.package ++ "'")

/-- A view is warned of if it has a render target of its own that has no package and that is not
stated with a dot in front. -/
theorem warning?_eq {defaults : ReadingDefaults} {declaration : Declaration} {view : View}
    (keeps : Reading.Keeps defaults declaration view) :
    warning? view =
      if (view.lacksPackage && !view.dotsTarget) = true then some (report view) else none := by
  have target := keeps.renderTarget
  unfold warning? View.lacksPackage View.dotsTarget
  cases stated : view.customTarget with
  | none => rfl
  | some written =>
    rw [stated, Option.map_some, Option.getD_some] at target
    have splits := QualifiedName.package_ofDotted_eq_empty_iff written
    rw [← target] at splits
    by_cases inside : '.' ∈ written.toList
    · -- A name with a dot has a package, or the dot stands in front.
      have unwarned : ¬ (view.renderTarget.package = "" ∧
          ¬ written = "." ++ view.renderTarget.simple) := by
        rintro ⟨bare, other⟩
        exact other ((splits.1 bare).resolve_left (not_not_intro inside))
      simp [inside, unwarned]
    · have bare : view.renderTarget = ⟨"", written⟩ :=
        target.trans (QualifiedName.ofDotted_of_notMem inside)
      have other : ¬ written = "." ++ written := by
        intro same
        apply inside
        rw [same]
        simp
      simp [inside, bare, other, report]

end Lint.UnqualifiedTarget

namespace Host

/-- The lint about render targets warns of the views that have a render target of their own without
a package, one after another, but for those whose target is stated as a simple name with a dot in
front, which have no package either. Wherever the function of a view is generated, it ends with a
call of the render target, and that is written by its simple name with nothing in the file that
says where it comes from exactly if it has no package. -/
theorem warns_of_bare_targets (defaults : ReadingDefaults) (declarations : List Declaration) :
    let views := Discovery.contributedViews defaults declarations
    Lint.unqualifiedTarget.check views =
      (views.filter fun view => view.lacksPackage && !view.dotsTarget).map
        Lint.UnqualifiedTarget.report ∧
    (∀ view ∈ views, view.dotsTarget = true → view.lacksPackage = true) ∧
    ∀ callSite : CallSite, ∀ actual ∈ callSite.functions,
      (∃ arguments, (actual.body.statements callSite.scope).getLast? =
        some (.runSpread (callSite.scope.write actual.view.renderTarget) arguments)) ∧
      (callSite.scope.write actual.view.renderTarget = actual.view.renderTarget.simple ∧
          ¬ callSite.scope.Places actual.view.renderTarget ↔
        actual.view.renderTarget.package = "") := by
  intro views
  refine ⟨?_, fun view inside dots => ?_, fun callSite actual _ => ⟨?_, ?_⟩⟩
  · have each : ∀ view ∈ views, Lint.UnqualifiedTarget.warning? view =
        if (view.lacksPackage && !view.dotsTarget) = true then
          some (Lint.UnqualifiedTarget.report view)
        else none := by
      intro view inside
      obtain ⟨declaration, -, keeps⟩ := Discovery.keeps_of_mem_contributedViews inside
      exact Lint.UnqualifiedTarget.warning?_eq keeps
    rw [← List.filterMap_eq_map, List.filterMap_filter]
    exact List.filterMap_congr each
  · obtain ⟨declaration, -, keeps⟩ := Discovery.keeps_of_mem_contributedViews inside
    have stated : view.customTarget = some ("." ++ view.renderTarget.simple) := by
      simpa [View.dotsTarget] using dots
    have target := keeps.renderTarget
    rw [stated, Option.map_some, Option.getD_some] at target
    have bare : view.renderTarget.package = "" := by
      rw [target]
      apply (QualifiedName.package_ofDotted_eq_empty_iff _).2
      rw [← target]
      exact .inr rfl
    simp [View.lacksPackage, stated, bare]
  · refine ⟨[.labelled "modifier" (Body.modifier callSite.scope actual.body),
      .labelled "factory" (.closure (.name "view"))], ?_⟩
    rw [Body.statements, List.getLast?_append]
    rfl
  · exact Scope.written_bare_iff _ _ _

/-- A map whose render target is stated as a simple name with a dot in front. -/
def dottedTarget : Declaration where
  name := "ShowMap"
  file := some ⟨"src/Views.kt", "com.example"⟩
  renderTarget := some (some ".MapInterop")
  parameters := [⟨some "modifier", .ofDotted Reading.slotClass, []⟩]

/-- The map is accepted and has a render target of its own that has no package, and the lint has no
warning for it. Its function calls the target by its simple name, and nothing says where that comes
from. -/
theorem dotted_target_is_overlooked :
    ∃ view, Reading.read (.ofOptions {}) dottedTarget = .ok (view, []) ∧
      Discovery.contributedViews (.ofOptions {}) [dottedTarget] = [view] ∧
      view.customTarget = some ".MapInterop" ∧
      view.renderTarget = ⟨"", "MapInterop"⟩ ∧
      Lint.unqualifiedTarget.check [view] = [] ∧
      ∀ runtime target, let callSite := CallSite.ofSource target runtime view.file [view]
        callSite.scope.write view.renderTarget = "MapInterop" ∧
        ¬ callSite.scope.Places view.renderTarget := by
  refine ⟨_, rfl, rfl, rfl, rfl, rfl, fun runtime target => ?_⟩
  exact (Scope.written_bare_iff _ _ _).2 rfl

end Host

end ViewGlue
