import ViewGlue.Lint
import ViewGlue.Project
import ViewGlue.Reading

/-!
# Discovery

Declarations are discovered in rounds. Each round adds its views and reports behind those of
the rounds before; when discovery ends, the lints look at all views and a project results.
-/

namespace ViewGlue

/-- What the rounds so far have brought. -/
structure Discovery where
  /-- What every declaration is read with. -/
  defaults : ReadingDefaults
  /-- The package of the runtime, which no round changes. -/
  runtime : RuntimePackage
  /-- The checks for the end of the last round. -/
  lints : List Lint
  /-- The views so far, in the order of their declarations. -/
  views : List View := []
  /-- The reports so far, in the same order. -/
  diagnostics : List Diagnostic := []
  /-- How many rounds there were. -/
  rounds : Nat := 0

namespace Discovery

/-- A discovery before its first round. -/
def start (options : Options) (lints : List Lint) : Discovery where
  defaults := .ofOptions options
  runtime := ⟨options.runtime⟩
  lints := lints

/-- The discovery after one more declaration. -/
def take (discovery : Discovery) (declaration : Declaration) : Discovery :=
  let (view, diagnostics) := Reading.verdict discovery.defaults declaration
  { discovery with
    views := discovery.views ++ view.toList
    diagnostics := discovery.diagnostics ++ diagnostics }

/-- The discovery after one more round. -/
def round (discovery : Discovery) (declarations : List Declaration) : Discovery :=
  declarations.foldl take { discovery with rounds := discovery.rounds + 1 }

/-- How many views a round brings. -/
def accepted (discovery : Discovery) (declarations : List Declaration) : Nat :=
  (discovery.round declarations).views.length - discovery.views.length

/-- The project of all views, with the reports of the lints behind those of the rounds. -/
def finish (discovery : Discovery) (target : BuildTarget) : Project where
  target := target
  views := discovery.views
  diagnostics :=
    discovery.diagnostics ++ discovery.lints.flatMap (·.check discovery.views)
  runtime := discovery.runtime

/-- The project that rounds of declarations lead to, with the checks that every run makes. -/
def project (options : Options) (rounds : List (List Declaration)) (target : BuildTarget) :
    Project :=
  (rounds.foldl round (start options Lint.builtin)).finish target

end Discovery

end ViewGlue
