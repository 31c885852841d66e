import ViewGlue.Proofs.GeneratedFiles
import ViewGlue.Run.Check
import ViewGlue.Run.Generate

/-!
# Reports of runs

A run reports what a check of the project reports, if a directory is given for the native sources
that the target needs (`allDiagnostics_eq_check`): what is reported about native sources does not
depend on the framework they import.
-/

namespace ViewGlue

open Output

namespace Foreign

/-- The reports about native sources do not depend on the framework. -/
theorem diagnostics_sources (framework other : Option String) (project : Project) :
    (sources framework project).diagnostics =
      (sources other project).diagnostics := by
  have paths (modules : List String) : (generated modules project).map (·.path) =
      (generated [] project).map (·.path) := by
    simp [generated, factories, observables, List.map_flatMap, Generated.path, Function.comp_def,
      FactoryProtocol.path, Binding.path, Observable.path, Observable.className]
  refine congrArg ((if project.target = .primary then bridgeDiagnostics project else []) ++ ·)
    (Registry.diagnostics_ofList_congr ?_)
  rw [List.map_map, List.map_map]
  exact (paths framework.toList).trans (paths other.toList).symm

end Foreign

namespace Run

variable {project : Project}

/-- There are host sources, and native ones if the target is the primary one and a directory is
given for them. -/
inductive AreOutputs (project : Project) (destination : Destination) :
    List (Sources × String) → Prop where
  /-- Host sources alone. -/
  | host (none : project.target = .primary → destination.foreign = none) :
    AreOutputs project destination [(Host.sources project, destination.host)]
  /-- Native sources behind those of the host. -/
  | both (primary : project.target = .primary) {directory : String}
    (given : destination.foreign = some directory) :
    AreOutputs project destination
      [(Host.sources project, destination.host),
        (Foreign.sources destination.framework project, directory)]

/-- The outputs of a project are its host sources and perhaps its native ones. -/
theorem areOutputs (project : Project) (destination : Destination) :
    AreOutputs project destination (outputs project destination) := by
  rw [outputs]
  split
  · rename_i primary given
    exact .both primary given
  · rename_i other
    refine .host fun primary => ?_
    cases given : destination.foreign with
    | none => rfl
    | some directory => exact absurd given (other directory primary)

/-- A run reports what a check reports, if a directory is given for the sources that the target
needs. -/
theorem allDiagnostics_eq_check {destination : Destination}
    (given : project.target = .primary → destination.foreign.isSome = true) (config : String) :
    allDiagnostics project destination = (check project config).diagnostics := by
  rw [allDiagnostics, check]
  have all := areOutputs project destination
  generalize outputs project destination = listed at all ⊢
  cases all with
  | host missing =>
    have other : project.target ≠ .primary := fun primary => by
      have present := given primary
      rw [missing primary] at present
      cases present
    rw [if_neg other, List.flatMap_singleton, List.append_nil]
  | both primary =>
    rw [if_pos primary, List.flatMap_cons, List.flatMap_singleton, List.append_assoc,
      Foreign.diagnostics_sources destination.framework none]

end Run

end ViewGlue
