import ViewGlue.Foreign.BridgedView
import ViewGlue.Proofs.Traversals

/-!
# Bridging views

What bridging a view and its parameters gives when it succeeds: everything on the native side is
read off the view.
-/

namespace ViewGlue.Foreign

/-- A data parameter is bridged under its safe name with both written forms of its value type. -/
theorem BridgedParameter.ofParameter_eq_ok_iff {parameter : Parameter}
    {bridged : BridgedParameter} :
    ofParameter parameter = .ok bridged ↔
      bridged.name = safeName parameter.name ∧ bridged.source = parameter.name ∧
        mapType parameter.valueType .parameter = .ok bridged.parameterType ∧
        mapType parameter.valueType .property = .ok bridged.propertyType := by
  obtain ⟨name, source, parameterType, propertyType⟩ := bridged
  cases first : mapType parameter.valueType .parameter <;>
    cases second : mapType parameter.valueType .property <;>
    simp [ofParameter, first, second, bind, Except.bind, pure, Except.pure, eq_comm]

/-- Parameters are bridged under their safe names. -/
theorem names_of_mapM {parameters : List Parameter} {bridged : List BridgedParameter}
    (maps : parameters.mapM BridgedParameter.ofParameter = .ok bridged) :
    bridged.map (·.name) = parameters.map (safeName ·.name) :=
  map_eq_of_mapM (fun _ _ one => (BridgedParameter.ofParameter_eq_ok_iff.1 one).1) maps

/-- Parameters keep their names as sources. -/
theorem sources_of_mapM {parameters : List Parameter} {bridged : List BridgedParameter}
    (maps : parameters.mapM BridgedParameter.ofParameter = .ok bridged) :
    bridged.map (·.source) = parameters.map (·.name) :=
  map_eq_of_mapM (fun _ _ one => (BridgedParameter.ofParameter_eq_ok_iff.1 one).2.1) maps

/-- A view is bridged if it has no type parameters, each of its data parameters is bridged, and
the native factory has a result for it. -/
theorem BridgedView.ofView_eq_ok_iff {view : View} {bridged : BridgedView} :
    ofView view = .ok bridged ↔
      view.typeParameters = [] ∧ bridged.view = view ∧
        view.dataParameters.mapM BridgedParameter.ofParameter = .ok bridged.parameters ∧
        factoryResult view = .ok bridged.result := by
  obtain ⟨same, parameters, result⟩ := bridged
  cases generics : view.typeParameters with
  | cons first others => simp [ofView, generics]
  | nil =>
    cases first : view.dataParameters.mapM BridgedParameter.ofParameter <;>
      cases second : factoryResult view <;>
      simp [ofView, generics, first, second, bind, Except.bind, pure, Except.pure, eq_comm]

/-- A view has a bridged counterpart exactly if bridging it succeeds. -/
theorem BridgedView.ofView?_eq_some_iff {view : View} {bridged : BridgedView} :
    ofView? view = some bridged ↔ ofView view = .ok bridged := by
  cases outcome : ofView view <;> simp [ofView?, outcome, Except.toOption]

/-- A bridged view is the view with what the native side adds. -/
theorem BridgedView.view_of_ofView? {view : View} {bridged : BridgedView}
    (maps : ofView? view = some bridged) : bridged.view = view :=
  (ofView_eq_ok_iff.1 (ofView?_eq_some_iff.1 maps)).2.1

/-- A view is bridged or reported, and never both. -/
theorem BridgedView.report?_eq_none_iff {view : View} :
    report? view = none ↔ ∃ bridged, ofView? view = some bridged := by
  cases outcome : ofView view <;> simp [ofView?, report?, outcome, Except.toOption]

end ViewGlue.Foreign
