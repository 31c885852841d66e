import Mathlib.Data.List.Nodup
import ViewGlue.Foreign.Artifacts
import ViewGlue.Host.Delegate
import ViewGlue.Proofs.Bridging
import ViewGlue.Proofs.DottedNames
import ViewGlue.Proofs.Verdicts

/-!
# Update methods

A delegate and the observable object that implements it have one method for each data parameter. A
method is named after its parameter, without the separators and with a capital at the start of each
word, so two parameters may get methods of one name. The methods of a view that was read have
different names exactly if the names of its data parameters differ when they are run together
(`Naming.methods_differ_iff`); identifiers that differ in more than separators and letter case do,
and so do different names in camel case.
-/

namespace ViewGlue

namespace Naming

open Text

/-- Underscores and hyphens separate the words of a name. -/
def separates (c : Char) : Bool :=
  c == '_' || c == '-'

/-- The letters of a name without its separators, where a letter is a capital if it is the first one
behind a separator, and also at the start if `starts` says so. -/
def runTogether (starts : Bool) : List Char → List Char
  | [] => []
  | c :: rest =>
    if separates c then runTogether true rest
    else (if starts then LetterCase.capital c else [c]) ++ runTogether false rest

/-- The letters of a name, all of them small and without its separators. -/
def letters (name : String) : List Char :=
  (name.toList.filter (! separates ·)).map Char.toLower

/-- Names in camel case start with a small letter and have no separators. -/
def IsCamelCase (name : String) : Prop :=
  ∃ c rest, name.toList = c :: rest ∧ 'a' ≤ c ∧ c ≤ 'z' ∧ rest.all (! separates ·) = true

/-- The words of a name, each with a capital in first place, are the name run together; the part
before the first separator is as it stands unless it starts a word. -/
theorem flatten_capitalizeChars (s : List Char) :
    ((splitChars separates s).map capitalizeChars).flatten = runTogether true s ∧
      ∀ part parts, splitChars separates s = part :: parts →
        part ++ (parts.map capitalizeChars).flatten = runTogether false s := by
  induction s with
  | nil => simp [splitChars, capitalizeChars, runTogether]
  | cons c rest ih =>
    obtain ⟨raised, plain⟩ := ih
    cases separator : separates c with
    | true => simp [splitChars, capitalizeChars, runTogether, separator, raised]
    | false =>
      cases split : splitChars separates rest with
      | nil => exact absurd split (splitChars_ne_nil _ rest)
      | cons part parts =>
        have behind := plain part parts split
        simp [splitChars, capitalizeChars, runTogether, separator, split, behind]

/-- Update methods have one name exactly if the names of their parameters are the same run
together. -/
theorem updateMethod_inj {left right : String} :
    updateMethod left = updateMethod right ↔
      runTogether true left.toList = runTogether true right.toList := by
  have run (name : String) : (pascalCase name).toList = runTogether true name.toList := by
    rw [← (flatten_capitalizeChars name.toList).1]
    exact String.toList_ofList
  rw [← run left, ← run right, String.toList_inj]
  simp [updateMethod]

/-! ## Names that are told apart -/

/-- What holds of the 128 first characters holds of every character below 128. -/
theorem forall_of_lt {P : Char → Prop} (each : ∀ code < 128, P (Char.ofNat code)) {c : Char}
    (plain : c.toNat < 128) : P c := by
  have one := each c.toNat plain
  rwa [Char.ofNat_toNat] at one

/-- Below 128 there is one capital, with the same small letter. -/
theorem capital_of_lt {c : Char} (plain : c.toNat < 128) :
    LetterCase.capital c = [c.toUpper] ∧ c.toUpper.toLower = c.toLower :=
  ⟨forall_of_lt (P := fun c => LetterCase.capital c = [c.toUpper])
      LetterCase.capital_ascii plain,
    forall_of_lt (P := fun c => c.toUpper.toLower = c.toLower) (by decide +kernel) plain⟩

/-- Running a name together changes separators and letter case only, below 128. -/
theorem map_toLower_runTogether {s : List Char} (plain : ∀ c ∈ s, c.toNat < 128) (starts : Bool) :
    (runTogether starts s).map Char.toLower = (s.filter (! separates ·)).map Char.toLower := by
  induction s generalizing starts with
  | nil => rfl
  | cons c rest ih =>
    obtain ⟨first, others⟩ := List.forall_mem_cons.1 plain
    obtain ⟨one, same⟩ := capital_of_lt first
    cases separator : separates c with
    | true => simp [runTogether, separator, ih others]
    | false => cases starts <;> simp [runTogether, separator, ih others, one, same]

/-- Without separators only the first letter changes. -/
theorem runTogether_of_all {s : List Char} (joined : s.all (! separates ·) = true) :
    runTogether false s = s := by
  induction s with
  | nil => rfl
  | cons c rest ih =>
    obtain ⟨letter, others⟩ : separates c = false ∧ rest.all (! separates ·) = true := by
      simpa using joined
    simp [runTogether, letter, ih others]

/-- Identifiers with update methods of one name differ in separators and letter case only. -/
theorem letters_of_updateMethod {left right : String} (first : isIdentifier left = true)
    (second : isIdentifier right = true) (same : updateMethod left = updateMethod right) :
    letters left = letters right := by
  have plain {name : String} (identifier : isIdentifier name = true) :
      ∀ c ∈ name.toList, c.toNat < 128 :=
    fun c inside => lt_of_continuesName (continuesName_of_mem identifier inside)
  have run := congrArg (List.map Char.toLower) (updateMethod_inj.1 same)
  rwa [map_toLower_runTogether (plain first), map_toLower_runTogether (plain second)] at run

/-- Names in camel case with update methods of one name are the same. -/
theorem eq_of_updateMethod {left right : String} (first : IsCamelCase left)
    (second : IsCamelCase right) (same : updateMethod left = updateMethod right) :
    left = right := by
  have run {name : String} (camel : IsCamelCase name) : ∃ c rest, name.toList = c :: rest ∧
      runTogether true name.toList = c.toUpper :: rest ∧ c.toUpper.toLower = c := by
    obtain ⟨c, rest, letters, least, greatest, joined⟩ := camel
    have plain : c.toNat < 128 := lt_of_continuesName (by
      simp [continuesName, isLetter, least, greatest])
    obtain ⟨letter, small⟩ : separates c = false ∧ c.toLower = c :=
      forall_of_lt (P := fun c => 'a' ≤ c → c ≤ 'z' → separates c = false ∧ c.toLower = c)
        (by decide +kernel) plain least greatest
    obtain ⟨one, again⟩ := capital_of_lt plain
    refine ⟨c, rest, letters, ?_, again.trans small⟩
    simp [letters, runTogether, letter, one, runTogether_of_all joined]
  obtain ⟨c, rest, letters, raised, small⟩ := run first
  obtain ⟨c', rest', letters', raised', small'⟩ := run second
  have both := updateMethod_inj.1 same
  rw [raised, raised', List.cons.injEq] at both
  obtain ⟨capitals, others⟩ := both
  have start : c = c' := small.symm.trans ((congrArg Char.toLower capitals).trans small')
  rw [← String.toList_inj, letters, letters', start, others]

/-- Update methods have different names exactly if the names of their parameters differ when they
are run together. -/
theorem nodup_map_updateMethod_iff {names : List String} :
    (names.map updateMethod).Nodup ↔ (names.map (runTogether true ·.toList)).Nodup := by
  simp only [List.Nodup, List.pairwise_map, ne_eq, updateMethod_inj]

/-- Update methods have different names if `key` takes different values at the names, where it takes
the same values wherever two methods have one name. -/
theorem nodup_map_updateMethod {α : Type} {names : List String} (key : String → α)
    (agrees : ∀ left ∈ names, ∀ right ∈ names,
      updateMethod left = updateMethod right → key left = key right)
    (apart : (names.map key).Nodup) : (names.map updateMethod).Nodup := by
  rw [List.Nodup, List.pairwise_map] at apart ⊢
  exact apart.imp_of_mem fun first second differ same => differ (agrees _ first _ second same)

end Naming

/-! ## The methods of a view -/

namespace Foreign

/-- The named methods of an observable object update the data of its view. -/
theorem Observable.methodNames {view : View} {bridged : BridgedView}
    (maps : BridgedView.ofView view = .ok bridged) (modules : List String) :
    (Observable.mk bridged modules).cls.functions.filterMap (·.name) =
      (view.dataParameters.map (·.name)).map Naming.updateMethod := by
  rw [← sources_of_mapM (BridgedView.ofView_eq_ok_iff.1 maps).2.2.1]
  simp [Observable.cls, Observable.initializer, Observable.update, Function.comp_def]

end Foreign

/-- The methods of a delegate update the data of its view. -/
theorem Host.Delegate.methodNames (delegate : Host.Delegate) :
    delegate.interface.functions.map (·.name) =
      (delegate.view.dataParameters.map (·.name)).map Naming.updateMethod := by
  simp [interface, methods, UpdateMethod.function, UpdateMethod.ofParameter, Function.comp_def]

/-- The data parameters of a view that was read are those its declaration states. -/
theorem Reading.Keeps.dataParameters {defaults : ReadingDefaults} {declaration : Declaration}
    {view : View} (keeps : Keeps defaults declaration view) :
    view.dataParameters.map declared =
      declaration.parameters.filter (! ·.type.isClass slotClass) := by
  rw [← keeps.parameters, List.filter_map, View.dataParameters]
  congr 1
  exact List.filter_congr fun parameter inside => by
    simp [keeps.slots parameter inside, declared]

/-- The delegate of a view that was read and the observable object that implements it have one
method for each parameter that the declaration states apart from the slots, and these have the same
names in the same order. They have different names exactly if the names of the parameters differ
when they are run together; identifiers that differ in more than separators and letter case do, and
so do different names in camel case. -/
theorem Naming.methods_differ_iff {defaults : ReadingDefaults} {declaration : Declaration}
    {view : View} {notices : List Reading.Notice}
    (accepted : Reading.read defaults declaration = .ok (view, notices))
    (runtime : RuntimePackage) :
    let names := view.dataParameters.map (·.name)
    let methods := (Host.Delegate.mk view runtime).interface.functions.map (·.name)
    view.dataParameters.map Reading.declared =
      declaration.parameters.filter (! ·.type.isClass Reading.slotClass) ∧
    methods = names.map updateMethod ∧
    (∀ bridged, Foreign.BridgedView.ofView view = .ok bridged → ∀ modules,
      (Foreign.Observable.mk bridged modules).cls.functions.filterMap (·.name) = methods) ∧
    (methods.Nodup ↔ (names.map (runTogether true ·.toList)).Nodup) ∧
    ((∀ name ∈ names, Text.isIdentifier name = true) → (names.map letters).Nodup →
      methods.Nodup) ∧
    ((∀ name ∈ names, IsCamelCase name) → names.Nodup → methods.Nodup) := by
  intro names methods
  have listed : methods = names.map updateMethod := Host.Delegate.methodNames ⟨view, runtime⟩
  refine ⟨(Reading.keeps_of_read accepted).dataParameters, listed, ?_, ?_, ?_, ?_⟩
  · intro bridged maps modules
    rw [listed, Foreign.Observable.methodNames maps]
  · rw [listed, nodup_map_updateMethod_iff]
  · intro identifiers apart
    rw [listed]
    exact nodup_map_updateMethod letters (fun left first right second =>
      letters_of_updateMethod (identifiers left first) (identifiers right second)) apart
  · intro camel apart
    rw [listed]
    exact nodup_map_updateMethod id (fun left first right second =>
      eq_of_updateMethod (camel left first) (camel right second)) (by simpa using apart)

/-- A map with a modifier, a title, its color and a zoom level. -/
def Naming.coloredMap : Declaration where
  name := "ShowMap"
  file := some ⟨"src/Views.kt", "com.example"⟩
  parameters :=
    [⟨some "modifier", .ofDotted Reading.slotClass, []⟩,
     ⟨some "title", .ofDotted "kotlin.String", []⟩,
     ⟨some "titleColor", .ofDotted "kotlin.String", []⟩,
     ⟨some "zoomLevel", .ofDotted "kotlin.Int", []⟩]

/-- The map with parameters in camel case is accepted, and the methods of its delegate and of its
observable object have different names. -/
theorem Naming.methods_of_coloredMap_differ :
    ∃ view bridged, Reading.read (.ofOptions {}) coloredMap = .ok (view, []) ∧
      Foreign.BridgedView.ofView view = .ok bridged ∧
      (∀ name ∈ view.dataParameters.map (·.name), IsCamelCase name) ∧
      ∀ runtime modules,
        ((Host.Delegate.mk view runtime).interface.functions.map (·.name)).Nodup ∧
        ((Foreign.Observable.mk bridged modules).cls.functions.filterMap (·.name)).Nodup := by
  obtain ⟨view, bridged, accepted, maps, stated⟩ : ∃ view bridged,
      Reading.read (.ofOptions {}) coloredMap = .ok (view, []) ∧
      Foreign.BridgedView.ofView view = .ok bridged ∧
      view.dataParameters.map (·.name) = ["title", "titleColor", "zoomLevel"] :=
    ⟨_, _, rfl, rfl, by decide⟩
  have camel : ∀ name ∈ view.dataParameters.map (·.name), IsCamelCase name := by
    rw [stated]
    simp only [List.forall_mem_cons, IsCamelCase]
    exact ⟨⟨'t', _, rfl, by decide⟩, ⟨'t', _, rfl, by decide⟩, ⟨'z', _, rfl, by decide⟩, by simp⟩
  refine ⟨view, bridged, accepted, maps, camel, fun runtime modules => ?_⟩
  obtain ⟨-, -, observed, -, -, apart⟩ := methods_differ_iff accepted runtime
  have differ := apart camel (by rw [stated]; decide)
  exact ⟨differ, by rw [observed bridged maps modules]; exact differ⟩

/-- A map with a modifier and two titles whose names are the same run together. -/
def Naming.twiceTitledMap : Declaration where
  name := "ShowMap"
  file := some ⟨"src/Views.kt", "com.example"⟩
  parameters :=
    [⟨some "modifier", .ofDotted Reading.slotClass, []⟩,
     ⟨some "map_title", .ofDotted "kotlin.String", []⟩,
     ⟨some "mapTitle", .ofDotted "kotlin.String", []⟩]

/-- The map with two titles is accepted, its data parameters have different names, and both methods
of its delegate and of its observable object have one name and take a text. -/
theorem Naming.titles_share_methods :
    ∃ view bridged, Reading.read (.ofOptions {}) twiceTitledMap = .ok (view, []) ∧
      Foreign.BridgedView.ofView view = .ok bridged ∧
      view.dataParameters.map (·.name) = ["map_title", "mapTitle"] ∧
      view.dataParameters.map (·.valueType) =
        [.ofDotted "kotlin.String", .ofDotted "kotlin.String"] ∧
      ∀ runtime modules,
        (Host.Delegate.mk view runtime).interface.functions.map (·.name) =
          ["updateMapTitle", "updateMapTitle"] ∧
        (Foreign.Observable.mk bridged modules).cls.functions.filterMap (·.name) =
          ["updateMapTitle", "updateMapTitle"] := by
  obtain ⟨view, bridged, accepted, maps, stated, types⟩ : ∃ view bridged,
      Reading.read (.ofOptions {}) twiceTitledMap = .ok (view, []) ∧
      Foreign.BridgedView.ofView view = .ok bridged ∧
      view.dataParameters.map (·.name) = ["map_title", "mapTitle"] ∧
      view.dataParameters.map (·.valueType) =
        [.ofDotted "kotlin.String", .ofDotted "kotlin.String"] :=
    ⟨_, _, rfl, rfl, by decide, rfl⟩
  have shared : (view.dataParameters.map (·.name)).map updateMethod =
      ["updateMapTitle", "updateMapTitle"] := by
    rw [stated]
    decide
  refine ⟨view, bridged, accepted, maps, stated, types, fun runtime modules => ⟨?_, ?_⟩⟩
  · rw [Host.Delegate.methodNames, shared]
  · rw [Foreign.Observable.methodNames maps, shared]

end ViewGlue
