import Mathlib.Data.List.Nodup
import ViewGlue.Proofs.CallSiteCapture
import ViewGlue.Proofs.Verdicts

/-!
# Slots

Every parameter of the class of modifiers becomes a slot, whatever its arguments and modifiers are,
and a call site hands the first slot on. So a view has one slot that takes a modifier exactly if its
declaration states no other parameter of that class (`Reading.slot_is_sound_iff`); where there are
several, all but the first are lost, and where the first is an array of modifiers or has arguments,
the composable gets something else than a modifier (`Reading.slots_are_lost`).
-/

namespace ViewGlue

open Host (HandsOnBehind Use)

namespace Reading

/-- The class of modifiers. -/
def modifierClass : QualifiedName := ⟨"androidx.compose.ui", "Modifier"⟩

/-- A parameter has the class of modifiers. -/
def IsOfModifiers (type : TypeExpr) : Prop :=
  ∃ arguments nullable, type = .named modifierClass arguments nullable

/-- The type of a modifier, which may be absent. -/
def IsModifier (type : TypeExpr) : Prop :=
  ∃ nullable, type = .named modifierClass [] nullable

/-- Slots are found by their class. -/
theorem isClass_slotClass_iff {type : TypeExpr} :
    type.isClass slotClass = true ↔ IsOfModifiers type := by
  have split : QualifiedName.ofDotted slotClass = modifierClass := by decide
  cases type <;>
    simp [TypeExpr.isClass, TypeExpr.className?, QualifiedName.isDotted, split, IsOfModifiers]

/-- The value of a parameter is a modifier if the parameter takes one value of that type. -/
theorem isModifier_valueType_iff {parameter : Parameter} :
    IsModifier parameter.valueType ↔ IsModifier parameter.type ∧ parameter.isVararg = false := by
  unfold Parameter.valueType
  cases parameter.isVararg with
  | true => simp [IsModifier]
  | false => simp

end Reading

open Reading

/-- A view has at most one slot, its type has no arguments, and its value is a modifier. -/
structure View.HasSoundSlot (view : View) : Prop where
  /-- No second parameter takes the modifier. -/
  unique : view.parameters.countP (·.isSlot) ≤ 1
  /-- The declared type is the class of modifiers itself. -/
  unapplied : ∀ slot ∈ view.parameters, slot.isSlot = true → IsModifier slot.type
  /-- So is the type of its value, which `vararg` would change. -/
  valued : ∀ slot ∈ view.parameters, slot.isSlot = true → IsModifier slot.valueType

/-- A declaration states at most one parameter of the class of modifiers, which has no arguments and
takes one value. -/
structure Declaration.StatesOneModifier (declaration : Declaration) : Prop where
  /-- No two parameters are of the class. -/
  single : declaration.parameters.countP (·.type.isClass slotClass) ≤ 1
  /-- A parameter of the class has no type arguments and no `vararg`. -/
  plain : ∀ parameter ∈ declaration.parameters, IsOfModifiers parameter.type →
    IsModifier parameter.type ∧ .vararg ∉ parameter.modifiers

namespace Reading

variable {defaults : ReadingDefaults} {declaration : Declaration} {view : View}

/-- The slots of a view are its parameters of the class of modifiers. -/
theorem Keeps.isSlot_iff (keeps : Keeps defaults declaration view) {parameter : Parameter}
    (inside : parameter ∈ view.parameters) :
    parameter.isSlot = true ↔ IsOfModifiers parameter.type := by
  rw [keeps.slots parameter inside, isClass_slotClass_iff]

/-- The slot of a view is sound if its declaration states one modifier. -/
theorem Keeps.hasSoundSlot_iff (keeps : Keeps defaults declaration view) :
    view.HasSoundSlot ↔ declaration.StatesOneModifier := by
  have count : view.parameters.countP (·.isSlot) =
      declaration.parameters.countP (·.type.isClass slotClass) := by
    rw [← keeps.parameters, List.countP_map]
    exact List.countP_congr fun parameter inside => by
      simp [keeps.slots parameter inside, declared]
  have plain : (∀ parameter ∈ declaration.parameters, IsOfModifiers parameter.type →
      IsModifier parameter.type ∧ .vararg ∉ parameter.modifiers) ↔
      ∀ slot ∈ view.parameters, slot.isSlot = true → IsModifier slot.valueType := by
    rw [← keeps.parameters, List.forall_mem_map]
    refine forall₂_congr fun slot inside => ?_
    rw [keeps.isSlot_iff inside, isModifier_valueType_iff]
    simp [declared, Parameter.isVararg]
  constructor
  · intro sound
    exact ⟨count ▸ sound.unique, plain.2 sound.valued⟩
  · intro states
    have valued := plain.1 states.plain
    exact ⟨count ▸ states.single, fun slot inside isSlot =>
      (isModifier_valueType_iff.1 (valued slot inside isSlot)).1, valued⟩

end Reading

namespace Host

variable {view : View} {parameter : Parameter}

/-- The type of what a body hands on as the modifier: the value of the slot, where the default
stands in for an absent one. -/
def Body.modifierType (body : Body) : TypeExpr :=
  match body.view.slot? with
  | some slot =>
    if slot.type.isNullable then slot.valueType.withNullable false else slot.valueType
  | none => .named modifierClass [] false

/-- A body hands a modifier on exactly if its slot, if it has one, takes a modifier. -/
theorem Body.modifierType_eq_iff {body : Body}
    (slots : ∀ slot ∈ body.view.slot?, IsOfModifiers slot.type) :
    body.modifierType = .named modifierClass [] false ↔
      ∀ slot ∈ body.view.slot?, IsModifier slot.valueType := by
  unfold modifierType
  cases found : body.view.slot? with
  | none => simp
  | some slot =>
    obtain ⟨arguments, nullable, type⟩ := slots slot found
    have fallback : (if slot.type.isNullable then slot.valueType.withNullable false
        else slot.valueType) = .named modifierClass [] false ↔ IsModifier slot.valueType := by
      unfold Parameter.valueType
      cases slot.isVararg with
      | true => simp [IsModifier, TypeExpr.withNullable, modifierClass]
      | false =>
        rw [type]
        cases nullable <;> simp [IsModifier, TypeExpr.withNullable, TypeExpr.isNullable]
    simpa using fallback

/-- A body hands a parameter on exactly if it carries data or is the first slot. -/
theorem exists_handsOnBehind_iff_of_mem (scope : Scope) (runtime : RuntimePackage)
    (inside : parameter ∈ view.parameters) :
    (∃ use before, HandsOnBehind scope ⟨view, runtime⟩ parameter use before) ↔
      parameter.isSlot = false ∨ view.slot? = some parameter := by
  have data : parameter ∈ view.dataParameters ↔ parameter.isSlot = false := by
    simp [View.dataParameters, inside]
  constructor
  · rintro ⟨use, placed⟩
    have takes := Body.exists_handsOnBehind_iff.1 placed
    cases use with
    | creation => exact .inl (data.1 takes)
    | update => exact .inl (data.1 takes)
    | modifier => exact .inr takes
  · rintro (carries | first)
    · exact ⟨.creation, Body.exists_handsOnBehind_iff.2 (data.2 carries)⟩
    · exact ⟨.modifier, Body.exists_handsOnBehind_iff.2 first⟩

/-- All parameters carry data or are the first slot exactly if there is at most one slot, where the
parameters have different names. -/
theorem forall_data_or_first_iff (distinct : (view.parameters.map (·.name)).Nodup) :
    (∀ parameter ∈ view.parameters, parameter.isSlot = false ∨ view.slot? = some parameter) ↔
      view.parameters.countP (·.isSlot) ≤ 1 := by
  have slots : (view.parameters.filter (·.isSlot)).Nodup :=
    (List.Nodup.of_map _ distinct).filter _
  have first : view.slot? = (view.parameters.filter (·.isSlot)).head? := by
    rw [List.head?_filter]
    rfl
  rw [List.countP_eq_length_filter, first]
  constructor
  · intro each
    cases all : view.parameters.filter (·.isSlot) with
    | nil => simp
    | cons slot others =>
      cases others with
      | nil => simp
      | cons second others =>
        have inside : second ∈ view.parameters.filter (·.isSlot) := by simp [all]
        obtain ⟨listed, isSlot⟩ := List.mem_filter.1 inside
        have same := (each second listed).resolve_left (by simp [isSlot])
        rw [all, List.head?_cons, Option.some.injEq] at same
        rw [all, same] at slots
        simp at slots
  · intro short parameter inside
    cases isSlot : parameter.isSlot with
    | false => exact .inl rfl
    | true =>
      have listed : parameter ∈ view.parameters.filter (·.isSlot) := by simp [inside, isSlot]
      cases all : view.parameters.filter (·.isSlot) with
      | nil => simp [all] at listed
      | cons slot others =>
        have alone : others = [] := by simpa [all] using short
        have same : parameter = slot := by simpa [all, alone] using listed
        exact .inr (by rw [List.head?_cons, same])

end Host

namespace Reading

/-- The slots of a view that was read are its parameters of the class of modifiers. The view has at
most one, and a sound one, exactly if its declaration states one modifier. A call site gives the
composable a modifier exactly if the value of the first slot is one; it hands on the data and the
first slot and nothing else, so parameters with different names are all handed on exactly if there
is at most one slot. -/
theorem slot_is_sound_iff {defaults : ReadingDefaults} {declaration : Declaration} {view : View}
    {notices : List Notice} (accepted : read defaults declaration = .ok (view, notices))
    (scope : Host.Scope) (runtime : RuntimePackage) :
    let body : Host.Body := ⟨view, runtime⟩
    (∀ parameter ∈ view.parameters,
      parameter.isSlot = true ↔ IsOfModifiers parameter.type) ∧
    (view.HasSoundSlot ↔ declaration.StatesOneModifier) ∧
    (body.modifierType = .named modifierClass [] false ↔
      ∀ slot ∈ view.slot?, IsModifier slot.valueType) ∧
    (∀ parameter ∈ view.parameters, (∃ use before, HandsOnBehind scope body parameter use before) ↔
      parameter.isSlot = false ∨ view.slot? = some parameter) ∧
    ((view.parameters.map (·.name)).Nodup →
      ((∀ parameter ∈ view.parameters,
          ∃ use before, HandsOnBehind scope body parameter use before) ↔
        view.parameters.countP (·.isSlot) ≤ 1)) := by
  intro body
  have keeps := keeps_of_read accepted
  have slots : ∀ slot ∈ view.slot?, IsOfModifiers slot.type := by
    intro slot first
    exact (keeps.isSlot_iff (List.mem_of_find?_eq_some first)).1 (List.find?_some first)
  have handed (parameter : Parameter) (inside : parameter ∈ view.parameters) :=
    Host.exists_handsOnBehind_iff_of_mem scope runtime inside
  refine ⟨fun parameter inside => keeps.isSlot_iff inside, keeps.hasSoundSlot_iff,
    Host.Body.modifierType_eq_iff slots, handed, fun distinct => ?_⟩
  rw [← Host.forall_data_or_first_iff distinct]
  exact forall₂_congr handed

/-- A map with a modifier that may be absent and a title. -/
def titledMap : Declaration where
  name := "ShowMap"
  file := some ⟨"src/Views.kt", "com.example"⟩
  parameters :=
    [⟨some "modifier", .named modifierClass [] true, []⟩,
     ⟨some "title", .ofDotted "kotlin.String", []⟩]

/-- The map with one modifier is accepted with a sound slot, and all of its parameters are handed
on. -/
theorem slot_of_titledMap_is_sound :
    ∃ view, read (.ofOptions {}) titledMap = .ok (view, []) ∧ view.HasSoundSlot ∧
      (view.parameters.map (·.name)).Nodup ∧
      ∀ scope runtime, Host.Body.modifierType ⟨view, runtime⟩ = .named modifierClass [] false ∧
        ∀ parameter ∈ view.parameters,
          ∃ use before, HandsOnBehind scope ⟨view, runtime⟩ parameter use before := by
  obtain ⟨view, accepted, distinct⟩ : ∃ view, read (.ofOptions {}) titledMap = .ok (view, []) ∧
      (view.parameters.map (·.name)).Nodup := ⟨_, rfl, by decide⟩
  have states : titledMap.StatesOneModifier := by
    refine ⟨by decide, ?_⟩
    have text : QualifiedName.ofDotted "kotlin.String" ≠ modifierClass := by decide
    simp [titledMap, IsOfModifiers, IsModifier, TypeExpr.ofDotted, text]
  have sound : view.HasSoundSlot :=
    (slot_is_sound_iff accepted ⟨"", []⟩ ⟨""⟩).2.1.2 states
  refine ⟨view, accepted, sound, distinct, fun scope runtime => ?_⟩
  obtain ⟨-, -, passed, -, handed⟩ := slot_is_sound_iff accepted scope runtime
  have valued : ∀ slot ∈ view.slot?, IsModifier slot.valueType := fun slot first =>
    sound.valued slot (List.mem_of_find?_eq_some first) (List.find?_some first)
  exact ⟨passed.2 valued, (handed distinct).2 sound.unique⟩

/-- A modifier with an argument. -/
def sizedModifier : TypeExpr :=
  .named modifierClass [.type .invariant (.ofDotted "kotlin.Int")] false

/-- A map with three parameters of the class of modifiers: one with an argument, one that takes any
number of modifiers, and one that takes a modifier. -/
def layeredMap : Declaration where
  name := "ShowMap"
  file := some ⟨"src/Views.kt", "com.example"⟩
  parameters :=
    [⟨some "frame", sizedModifier, []⟩,
     ⟨some "layers", .ofDotted slotClass, [.vararg]⟩,
     ⟨some "modifier", .ofDotted slotClass, []⟩]

/-- The map with three such parameters is accepted without a notice, and all three are slots. The
type of the first has an argument, so the composable gets no modifier; the value of the second is an
array; and neither the second nor the third is handed on. -/
theorem slots_are_lost :
    ∃ view frame layers modifier, read (.ofOptions {}) layeredMap = .ok (view, []) ∧
      view.parameters = [frame, layers, modifier] ∧ view.parameters.countP (·.isSlot) = 3 ∧
      ¬ IsModifier frame.type ∧ ¬ IsModifier layers.valueType ∧
      ∀ scope runtime, Host.Body.modifierType ⟨view, runtime⟩ ≠ .named modifierClass [] false ∧
        ∀ lost ∈ [layers, modifier], ∀ use before,
          ¬ HandsOnBehind scope ⟨view, runtime⟩ lost use before := by
  obtain ⟨view, accepted, stated⟩ : ∃ view, read (.ofOptions {}) layeredMap = .ok (view, []) ∧
      view.parameters =
        [⟨"frame", sizedModifier, true, []⟩, ⟨"layers", .ofDotted slotClass, true, [.vararg]⟩,
         ⟨"modifier", .ofDotted slotClass, true, []⟩] := ⟨_, rfl, by decide +kernel⟩
  refine ⟨view, _, _, _, accepted, stated, by rw [stated]; rfl, ?_, ?_, fun scope runtime => ?_⟩
  · rintro ⟨nullable, same⟩
    cases same
  · rintro ⟨nullable, same⟩
    simp [Parameter.valueType, Parameter.isVararg, modifierClass] at same
  have first : view.slot? = some ⟨"frame", sizedModifier, true, []⟩ := by
    rw [View.slot?, stated]
    rfl
  constructor
  · rw [Host.Body.modifierType, first]
    simp [Parameter.valueType, Parameter.isVararg, TypeExpr.isNullable, sizedModifier]
  · intro lost inside use before placed
    have listed : lost ∈ view.parameters := by
      rw [stated]
      exact List.mem_cons_of_mem _ inside
    have handed := (Host.exists_handsOnBehind_iff_of_mem scope runtime listed).1
      ⟨use, before, placed⟩
    rw [first] at handed
    simp only [List.mem_cons, List.not_mem_nil, or_false] at inside
    rcases inside with rfl | rfl
    · simp at handed
    · simp at handed

end Reading

end ViewGlue
