import ViewGlue.Foreign.TypeMap
import ViewGlue.Proofs.DottedNames

/-!
# Types that can be bridged

The types with a counterpart on the native side are a least set (`Bridgeable`): some classes of the
standard packages, the containers of such types, plain classes from elsewhere, and the functions
between such types. A type is written there exactly if it is in the set, wherever it stands, and
the type that is reported otherwise is a part of it that is not (`mapType_decides_bridgeable`).
-/

namespace ViewGlue

namespace TypeExpr

/-! ## Parts of types -/

/-- Every type is a part of itself. -/
theorem contains_self (type : TypeExpr) : contains type type = true := by
  cases type <;> simp [contains]

/-- Some of the types contains a part exactly if one of them does. -/
theorem listContains_iff {inner : TypeExpr} {types : List TypeExpr} :
    listContains inner types = true ↔ ∃ type ∈ types, contains inner type = true := by
  induction types with
  | nil => simp [listContains]
  | cons type types ih => simp [listContains, ih]

end TypeExpr

namespace Foreign

open TypeExpr

/-! ## The set -/

/-- The classes of the first standard package with a counterpart of their own. -/
def scalars : List String :=
  ["String", "Any", "Unit", "Boolean", "Byte", "Short", "Int", "Long", "Float", "Double"]

/-- The containers of one type. -/
def collections : List String := ["List", "MutableList", "Set", "MutableSet"]

/-- The containers of keys and values. -/
def dictionaries : List String := ["Map", "MutableMap"]

/-- The package is one of the standard packages or below it. -/
def InStandardPackage (package : String) : Prop :=
  package = "kotlin" ∨ "kotlin.".toList <+: package.toList

/-- The types that can be bridged. Each may admit an absent value or not, and each argument of a
container may have any variance. -/
inductive Bridgeable : TypeExpr → Prop where
  /-- One of the listed classes for single values. -/
  | scalar {simple : String} {nullable : Bool} (listed : simple ∈ scalars) :
      Bridgeable (.named ⟨"kotlin", simple⟩ [] nullable)
  /-- A list or a set of values that can be bridged. -/
  | collection {simple : String} {variance : Variance} {item : TypeExpr} {nullable : Bool}
      (listed : simple ∈ collections) (each : Bridgeable item) :
      Bridgeable (.named ⟨"kotlin.collections", simple⟩ [.type variance item] nullable)
  /-- A map whose keys and values can be bridged. -/
  | dictionary {simple : String} {first second : Variance} {key value : TypeExpr}
      {nullable : Bool} (listed : simple ∈ dictionaries) (keys : Bridgeable key)
      (values : Bridgeable value) :
      Bridgeable
        (.named ⟨"kotlin.collections", simple⟩ [.type first key, .type second value] nullable)
  /-- A pair of values that can be bridged. -/
  | pair {first second : Variance} {left right : TypeExpr} {nullable : Bool}
      (lefts : Bridgeable left) (rights : Bridgeable right) :
      Bridgeable (.named ⟨"kotlin", "Pair"⟩ [.type first left, .type second right] nullable)
  /-- A class from outside the standard packages, without arguments. -/
  | elsewhere {name : QualifiedName} {nullable : Bool}
      (outside : ¬ InStandardPackage name.package) : Bridgeable (.named name [] nullable)
  /-- A function whose parameters and result can be bridged. -/
  | function {parameters : List TypeExpr} {result : TypeExpr} {nullable : Bool}
      (each : ∀ parameter ∈ parameters, Bridgeable parameter) (last : Bridgeable result) :
      Bridgeable (.function parameters result nullable)

/-- The arguments of a bridgeable class are bridgeable types, and none is a star. -/
theorem Bridgeable.arguments {name : QualifiedName} {arguments : List TypeArgument}
    {nullable : Bool} (bridges : Bridgeable (.named name arguments nullable)) :
    ∀ argument ∈ arguments, ∃ variance type, argument = .type variance type ∧
      Bridgeable type := by
  cases bridges with
  | scalar | elsewhere => simp
  | collection _ each => exact List.forall_mem_singleton.2 ⟨_, _, rfl, each⟩
  | dictionary _ keys values =>
    exact List.forall_mem_cons.2
      ⟨⟨_, _, rfl, keys⟩, List.forall_mem_singleton.2 ⟨_, _, rfl, values⟩⟩
  | pair lefts rights =>
    exact List.forall_mem_cons.2
      ⟨⟨_, _, rfl, lefts⟩, List.forall_mem_singleton.2 ⟨_, _, rfl, rights⟩⟩

/-- Every part of a bridgeable type is bridgeable. -/
theorem Bridgeable.of_contains {inner type : TypeExpr} (bridges : Bridgeable type)
    (inside : contains inner type = true) : Bridgeable inner := by
  induction bridges with
  | scalar listed =>
    obtain rfl : inner = _ := by simpa [contains, argumentListContains] using inside
    exact .scalar listed
  | elsewhere outside =>
    obtain rfl : inner = _ := by simpa [contains, argumentListContains] using inside
    exact .elsewhere outside
  | collection listed each ih =>
    simp only [contains, argumentListContains, argumentContains, Bool.or_false, Bool.or_eq_true,
      decide_eq_true_eq] at inside
    obtain rfl | inside := inside
    · exact .collection listed each
    · exact ih inside
  | dictionary listed keys values key value =>
    simp only [contains, argumentListContains, argumentContains, Bool.or_false, Bool.or_eq_true,
      decide_eq_true_eq] at inside
    obtain rfl | inside | inside := inside
    · exact .dictionary listed keys values
    · exact key inside
    · exact value inside
  | pair lefts rights left right =>
    simp only [contains, argumentListContains, argumentContains, Bool.or_false, Bool.or_eq_true,
      decide_eq_true_eq] at inside
    obtain rfl | inside | inside := inside
    · exact .pair lefts rights
    · exact left inside
    · exact right inside
  | function each last parameter result =>
    simp only [contains, Bool.or_eq_true, decide_eq_true_eq, listContains_iff] at inside
    obtain (rfl | ⟨type, listed, inside⟩) | inside := inside
    · exact .function each last
    · exact parameter type listed inside
    · exact result inside

/-! ## Shapes of classes -/

/-- The test for standard packages is exact. -/
theorem isStandardPackage_iff {package : String} :
    isStandardPackage package = true ↔ InStandardPackage package := by
  simp [isStandardPackage, InStandardPackage]

/-- A key is one of a table exactly if it is found there. -/
theorem mem_keys_iff {α : Type} {table : List (String × α)} {key : String} :
    key ∈ table.map (·.1) ↔ (table.find? (·.1 = key)).isSome = true := by
  simp [List.find?_isSome]

/-- The dotted names of the plain classes that are listed with a counterpart. -/
def listedClasses : List String :=
  primitives.map (·.1) ++ simpleClasses.map (·.1)

/-- A plain class has a shape if it is listed or stands outside the standard packages. -/
theorem plainShape_ne_unmapped_iff {name : QualifiedName} :
    plainShape name ≠ .unmapped ↔
      name.dotted ∈ listedClasses ∨ ¬ InStandardPackage name.package := by
  rw [← isStandardPackage_iff, listedClasses, List.mem_append, mem_keys_iff, mem_keys_iff]
  unfold plainShape
  cases primitives.find? (·.1 = name.dotted) with
  | some entry => simp
  | none =>
    cases simpleClasses.find? (·.1 = name.dotted) with
    | some entry => simp
    | none => cases isStandardPackage name.package <;> simp

/-- A bridgeable class has a shape. -/
theorem Bridgeable.classShape_ne_unmapped {name : QualifiedName} {arguments : List TypeArgument}
    {nullable : Bool} (bridges : Bridgeable (.named name arguments nullable)) :
    classShape name arguments.length ≠ .unmapped := by
  cases bridges with
  | scalar listed =>
    have shaped : ∀ simple ∈ scalars, classShape ⟨"kotlin", simple⟩ 0 ≠ .unmapped := by decide
    exact shaped _ listed
  | collection listed _ =>
    have shaped : ∀ simple ∈ collections,
        classShape ⟨"kotlin.collections", simple⟩ 1 ≠ .unmapped := by decide
    exact shaped _ listed
  | dictionary listed _ _ =>
    have shaped : ∀ simple ∈ dictionaries,
        classShape ⟨"kotlin.collections", simple⟩ 2 ≠ .unmapped := by decide
    exact shaped _ listed
  | pair =>
    show classShape ⟨"kotlin", "Pair"⟩ 2 ≠ .unmapped
    decide
  | elsewhere outside => exact plainShape_ne_unmapped_iff.2 (.inr outside)

/-- A class whose dotted form is in a table has one of the names that the table is made of. -/
theorem exists_simple_of_dotted {name : QualifiedName} (split : '.' ∉ name.simple.toList)
    {table : List String} (listed : name.dotted ∈ table) (package : String)
    (simples : List String)
    (made : ∀ dotted ∈ table, ∃ simple ∈ simples,
      dotted = QualifiedName.dotted ⟨package, simple⟩ ∧ '.' ∉ simple.toList) :
    ∃ simple ∈ simples, name = ⟨package, simple⟩ := by
  obtain ⟨simple, found, same, plain⟩ := made _ listed
  refine ⟨simple, found, ?_⟩
  rw [← QualifiedName.ofDotted_dotted split, same, QualifiedName.ofDotted_dotted plain]

/-- A class with a shape whose arguments are bridgeable types is bridgeable. -/
theorem bridgeable_of_classShape {name : QualifiedName} {arguments : List TypeArgument}
    {nullable : Bool} (split : '.' ∉ name.simple.toList)
    (shaped : classShape name arguments.length ≠ .unmapped)
    (each : ∀ argument ∈ arguments, ∃ variance type, argument = .type variance type ∧
      Bridgeable type) :
    Bridgeable (.named name arguments nullable) := by
  match arguments with
  | [] =>
    obtain listed | outside := plainShape_ne_unmapped_iff.1 shaped
    · obtain ⟨simple, found, rfl⟩ :=
        exists_simple_of_dotted split listed "kotlin" scalars (by decide)
      exact .scalar found
    · exact .elsewhere outside
  | [argument] =>
    obtain ⟨variance, item, rfl, bridges⟩ := each argument (by simp)
    have listed : name.dotted ∈ ["kotlin.collections.List", "kotlin.collections.MutableList"] ++
        ["kotlin.collections.Set", "kotlin.collections.MutableSet"] := by
      simp only [List.length_cons, List.length_nil, classShape] at shaped
      rw [List.mem_append]
      split at shaped
      · exact .inl ‹_›
      · split at shaped
        · exact .inr ‹_›
        · exact absurd rfl shaped
    obtain ⟨simple, found, rfl⟩ :=
      exists_simple_of_dotted split listed "kotlin.collections" collections (by decide)
    exact .collection found bridges
  | [first, second] =>
    obtain ⟨variance, key, rfl, keys⟩ := each first (by simp)
    obtain ⟨other, value, rfl, values⟩ := each second (by simp)
    simp only [List.length_cons, List.length_nil, classShape] at shaped
    split at shaped
    · obtain ⟨simple, found, rfl⟩ :=
        exists_simple_of_dotted split ‹_› "kotlin.collections" dictionaries (by decide)
      exact .dictionary found keys values
    · split at shaped
      · obtain ⟨simple, found, rfl⟩ := exists_simple_of_dotted split
          (List.mem_singleton.2 ‹_›) "kotlin" ["Pair"] (by decide)
        obtain rfl := List.mem_singleton.1 found
        exact .pair keys values
      · exact absurd rfl shaped
  | first :: second :: third :: others => exact absurd rfl shaped

/-! ## Written forms -/

/-- A class with a shape is written from as many texts as it has arguments. -/
theorem exists_classText (labels : String × String) (boxed nullable : Bool)
    {name : QualifiedName} {texts : List String}
    (shaped : classShape name texts.length ≠ .unmapped) :
    ∃ text, classText labels boxed nullable (classShape name texts.length) texts = some text := by
  match texts with
  | [] =>
    simp only [List.length_nil, classShape, plainShape] at shaped ⊢
    split
    · exact ⟨_, rfl⟩
    · exact ⟨_, rfl⟩
    · split
      · simp_all
      · exact ⟨_, rfl⟩
  | [item] =>
    simp only [List.length_cons, List.length_nil, classShape] at shaped ⊢
    split
    · exact ⟨_, rfl⟩
    · split
      · exact ⟨_, rfl⟩
      · simp_all
  | [first, second] =>
    simp only [List.length_cons, List.length_nil, classShape] at shaped ⊢
    split
    · exact ⟨_, rfl⟩
    · split
      · exact ⟨_, rfl⟩
      · simp_all
  | first :: second :: third :: others => exact absurd rfl shaped

/-- The names are split at the last dot of a dotted form. -/
def AreSplit (names : List QualifiedName) : Prop :=
  ∀ name ∈ names, ∃ dotted, name = .ofDotted dotted

/-- Names in front of others are split if all of them are. -/
theorem AreSplit.front {names others : List QualifiedName} (split : AreSplit (names ++ others)) :
    AreSplit names :=
  fun name inside => split name (List.mem_append_left others inside)

/-- Names behind others are split if all of them are. -/
theorem AreSplit.behind {names others : List QualifiedName} (split : AreSplit (names ++ others)) :
    AreSplit others :=
  fun name inside => split name (List.mem_append_right names inside)

/-- A type was written and can be bridged, or a part of it is reported that cannot. -/
inductive Decides (type : TypeExpr) : Except Unmapped String → Prop where
  /-- The type has a counterpart. -/
  | written {text : String} (bridges : Bridgeable type) : Decides type (.ok text)
  /-- The reported part of the type has none. -/
  | refused {unmapped : Unmapped} (inside : contains unmapped.type type = true)
      (cannot : ¬ Bridgeable unmapped.type) : Decides type (.error unmapped)

/-- Types were written and can be bridged, or a part of one of them is reported that cannot. -/
inductive DecidesAll (types : List TypeExpr) : Except Unmapped (List String) → Prop where
  /-- Each of the types has a counterpart. -/
  | written {texts : List String} (each : ∀ type ∈ types, Bridgeable type) :
      DecidesAll types (.ok texts)
  /-- The reported part of one of the types has none. -/
  | refused {unmapped : Unmapped} (inside : listContains unmapped.type types = true)
      (cannot : ¬ Bridgeable unmapped.type) : DecidesAll types (.error unmapped)

/-- Arguments were written, each is a type that can be bridged, and each has a text; or their
owner is reported for a star, or a part of one of them that cannot be bridged. -/
inductive DecidesArguments (owner : TypeExpr) (arguments : List TypeArgument) :
    Except Unmapped (List String) → Prop where
  /-- Each argument is a type that has a counterpart. -/
  | written {texts : List String}
      (each : ∀ argument ∈ arguments, ∃ variance type, argument = .type variance type ∧
        Bridgeable type)
      (complete : texts.length = arguments.length) :
      DecidesArguments owner arguments (.ok texts)
  /-- A star stands among the arguments. -/
  | star (listed : .star ∈ arguments) : DecidesArguments owner arguments (.error ⟨owner⟩)
  /-- The reported part of one of the arguments has no counterpart. -/
  | refused {unmapped : Unmapped}
      (inside : argumentListContains unmapped.type arguments = true)
      (cannot : ¬ Bridgeable unmapped.type) : DecidesArguments owner arguments (.error unmapped)

/-- A class is decided if its arguments are. -/
theorem decides_named (labels : String × String) (boxed : Bool) {name : QualifiedName}
    {arguments : List TypeArgument} {nullable : Bool} (split : ∃ dotted, name = .ofDotted dotted)
    (inner : DecidesArguments (.named name arguments nullable) arguments
      (argumentTexts (.named name arguments nullable) arguments)) :
    Decides (.named name arguments nullable)
      (typeText labels boxed (.named name arguments nullable)) := by
  obtain ⟨dotted, rfl⟩ := split
  have plain := QualifiedName.dot_notMem_simple_ofDotted dotted
  rw [typeText]
  split
  · rename_i unmapped
    exact .refused (contains_self _) fun bridges => bridges.classShape_ne_unmapped unmapped
  · rename_i shaped
    generalize outcome : argumentTexts _ arguments = result at inner
    cases inner with
    | written each complete =>
      rw [← complete] at shaped
      obtain ⟨text, written⟩ := exists_classText labels boxed nullable shaped
      rw [complete] at shaped written
      simp only [bind, Except.bind, written, pure, Except.pure]
      exact .written (bridgeable_of_classShape plain shaped each)
    | star listed =>
      refine .refused (contains_self _) fun bridges => ?_
      obtain ⟨_, _, impossible, _⟩ := bridges.arguments _ listed
      cases impossible
    | refused inside cannot =>
      refine .refused ?_ cannot
      rw [contains, inside, Bool.or_true]

mutual

/-- Every type is decided. -/
theorem decides_typeText (labels : String × String) (boxed : Bool) :
    (type : TypeExpr) → AreSplit type.references → Decides type (typeText labels boxed type)
  | .named name arguments nullable, split =>
    decides_named labels boxed (split name (by simp [references]))
      (decides_argumentTexts _ arguments fun other inside =>
        split other (by simp [references, inside]))
  | .function parameters result nullable, split => by
    rw [references] at split
    have first := decides_insideTexts parameters split.front
    have second := decides_typeText ("first", "second") true result split.behind
    rw [typeText]
    generalize insideTexts parameters = texts at first
    generalize typeText ("first", "second") true result = text at second
    cases first with
    | refused inside cannot =>
      refine .refused ?_ cannot
      simp [contains, inside]
    | written each =>
      cases second with
      | refused inside cannot =>
        refine .refused ?_ cannot
        simp [contains, inside]
      | written last => exact .written (.function each last)
  | .variable name nullable, _ => .refused (contains_self _) nofun
  | .dynamic, _ => .refused (contains_self _) nofun

/-- Types inside another one are decided. -/
theorem decides_insideTexts :
    (types : List TypeExpr) → AreSplit (listReferences types) → DecidesAll types (insideTexts types)
  | [], _ => .written (by simp)
  | type :: types, split => by
    rw [listReferences] at split
    have first := decides_typeText ("first", "second") true type split.front
    have others := decides_insideTexts types split.behind
    rw [insideTexts]
    generalize typeText ("first", "second") true type = text at first
    generalize insideTexts types = texts at others
    cases first with
    | refused inside cannot =>
      refine .refused ?_ cannot
      simp [listContains, inside]
    | written bridges =>
      cases others with
      | refused inside cannot =>
        refine .refused ?_ cannot
        simp [listContains, inside]
      | written each => exact .written (by simpa using ⟨bridges, each⟩)

/-- The arguments of a class are decided. -/
theorem decides_argumentTexts (owner : TypeExpr) :
    (arguments : List TypeArgument) → AreSplit (argumentListReferences arguments) →
      DecidesArguments owner arguments (argumentTexts owner arguments)
  | [], _ => .written (by simp) rfl
  | .star :: arguments, _ => by
    rw [argumentTexts, argumentText]
    exact .star (by simp)
  | .type variance type :: arguments, split => by
    rw [argumentListReferences, argumentReferences] at split
    have first := decides_typeText ("first", "second") true type split.front
    have others := decides_argumentTexts owner arguments split.behind
    rw [argumentTexts, argumentText]
    generalize typeText ("first", "second") true type = text at first
    generalize argumentTexts owner arguments = texts at others
    cases first with
    | refused inside cannot =>
      refine .refused ?_ cannot
      simp [argumentListContains, argumentContains, inside]
    | written bridges =>
      cases others with
      | star listed => exact .star (by simp [listed])
      | refused inside cannot =>
        refine .refused ?_ cannot
        simp [argumentListContains, inside]
      | written each complete =>
        refine .written ?_ (by simp [complete])
        exact List.forall_mem_cons.2 ⟨⟨_, _, rfl, bridges⟩, each⟩

end

/-- How a type is written where it stands is decided as well. -/
theorem decides_mapType {type : TypeExpr} (split : AreSplit type.references)
    (position : Position) : Decides type (mapType type position) := by
  have inner := decides_typeText (pairLabels position) false type split
  rw [mapType]
  generalize typeText (pairLabels position) false type = outcome at inner
  cases inner with
  | written bridges => exact .written bridges
  | refused inside cannot => exact .refused inside cannot

/-- What is decided for a type was written exactly if the type can be bridged. -/
theorem Decides.written_iff {type : TypeExpr} {outcome : Except Unmapped String}
    (decides : Decides type outcome) : (∃ text, outcome = .ok text) ↔ Bridgeable type := by
  cases decides with
  | written bridges => simpa using bridges
  | refused inside cannot =>
    have refuses : ¬ Bridgeable type := fun bridges => cannot (bridges.of_contains inside)
    simpa using refuses

/-- A type whose names are split at their last dots is written exactly if it can be bridged,
whatever its position, and what is reported otherwise is a part of it that cannot be bridged. -/
theorem mapType_decides_bridgeable (type : TypeExpr) (position : Position)
    (split : AreSplit type.references) :
    ((∃ text, mapType type position = .ok text) ↔ Bridgeable type) ∧
    (∀ other, (∃ text, mapType type other = .ok text) ↔
      ∃ text, mapType type position = .ok text) ∧
    ∀ unmapped, mapType type position = .error unmapped →
      contains unmapped.type type = true ∧ ¬ Bridgeable unmapped.type := by
  have here := decides_mapType split position
  refine ⟨here.written_iff, fun other => ?_, fun unmapped refused => ?_⟩
  · rw [(decides_mapType split other).written_iff, here.written_iff]
  · rw [refused] at here
    cases here with
    | refused inside cannot => exact ⟨inside, cannot⟩

/-- A function to a map of lists of anything. -/
def starInside : TypeExpr :=
  .function [.ofDotted "kotlin.Int"]
    (.named (.ofDotted "kotlin.collections.Map")
      [.type .covariant (.ofDotted "kotlin.String"),
       .type .invariant (.named (.ofDotted "kotlin.collections.List") [.star] true)] false)
    false

/-- The list of anything is reported, so neither it nor the function can be bridged. -/
theorem mapType_starInside :
    AreSplit starInside.references ∧ ¬ Bridgeable starInside ∧
      ¬ Bridgeable (.named (.ofDotted "kotlin.collections.List") [.star] true) := by
  have split : AreSplit starInside.references := by
    simp only [AreSplit, starInside, references, listReferences, argumentListReferences,
      argumentReferences, TypeExpr.ofDotted, List.nil_append, List.append_nil, List.cons_append,
      List.forall_mem_cons]
    exact ⟨⟨_, rfl⟩, ⟨_, rfl⟩, ⟨_, rfl⟩, ⟨_, rfl⟩, by simp⟩
  have refused : mapType starInside .parameter =
      .error ⟨.named (.ofDotted "kotlin.collections.List") [.star] true⟩ := by
    with_unfolding_all rfl
  obtain ⟨decided, -, reported⟩ := mapType_decides_bridgeable starInside .parameter split
  refine ⟨split, ?_, (reported _ refused).2⟩
  rw [← decided, refused]
  simp

end Foreign

end ViewGlue
