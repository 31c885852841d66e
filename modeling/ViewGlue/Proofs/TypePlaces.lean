import ViewGlue.Proofs.BlamedParameters

/-!
# Types in their places

Where a type stands changes its written form at the root only. A parameter is marked in front if it
is a function that cannot be absent, and a factory's pair has labels of its own. Inside another
type, at any depth, a type is written as a property, only that numbers and truth values are boxed
there (`Foreign.position_acts_at_root`).
-/

namespace ViewGlue

namespace TypeExpr

/-! ## Types around a type -/

/-- A type with a place for another one inside it. -/
inductive Frame where
  /-- A class with the place among its arguments. -/
  | argument (name : QualifiedName) (before : List TypeArgument) (variance : Variance)
      (behind : List TypeArgument) (nullable : Bool)
  /-- A function with the place among its parameters. -/
  | parameter (before behind : List TypeExpr) (result : TypeExpr) (nullable : Bool)
  /-- A function with the place for its result. -/
  | returned (parameters : List TypeExpr) (nullable : Bool)

/-- The type with its place taken. -/
def Frame.around : Frame → TypeExpr → TypeExpr
  | argument name before variance behind nullable, inner =>
    .named name (before ++ .type variance inner :: behind) nullable
  | parameter before behind result nullable, inner =>
    .function (before ++ inner :: behind) result nullable
  | returned parameters nullable, inner => .function parameters inner nullable

/-- A type with frames around it, the outermost first. -/
def enclosed (frames : List Frame) (inner : TypeExpr) : TypeExpr :=
  frames.foldr Frame.around inner

/-- A part of the type in a frame is a part of the whole. -/
theorem contains_around (frame : Frame) {part inner : TypeExpr}
    (inside : contains part inner = true) : contains part (frame.around inner) = true := by
  cases frame with
  | argument name before variance behind nullable =>
    rw [Frame.around, contains, argumentListContains_iff.2 ⟨variance, inner, by simp, inside⟩,
      Bool.or_true]
  | parameter before behind result nullable =>
    rw [Frame.around, contains, listContains_iff.2 ⟨inner, by simp, inside⟩, Bool.or_true,
      Bool.true_or]
  | returned parameters nullable => rw [Frame.around, contains, inside, Bool.or_true]

/-- A type is a part of every type around it. -/
theorem contains_enclosed (frames : List Frame) (inner : TypeExpr) :
    contains inner (enclosed frames inner) = true := by
  induction frames with
  | nil => exact contains_self inner
  | cons frame frames ih => exact contains_around frame ih

end TypeExpr

namespace Foreign

open Text TypeExpr

/-! ## What the place of a type decides -/

/-- The simple names of the classes of numbers and truth values. -/
def primitiveNames : List String :=
  ["Boolean", "Byte", "Short", "Int", "Long", "Float", "Double"]

/-- The boxed class of a number or truth value that cannot be absent. -/
def boxedClass? : TypeExpr → Option String
  | .named name [] false =>
    (primitiveNames.find? (name.dotted = "kotlin." ++ ·)).map ("Kotlin" ++ ·)
  | _ => none

/-- How a type is written as an object: as a property, only that numbers and truth values are
boxed. -/
def objectText (type : TypeExpr) : Except Unmapped String :=
  match boxedClass? type with
  | some boxed => .ok boxed
  | none => mapType type .property

/-- What a type is as a parameter if this is its text as a property. -/
def parameterText (type : TypeExpr) (property : String) : String :=
  match type with
  | .function _ _ false => "@escaping " ++ property
  | _ => property

/-- What a question mark is put behind if this is the text of the type without it. -/
def optionalBase (type : TypeExpr) (property : String) : String :=
  match type, boxedClass? type with
  | _, some boxed => boxed
  | .function .., none => "(" ++ property ++ ")"
  | _, none => property

/-- A pair with labels. -/
def pairText (labels : String × String) (first second : String) (nullable : Bool) : String :=
  optional nullable
    ("(" ++ labels.1 ++ ": " ++ first ++ ", " ++ labels.2 ++ ": " ++ second ++ ")")

variable {labels otherLabels : String × String} {boxed otherBoxed : Bool} {type : TypeExpr}

/-! ## Successful mappings -/

/-- An argument is written as the type in it. -/
theorem argumentText_eq_ok_iff {owner : TypeExpr} {argument : TypeArgument} {text : String} :
    argumentText owner argument = .ok text ↔
      ∃ variance part, argument = .type variance part ∧ insideText part = .ok text := by
  cases argument with
  | star => simp [argumentText]
  | type variance part => simp [argumentText, insideText]

/-- The texts are those of the types in the arguments. -/
def AreArgumentTexts (arguments : List TypeArgument) (texts : List String) : Prop :=
  List.Forall₂ (fun argument text => ∃ variance part, argument = .type variance part ∧
    insideText part = .ok text) arguments texts

/-- A class is written from the texts of the types in its arguments. -/
theorem typeText_named_eq_ok_iff {name : QualifiedName} {arguments : List TypeArgument}
    {nullable : Bool} {text : String} :
    typeText labels boxed (.named name arguments nullable) = .ok text ↔
      ∃ texts, AreArgumentTexts arguments texts ∧
        classText labels boxed nullable (classShape name arguments.length) texts = some text := by
  rw [typeText]
  split
  · rename_i shapeless
    simp [shapeless, classText]
  · rw [argumentTexts_eq_mapM, bind_eq_ok_iff]
    simp only [mapM_eq_ok_iff, argumentText_eq_ok_iff, AreArgumentTexts]
    refine exists_congr fun texts => and_congr_right fun _ => ?_
    cases classText labels boxed nullable (classShape name arguments.length) texts <;>
      simp [pure, Except.pure]

/-- A function is written from the texts of its parameters and its result. -/
theorem typeText_function_eq_ok_iff {parameters : List TypeExpr} {result : TypeExpr}
    {nullable : Bool} {text : String} :
    typeText labels boxed (.function parameters result nullable) = .ok text ↔
      ∃ texts last, List.Forall₂ (fun part text => insideText part = .ok text) parameters texts ∧
        insideText result = .ok last ∧ arrow texts last nullable = text := by
  rw [typeText, insideTexts_eq_mapM]
  simp only [bind_eq_ok_iff, mapM_eq_ok_iff, insideText, pure, Except.pure, Except.ok.injEq]
  constructor
  · rintro ⟨texts, each, last, one, same⟩
    exact ⟨texts, last, each, one, same⟩
  · rintro ⟨texts, last, each, one, same⟩
    exact ⟨texts, each, last, one, same⟩

/-- As a property a type has the plain labels and is not boxed. -/
theorem mapType_property (type : TypeExpr) :
    mapType type .property = typeText ("first", "second") false type := by
  rw [mapType]
  show (typeText ("first", "second") false type >>= _) = _
  cases typeText ("first", "second") false type <;> rfl

/-- A factory's result has labels of its own. -/
theorem mapType_factoryResult (type : TypeExpr) :
    mapType type .factoryResult = typeText ("view", "delegate") false type := by
  rw [mapType]
  show (typeText ("view", "delegate") false type >>= _) = _
  cases typeText ("view", "delegate") false type <;> rfl

/-- A parameter is a property with a mark in front of a function that cannot be absent. -/
theorem mapType_parameter (type : TypeExpr) :
    mapType type .parameter = (mapType type .property).map (parameterText type) := by
  rw [mapType_property, mapType]
  show (typeText ("first", "second") false type >>= _) = _
  cases typeText ("first", "second") false type with
  | error unmapped => rfl
  | ok text =>
    cases type with
    | function parameters result nullable => cases nullable <;> rfl
    | _ => rfl

/-- A bridgeable type is written as an object. -/
theorem Bridgeable.exists_insideText (bridges : Bridgeable type) :
    ∃ text, insideText type = .ok text := by
  -- Everything in a bridgeable type is bridgeable, so no part of it is reported.
  induction type using inductionOnParts with
  | named name arguments nullable ih =>
    cases written : insideText (.named name arguments nullable) with
    | ok text => exact ⟨text, rfl⟩
    | error unmapped =>
      obtain ⟨shapeless, -⟩ | ⟨-, fails⟩ := typeText_named_eq_error_iff.1 written
      · exact absurd shapeless bridges.classShape_ne_unmapped
      · obtain ⟨argument, inside, fault, refused⟩ := exists_mapM_eq_error_iff.1 ⟨unmapped, fails⟩
        obtain ⟨variance, part, rfl, each⟩ := bridges.arguments argument inside
        obtain ⟨text, found⟩ := ih variance part inside each
        rw [show argumentText _ (.type variance part) = insideText part from rfl, found] at refused
        cases refused
  | function parameters result nullable parts last =>
    obtain ⟨each, bridged⟩ : (∀ part ∈ parameters, Bridgeable part) ∧ Bridgeable result := by
      cases bridges with
      | function each bridged => exact ⟨each, bridged⟩
    cases written : insideText (.function parameters result nullable) with
    | ok text => exact ⟨text, rfl⟩
    | error unmapped =>
      obtain fails | ⟨-, refused⟩ := typeText_function_eq_error_iff.1 written
      · obtain ⟨part, inside, fault, refused⟩ := exists_mapM_eq_error_iff.1 ⟨unmapped, fails⟩
        obtain ⟨text, found⟩ := parts part inside (each part inside)
        rw [found] at refused
        cases refused
      · obtain ⟨text, found⟩ := last bridged
        rw [found] at refused
        cases refused
  | typeVariable => cases bridges
  | dynamic => cases bridges

/-! ## Labels and boxes -/

/-- Labels matter for pairs only, and boxing for numbers and truth values that cannot be absent. -/
theorem classText_congr {nullable : Bool} {shape : ClassShape} (texts : List String)
    (pairs : shape = .pair → labels = otherLabels)
    (primitives : ∀ plain object, shape = .primitive plain object →
      (boxed || nullable) = (otherBoxed || nullable)) :
    classText labels boxed nullable shape texts =
      classText otherLabels otherBoxed nullable shape texts := by
  cases shape with
  | primitive plain object => simp only [classText, primitives plain object rfl]
  | pair =>
    obtain rfl := pairs rfl
    match texts with
    | [] | [_] | [_, _] | _ :: _ :: _ :: _ => rfl
  | list | set | map =>
    match texts with
    | [] | [_] | [_, _] | _ :: _ :: _ :: _ => rfl
  | simple | other | unmapped => rfl

/-- Labels and boxing matter for a class as they do for its shape. -/
theorem typeText_named_congr {name : QualifiedName} {arguments : List TypeArgument}
    {nullable : Bool} (pairs : classShape name arguments.length = .pair → labels = otherLabels)
    (primitives : ∀ plain object, classShape name arguments.length = .primitive plain object →
      (boxed || nullable) = (otherBoxed || nullable)) :
    typeText labels boxed (.named name arguments nullable) =
      typeText otherLabels otherBoxed (.named name arguments nullable) := by
  rw [typeText, typeText]
  split
  · rfl
  · simp only [classText_congr _ pairs primitives]

/-- Only a class without arguments is a number or truth value. -/
theorem classShape_eq_primitive {name : QualifiedName} {arity : Nat} {plain object : String}
    (shape : classShape name arity = .primitive plain object) :
    arity = 0 ∧ ∃ entry, primitives.find? (·.1 = name.dotted) = some entry ∧
      entry.2 = (plain, object) := by
  unfold classShape at shape
  split at shape
  · refine ⟨rfl, ?_⟩
    unfold plainShape at shape
    split at shape
    · rename_i entry found
      obtain ⟨rfl, rfl⟩ := ClassShape.primitive.inj shape
      exact ⟨entry, found, rfl⟩
    · cases shape
    · split at shape <;> cases shape
  · split at shape <;> [cases shape; split at shape <;> cases shape]
  · split at shape <;> [cases shape; split at shape <;> cases shape]
  · cases shape

/-- The boxed classes are those of the table. -/
theorem boxedClass?_named (name : QualifiedName) :
    boxedClass? (.named name [] false) =
      (primitives.find? (·.1 = name.dotted)).map (·.2.2) := by
  have table : primitives.map (fun entry => (entry.1, entry.2.2)) =
      primitiveNames.map fun simple => ("kotlin." ++ simple, "Kotlin" ++ simple) := by decide
  have found := congrArg (fun pairs : List (String × String) =>
    (pairs.find? (·.1 = name.dotted)).map (·.2)) table
  simp only [List.find?_map, Option.map_map, Function.comp_def] at found
  rw [found, boxedClass?]
  simp only [eq_comm]

/-- Inside another type, types are written as objects. -/
theorem insideText_eq_objectText (type : TypeExpr) : insideText type = objectText type := by
  unfold objectText insideText
  rw [mapType_property]
  cases type with
  | named name arguments nullable =>
    cases box : boxedClass? (.named name arguments nullable) with
    | some object =>
      obtain ⟨rfl, rfl⟩ : arguments = [] ∧ nullable = false := by
        unfold boxedClass? at box
        split at box <;> simp_all
      rw [boxedClass?_named, Option.map_eq_some_iff] at box
      obtain ⟨entry, found, rfl⟩ := box
      have shape : classShape name 0 = .primitive entry.2.1 entry.2.2 := by
        simp [classShape, plainShape, found]
      refine typeText_named_eq_ok_iff.2 ⟨[], .nil, ?_⟩
      rw [List.length_nil, shape]
      rfl
    | none =>
      refine typeText_named_congr (fun _ => rfl) fun plain object shape => ?_
      obtain ⟨empty, entry, found, -⟩ := classShape_eq_primitive shape
      obtain rfl := List.length_eq_zero_iff.1 empty
      cases nullable with
      | true => rfl
      | false => simp [boxedClass?_named, found] at box
  | function => rw [typeText, typeText]; rfl
  | _ => rfl

/-! ## Texts inside texts -/

/-- A text is made of another one by putting texts around it, the same for all. -/
def Surrounds (make : String → String) : Prop :=
  ∃ before behind, ∀ inner, make inner = before ++ inner ++ behind

/-- Texts may be put around in several steps. -/
theorem Surrounds.comp {outer inner : String → String} (outside : Surrounds outer)
    (inside : Surrounds inner) : Surrounds (outer ∘ inner) := by
  obtain ⟨before, behind, first⟩ := outside
  obtain ⟨front, back, second⟩ := inside
  refine ⟨before ++ front, back ++ behind, fun text => ?_⟩
  simp only [Function.comp_apply, first, second, String.append_assoc]

/-- These texts are put around. -/
theorem surrounds_append (before behind : String) : Surrounds (before ++ · ++ behind) :=
  ⟨before, behind, fun _ => rfl⟩

/-- The other texts and the separators stand around a text that is joined with them. -/
theorem surrounds_joinWith (separator : String) (before behind : List String) :
    Surrounds fun part => joinWith separator (before ++ part :: behind) := by
  induction before with
  | nil =>
    cases behind with
    | nil => exact ⟨"", "", fun part => by simp [joinWith]⟩
    | cons next parts =>
      exact ⟨"", separator ++ joinWith separator (next :: parts), fun part => by
        simp [joinWith, String.append_assoc]⟩
  | cons first before ih =>
    obtain ⟨front, back, made⟩ := ih
    refine ⟨first ++ separator ++ front, back, fun part => ?_⟩
    have step : joinWith separator (first :: (before ++ part :: behind)) =
        first ++ separator ++ joinWith separator (before ++ part :: behind) := by
      cases before <;> rfl
    show joinWith separator (first :: (before ++ part :: behind)) = _
    rw [step, show joinWith separator (before ++ part :: behind) = front ++ part ++ back from
      made part]
    simp only [String.append_assoc]

/-- At most a question mark is put behind a type that may be absent. -/
theorem surrounds_optional (nullable : Bool) : Surrounds (optional nullable) := by
  cases nullable with
  | false => exact ⟨"", "", fun inner => by simp [optional]⟩
  | true => exact ⟨"", "?", fun inner => by simp [optional]⟩

/-- The signature of a function stands around the texts in it. -/
theorem surrounds_arrow {signature : String → String} (inside : Surrounds signature)
    (nullable : Bool) :
    Surrounds fun text =>
      if nullable then "(" ++ signature text ++ ")?" else signature text := by
  cases nullable with
  | false => exact inside
  | true => exact (surrounds_append "(" ")?").comp inside

/-- The shapes of classes with arguments. -/
def containers : List ClassShape := [.list, .set, .map, .pair, .unmapped]

/-- A class with arguments is a container, or has no shape. -/
theorem classShape_mem_containers (name : QualifiedName) {arity : Nat} (some : arity ≠ 0) :
    classShape name arity ∈ containers := by
  unfold classShape
  split
  · exact absurd rfl some
  · split <;> [decide; split <;> decide]
  · split <;> [decide; split <;> decide]
  · decide

/-- Lists and sets are written from one text, maps and pairs from two. -/
theorem length_of_classText {nullable : Bool} {shape : ClassShape} {texts : List String}
    {whole : String} (written : classText labels boxed nullable shape texts = some whole) :
    (shape ∈ [.list, .set] → texts.length = 1) ∧ (shape ∈ [.map, .pair] → texts.length = 2) := by
  unfold classText at written
  split at written <;> simp_all

/-- The text of a container stands around that of each argument. -/
theorem surrounds_classText {nullable : Bool} {shape : ClassShape} {before behind : List String}
    {text whole : String} (container : shape ∈ containers)
    (written : classText labels boxed nullable shape (before ++ text :: behind) = some whole) :
    ∃ make, Surrounds make ∧ ∀ inner,
      classText labels boxed nullable shape (before ++ inner :: behind) = some (make inner) := by
  have optional := surrounds_optional nullable
  obtain ⟨one, two⟩ := length_of_classText written
  have count : (before ++ text :: behind).length = before.length + behind.length + 1 := by
    simp only [List.length_append, List.length_cons]
    omega
  rw [count] at one two
  have alone (single : shape ∈ [.list, .set]) : before = [] ∧ behind = [] := by
    have length := one single
    exact ⟨List.length_eq_zero_iff.1 (by omega), List.length_eq_zero_iff.1 (by omega)⟩
  have paired (double : shape ∈ [.map, .pair]) :
      (before = [] ∧ ∃ second, behind = [second]) ∨ (behind = [] ∧ ∃ first, before = [first]) := by
    have length := two double
    by_cases none : before.length = 0
    · exact .inl ⟨List.length_eq_zero_iff.1 none, List.length_eq_one_iff.1 (by omega)⟩
    · exact .inr ⟨List.length_eq_zero_iff.1 (by omega), List.length_eq_one_iff.1 (by omega)⟩
  simp only [containers, List.mem_cons, List.not_mem_nil, or_false] at container
  rcases container with rfl | rfl | rfl | rfl | rfl
  · obtain ⟨rfl, rfl⟩ := alone (by decide)
    exact ⟨_, optional.comp (surrounds_append "[" "]"), fun _ => rfl⟩
  · obtain ⟨rfl, rfl⟩ := alone (by decide)
    exact ⟨_, optional.comp (surrounds_append "Set<" ">"), fun _ => rfl⟩
  · obtain ⟨rfl, second, rfl⟩ | ⟨rfl, first, rfl⟩ := paired (by decide)
    · refine ⟨_, optional.comp (surrounds_append "[" (": " ++ second ++ "]")), fun inner => ?_⟩
      simp [classText, String.append_assoc]
    · refine ⟨_, optional.comp (surrounds_append ("[" ++ first ++ ": ") "]"), fun inner => ?_⟩
      simp [classText, String.append_assoc]
  · obtain ⟨rfl, second, rfl⟩ | ⟨rfl, first, rfl⟩ := paired (by decide)
    · refine ⟨_, optional.comp (surrounds_append ("(" ++ labels.1 ++ ": ")
        (", " ++ labels.2 ++ ": " ++ second ++ ")")), fun inner => ?_⟩
      simp [classText, String.append_assoc]
    · refine ⟨_, optional.comp (surrounds_append
        ("(" ++ labels.1 ++ ": " ++ first ++ ", " ++ labels.2 ++ ": ") ")"), fun inner => ?_⟩
      simp [classText, String.append_assoc]
  · cases written

/-- The text of a frame stands around that of the type in it, which has one. -/
theorem surrounds_around {frame : Frame} {whole : String}
    (written : typeText labels boxed (frame.around type) = .ok whole) :
    (∃ text, insideText type = .ok text) ∧ ∃ make, Surrounds make ∧ ∀ other text,
      insideText other = .ok text →
        typeText labels boxed (frame.around other) = .ok (make text) := by
  cases frame with
  | argument name before variance behind nullable =>
    obtain ⟨texts, each, found⟩ := typeText_named_eq_ok_iff.1 written
    obtain ⟨front, text, back, rfl, ⟨_, _, same, one⟩, replaced⟩ := exists_forall₂_replace each
    obtain ⟨-, rfl⟩ := TypeArgument.type.inj same
    have length (other : TypeExpr) : (before ++ .type variance other :: behind).length =
        before.length + behind.length + 1 := by
      simp only [List.length_append, List.length_cons]
      omega
    rw [length] at found
    obtain ⟨make, surrounds, made⟩ :=
      surrounds_classText (classShape_mem_containers _ (Nat.succ_ne_zero _)) found
    refine ⟨⟨text, one⟩, make, surrounds, fun other text inside => ?_⟩
    refine typeText_named_eq_ok_iff.2
      ⟨_, replaced _ text ⟨variance, other, rfl, inside⟩, ?_⟩
    rw [length]
    exact made text
  | parameter before behind result nullable =>
    obtain ⟨texts, last, each, ends, -⟩ := typeText_function_eq_ok_iff.1 written
    obtain ⟨front, text, back, rfl, one, replaced⟩ := exists_forall₂_replace each
    refine ⟨⟨text, one⟩, _, surrounds_arrow
      ((surrounds_append "(" (") -> " ++ last)).comp (surrounds_joinWith ", " front back))
      nullable, fun other text inside => ?_⟩
    refine typeText_function_eq_ok_iff.2 ⟨_, last, replaced other text inside, ends, ?_⟩
    simp [arrow, String.append_assoc]
  | returned parameters nullable =>
    obtain ⟨texts, last, each, ends, -⟩ := typeText_function_eq_ok_iff.1 written
    refine ⟨⟨last, ends⟩, _, surrounds_arrow
      (surrounds_append ("(" ++ joinWith ", " texts ++ ") -> ") "") nullable,
      fun other text inside => ?_⟩
    refine typeText_function_eq_ok_iff.2 ⟨texts, text, each, inside, ?_⟩
    simp [arrow]

/-- The text of several frames stands around that of the type in them, which has one. -/
theorem surrounds_enclosed {frames : List Frame} {whole : String}
    (written : insideText (enclosed frames type) = .ok whole) :
    (∃ text, insideText type = .ok text) ∧ ∃ make, Surrounds make ∧ ∀ other text,
      insideText other = .ok text → insideText (enclosed frames other) = .ok (make text) := by
  induction frames generalizing whole with
  | nil => exact ⟨⟨whole, written⟩, id, ⟨"", "", fun inner => by simp⟩, fun _ _ inside => inside⟩
  | cons frame frames ih =>
    obtain ⟨⟨middle, inner⟩, outside, around, framed⟩ := surrounds_around written
    obtain ⟨one, make, surrounds, made⟩ := ih inner
    exact ⟨one, outside ∘ make, around.comp surrounds,
      fun other text inside => framed _ _ (made other text inside)⟩

/-! ## Question marks and labels -/

/-- A class that may be absent is a boxed class with a question mark. -/
theorem classText_nullable (labels : String × String) (boxed : Bool) (shape : ClassShape)
    (texts : List String) :
    classText labels boxed true shape texts =
      (classText labels true false shape texts).map (· ++ "?") := by
  cases shape with
  | primitive plain object => simp [classText, optional]
  | pair | list | set | map =>
    match texts with
    | [] | [_] | [_, _] | _ :: _ :: _ :: _ => rfl
  | simple | other | unmapped => rfl

/-- What a question mark is put behind is the text of a class as an object. -/
theorem objectText_named {name : QualifiedName} {arguments : List TypeArgument} {nullable : Bool}
    {text : String} (written : mapType (.named name arguments nullable) .property = .ok text) :
    objectText (.named name arguments nullable) =
      .ok (optionalBase (.named name arguments nullable) text) := by
  unfold objectText optionalBase
  cases boxedClass? (.named name arguments nullable) with
  | none => exact written
  | some boxed => rfl

/-- A type that may be absent is written with one question mark behind the type that may not. -/
theorem mapType_withNullable {text : String} (present : type.isNullable = false)
    (written : mapType type .property = .ok text) :
    mapType (type.withNullable true) .property = .ok (optionalBase type text ++ "?") := by
  cases type with
  | named name arguments nullable =>
    obtain rfl : nullable = false := present
    have object := objectText_named written
    rw [← insideText_eq_objectText, insideText] at object
    obtain ⟨texts, each, found⟩ := typeText_named_eq_ok_iff.1 object
    rw [withNullable, mapType_property]
    refine typeText_named_eq_ok_iff.2 ⟨texts, each, ?_⟩
    rw [classText_nullable, found]
    rfl
  | function parameters result nullable =>
    obtain rfl : nullable = false := present
    rw [mapType_property] at written
    obtain ⟨texts, last, each, ends, rfl⟩ := typeText_function_eq_ok_iff.1 written
    rw [withNullable, mapType_property]
    refine typeText_function_eq_ok_iff.2 ⟨texts, last, each, ends, ?_⟩
    simp [arrow, optionalBase, boxedClass?, String.append_assoc]
  | _ => rw [mapType_property, typeText] at written; cases written

/-- A pair is written with its labels. -/
theorem typeText_pair {first second : TypeArgument} {nullable : Bool}
    (bridges : Bridgeable (.named ⟨"kotlin", "Pair"⟩ [first, second] nullable)) :
    ∃ left right, AreArgumentTexts [first, second] [left, right] ∧ ∀ labels,
      typeText labels false (.named ⟨"kotlin", "Pair"⟩ [first, second] nullable) =
        .ok (pairText labels left right nullable) := by
  obtain ⟨text, written⟩ := bridges.exists_insideText
  obtain ⟨texts, each, -⟩ := typeText_named_eq_ok_iff.1 written
  obtain ⟨left, others, one, rest, rfl⟩ := List.forall₂_cons_left_iff.1 each
  obtain ⟨right, _, two, none, rfl⟩ := List.forall₂_cons_left_iff.1 rest
  cases none
  refine ⟨left, right, each, fun labels => typeText_named_eq_ok_iff.2 ⟨_, each, ?_⟩⟩
  have shape : classShape ⟨"kotlin", "Pair"⟩ 2 = .pair := by decide
  show classText labels false nullable (classShape ⟨"kotlin", "Pair"⟩ 2) [left, right] = _
  rw [shape]
  rfl

/-- Only a class with two arguments is a pair. -/
theorem classShape_eq_pair {name : QualifiedName} {arity : Nat}
    (shape : classShape name arity = .pair) : arity = 2 ∧ name.dotted = "kotlin.Pair" := by
  unfold classShape at shape
  split at shape
  · unfold plainShape at shape
    split at shape
    · cases shape
    · cases shape
    · split at shape <;> cases shape
  · split at shape <;> [cases shape; split at shape <;> cases shape]
  · split at shape
    · cases shape
    · split at shape
      · exact ⟨rfl, ‹_›⟩
      · cases shape
  · cases shape

/-- Labels do not matter for a bridgeable type that is no pair. -/
theorem typeText_labels (bridges : Bridgeable type)
    (other : ∀ first second nullable, type ≠ .named ⟨"kotlin", "Pair"⟩ [first, second] nullable)
    (labels otherLabels : String × String) :
    typeText labels boxed type = typeText otherLabels boxed type := by
  cases bridges with
  | function => rw [typeText, typeText]
  | pair => exact absurd rfl (other _ _ _)
  | scalar | elsewhere | collection =>
    exact typeText_named_congr (fun shape => absurd (classShape_eq_pair shape).1 (by simp))
      fun _ _ _ => rfl
  | dictionary listed =>
    have apart : ∀ simple ∈ dictionaries,
        QualifiedName.dotted ⟨"kotlin.collections", simple⟩ ≠ "kotlin.Pair" := by decide
    exact typeText_named_congr
      (fun shape => absurd (classShape_eq_pair shape).2 (apart _ listed)) fun _ _ _ => rfl

/-! ## The mark of parameters -/

/-- The text holds no mark. -/
def Unmarked (text : String) : Prop := '@' ∉ text.toList

/-- Joined texts hold no mark if none of them does. -/
theorem unmarked_joinWith {texts : List String} (each : ∀ text ∈ texts, Unmarked text) :
    Unmarked (joinWith ", " texts) := by
  induction texts with
  | nil => simp [joinWith, Unmarked]
  | cons text texts ih =>
    obtain ⟨first, others⟩ := List.forall_mem_cons.1 each
    have rest := ih others
    cases texts with
    | nil => exact first
    | cons next texts =>
      simp only [Unmarked] at *
      simp [joinWith, first, rest]

/-- The names that a shape brings along. -/
def ClassShape.names : ClassShape → List String
  | .primitive plain object => [plain, object]
  | .simple name => [name]
  | .other name => [name]
  | _ => []

/-- The names of a shape hold no mark if the name of the class holds none. -/
theorem unmarked_names {name : QualifiedName} {arity : Nat} (named : Unmarked name.simple) :
    ∀ text ∈ (classShape name arity).names, Unmarked text := by
  by_cases plain : arity = 0
  · subst plain
    have boxes : ∀ entry ∈ primitives, ∀ text ∈ [entry.2.1, entry.2.2], '@' ∉ text.toList := by
      decide
    have simples : ∀ entry ∈ simpleClasses, ∀ text ∈ [entry.2], '@' ∉ text.toList := by decide
    simp only [classShape, plainShape]
    split
    · rename_i found
      exact boxes _ (List.mem_of_find?_eq_some found)
    · rename_i found
      exact simples _ (List.mem_of_find?_eq_some found)
    · split
      · exact List.forall_mem_nil _
      · exact List.forall_mem_singleton.2 named
  · have container := classShape_mem_containers name plain
    have nameless : ∀ shape ∈ containers, shape.names = [] := by decide
    rw [nameless _ container]
    exact List.forall_mem_nil _

/-- A class holds no mark if the names of its shape, its labels and the texts in it hold none. -/
theorem unmarked_classText {shape : ClassShape} {nullable : Bool} {texts : List String}
    {text : String} (named : ∀ text ∈ shape.names, Unmarked text)
    (labelled : Unmarked labels.1 ∧ Unmarked labels.2) (each : ∀ text ∈ texts, Unmarked text)
    (written : classText labels boxed nullable shape texts = some text) : Unmarked text := by
  have marks {text : String} (unmarked : Unmarked text) : Unmarked (optional nullable text) := by
    simp only [Unmarked] at *
    cases nullable <;> simp [optional, unmarked]
  unfold classText at written
  split at written <;>
    simp only [Option.some.injEq, reduceCtorEq, ClassShape.names, List.forall_mem_cons] at * <;>
    subst written <;> refine marks ?_
  · split
    · exact named.2.1
    · exact named.1
  · exact named.1
  · simp only [Unmarked] at *
    simp [each.1]
  · simp only [Unmarked] at *
    simp [each.1]
  · simp only [Unmarked] at *
    simp [each.1, each.2.1]
  · simp only [Unmarked] at *
    simp [each.1, each.2.1, labelled.1, labelled.2]
  · exact named.1

/-- The classes in an argument are among those of all arguments. -/
theorem references_subset {variance : Variance} {part : TypeExpr} {arguments : List TypeArgument}
    (inside : .type variance part ∈ arguments) :
    part.references ⊆ argumentListReferences arguments := by
  induction arguments with
  | nil => cases inside
  | cons argument arguments ih =>
    rw [argumentListReferences]
    rcases List.mem_cons.1 inside with rfl | later
    · exact List.subset_append_left _ _
    · exact List.subset_append_of_subset_right _ (ih later)

/-- The classes in a type are among those of all types. -/
theorem references_subset_list {part : TypeExpr} {types : List TypeExpr} (inside : part ∈ types) :
    part.references ⊆ listReferences types := by
  induction types with
  | nil => cases inside
  | cons type types ih =>
    rw [listReferences]
    rcases List.mem_cons.1 inside with rfl | later
    · exact List.subset_append_left _ _
    · exact List.subset_append_of_subset_right _ (ih later)

/-- A type is written without the mark if no class in it has it in its name. -/
theorem unmarked_typeText {text : String} (labelled : Unmarked labels.1 ∧ Unmarked labels.2)
    (named : ∀ name ∈ type.references, Unmarked name.simple)
    (written : typeText labels boxed type = .ok text) : Unmarked text := by
  have plain : Unmarked "first" ∧ Unmarked "second" := by
    simp only [Unmarked]
    decide
  induction type using inductionOnParts generalizing labels boxed text with
  | named name arguments nullable ih =>
    obtain ⟨texts, each, found⟩ := typeText_named_eq_ok_iff.1 written
    obtain ⟨own, others⟩ := List.forall_mem_cons.1 named
    refine unmarked_classText (unmarked_names own) labelled (fun text inside => ?_) found
    obtain ⟨argument, listed, variance, part, rfl, one⟩ := exists_of_mem_forall₂ each inside
    exact ih variance part listed plain
      (fun name inside => others name (references_subset listed inside)) one
  | function parameters result nullable parts last =>
    obtain ⟨texts, ends, each, one, rfl⟩ := typeText_function_eq_ok_iff.1 written
    obtain ⟨front, back⟩ := List.forall_mem_append.1 named
    have inside : Unmarked (joinWith ", " texts) := by
      refine unmarked_joinWith fun text inside => ?_
      obtain ⟨part, listed, one⟩ := exists_of_mem_forall₂ each inside
      exact parts part listed plain
        (fun name inside => front name (references_subset_list listed inside)) one
    have returned : Unmarked ends := last plain back one
    simp only [Unmarked] at *
    cases nullable <;> simp [arrow, inside, returned]
  | _ => rw [typeText] at written; cases written

/-! ## Positions -/

/-- What a parameter has in front depends on the frame of a type only. -/
theorem surrounds_parameterText (frame : Frame) :
    ∃ make, Surrounds make ∧ ∀ inner, parameterText (frame.around inner) = make := by
  have bare : Surrounds id := ⟨"", "", fun inner => by simp⟩
  have marked : Surrounds ("@escaping " ++ ·) := ⟨"@escaping ", "", fun inner => by simp⟩
  cases frame with
  | argument => exact ⟨id, bare, fun _ => rfl⟩
  | parameter before behind result nullable =>
    cases nullable with
    | true => exact ⟨id, bare, fun _ => rfl⟩
    | false => exact ⟨_, marked, fun _ => rfl⟩
  | returned parameters nullable =>
    cases nullable with
    | true => exact ⟨id, bare, fun _ => rfl⟩
    | false => exact ⟨_, marked, fun _ => rfl⟩

/-- In every position the text of a frame stands around that of the type in it, which has one. -/
theorem surrounds_mapType (frame : Frame) (type : TypeExpr) {position : Position} {whole : String}
    (written : mapType (frame.around type) position = .ok whole) :
    (∃ text, insideText type = .ok text) ∧ ∃ make, Surrounds make ∧ ∀ other text,
      insideText other = .ok text → mapType (frame.around other) position = .ok (make text) := by
  cases position with
  | property =>
    simp only [mapType_property] at written ⊢
    exact surrounds_around written
  | factoryResult =>
    simp only [mapType_factoryResult] at written ⊢
    exact surrounds_around written
  | parameter =>
    simp only [mapType_parameter, mapType_property] at written ⊢
    obtain ⟨text, property, -⟩ := map_eq_ok_iff.1 written
    obtain ⟨one, make, surrounds, made⟩ := surrounds_around property
    obtain ⟨front, marks, marked⟩ := surrounds_parameterText frame
    refine ⟨one, front ∘ make, marks.comp surrounds, fun other text inside => ?_⟩
    rw [made other text inside, marked]
    rfl

/-- A bridgeable type is written alike in every position but for its root. As a parameter it is
its text as a property, with a mark in front exactly if it is a function that cannot be absent; as a
factory's result it is this text, only that a pair has labels of its own. A type inside it, at any
depth, contributes its text as an object and nothing else, which is its own text as a property
unless it is a number or truth value, and the same for every position. The form that may be absent
has one question mark behind the type, which is boxed or put in parentheses for it, and if no class
has the mark of parameters in its name, then the text as a property does not have it either. -/
theorem position_acts_at_root (bridges : Bridgeable type) :
    ∃ text, mapType type .property = .ok text ∧
      mapType type .parameter = .ok (parameterText type text) ∧
      ((∀ first second nullable, type ≠ .named ⟨"kotlin", "Pair"⟩ [first, second] nullable) →
        mapType type .factoryResult = .ok text) ∧
      (∀ first second nullable, type = .named ⟨"kotlin", "Pair"⟩ [first, second] nullable →
        ∃ left right, text = pairText ("first", "second") left right nullable ∧
          mapType type .factoryResult = .ok (pairText ("view", "delegate") left right nullable)) ∧
      (∀ frame frames inner, type = enclosed (frame :: frames) inner →
        Bridgeable inner ∧ ∃ object, objectText inner = .ok object ∧
          ∀ position, ∃ before behind, ∀ other otherObject, objectText other = .ok otherObject →
            mapType (enclosed (frame :: frames) other) position =
              .ok (before ++ otherObject ++ behind)) ∧
      (type.isNullable = false →
        mapType (type.withNullable true) .property = .ok (optionalBase type text ++ "?")) ∧
      ((∀ name ∈ type.references, '@' ∉ name.simple.toList) → '@' ∉ text.toList) := by
  have everywhere (position : Position) : ∃ text, mapType type position = .ok text :=
    exists_mapType_eq_ok_iff.2 bridges.exists_insideText
  obtain ⟨text, written⟩ := everywhere .property
  refine ⟨text, written, ?_, fun other => ?_, ?_, ?_, fun present => ?_, fun named => ?_⟩
  · rw [mapType_parameter, written]
    rfl
  · rw [mapType_factoryResult, typeText_labels bridges other, ← mapType_property, written]
  · rintro first second nullable rfl
    obtain ⟨left, right, -, labelled⟩ := typeText_pair bridges
    rw [mapType_property, labelled] at written
    refine ⟨left, right, (Except.ok.inj written).symm, ?_⟩
    rw [mapType_factoryResult, labelled]
  · rintro frame frames inner rfl
    simp only [← insideText_eq_objectText]
    obtain ⟨object, inside⟩ := (bridges.of_contains
      (contains_enclosed (frame :: frames) inner)).exists_insideText
    refine ⟨bridges.of_contains (contains_enclosed _ inner), object, inside, fun position => ?_⟩
    obtain ⟨whole, placed⟩ := everywhere position
    obtain ⟨⟨middle, enclosing⟩, outside, around, framed⟩ :=
      surrounds_mapType frame (enclosed frames inner) placed
    obtain ⟨-, make, surrounds, made⟩ := surrounds_enclosed enclosing
    obtain ⟨before, behind, puts⟩ := around.comp surrounds
    refine ⟨before, behind, fun other otherObject found => ?_⟩
    rw [← puts otherObject]
    exact framed _ _ (made other otherObject found)
  · exact mapType_withNullable present written
  · rw [mapType_property] at written
    exact unmarked_typeText (by simp only [Unmarked]; decide) named written

/-- A pair of a list of callbacks and a number. -/
def callbackPair : TypeExpr :=
  .named ⟨"kotlin", "Pair"⟩
    [.type .covariant (.named ⟨"kotlin.collections", "List"⟩
      [.type .invariant (.function [.named ⟨"kotlin", "Int"⟩ [] false]
        (.named ⟨"com.example", "Coord"⟩ [] true) false)] false),
     .type .invariant (.named ⟨"kotlin", "Long"⟩ [] false)] false

/-- The pair has other labels where a factory gives it; the number in it is boxed and the callbacks
are not marked. -/
theorem position_acts_on_callbackPair :
    Bridgeable callbackPair ∧
      mapType callbackPair .parameter =
        .ok "(first: [(KotlinInt) -> Coord?], second: KotlinLong)" ∧
      mapType (callbackPair.withNullable true) .property =
        .ok "(first: [(KotlinInt) -> Coord?], second: KotlinLong)?" ∧
      mapType callbackPair .factoryResult =
        .ok "(view: [(KotlinInt) -> Coord?], delegate: KotlinLong)" := by
  have bridges : Bridgeable callbackPair := by
    refine .pair (.collection (by decide) (.function (List.forall_mem_singleton.2 ?_) ?_)) ?_
    · exact .scalar (by decide)
    · exact .elsewhere (by simp [InStandardPackage])
    · exact .scalar (by decide)
  obtain ⟨text, property, parameter, -, -, -, optional, -⟩ := position_acts_at_root bridges
  have found : mapType callbackPair .property =
      .ok "(first: [(KotlinInt) -> Coord?], second: KotlinLong)" := by
    with_unfolding_all rfl
  obtain rfl := Except.ok.inj (found.symm.trans property)
  exact ⟨bridges, parameter, optional rfl, by with_unfolding_all rfl⟩

end Foreign

end ViewGlue
