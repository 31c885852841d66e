import ViewGlue.Proofs.TypePrinting

/-!
# Texts that tell types apart

The text of a type is made of words for its classes, its variables and the dynamic type, and of
marks between them. The marks tell where each part ends (`Determines`), so types are told apart by
their texts wherever different words are written for different things (`eq_of_textWith`), whatever
is written for a class.
-/

namespace ViewGlue.TypeExpr

open Text

/-! ## Atoms -/

/-- What a name in the text of a type stands for. -/
inductive Atom where
  /-- A class. -/
  | cls (name : QualifiedName)
  /-- A type variable. -/
  | variable (name : String)
  /-- The dynamic type. -/
  | dynamic
  deriving DecidableEq

/-- The name of an atom, where `className` writes the classes. -/
def Atom.text (className : QualifiedName → String) : Atom → String
  | .cls name => className name
  | .variable name => name
  | .dynamic => "dynamic"

mutual

/-- The atoms of a type in the order in which they are written. -/
def atoms : TypeExpr → List Atom
  | .named name arguments _ => .cls name :: argumentListAtoms arguments
  | .function parameters result _ => listAtoms parameters ++ result.atoms
  | .variable name _ => [.variable name]
  | .dynamic => [.dynamic]

/-- The atoms of types in the order in which they are written. -/
def listAtoms : List TypeExpr → List Atom
  | [] => []
  | type :: types => type.atoms ++ listAtoms types

/-- The atoms of an argument in the order in which they are written. -/
def argumentAtoms : TypeArgument → List Atom
  | .type _ type => type.atoms
  | .star => []

/-- The atoms of arguments in the order in which they are written. -/
def argumentListAtoms : List TypeArgument → List Atom
  | [] => []
  | argument :: arguments => argumentAtoms argument ++ argumentListAtoms arguments

end

/-- The atoms of one of several types are among those of all. -/
theorem atoms_subset_of_mem {type : TypeExpr} {types : List TypeExpr} (inside : type ∈ types) :
    type.atoms ⊆ listAtoms types := by
  induction types with
  | nil => cases inside
  | cons first types ih =>
    rcases List.mem_cons.1 inside with rfl | later
    · exact List.subset_append_left _ _
    · exact List.Subset.trans (ih later) (List.subset_append_right _ _)

/-- The atoms of one of several arguments are among those of all. -/
theorem argumentAtoms_subset_of_mem {argument : TypeArgument} {arguments : List TypeArgument}
    (inside : argument ∈ arguments) : argumentAtoms argument ⊆ argumentListAtoms arguments := by
  induction arguments with
  | nil => cases inside
  | cons first arguments ih =>
    rcases List.mem_cons.1 inside with rfl | later
    · exact List.subset_append_left _ _
    · exact List.Subset.trans (ih later) (List.subset_append_right _ _)

variable {className : QualifiedName → String}

/-- The texts of types are the text of each. -/
theorem texts_eq_map (types : List TypeExpr) :
    texts className types = types.map (textWith className) := by
  induction types with
  | nil => rfl
  | cons type types ih => rw [texts, ih, List.map_cons]

/-- The texts of arguments are the text of each. -/
theorem argumentTexts_eq_map (arguments : List TypeArgument) :
    argumentTexts className arguments = arguments.map (argumentText className) := by
  induction arguments with
  | nil => rfl
  | cons argument arguments ih => rw [argumentTexts, ih, List.map_cons]

/-! ## Where texts end -/

/-- The characters of dotted names. -/
def continuesDotted (c : Char) : Bool :=
  continuesName c || c == '.'

/-- Written like a dotted name. -/
def IsSpelled (word : String) : Prop :=
  word ≠ "" ∧ ∀ c ∈ word.toList, continuesDotted c = true

/-- Identifiers are spelled. -/
theorem isSpelled_of_isIdentifier {word : String} (identifier : isIdentifier word = true) :
    IsSpelled word := by
  constructor
  · rintro rfl
    exact absurd identifier (by decide)
  · intro c inside
    have continues := continuesName_of_mem identifier inside
    simp [continuesDotted, continues]

/-- Dotted lists are spelled. -/
theorem isSpelled_of_isDotted {word : String} (isList : isDotted word = true) :
    IsSpelled word := by
  refine ⟨ne_empty_of_isDotted isList, fun c inside => ?_⟩
  rw [← joinChars_splitChars '.' word.toList] at inside
  obtain rfl | ⟨part, listed, found⟩ := mem_joinChars inside
  · rfl
  · have identifier := List.all_eq_true.1 isList part listed
    have continues := continuesName_of_mem identifier found
    simp [continuesDotted, continues]

/-- What may stand behind the last of several types: a closing mark. -/
def EndsList (s : List Char) : Prop :=
  s.head? = some ')' ∨ s.head? = some '>'

/-- What may stand behind a type: nothing, a comma or a closing mark. -/
def EndsType (s : List Char) : Prop :=
  s = [] ∨ s.head? = some ',' ∨ EndsList s

/-- Wherever two texts stand in front of what may stand behind a type and make the same characters
with it, they end at one place, and what they are written for is the same. -/
def Determines (s t : List Char) (same : Prop) : Prop :=
  ∀ rest rest', EndsType rest → EndsType rest' → s ++ rest = t ++ rest' → same ∧ rest = rest'

/-- Words end where the first other character stands. -/
theorem eq_of_append_eq {isPart : Char → Bool} {s t rest rest' : List Char}
    (parts : ∀ c ∈ s, isPart c = true) (parts' : ∀ c ∈ t, isPart c = true)
    (stops : ∀ c ∈ rest.head?, isPart c = false) (stops' : ∀ c ∈ rest'.head?, isPart c = false)
    (same : s ++ rest = t ++ rest') : s = t ∧ rest = rest' := by
  induction s generalizing t with
  | nil =>
    cases t with
    | nil => exact ⟨rfl, same⟩
    | cons c t =>
      rw [List.nil_append] at same
      have part := parts' c List.mem_cons_self
      rw [stops c (by simp [same])] at part
      cases part
  | cons c s ih =>
    cases t with
    | nil =>
      rw [List.nil_append] at same
      have part := parts c List.mem_cons_self
      rw [stops' c (by simp [← same])] at part
      cases part
    | cons d t =>
      obtain ⟨rfl, others⟩ := List.cons.inj same
      obtain ⟨rfl, tails⟩ := ih (fun e inside => parts e (List.mem_cons_of_mem _ inside))
        (fun e inside => parts' e (List.mem_cons_of_mem _ inside)) others
      exact ⟨rfl, tails⟩

section Further

variable {α : Type} {text : α → String}

/-- The characters of further things, with a comma before each, and what stands behind them. -/
def further (text : α → String) (rest : List Char) : List α → List Char
  | [] => rest
  | element :: elements => ',' :: ' ' :: ((text element).toList ++ further text rest elements)

/-- Things with commas between them are the first and the further ones. -/
theorem toList_joinWith_append (element : α) (elements : List α) (rest : List Char) :
    (joinWith ", " (text element :: elements.map text)).toList ++ rest =
      (text element).toList ++ further text rest elements := by
  induction elements generalizing element with
  | nil => simp [joinWith, further]
  | cons next others ih =>
    have tail := ih next
    simp only [List.map_cons, joinWith, String.toList_append, List.append_assoc, further] at tail ⊢
    rw [tail]
    rfl

/-- Further things may stand behind a type. -/
theorem endsType_further {rest : List Char} (ends : EndsList rest) (elements : List α) :
    EndsType (further text rest elements) := by
  cases elements with
  | nil => exact .inr (.inr ends)
  | cons element elements => exact .inr (.inl rfl)

/-- Further things are told apart where each is told apart from the others. -/
theorem eq_of_further {firsts seconds : List α} {rest rest' : List Char}
    (each : ∀ first ∈ firsts, ∀ second ∈ seconds,
      Determines (text first).toList (text second).toList (first = second))
    (ends : EndsList rest) (ends' : EndsList rest')
    (same : further text rest firsts = further text rest' seconds) :
    firsts = seconds ∧ rest = rest' := by
  induction firsts generalizing seconds with
  | nil =>
    cases seconds with
    | nil => exact ⟨rfl, same⟩
    | cons second seconds =>
      rw [further, further] at same
      simp [EndsList, same] at ends
  | cons first firsts ih =>
    cases seconds with
    | nil =>
      rw [further, further] at same
      simp [EndsList, ← same] at ends'
    | cons second seconds =>
      simp only [further, List.cons.injEq, true_and] at same
      obtain ⟨rfl, behind⟩ := each first (by simp) second (by simp) _ _
        (endsType_further ends firsts) (endsType_further ends' seconds) same
      obtain ⟨rfl, tails⟩ := ih (fun one inside other inside' =>
        each one (List.mem_cons_of_mem _ inside) other (List.mem_cons_of_mem _ inside')) behind
      exact ⟨rfl, tails⟩

/-- Things with commas between them are told apart where each is told apart from the others. -/
theorem eq_of_joinWith {first second : α} {firsts seconds : List α} {rest rest' : List Char}
    (each : ∀ one ∈ first :: firsts, ∀ other ∈ second :: seconds,
      Determines (text one).toList (text other).toList (one = other))
    (ends : EndsList rest) (ends' : EndsList rest')
    (same : (joinWith ", " ((first :: firsts).map text)).toList ++ rest =
      (joinWith ", " ((second :: seconds).map text)).toList ++ rest') :
    first :: firsts = second :: seconds ∧ rest = rest' := by
  rw [List.map_cons, List.map_cons, toList_joinWith_append, toList_joinWith_append] at same
  obtain ⟨rfl, behind⟩ := each first List.mem_cons_self second List.mem_cons_self _ _
    (endsType_further ends firsts) (endsType_further ends' seconds) same
  obtain ⟨rfl, tails⟩ := eq_of_further (fun one inside other inside' =>
    each one (List.mem_cons_of_mem _ inside) other (List.mem_cons_of_mem _ inside')) ends ends'
    behind
  exact ⟨rfl, tails⟩

end Further

/-! ## Names with arguments -/

/-- Types end before any of a few characters only. -/
theorem EndsType.mem_of_cons {c : Char} {rest : List Char} (ends : EndsType (c :: rest)) :
    c ∈ [',', ')', '>'] := by
  simpa [EndsType, EndsList] using ends

/-- A question mark is told from what stands behind a type. -/
theorem eq_of_mark {nullable nullable' : Bool} {rest rest' : List Char} (ends : EndsType rest)
    (ends' : EndsType rest')
    (same : (mark nullable).toList ++ rest = (mark nullable').toList ++ rest') :
    nullable = nullable' ∧ rest = rest' := by
  cases nullable with
  | false =>
    cases nullable' with
    | false => exact ⟨rfl, same⟩
    | true =>
      obtain rfl : rest = '?' :: rest' := same
      exact absurd ends.mem_of_cons (by decide)
  | true =>
    cases nullable' with
    | false =>
      obtain rfl : '?' :: rest = rest' := same
      exact absurd ends'.mem_of_cons (by decide)
    | true => exact ⟨rfl, List.cons.inj same |>.2⟩

/-- What stands behind the name in the text of a type that is no function. -/
def behindName (className : QualifiedName → String) (arguments : List TypeArgument)
    (nullable : Bool) (rest : List Char) : List Char :=
  (bracketed (argumentTexts className arguments)).toList ++ ((mark nullable).toList ++ rest)

/-- Behind a name stands no character of a name and no blank. -/
theorem head?_behindName {arguments : List TypeArgument} {nullable : Bool} {rest : List Char}
    (ends : EndsType rest) : ∀ c ∈ (behindName className arguments nullable rest).head?,
      continuesDotted c = false ∧ c ≠ ' ' := by
  have known : ∀ c ∈ ['<', '?', ',', ')', '>'], continuesDotted c = false ∧ c ≠ ' ' := by
    simp only [List.forall_mem_cons, List.not_mem_nil, false_implies, implies_true, and_true]
    decide
  intro c first
  refine known c ?_
  cases arguments with
  | cons argument arguments =>
    obtain rfl : '<' = c := by simpa [behindName, argumentTexts, bracketed] using first
    decide
  | nil =>
    cases nullable with
    | true =>
      obtain rfl : '?' = c := by simpa [behindName, argumentTexts, bracketed, mark] using first
      decide
    | false =>
      have start : rest.head? = some c := by
        simpa [behindName, argumentTexts, bracketed, mark] using first
      obtain ⟨behind, rfl⟩ := List.head?_eq_some_iff.1 start
      have closing := ends.mem_of_cons
      simp only [List.mem_cons, List.not_mem_nil, or_false] at closing ⊢
      exact .inr (.inr closing)

/-- Arguments and question marks behind names are told apart where the arguments are. -/
theorem eq_of_behindName {firsts seconds : List TypeArgument} {nullable nullable' : Bool}
    {rest rest' : List Char}
    (each : ∀ first ∈ firsts, ∀ second ∈ seconds, Determines (argumentText className first).toList
      (argumentText className second).toList (first = second))
    (ends : EndsType rest) (ends' : EndsType rest')
    (same : behindName className firsts nullable rest =
      behindName className seconds nullable' rest') :
    firsts = seconds ∧ nullable = nullable' ∧ rest = rest' := by
  have opened (argument : TypeArgument) (arguments : List TypeArgument) (nullable : Bool)
      (rest : List Char) : behindName className (argument :: arguments) nullable rest =
      '<' :: ((joinWith ", " ((argument :: arguments).map (argumentText className))).toList ++
        '>' :: ((mark nullable).toList ++ rest)) := by
    simp [behindName, argumentTexts_eq_map, bracketed]
  have closed {nullable : Bool} {rest behind : List Char} (ends : EndsType rest)
      (opens : behindName className [] nullable rest = '<' :: behind) : False := by
    cases nullable with
    | true => simp [behindName, argumentTexts, bracketed, mark] at opens
    | false =>
      obtain rfl : rest = '<' :: behind := opens
      exact absurd ends.mem_of_cons (by decide)
  cases firsts with
  | nil =>
    cases seconds with
    | nil => exact ⟨rfl, eq_of_mark ends ends' same⟩
    | cons second seconds => exact (closed ends (same.trans (opened ..))).elim
  | cons first firsts =>
    cases seconds with
    | nil => exact (closed ends' (same.symm.trans (opened ..))).elim
    | cons second seconds =>
      rw [opened, opened, List.cons.injEq] at same
      obtain ⟨arguments, behind⟩ := eq_of_joinWith each (.inr rfl) (.inr rfl) same.2
      exact ⟨arguments, eq_of_mark ends ends' (List.cons.inj behind).2⟩

/-- A type that is no function is an atom with arguments and a question mark. -/
inductive IsApplied : TypeExpr → Atom → List TypeArgument → Bool → Prop where
  /-- A class with its arguments. -/
  | cls {name : QualifiedName} {arguments : List TypeArgument} {nullable : Bool} :
      IsApplied (.named name arguments nullable) (.cls name) arguments nullable
  /-- A type variable, which takes none. -/
  | variable {name : String} {nullable : Bool} :
      IsApplied (.variable name nullable) (.variable name) [] nullable
  /-- The dynamic type, which has no question mark either. -/
  | dynamic : IsApplied .dynamic .dynamic [] false

section IsApplied

variable {type type' : TypeExpr} {atom atom' : Atom} {arguments arguments' : List TypeArgument}
  {nullable nullable' : Bool}

/-- An atom with arguments and a question mark is one type. -/
theorem IsApplied.unique (applied : IsApplied type atom arguments nullable)
    (applied' : IsApplied type' atom arguments nullable) : type = type' := by
  cases applied <;> cases applied' <;> rfl

/-- The atoms of a type that is no function. -/
theorem IsApplied.atoms_eq (applied : IsApplied type atom arguments nullable) :
    type.atoms = atom :: argumentListAtoms arguments := by
  cases applied <;> rfl

/-- The text of a type that is no function is the name of its atom and what is behind it. -/
theorem IsApplied.text_eq (applied : IsApplied type atom arguments nullable) (rest : List Char) :
    (type.textWith className).toList ++ rest =
      (atom.text className).toList ++ behindName className arguments nullable rest := by
  cases applied <;> simp [textWith, Atom.text, behindName, argumentTexts, bracketed, mark]

/-- Arguments are smaller than their type. -/
theorem IsApplied.sizeOf_lt (applied : IsApplied type atom arguments nullable)
    {argument : TypeArgument} (inside : argument ∈ arguments) :
    sizeOf argument < sizeOf type := by
  cases applied with
  | cls =>
    have smaller := List.sizeOf_lt_of_mem inside
    simp only [TypeExpr.named.sizeOf_spec]
    omega
  | _ => cases inside

/-- Types that are no functions are told apart where their atoms and arguments are. -/
theorem IsApplied.determines (applied : IsApplied type atom arguments nullable)
    (applied' : IsApplied type' atom' arguments' nullable')
    (spelled : IsSpelled (atom.text className)) (spelled' : IsSpelled (atom'.text className))
    (apart : atom.text className = atom'.text className → atom = atom')
    (each : ∀ first ∈ arguments, ∀ second ∈ arguments',
      Determines (argumentText className first).toList (argumentText className second).toList
        (first = second)) :
    Determines (type.textWith className).toList (type'.textWith className).toList
      (type = type') := by
  intro rest rest' ends ends' same
  rw [applied.text_eq, applied'.text_eq] at same
  obtain ⟨names, behind⟩ := eq_of_append_eq spelled.2 spelled'.2
    (fun c first => (head?_behindName ends c first).1)
    (fun c first => (head?_behindName ends' c first).1) same
  obtain rfl := apart (String.toList_inj.1 names)
  obtain ⟨rfl, rfl, tails⟩ := eq_of_behindName each ends ends' behind
  exact ⟨applied.unique applied', tails⟩

/-- A type that is no function starts with a character of a name. -/
theorem IsApplied.head?_text (applied : IsApplied type atom arguments nullable)
    (spelled : IsSpelled (atom.text className)) (rest : List Char) :
    ∃ c, ((type.textWith className).toList ++ rest).head? = some c ∧ continuesDotted c = true := by
  rw [applied.text_eq]
  cases letters : (atom.text className).toList with
  | nil => exact absurd (String.toList_eq_nil_iff.1 letters) spelled.1
  | cons c others => exact ⟨c, rfl, spelled.2 c (by simp [letters])⟩

end IsApplied

/-- A type is a function or an atom with arguments and a question mark. -/
theorem function_or_isApplied : (type : TypeExpr) →
    (∃ parameters result nullable, type = .function parameters result nullable) ∨
      ∃ atom arguments nullable, IsApplied type atom arguments nullable
  | .function .. => .inl ⟨_, _, _, rfl⟩
  | .named .. => .inr ⟨_, _, _, .cls⟩
  | .variable .. => .inr ⟨_, _, _, .variable⟩
  | .dynamic => .inr ⟨_, _, _, .dynamic⟩

/-! ## Functions -/

section Function

variable {parameters parameters' : List TypeExpr} {result result' : TypeExpr}

/-- The text of a function. -/
theorem text_function (parameters : List TypeExpr) (result : TypeExpr) (rest : List Char) :
    ((TypeExpr.function parameters result false).textWith className).toList ++ rest =
      '(' :: ((joinWith ", " (parameters.map (textWith className))).toList ++
        ')' :: ' ' :: '-' :: '>' :: ' ' :: ((result.textWith className).toList ++ rest)) := by
  simp [textWith, arrow, texts_eq_map]

/-- The text of a function that may be absent. -/
theorem text_nullableFunction (parameters : List TypeExpr) (result : TypeExpr)
    (rest : List Char) :
    ((TypeExpr.function parameters result true).textWith className).toList ++ rest =
      '(' :: (((TypeExpr.function parameters result false).textWith className).toList ++
        ')' :: '?' :: rest) := by
  simp [textWith, arrow]

/-- The text of a function starts with a parenthesis. -/
theorem head?_text_function (parameters : List TypeExpr) (result : TypeExpr) (nullable : Bool)
    (rest : List Char) :
    (((TypeExpr.function parameters result nullable).textWith className).toList ++ rest).head? =
      some '(' := by
  cases nullable with
  | false => rw [text_function, List.head?_cons]
  | true => rw [text_nullableFunction, List.head?_cons]

/-- Functions are told apart where their parameters and results are. -/
theorem determines_function
    (leads : ∀ type ∈ parameters ++ parameters', ∀ rest,
      ((type.textWith className).toList ++ rest).head? ≠ some ')')
    (each : ∀ first ∈ parameters, ∀ second ∈ parameters',
      Determines (first.textWith className).toList (second.textWith className).toList
        (first = second))
    (last : Determines (result.textWith className).toList (result'.textWith className).toList
      (result = result')) :
    Determines ((TypeExpr.function parameters result false).textWith className).toList
      ((TypeExpr.function parameters' result' false).textWith className).toList
      (parameters = parameters' ∧ result = result') := by
  intro rest rest' ends ends' same
  rw [text_function, text_function, List.cons.injEq] at same
  have both : parameters = parameters' ∧ (result.textWith className).toList ++ rest =
      (result'.textWith className).toList ++ rest' := by
    cases parameters with
    | nil =>
      cases parameters' with
      | nil => exact ⟨rfl, by simpa [joinWith] using same.2⟩
      | cons second seconds =>
        have starts := leads second (by simp)
        rw [List.map_nil, List.map_cons, toList_joinWith_append] at same
        exact absurd (by rw [← same.2]; rfl) (starts _)
    | cons first firsts =>
      cases parameters' with
      | nil =>
        have starts := leads first (by simp)
        rw [List.map_nil, List.map_cons, toList_joinWith_append] at same
        exact absurd (by rw [same.2]; rfl) (starts _)
      | cons second seconds =>
        obtain ⟨parameters, behind⟩ := eq_of_joinWith each (.inl rfl) (.inl rfl) same.2
        exact ⟨parameters, by simpa using behind⟩
  obtain ⟨results, tails⟩ := last rest rest' ends ends' both.2
  exact ⟨⟨both.1, results⟩, tails⟩

/-- A function that may be absent is told from any other, where it is told from the parameters of
that when it may not be absent. -/
theorem nullableFunction_ne {rest rest' : List Char} {same : TypeExpr → Prop}
    (each : ∀ parameter ∈ parameters',
      Determines ((TypeExpr.function parameters result false).textWith className).toList
        (parameter.textWith className).toList (same parameter)) :
    ((TypeExpr.function parameters result true).textWith className).toList ++ rest ≠
      ((TypeExpr.function parameters' result' false).textWith className).toList ++ rest' := by
  intro whole
  rw [text_nullableFunction, text_function parameters', List.cons.injEq] at whole
  cases parameters' with
  | nil =>
    rw [text_function] at whole
    simp [joinWith] at whole
  | cons parameter others =>
    rw [List.map_cons, toList_joinWith_append] at whole
    -- Both start like the inner function, but only that one has a question mark behind it.
    obtain ⟨-, behind⟩ := each parameter List.mem_cons_self _ _ (.inr (.inr (.inl rfl)))
      (endsType_further (.inl rfl) others) whole.2
    cases others <;> simp [further] at behind

end Function

/-! ## All types -/

/-- Some atoms have names, and different ones have different names. -/
structure ToldApart (className : QualifiedName → String) (atoms : List Atom) : Prop where
  /-- The text of an atom has only characters of dotted names. -/
  spelled : ∀ atom ∈ atoms, IsSpelled (atom.text className)
  /-- No two atoms have one text. -/
  distinct : ∀ left ∈ atoms, ∀ right ∈ atoms,
    left.text className = right.text className → left = right

section ToldApart

variable {known : List Atom} (apart : ToldApart className known)
include apart

/-- A type starts with a parenthesis or a character of a name. -/
theorem ToldApart.head?_text {type : TypeExpr} (inside : type.atoms ⊆ known) (rest : List Char) :
    ∃ c, ((type.textWith className).toList ++ rest).head? = some c ∧
      (c = '(' ∨ continuesDotted c = true) := by
  obtain ⟨parameters, result, nullable, rfl⟩ | ⟨atom, arguments, nullable, applied⟩ :=
    function_or_isApplied type
  · exact ⟨'(', head?_text_function .., .inl rfl⟩
  · have spelled := apart.spelled atom (inside (by simp [applied.atoms_eq]))
    obtain ⟨c, first, part⟩ := applied.head?_text spelled rest
    exact ⟨c, first, .inr part⟩

/-- A type in front of what may stand behind it is not read as a marked one. -/
theorem ToldApart.text_ne_marked {type : TypeExpr} (inside : type.atoms ⊆ known)
    {rest : List Char} (ends : EndsType rest) (word : String) (marks : word ∈ ["out", "in"])
    (behind : List Char) :
    (type.textWith className).toList ++ rest ≠ word.toList ++ ' ' :: behind := by
  have letters : word.toList.head? ≠ some '(' ∧ word.toList ≠ [] ∧
      ∀ c ∈ word.toList, continuesDotted c = true := by
    rw [← List.all_eq_true]
    simp only [List.mem_cons, List.not_mem_nil, or_false] at marks
    rcases marks with rfl | rfl <;> decide
  intro same
  obtain ⟨parameters, result, nullable, rfl⟩ | ⟨atom, arguments, nullable, applied⟩ :=
    function_or_isApplied type
  · have first : (word.toList ++ ' ' :: behind).head? = some '(' := by
      rw [← same, head?_text_function]
    rw [List.head?_append, Option.or_of_isSome (by simpa using letters.2.1)] at first
    exact letters.1 first
  · have spelled := apart.spelled atom (inside (by simp [applied.atoms_eq]))
    have stops : ∀ c ∈ (behindName className arguments nullable rest).head?, _ :=
      head?_behindName ends
    rw [applied.text_eq] at same
    obtain ⟨-, tails⟩ := eq_of_append_eq spelled.2 letters.2.2 (fun c first => (stops c first).1)
      (by simp [continuesDotted]; decide) same
    exact (stops ' ' (by simp [tails])).2 rfl

/-- The markers of arguments are told apart. -/
theorem ToldApart.eq_of_marker {first second : TypeExpr} (inside : first.atoms ⊆ known)
    (inside' : second.atoms ⊆ known) {rest rest' : List Char} (ends : EndsType rest)
    (ends' : EndsType rest') {variance variance' : Variance}
    (same : variance.marker.toList ++ ((first.textWith className).toList ++ rest) =
      variance'.marker.toList ++ ((second.textWith className).toList ++ rest')) :
    variance = variance' ∧ (first.textWith className).toList ++ rest =
      (second.textWith className).toList ++ rest' := by
  cases variance <;> cases variance'
  case invariant.invariant => exact ⟨rfl, same⟩
  case covariant.covariant => exact ⟨rfl, by simpa [Variance.marker] using same⟩
  case contravariant.contravariant => exact ⟨rfl, by simpa [Variance.marker] using same⟩
  case invariant.covariant =>
    exact absurd same (apart.text_ne_marked inside ends "out" (by simp) _)
  case invariant.contravariant =>
    exact absurd same (apart.text_ne_marked inside ends "in" (by simp) _)
  case covariant.invariant =>
    exact absurd same.symm (apart.text_ne_marked inside' ends' "out" (by simp) _)
  case contravariant.invariant =>
    exact absurd same.symm (apart.text_ne_marked inside' ends' "in" (by simp) _)
  case covariant.contravariant => simp [Variance.marker] at same
  case contravariant.covariant => simp [Variance.marker] at same

/-- A type is not read as a star. -/
theorem ToldApart.text_ne_star {type : TypeExpr} (inside : type.atoms ⊆ known)
    (variance : Variance) (rest behind : List Char) :
    variance.marker.toList ++ ((type.textWith className).toList ++ rest) ≠ '*' :: behind := by
  intro same
  cases variance with
  | invariant =>
    obtain ⟨c, first, start⟩ := apart.head?_text inside rest
    have star : some '*' = some c := by
      rw [← first, ← List.head?_cons, ← same]
      rfl
    obtain rfl := Option.some.inj star
    exact absurd start (by decide)
  | covariant => simp [Variance.marker] at same
  | contravariant => simp [Variance.marker] at same

/-- No type starts with another mark than a parenthesis that opens. -/
theorem ToldApart.head?_text_ne {type : TypeExpr} (inside : type.atoms ⊆ known) {c : Char}
    (other : c ≠ '(' ∧ continuesDotted c = false) (rest : List Char) :
    ((type.textWith className).toList ++ rest).head? ≠ some c := by
  intro same
  obtain ⟨d, first, start⟩ := apart.head?_text inside rest
  obtain rfl := Option.some.inj (same.symm.trans first)
  rcases start with opens | part
  · exact other.1 opens
  · exact absurd part (by simp [other.2])

/-- Arguments are told apart by their texts where their types are. -/
theorem ToldApart.determines_argument {first second : TypeArgument}
    (inside : argumentAtoms first ⊆ known) (inside' : argumentAtoms second ⊆ known)
    (inner : ∀ variance type variance' type', first = .type variance type →
      second = .type variance' type' →
      Determines (type.textWith className).toList (type'.textWith className).toList
        (type = type')) :
    Determines (argumentText className first).toList (argumentText className second).toList
      (first = second) := by
  intro rest rest' ends ends' same
  match first, second with
  | .star, .star => exact ⟨rfl, by simpa [argumentText] using same⟩
  | .star, .type variance type =>
    rw [argumentText, argumentText, String.toList_append, List.append_assoc] at same
    exact absurd same.symm (apart.text_ne_star inside' variance rest' _)
  | .type variance type, .star =>
    rw [argumentText, argumentText, String.toList_append, List.append_assoc] at same
    exact absurd same (apart.text_ne_star inside variance rest _)
  | .type variance type, .type variance' type' =>
    rw [argumentText, argumentText, String.toList_append, String.toList_append, List.append_assoc,
      List.append_assoc] at same
    obtain ⟨rfl, texts⟩ := apart.eq_of_marker inside inside' ends ends' same
    obtain ⟨rfl, tails⟩ := inner _ _ _ _ rfl rfl _ _ ends ends' texts
    exact ⟨rfl, tails⟩

/-- Functions are told apart by their texts where their parameters and results are, and each
function that may not be absent is told apart from the parameters of the other. -/
theorem ToldApart.determines_functions {parameters parameters' : List TypeExpr}
    {result result' : TypeExpr} {nullable nullable' : Bool}
    (inside : ∀ type ∈ parameters ++ parameters', type.atoms ⊆ known)
    (each : ∀ first ∈ parameters, ∀ second ∈ parameters',
      Determines (first.textWith className).toList (second.textWith className).toList
        (first = second))
    (last : Determines (result.textWith className).toList (result'.textWith className).toList
      (result = result'))
    (cross : ∀ second ∈ parameters',
      Determines ((TypeExpr.function parameters result false).textWith className).toList
        (second.textWith className).toList (.function parameters result false = second))
    (cross' : ∀ first ∈ parameters,
      Determines ((TypeExpr.function parameters' result' false).textWith className).toList
        (first.textWith className).toList (.function parameters' result' false = first)) :
    Determines ((TypeExpr.function parameters result nullable).textWith className).toList
      ((TypeExpr.function parameters' result' nullable').textWith className).toList
      (TypeExpr.function parameters result nullable = .function parameters' result' nullable') := by
  have plain := determines_function
    (fun type listed rest => apart.head?_text_ne (inside type listed) (by decide) rest) each last
  intro rest rest' ends ends' same
  cases nullable <;> cases nullable'
  case false.false =>
    obtain ⟨⟨rfl, rfl⟩, tails⟩ := plain rest rest' ends ends' same
    exact ⟨rfl, tails⟩
  case true.true =>
    rw [text_nullableFunction, text_nullableFunction, List.cons.injEq] at same
    obtain ⟨⟨rfl, rfl⟩, tails⟩ :=
      plain _ _ (.inr (.inr (.inl rfl))) (.inr (.inr (.inl rfl))) same.2
    exact ⟨rfl, by simpa using tails⟩
  case true.false => exact absurd same (nullableFunction_ne cross)
  case false.true => exact absurd same.symm (nullableFunction_ne cross')

/-- A function is told apart from any other type. -/
theorem ToldApart.text_function_ne {type : TypeExpr} {atom : Atom} {arguments : List TypeArgument}
    {nullable nullable' : Bool} (inside : type.atoms ⊆ known)
    (applied : IsApplied type atom arguments nullable) (parameters : List TypeExpr)
    (result : TypeExpr) (rest rest' : List Char) :
    (type.textWith className).toList ++ rest ≠
      ((TypeExpr.function parameters result nullable').textWith className).toList ++ rest' := by
  have spelled := apart.spelled atom (inside (by simp [applied.atoms_eq]))
  obtain ⟨c, first, part⟩ := applied.head?_text spelled rest
  intro same
  have opens : some '(' = some c := by rw [← first, same, head?_text_function]
  obtain rfl := Option.some.inj opens
  exact absurd part (by decide)

/-- Types of known atoms whose sizes add up to less than a bound are told apart by their texts. -/
def DeterminesBelow (className : QualifiedName → String) (known : List Atom) (bound : Nat) : Prop :=
  ∀ first second : TypeExpr, sizeOf first + sizeOf second < bound → first.atoms ⊆ known →
    second.atoms ⊆ known →
    Determines (first.textWith className).toList (second.textWith className).toList
      (first = second)

/-- Functions are told apart by their texts where all smaller types are. A question mark does not
count for the size, so each function is smaller without it than with the parameters of the
other. -/
theorem ToldApart.determines_function_step {parameters parameters' : List TypeExpr}
    {result result' : TypeExpr} {nullable nullable' : Bool}
    (inside : (TypeExpr.function parameters result nullable).atoms ⊆ known)
    (inside' : (TypeExpr.function parameters' result' nullable').atoms ⊆ known)
    (smaller : DeterminesBelow className known
      (sizeOf (TypeExpr.function parameters result nullable) +
        sizeOf (TypeExpr.function parameters' result' nullable'))) :
    Determines ((TypeExpr.function parameters result nullable).textWith className).toList
      ((TypeExpr.function parameters' result' nullable').textWith className).toList
      (TypeExpr.function parameters result nullable = .function parameters' result' nullable') := by
  rw [atoms, List.append_subset] at inside inside'
  have each : ∀ type ∈ parameters, type.atoms ⊆ known ∧ sizeOf type < sizeOf parameters :=
    fun type listed =>
      ⟨List.Subset.trans (atoms_subset_of_mem listed) inside.1, List.sizeOf_lt_of_mem listed⟩
  have each' : ∀ type ∈ parameters', type.atoms ⊆ known ∧ sizeOf type < sizeOf parameters' :=
    fun type listed =>
      ⟨List.Subset.trans (atoms_subset_of_mem listed) inside'.1, List.sizeOf_lt_of_mem listed⟩
  simp only [DeterminesBelow, TypeExpr.function.sizeOf_spec, Bool.sizeOf_eq_one] at smaller
  refine apart.determines_functions ?_ ?_ ?_ ?_ ?_
  · intro type listed
    exact (List.mem_append.1 listed).elim (fun one => (each type one).1)
      (fun other => (each' type other).1)
  · intro type listed type' listed'
    obtain ⟨within, less⟩ := each type listed
    obtain ⟨within', less'⟩ := each' type' listed'
    exact smaller type type' (by omega) within within'
  · exact smaller result result' (by omega) inside.2 inside'.2
  · intro type listed
    obtain ⟨within, less⟩ := each' type listed
    refine smaller _ type ?_ (by simpa [atoms] using inside) within
    simp only [TypeExpr.function.sizeOf_spec, Bool.sizeOf_eq_one]
    omega
  · intro type listed
    obtain ⟨within, less⟩ := each type listed
    refine smaller _ type ?_ (by simpa [atoms] using inside') within
    simp only [TypeExpr.function.sizeOf_spec, Bool.sizeOf_eq_one]
    omega

/-- Types that are no functions are told apart by their texts where all smaller types are. -/
theorem ToldApart.determines_applied_step {first second : TypeExpr} {atom atom' : Atom}
    {arguments arguments' : List TypeArgument} {nullable nullable' : Bool}
    (applied : IsApplied first atom arguments nullable)
    (applied' : IsApplied second atom' arguments' nullable') (inside : first.atoms ⊆ known)
    (inside' : second.atoms ⊆ known)
    (smaller : DeterminesBelow className known (sizeOf first + sizeOf second)) :
    Determines (first.textWith className).toList (second.textWith className).toList
      (first = second) := by
  rw [applied.atoms_eq, List.cons_subset] at inside
  rw [applied'.atoms_eq, List.cons_subset] at inside'
  refine applied.determines applied' (apart.spelled _ inside.1) (apart.spelled _ inside'.1)
    (apart.distinct _ inside.1 _ inside'.1) fun one listed other listed' => ?_
  have within := List.Subset.trans (argumentAtoms_subset_of_mem listed) inside.2
  have within' := List.Subset.trans (argumentAtoms_subset_of_mem listed') inside'.2
  have less := applied.sizeOf_lt listed
  have less' := applied'.sizeOf_lt listed'
  refine apart.determines_argument within within' ?_
  rintro variance type variance' type' rfl rfl
  simp only [TypeArgument.type.sizeOf_spec] at less less'
  exact smaller type type' (by omega) within within'

/-- Types are told apart by their texts where all smaller types are. -/
theorem ToldApart.determines_step (first second : TypeExpr)
    (smaller : DeterminesBelow className known (sizeOf first + sizeOf second))
    (inside : first.atoms ⊆ known) (inside' : second.atoms ⊆ known) :
    Determines (first.textWith className).toList (second.textWith className).toList
      (first = second) := by
  obtain ⟨parameters, result, nullable, rfl⟩ | ⟨atom, arguments, nullable, applied⟩ :=
    function_or_isApplied first <;>
    obtain ⟨parameters', result', nullable', rfl⟩ | ⟨atom', arguments', nullable', applied'⟩ :=
      function_or_isApplied second
  · exact apart.determines_function_step inside inside' smaller
  · exact fun rest rest' _ _ same =>
      absurd same.symm (apart.text_function_ne inside' applied' parameters result rest' rest)
  · exact fun rest rest' _ _ same =>
      absurd same (apart.text_function_ne inside applied parameters' result' rest rest')
  · exact apart.determines_applied_step applied applied' inside inside' smaller

end ToldApart

/-- Types are told apart by their texts where their atoms are. The induction is on the sizes of both
types together, because a function that may be absent is compared with the parameters of another
one. -/
theorem ToldApart.determines {known : List Atom} (apart : ToldApart className known)
    (first second : TypeExpr) (inside : first.atoms ⊆ known) (inside' : second.atoms ⊆ known) :
    Determines (first.textWith className).toList (second.textWith className).toList
      (first = second) :=
  apart.determines_step first second
    (fun first' second' _ inside inside' => apart.determines first' second' inside inside')
    inside inside'
termination_by sizeOf first + sizeOf second

/-- Types with one text are the same where different atoms of theirs have different names. -/
theorem eq_of_textWith {first second : TypeExpr}
    (apart : ToldApart className (first.atoms ++ second.atoms))
    (same : first.textWith className = second.textWith className) : first = second := by
  have found := apart.determines first second (List.subset_append_left _ _)
    (List.subset_append_right _ _) [] [] (.inl rfl) (.inl rfl)
  exact (found (by rw [same])).1

end ViewGlue.TypeExpr
