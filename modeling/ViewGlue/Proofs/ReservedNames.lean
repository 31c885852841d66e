import ViewGlue.Proofs.CallSiteCapture
import ViewGlue.Proofs.GeneratedFiles
import ViewGlue.Proofs.ImportAgreement
import ViewGlue.Proofs.ManifestNames
import ViewGlue.Proofs.TargetAgreement

/-!
# Reserved words in host files

Views, their type parameters and parameters, and the parts of packages and classes are named by
users, and a reserved word may be such a name. `Generated.spellings` is how the names that stand
alone in a host file are written there, read off its lines, functions and bodies. Parameters are
written by their safe names wherever they stand, and all other names as they are
(`Host.only_parameters_are_quoted`), so a view named by a reserved word is declared under the bare
word (`Host.keywords_stand_bare`).
-/

namespace ViewGlue

namespace Host

/-! ## Names and how they are written -/

/-- What a name is in the file where it stands. -/
inductive Role where
  /-- The name of a view's function. -/
  | function
  /-- A type parameter of a view's function. -/
  | typeParameter
  /-- A parameter of a function. -/
  | parameter
  /-- A part of the dotted name of a package or of an imported class. -/
  | part
  deriving DecidableEq, Repr

/-- A name that stands alone in a file, with the text that stands there for it. -/
structure Spelling where
  /-- What the name is. -/
  role : Role
  /-- The name that is meant. -/
  name : String
  /-- The text that stands for it. -/
  written : String
  deriving DecidableEq, Repr

namespace Spelling

/-- Names with the texts that stand for them, one by one. -/
def pair (role : Role) (names written : List String) : List Spelling :=
  List.zipWith (Spelling.mk role) names written

/-- Parameters are written by their safe names and all other names as they are. -/
def QuotesParameter (spelling : Spelling) : Prop :=
  spelling.written =
    if spelling.role = .parameter then safeName spelling.name else spelling.name

variable {role : Role} {names : List String}

/-- Names that stand for themselves are written as they are. -/
theorem quotesParameter_of_mem_pair (other : role ≠ .parameter) :
    ∀ spelling ∈ pair role names names, spelling.QuotesParameter := by
  intro spelling inside
  rw [pair, List.zipWith_self, List.mem_map] at inside
  obtain ⟨name, -, rfl⟩ := inside
  exact (if_neg other).symm

/-- Parameters that are written by their safe names are quoted as they should be. -/
theorem quotesParameter_of_mem_pair_safeName :
    ∀ spelling ∈ pair .parameter names (names.map safeName), spelling.QuotesParameter := by
  intro spelling inside
  rw [pair, List.zipWith_map_right, List.zipWith_self, List.mem_map] at inside
  obtain ⟨name, -, rfl⟩ := inside
  exact (if_pos rfl).symm

/-- Each of some names stands for itself. -/
theorem mem_pair_self (role : Role) {name : String} (inside : name ∈ names) :
    ⟨role, name, name⟩ ∈ pair role names names := by
  rw [pair, List.zipWith_self]
  exact List.mem_map_of_mem (f := fun name => Spelling.mk role name name) inside

/-- For each of some parameters there stands its safe name. -/
theorem mem_pair_safeName {name : String} (inside : name ∈ names) :
    ⟨.parameter, name, safeName name⟩ ∈ pair .parameter names (names.map safeName) := by
  rw [pair, List.zipWith_map_right, List.zipWith_self]
  exact List.mem_map_of_mem (f := fun name => Spelling.mk .parameter name (safeName name)) inside

/-- A name that is no parameter is written by its safe name exactly if it is not reserved. -/
theorem QuotesParameter.written_eq_iff {spelling : Spelling}
    (quotes : spelling.QuotesParameter) :
    spelling.written = safeName spelling.name ↔
      (spelling.name ∈ reservedWords → spelling.role = .parameter) := by
  rw [quotes]
  by_cases isParameter : spelling.role = .parameter
  · simp [isParameter]
  · by_cases reserved : spelling.name ∈ reservedWords
    · have quoted : spelling.name ≠ Code.quoteName spelling.name := by
        intro same
        have longer := congrArg String.length same
        simp only [Code.quoteName, String.length_append] at longer
        have mark : "\x60".length = 1 := rfl
        omega
      simp [isParameter, reserved, safeName, Code.safeName, quoted]
    · simp [isParameter, reserved, safeName, Code.safeName]

end Spelling

/-! ## The lines before the declarations -/

/-- The dotted name that a line puts behind the keyword of a package or an import. -/
def named? : Code.Fragment → Option String
  | .line text =>
    if "package ".toList <+: text.toList then some (String.ofList (text.toList.drop 8))
    else if "import ".toList <+: text.toList then some (String.ofList (text.toList.drop 7))
    else none
  | _ => none

/-- The line of a package puts its name behind the keyword. -/
theorem named?_package (name : String) : named? (.line ("package " ++ name)) = some name := by
  have stands : "package ".toList <+: ("package " ++ name).toList := by simp
  rw [named?, if_pos stands]
  simp

/-- The line of an import puts its name behind the keyword. -/
theorem named?_import (name : String) : named? (.line ("import " ++ name)) = some name := by
  have stands : "import ".toList <+: ("import " ++ name).toList := by simp
  have other : ¬ "package ".toList <+: ("import " ++ name).toList := by simp
  rw [named?, if_neg other, if_pos stands]
  simp

namespace Scope

/-- The package of a file, if it has one, and the classes that it imports, as they are printed. -/
def headNames (scope : Scope) : List String :=
  (if scope.package = "" then [] else [scope.package]) ++
    scope.imports.entries.map fun entry => entry.1 ++ "." ++ entry.2

/-- The lines before the declarations name the package and the imported classes as they are. -/
theorem filterMap_named?_preamble (scope : Scope) :
    (File.preamble scope).filterMap named? = scope.headNames := by
  have imports : (File.importLines scope).filterMap named? =
      scope.imports.entries.map fun entry => entry.1 ++ "." ++ entry.2 := by
    have lines : File.importLines scope = scope.imports.entries.map fun entry =>
        .line ("import " ++ (entry.1 ++ "." ++ entry.2)) := by
      simp [File.importLines, Code.ImportSet.entries, Code.ImportSet.pairs, List.map_flatMap,
        Function.comp_def, String.append_assoc]
    simp [lines, List.filterMap_map, named?_import]
  have blank : named? .blank = none := rfl
  unfold File.preamble headNames
  by_cases bare : scope.package = ""
  · simp [bare, imports]
  · by_cases none : (File.importLines scope).isEmpty = true
    · have empty := List.isEmpty_iff.1 none
      rw [empty] at imports
      simp [bare, empty, named?_package, ← imports]
    · simp [bare, none, named?_package, blank, imports]

/-- The parts of the package and of the imported classes, with what stands for them in the lines
before the declarations. -/
def headSpellings (scope : Scope) : List Spelling :=
  (List.zipWith (fun name text =>
      Spelling.pair .part (Text.splitAt (· == '.') name) (Text.splitAt (· == '.') text))
    scope.headNames ((File.preamble scope).filterMap named?)).flatten

/-- The parts of packages and classes are written as they are. -/
theorem quotesParameter_of_mem_headSpellings {scope : Scope} :
    ∀ spelling ∈ scope.headSpellings, spelling.QuotesParameter := by
  intro spelling inside
  rw [headSpellings, filterMap_named?_preamble, List.zipWith_self] at inside
  obtain ⟨_, listed, found⟩ := List.mem_flatten.1 inside
  obtain ⟨name, -, rfl⟩ := List.mem_map.1 listed
  exact Spelling.quotesParameter_of_mem_pair (by decide) spelling found

/-- The parts of what is named before the declarations stand for themselves. -/
theorem mem_headSpellings {scope : Scope} {name part : String} (named : name ∈ scope.headNames)
    (inside : part ∈ Text.splitAt (· == '.') name) :
    ⟨.part, part, part⟩ ∈ scope.headSpellings := by
  rw [headSpellings, filterMap_named?_preamble, List.zipWith_self]
  exact List.mem_flatten.2 ⟨_, List.mem_map_of_mem named, Spelling.mem_pair_self .part inside⟩

end Scope

/-! ## Functions -/

/-- The type parameters and parameters of a function, with what stands for them in it. -/
def Function.spellings (typeParameters parameters : List String) (function : Function) :
    List Spelling :=
  Spelling.pair .typeParameter typeParameters function.typeParameters ++
    Spelling.pair .parameter parameters (function.parameters.map (·.name))

/-- The type parameters of a function are written as they are and its parameters by their safe
names. -/
def Function.Declares (typeParameters parameters : List String) (function : Function) : Prop :=
  function.typeParameters = typeParameters ∧
    function.parameters.map (·.name) = parameters.map safeName

/-- A function that writes its parameters by their safe names quotes them as it should. -/
theorem Function.Declares.quotesParameter {typeParameters parameters : List String}
    {function : Function} (declares : function.Declares typeParameters parameters) :
    ∀ spelling ∈ function.spellings typeParameters parameters, spelling.QuotesParameter := by
  obtain ⟨types, names⟩ := declares
  intro spelling inside
  rw [spellings, types, names, List.mem_append] at inside
  rcases inside with isType | isParameter
  · exact Spelling.quotesParameter_of_mem_pair (by decide) spelling isType
  · exact Spelling.quotesParameter_of_mem_pair_safeName spelling isParameter

/-- The method that creates a view writes its parameters by their safe names. -/
theorem CreateMethod.declares_function (scope : Scope) (method : CreateMethod) :
    (method.function scope).Declares method.typeParameters (method.parameters.map (·.1)) := by
  simp [Function.Declares, function, Function.comp_def]

/-- The method that updates a parameter writes it by its safe name. -/
theorem UpdateMethod.declares_function (scope : Scope) (method : UpdateMethod) :
    (method.function scope).Declares [] [method.parameter] := by
  simp [Function.Declares, function]

/-- The function of a view writes its parameters by their safe names. -/
theorem ActualFunction.declares_function (scope : Scope) (actual : ActualFunction) :
    (actual.function scope).Declares actual.view.typeParameters
      (actual.view.parameters.map (·.name)) := by
  simp [Function.Declares, function, parameter, Function.comp_def]

/-! ## Bodies -/

/-- The name that an expression is, or that it is unless this is absent. -/
def Expr.name? : Expr → Option String
  | .name text => some text
  | .orElse (.name text) _ => some text
  | _ => none

/-- The type arguments of a call. -/
def Expr.typeArguments : Expr → List String
  | .call _ arguments _ => arguments
  | _ => []

/-- The names that a call takes. -/
def Expr.argumentNames : Expr → List String
  | .call _ _ arguments => arguments.filterMap Expr.name?
  | _ => []

/-- The names that a statement hands to a call and to the call in its closure. -/
def Statement.argumentNames : Statement → List String
  | .run (.applied function body) => function.argumentNames ++ body.argumentNames
  | _ => []

namespace Body

variable {scope : Scope} {body : Body}

/-- The type parameters and parameters that a body hands on, with what stands for them in the call
that creates the view, in the calls that update it, and in the call that shows it. -/
def spellings (scope : Scope) (body : Body) : List Spelling :=
  Spelling.pair .typeParameter body.view.typeParameters body.creation.typeArguments ++
    Spelling.pair .parameter (body.view.dataParameters.map (·.name)) body.creation.argumentNames ++
    (body.view.dataParameters.flatMap fun parameter =>
      (update scope parameter).argumentNames.map (Spelling.mk .parameter parameter.name)) ++
    body.view.slot?.toList.flatMap fun slot =>
      (modifier scope body).name?.toList.map (Spelling.mk .parameter slot.name)

/-- A body hands parameters on by their safe names and type parameters as they are. -/
theorem quotesParameter_of_mem_spellings :
    ∀ spelling ∈ body.spellings scope, spelling.QuotesParameter := by
  have creation : body.creation.argumentNames =
      (body.view.dataParameters.map (·.name)).map safeName := by
    simp [creation, Expr.argumentNames, arguments, List.filterMap_map, Function.comp_def,
      Expr.name?]
  intro spelling inside
  simp only [spellings, List.mem_append] at inside
  rcases inside with ((isType | created) | updated) | shown
  · exact Spelling.quotesParameter_of_mem_pair (by decide) spelling isType
  · rw [creation] at created
    exact Spelling.quotesParameter_of_mem_pair_safeName spelling created
  · obtain ⟨parameter, -, found⟩ := List.mem_flatMap.1 updated
    obtain ⟨written, listed, rfl⟩ := List.mem_map.1 found
    have safe : written = safeName parameter.name := by
      simpa [update, remembered, Statement.argumentNames, Expr.argumentNames, Expr.invoke,
        Expr.name?] using listed
    exact safe
  · obtain ⟨slot, isSlot, found⟩ := List.mem_flatMap.1 shown
    obtain ⟨written, listed, rfl⟩ := List.mem_map.1 found
    have slot? : body.view.slot? = some slot := Option.mem_toList.1 isSlot
    have safe : written = safeName slot.name := by
      rw [modifier, slot?] at listed
      by_cases nullable : slot.type.isNullable = true
      · simpa [nullable, Expr.name?] using listed
      · simpa [nullable, Expr.name?] using listed
    exact safe

/-- A body reads a name. -/
def Reads (scope : Scope) (body : Body) (text : String) : Prop :=
  ∃ statement ∈ body.statements scope, .name text ∈ statement.parts

/-- The classes and functions that a body refers to whatever its view is shown by. -/
def ownNames (body : Body) : List QualifiedName :=
  [body.accessor, Symbols.remember, Symbols.rememberSaveable, Symbols.random, Symbols.viewModel,
    body.holder, Symbols.modifier]

/-- The arguments of the call that creates the view are the data parameters by their safe names. -/
theorem name_mem_arguments {text : String} :
    .name text ∈ Expr.listParts body.arguments ↔
      ∃ parameter ∈ body.view.dataParameters, text = safeName parameter.name := by
  unfold arguments
  induction body.view.dataParameters with
  | nil => simp [Expr.listParts]
  | cons parameter parameters ih => simp [Expr.listParts, Expr.parts, ih]

/-- The call that creates the view reads the factory and the data parameters. -/
theorem name_mem_creation {text : String} :
    .name text ∈ body.creation.parts ↔
      text = "factory" ∨
        ∃ parameter ∈ body.view.dataParameters, text = safeName parameter.name := by
  simp [creation, Expr.parts, name_mem_arguments]

/-- A remembered value reads its key and what its value reads. -/
theorem name_mem_remembered {key text : String} {value : Expr} :
    .name text ∈ (remembered scope key value).parts ↔
      text = scope.write Symbols.remember ∨ text = key ∨ .name text ∈ value.parts := by
  simp [remembered, Expr.invoke, Expr.parts, Expr.listParts]

/-- What stands for the names that a body reads: the safe name of a parameter, a name that the body
introduces, or what is written for one of its own classes and functions. -/
inductive Source (scope : Scope) (body : Body) : String → Prop
  /-- A parameter of the view. -/
  | parameter {parameter : Parameter} (declared : parameter ∈ body.view.parameters) :
      Source scope body (safeName parameter.name)
  /-- A name that the body binds, as the source writes it. -/
  | introduced {text : String}
      (bound : text ∈ earlyNames body.view.retained ++ lateNames body.view.retained) :
      Source scope body text
  /-- A class or function that the body uses. -/
  | own {name : QualifiedName} (named : name ∈ body.ownNames) :
      Source scope body (scope.write name)

/-- The call that creates the view reads names from these sources. -/
theorem source_of_mem_creation {text : String} (inside : .name text ∈ body.creation.parts) :
    Source scope body text := by
  obtain rfl | ⟨parameter, data, rfl⟩ := name_mem_creation.1 inside
  · refine .introduced (List.mem_append_left _ ?_)
    cases body.view.retained <;> simp [earlyNames]
  · exact .parameter (List.mem_filter.1 data).1

/-- A name that is written for one of the body's own classes has a source. -/
theorem source_of_eq_write {text : String} {name : QualifiedName} (named : name ∈ body.ownNames)
    (written : text = scope.write name) : Source scope body text := by
  rw [written]
  exact .own named

/-- A remembered value reads names that have a source if its key is one and its value reads
such. -/
theorem source_of_mem_remembered {key text : String} {value : Expr}
    (keyed : Source scope body key) (reads : .name text ∈ value.parts → Source scope body text)
    (inside : .name text ∈ (remembered scope key value).parts) : Source scope body text := by
  obtain remember | rfl | found := name_mem_remembered.1 inside
  · exact source_of_eq_write (by simp [ownNames]) remember
  · exact keyed
  · exact reads found

/-- The statements that bring a view that outlives navigation about read names that have a
source. -/
theorem source_of_mem_retainedView {text : String} {statement : Statement}
    (kept : body.view.retained = true) (listed : statement ∈ retainedView scope body)
    (inside : .name text ∈ statement.parts) : Source scope body text := by
  have bound name : name ∈ ["factory", "key", "holder", "delegate", "view"] →
      Source scope body name := by
    intro bound
    apply Source.introduced
    rw [kept]
    exact bound
  simp only [retainedView, List.mem_cons, List.not_mem_nil, or_false] at listed
  rcases listed with rfl | rfl | rfl | rfl
  · simp only [Statement.parts, Expr.parts, Expr.listParts, List.mem_cons, List.mem_append,
      List.not_mem_nil, Expr.name.injEq, reduceCtorEq, or_false, false_or] at inside
    rcases inside with saved | random
    · exact source_of_eq_write (by simp [ownNames]) saved
    · exact source_of_eq_write (by simp [ownNames]) random
  · simp only [Statement.parts, Expr.invoke, Expr.parts, Expr.listParts, List.mem_cons,
      List.mem_append, List.not_mem_nil, Expr.name.injEq, reduceCtorEq, or_false, false_or]
      at inside
    rcases inside with (model | rfl) | holder | created
    · exact source_of_eq_write (by simp [ownNames]) model
    · exact bound _ (by simp)
    · exact source_of_eq_write (by simp [ownNames]) holder
    · exact source_of_mem_creation created
  all_goals
    refine source_of_mem_remembered (bound _ (by simp)) (fun found => bound _ ?_) inside
    simp only [Expr.parts, List.mem_cons, List.not_mem_nil, Expr.name.injEq, reduceCtorEq,
      or_false, false_or] at found
    simp [found]

/-- The statements that bring a remembered view about read names that have a source. -/
theorem source_of_mem_rememberedView {text : String} {statement : Statement}
    (kept : ¬ body.view.retained = true) (listed : statement ∈ rememberedView scope body)
    (inside : .name text ∈ statement.parts) : Source scope body text := by
  have bound name : name ∈ ["factory", "viewFactory", "delegate", "view"] →
      Source scope body name := by
    intro bound
    apply Source.introduced
    rw [(Bool.not_eq_true _).mp kept]
    exact bound
  simp only [rememberedView, List.mem_cons, List.not_mem_nil, or_false] at listed
  rcases listed with rfl | rfl | rfl
  · simp only [Statement.parts, Expr.parts, List.mem_append, List.mem_cons, List.not_mem_nil,
      Expr.name.injEq, or_false] at inside
    rcases inside with remember | created
    · exact source_of_eq_write (by simp [ownNames]) remember
    · exact source_of_mem_creation created
  all_goals
    refine source_of_mem_remembered (bound _ (by simp)) (fun found => bound _ ?_) inside
    simp only [Expr.parts, List.mem_cons, List.not_mem_nil, Expr.name.injEq, reduceCtorEq,
      or_false, false_or] at found
    simp [found]

/-- The names that bodies introduce always include these two. -/
theorem source_of_introduced {text : String} (bound : text = "delegate" ∨ text = "view") :
    Source scope body text := by
  apply Source.introduced
  rcases bound with rfl | rfl
  · cases body.view.retained <;> decide
  · cases body.view.retained <;> decide

/-- The modifier of a view reads a name that has a source. -/
theorem source_of_mem_modifier {text : String} (inside : .name text ∈ (modifier scope body).parts) :
    Source scope body text := by
  unfold modifier at inside
  split at inside
  · rename_i slot isSlot
    have declared : slot ∈ body.view.parameters := List.mem_of_find?_eq_some isSlot
    split at inside
    · simp only [Expr.parts, List.mem_cons, List.mem_append, List.not_mem_nil, Expr.name.injEq,
        reduceCtorEq, or_false, false_or] at inside
      rcases inside with rfl | default
      · exact .parameter declared
      · exact source_of_eq_write (by simp [ownNames]) default
    · simp only [Expr.parts, List.mem_singleton, Expr.name.injEq] at inside
      rw [inside]
      exact .parameter declared
  · simp only [Expr.parts, List.mem_singleton, Expr.name.injEq] at inside
    exact source_of_eq_write (by simp [ownNames]) inside

/-- The statements that update a view and show it read names that have a source. -/
theorem source_of_mem_closing {text : String} {statement : Statement}
    (listed : statement ∈ closing scope body) (inside : .name text ∈ statement.parts) :
    Source scope body text := by
  obtain ⟨parameter, data, rfl⟩ | rfl | rfl := mem_closing.1 listed
  · have declared : parameter ∈ body.view.parameters := (List.mem_filter.1 data).1
    refine source_of_mem_remembered (.parameter declared) (fun found => ?_) inside
    simp only [Expr.parts, Expr.listParts, List.mem_cons, List.mem_append, List.not_mem_nil,
      Expr.name.injEq, reduceCtorEq, or_false, false_or] at found
    rcases found with delegate | rfl
    · exact source_of_introduced (.inl delegate)
    · exact .parameter declared
  · cases inside
  · simp only [rendering, Statement.parts, Expr.listParts, Expr.parts, List.cons_append,
      List.mem_cons, List.mem_append, List.not_mem_nil, Expr.name.injEq, reduceCtorEq, or_false,
      false_or] at inside
    rcases inside with shown | view
    · exact source_of_mem_modifier shown
    · exact source_of_introduced (.inr view)

/-- Each name that a body reads has a source. -/
theorem source_of_reads {text : String} (reads : body.Reads scope text) :
    Source scope body text := by
  obtain ⟨statement, listed, inside⟩ := reads
  have whole : body.statements scope =
      .bind "factory" (.member (.name (scope.write body.accessor)) "current") ::
        ((if body.view.retained then retainedView scope body else rememberedView scope body) ++
          closing scope body) := by
    simp [statements, closing, rendering]
  rw [whole, List.mem_cons, List.mem_append] at listed
  rcases listed with rfl | creating | closing
  · have accessor : text = scope.write body.accessor := by
      simpa [Statement.parts, Expr.parts] using inside
    exact source_of_eq_write (by simp [ownNames]) accessor
  · by_cases kept : body.view.retained = true
    · rw [if_pos kept] at creating
      exact source_of_mem_retainedView kept creating inside
    · rw [if_neg kept] at creating
      exact source_of_mem_rememberedView kept creating inside
  · exact source_of_mem_closing closing inside

end Body

/-! ## Reserved words -/

/-- Reserved words consist of small letters. -/
theorem small_of_mem_reservedWords :
    ∀ word ∈ reservedWords, ∀ c ∈ word.toList, 'a' ≤ c ∧ c ≤ 'z' := by
  have all : reservedWords.all
      (fun word => word.toList.all fun c => 'a' ≤ c && c ≤ 'z') = true := by
    decide
  simpa using all

/-- A safe name is no reserved word. -/
theorem safeName_notMem_reservedWords (name : String) : safeName name ∉ reservedWords := by
  unfold safeName Code.safeName
  by_cases reserved : name ∈ reservedWords
  · rw [if_pos reserved]
    intro inside
    have letters := small_of_mem_reservedWords _ inside '\x60' (by simp [Code.quoteName])
    exact absurd letters.1 (by decide)
  · rwa [if_neg reserved]

/-- What is written for a class is a reserved word only if its simple name is one. -/
theorem Scope.simple_mem_reservedWords {scope : Scope} {name : QualifiedName}
    (reserved : scope.write name ∈ reservedWords) : name.simple ∈ reservedWords := by
  unfold write at reserved
  split at reserved
  · exact reserved
  · rename_i full
    have packaged : name.package ≠ "" := fun bare => full (.inl bare)
    have dot : '.' ∈ name.dotted.toList := by simp [QualifiedName.dotted, packaged]
    exact absurd (small_of_mem_reservedWords _ reserved '.' dot).1 (by decide)

/-- No class or function that a body refers to on its own has a reserved word as its simple
name. -/
theorem Body.simple_notMem_reservedWords {body : Body} :
    ∀ name ∈ body.ownNames, name.simple ∉ reservedWords := by
  have accessor : (Naming.factoryAccessor body.view.group) ∉ reservedWords := by
    intro reserved
    have letters := small_of_mem_reservedWords _ reserved 'L' (by simp [Naming.factoryAccessor])
    exact absurd letters.1 (by decide)
  have holder : body.holder.simple = "NativeViewHolderViewModel" := by
    unfold holder RuntimePackage.viewHolder
    by_cases bare : body.runtime.root = ""
    · rw [bare]
      rfl
    · have outside : '.' ∉ "NativeViewHolderViewModel".toList := by decide
      have split : QualifiedName.ofDotted
          (QualifiedName.dotted ⟨body.runtime.root, "NativeViewHolderViewModel"⟩) =
            ⟨body.runtime.root, "NativeViewHolderViewModel"⟩ :=
        QualifiedName.ofDotted_dotted outside
      rw [QualifiedName.dotted, if_neg bare] at split
      rw [String.append_assoc] at split
      exact congrArg QualifiedName.simple split
  intro name named
  simp only [ownNames, List.mem_cons, List.not_mem_nil, or_false] at named
  rcases named with rfl | rfl | rfl | rfl | rfl | rfl | rfl
  · exact accessor
  · decide
  · decide
  · decide
  · decide
  · rw [holder]
    decide
  · decide

/-- No name that a body reads is a reserved word. -/
theorem Body.notMem_reservedWords_of_reads {scope : Scope} {body : Body} {text : String}
    (reads : body.Reads scope text) : text ∉ reservedWords := by
  cases Body.source_of_reads reads with
  | parameter declared => exact safeName_notMem_reservedWords _
  | introduced bound => exact (isPlain_of_mem_introduced body.view.retained text bound).1
  | own named =>
    intro reserved
    exact simple_notMem_reservedWords _ named (Scope.simple_mem_reservedWords reserved)

/-! ## Generated files -/

/-- The type parameters and parameters of a view's function and what its body hands on, with what
stands for them, and the name of the function. -/
def ActualFunction.spellings (scope : Scope) (actual : ActualFunction) : List Spelling :=
  ⟨.function, actual.view.name, (actual.function scope).name⟩ ::
    ((actual.function scope).spellings actual.view.typeParameters
        (actual.view.parameters.map (·.name)) ++
      actual.body.spellings scope)

/-- The function of a view and its body write parameters by their safe names and all other names as
they are. -/
theorem ActualFunction.quotesParameter_of_mem_spellings {scope : Scope} {actual : ActualFunction} :
    ∀ spelling ∈ actual.spellings scope, spelling.QuotesParameter := by
  intro spelling inside
  rw [spellings, List.mem_cons, List.mem_append] at inside
  rcases inside with rfl | declared | handed
  · rfl
  · exact (actual.declares_function scope).quotesParameter spelling declared
  · exact Body.quotesParameter_of_mem_spellings spelling handed

/-- The names of users that stand alone in a file, with what stands for them. -/
def Generated.spellings (generated : Generated) : List Spelling :=
  generated.file.scope.headSpellings ++
    match generated with
    | compositions _ => []
    | factory part =>
      part.methods.flatMap fun method =>
        (method.function part.scope).spellings method.typeParameters
          (method.parameters.map (·.1))
    | delegate part =>
      Spelling.pair .typeParameter part.view.typeParameters part.interface.typeParameters ++
        part.methods.flatMap fun method =>
          (method.function part.scope).spellings [] [method.parameter]
    | callSite part => part.functions.flatMap (·.spellings part.scope)

/-- A host file writes parameters by their safe names and all other names as they are. -/
theorem Generated.quotesParameter_of_mem_spellings {generated : Generated} :
    ∀ spelling ∈ generated.spellings, spelling.QuotesParameter := by
  intro spelling inside
  rw [spellings.eq_def, List.mem_append] at inside
  rcases inside with head | inside
  · exact Scope.quotesParameter_of_mem_headSpellings spelling head
  · cases generated with
    | compositions part => cases inside
    | factory part =>
      obtain ⟨method, -, found⟩ := List.mem_flatMap.1 inside
      exact (method.declares_function part.scope).quotesParameter spelling found
    | delegate part =>
      rcases List.mem_append.1 inside with isType | updating
      · exact Spelling.quotesParameter_of_mem_pair (by decide) spelling isType
      · obtain ⟨method, -, found⟩ := List.mem_flatMap.1 updating
        exact (method.declares_function part.scope).quotesParameter spelling found
    | callSite part =>
      obtain ⟨actual, -, found⟩ := List.mem_flatMap.1 inside
      exact ActualFunction.quotesParameter_of_mem_spellings spelling found

/-- A user's name that stands alone in a file, in some role. -/
def Generated.Has (generated : Generated) (entry : Role × String) : Prop :=
  ∃ spelling ∈ generated.spellings, (spelling.role, spelling.name) = entry

/-- The names that a view brings into the file of its function: its own, those of its type
parameters and parameters, and the parts of its package. -/
def names (view : View) : List (Role × String) :=
  (.function, view.name) :: (view.typeParameters.map (.typeParameter, ·) ++
    (view.parameters.map (.parameter, ·.name) ++
      if view.file.package = "" then []
      else (Text.splitAt (· == '.') view.file.package).map (.part, ·)))

/-- The names of a view stand in the call sites of its source file. -/
theorem CallSite.has_of_mem_names {target : BuildTarget} {runtime : RuntimePackage} {view : View}
    {views : List View} (inside : view ∈ views) :
    ∀ entry ∈ names view,
      (Generated.callSite (.ofSource target runtime view.file views)).Has entry := by
  let part := CallSite.ofSource target runtime view.file views
  let actual : ActualFunction := ⟨view, runtime⟩
  have made : actual ∈ part.functions := List.mem_map_of_mem inside
  have spelled : ∀ spelling ∈ actual.spellings part.scope,
      spelling ∈ (Generated.callSite part).spellings := by
    intro spelling found
    exact List.mem_append_right _ (List.mem_flatMap.2 ⟨actual, made, found⟩)
  obtain ⟨types, parameters⟩ := actual.declares_function part.scope
  intro entry named
  simp only [names, List.mem_cons, List.mem_append] at named
  rcases named with rfl | isType | isParameter | isPart
  · exact ⟨_, spelled _ List.mem_cons_self, rfl⟩
  · obtain ⟨name, listed, rfl⟩ := List.mem_map.1 isType
    refine ⟨⟨.typeParameter, name, name⟩, spelled _ ?_, rfl⟩
    refine List.mem_cons_of_mem _ (List.mem_append_left _ (List.mem_append_left _ ?_))
    rw [types]
    exact Spelling.mem_pair_self _ listed
  · obtain ⟨parameter, listed, rfl⟩ := List.mem_map.1 isParameter
    refine ⟨⟨.parameter, parameter.name, safeName parameter.name⟩, spelled _ ?_, rfl⟩
    refine List.mem_cons_of_mem _ (List.mem_append_left _ (List.mem_append_right _ ?_))
    rw [parameters]
    exact Spelling.mem_pair_safeName (List.mem_map_of_mem listed)
  · split at isPart
    · cases isPart
    · rename_i packaged
      obtain ⟨name, listed, rfl⟩ := List.mem_map.1 isPart
      refine ⟨⟨.part, name, name⟩, List.mem_append_left _ ?_, rfl⟩
      have package : part.scope.package = view.file.package := Scope.package_referAll _ _
      have first : view.file.package ∈ part.scope.headNames := by
        rw [Scope.headNames, package, if_neg packaged]
        exact List.mem_append_left _ List.mem_cons_self
      exact Scope.mem_headSpellings first listed

/-- A parameter that stands in a file stands there by its safe name, and any other name as it is. -/
theorem Generated.Has.mem_spellings {generated : Generated} {role : Role} {name : String}
    (stands : generated.Has (role, name)) :
    ⟨role, name, if role = .parameter then safeName name else name⟩ ∈ generated.spellings := by
  obtain ⟨spelling, listed, same⟩ := stands
  have written := quotesParameter_of_mem_spellings spelling listed
  obtain ⟨_, _, _⟩ := spelling
  cases same
  rw [Spelling.QuotesParameter] at written
  exact written ▸ listed

/-- The host files of a project write parameters by their safe names, wherever they are declared or
used, and all other names of users as they are. So a file writes reserved words between backticks,
and all other names as they are, exactly if only parameters are named by reserved words in it. The
names of a view stand in a file of the primary target, and no name that a body reads is a reserved
word. -/
theorem only_parameters_are_quoted (project : Project) :
    (∀ generated ∈ Host.generated project,
      (∀ spelling ∈ generated.spellings, spelling.written =
        if spelling.role = .parameter then safeName spelling.name else spelling.name) ∧
      ((∀ spelling ∈ generated.spellings, spelling.written = safeName spelling.name) ↔
        ∀ spelling ∈ generated.spellings,
          spelling.name ∈ reservedWords → spelling.role = .parameter)) ∧
    (project.target = .primary → ∀ view ∈ project.views,
      ∃ generated ∈ Host.generated project, ∀ entry ∈ names view, generated.Has entry) ∧
    ∀ callSite, .callSite callSite ∈ Host.generated project →
      ∀ actual ∈ callSite.functions, ∀ text, actual.body.Reads callSite.scope text →
        text ∉ reservedWords := by
  refine ⟨fun generated _ => ⟨?_, ?_⟩, fun primary view inside => ?_,
    fun callSite _ actual _ text reads => ?_⟩
  · exact Generated.quotesParameter_of_mem_spellings
  · exact forall₂_congr fun spelling inside =>
      (Generated.quotesParameter_of_mem_spellings spelling inside).written_eq_iff
  · have own : view ∈ view.fileOf project.views := List.mem_filter.2 ⟨inside, by simp⟩
    exact ⟨_, (mem_generated_callSite primary).2 ⟨_, Project.mem_sourceFiles_of_mem inside, rfl⟩,
      CallSite.has_of_mem_names own⟩
  · exact Body.notMem_reservedWords_of_reads reads

/-- A declaration whose name, type parameter, parameter and package are reserved words or have one
in them. -/
def objectDeclaration : Declaration where
  name := "object"
  file := some ⟨"src/Views.kt", "com.object"⟩
  typeParameters := ["in"]
  parameters :=
    [⟨some "modifier", .ofDotted Reading.slotClass, []⟩,
     ⟨some "fun", .ofDotted "kotlin.String", []⟩]

/-- The view that is read from it. -/
def objectView : View where
  name := "object"
  parameters :=
    [⟨"modifier", .ofDotted Reading.slotClass, true, []⟩,
     ⟨"fun", .ofDotted "kotlin.String", false, []⟩]
  group := "NativeView"
  mode := .observed
  retained := false
  renderTarget := .ofDotted "androidx.compose.ui.interop.UIKitViewController"
  customTarget := none
  visibility := .everywhere
  file := ⟨"src/Views.kt", "com.object"⟩
  annotations := []
  typeParameters := ["in"]

/-- The view is accepted, and its names are identifiers. Its parameter stands between backticks in
the file of its function, and its name, its type parameter and its package are bare. -/
theorem keywords_stand_bare :
    Reading.read (.ofOptions {}) objectDeclaration = .ok (objectView, []) ∧
      objectDeclaration.IsNamed ∧
      ∀ target runtime,
        let file := Generated.callSite (.ofSource target runtime objectView.file [objectView])
        ⟨.function, "object", "object"⟩ ∈ file.spellings ∧
        ⟨.typeParameter, "in", "in"⟩ ∈ file.spellings ∧
        ⟨.part, "object", "object"⟩ ∈ file.spellings ∧
        ⟨.parameter, "fun", "\x60fun\x60"⟩ ∈ file.spellings ∧
        "object" ∈ reservedWords ∧ "in" ∈ reservedWords := by
  refine ⟨rfl, ⟨by decide, fun file isFile => ?_⟩, fun target runtime => ?_⟩
  · cases isFile
    exact .inr (by decide)
  · have own : objectView ∈ [objectView] := List.mem_singleton.2 rfl
    refine ⟨(CallSite.has_of_mem_names own (.function, _) ?_).mem_spellings,
      (CallSite.has_of_mem_names own (.typeParameter, _) ?_).mem_spellings,
      (CallSite.has_of_mem_names own (.part, _) ?_).mem_spellings,
      (CallSite.has_of_mem_names own (.parameter, "fun") ?_).mem_spellings, by decide, by decide⟩
    all_goals decide

end Host

end ViewGlue
