import Mathlib.Data.List.Induction
import Mathlib.Data.List.Nodup
import ViewGlue.Host.Draft
import ViewGlue.Proofs.ImportSets

/-!
# Agreement of imports and names

The names in a host file and its imports are made one reference at a time, and they agree when the
file is complete: every class is written in the one way that the final owners of the simple names
tell, and exactly the classes that were written short and are not visible anyway are imported
(`imports_follow_references`). What one reference does to a draft is said once (`refer_cases`); the
scope only grows (`Extends`), so no later request changes what an earlier text means.
-/

namespace ViewGlue

open TypeExpr

/-! ## Written forms -/

namespace TypeExpr

mutual

/-- A type is written alike where its classes are. -/
theorem textWith_congr {first second : QualifiedName → String} :
    (type : TypeExpr) → (∀ name ∈ type.references, first name = second name) →
      type.textWith first = type.textWith second
  | .named name arguments nullable, same => by
    have here : first name = second name := same name (by simp [references])
    have inside := argumentTexts_congr arguments fun other listed =>
      same other (by simp [references, listed])
    simp only [textWith, here, inside]
  | .function parameters result nullable, same => by
    have front := texts_congr parameters fun name listed => same name (by simp [references, listed])
    have behind := textWith_congr result fun name listed => same name (by simp [references, listed])
    simp only [textWith, front, behind]
  | .variable _ _, _ => rfl
  | .dynamic, _ => rfl

/-- Types are written alike where their classes are. -/
theorem texts_congr {first second : QualifiedName → String} :
    (types : List TypeExpr) → (∀ name ∈ listReferences types, first name = second name) →
      texts first types = texts second types
  | [], _ => rfl
  | type :: types, same => by
    have one := textWith_congr type fun name listed => same name (by simp [listReferences, listed])
    have others := texts_congr types fun name listed => same name (by simp [listReferences, listed])
    simp only [texts, one, others]

/-- An argument is written alike where its classes are. -/
theorem argumentText_congr {first second : QualifiedName → String} :
    (argument : TypeArgument) → (∀ name ∈ argumentReferences argument, first name = second name) →
      argumentText first argument = argumentText second argument
  | .type variance type, same => by
    have inner := textWith_congr type same
    simp only [argumentText, inner]
  | .star, _ => rfl

/-- Arguments are written alike where their classes are. -/
theorem argumentTexts_congr {first second : QualifiedName → String} :
    (arguments : List TypeArgument) →
      (∀ name ∈ argumentListReferences arguments, first name = second name) →
      argumentTexts first arguments = argumentTexts second arguments
  | [], _ => rfl
  | argument :: arguments, same => by
    have one := argumentText_congr argument fun name listed =>
      same name (by simp [argumentListReferences, listed])
    have others := argumentTexts_congr arguments fun name listed =>
      same name (by simp [argumentListReferences, listed])
    simp only [argumentTexts, one, others]

end

end TypeExpr

/-- A class with a package has a full name that is not its simple name. -/
theorem QualifiedName.dotted_ne_simple {name : QualifiedName} (packaged : name.package ≠ "") :
    name.dotted ≠ name.simple := by
  intro same
  have longer := congrArg String.length same
  simp [dotted, packaged] at longer

namespace Host

/-! ## Scopes that grow -/

namespace Scope

/-- A later scope of the same file: simple names may have got owners. -/
structure Extends (later earlier : Scope) : Prop where
  /-- The file stays in its package. -/
  package : later.package = earlier.package
  /-- Names keep their owners, and new ones come behind them. -/
  owners : earlier.owners <+: later.owners

/-- Every scope extends itself. -/
theorem Extends.refl (scope : Scope) : scope.Extends scope :=
  ⟨rfl, List.prefix_refl _⟩

/-- A scope extends what an earlier one extends. -/
theorem Extends.trans {first second third : Scope} (later : third.Extends second)
    (earlier : second.Extends first) : third.Extends first :=
  ⟨later.package.trans earlier.package, earlier.owners.trans later.owners⟩

/-- Taking a simple name extends the scope. -/
theorem extends_take (scope : Scope) (name : QualifiedName) : (scope.take name).Extends scope := by
  unfold take
  split
  · exact .refl scope
  · exact ⟨rfl, List.prefix_append _ _⟩

/-- An owner stays. -/
theorem Extends.owner? {later earlier : Scope} (grows : later.Extends earlier) {simple : String}
    {owner : QualifiedName} (owned : earlier.owner? simple = some owner) :
    later.owner? simple = some owner := by
  obtain ⟨others, appended⟩ := grows.owners
  unfold Scope.owner? at owned ⊢
  rw [← appended, List.find?_append, owned]
  rfl

/-- The text of a class is settled: it has no package, or its simple name has an owner. -/
def Settles (scope : Scope) (name : QualifiedName) : Prop :=
  name.package = "" ∨ ∃ owner, scope.owner? name.simple = some owner

/-- What is settled stays settled. -/
theorem Extends.settles {later earlier : Scope} (grows : later.Extends earlier)
    {name : QualifiedName} (settled : earlier.Settles name) : later.Settles name :=
  settled.imp id fun ⟨owner, owned⟩ => ⟨owner, grows.owner? owned⟩

/-- What is settled is written alike ever after. -/
theorem Extends.write_eq {later earlier : Scope} (grows : later.Extends earlier)
    {name : QualifiedName} (settled : earlier.Settles name) :
    later.write name = earlier.write name := by
  unfold write
  obtain bare | ⟨owner, owned⟩ := settled
  · simp [bare]
  · rw [owned, grows.owner? owned]

/-- Simple names have one owner each. -/
def Distinct (scope : Scope) : Prop :=
  (scope.owners.map (·.simple)).Nodup

/-- Taking a simple name leaves every name with one owner. -/
theorem Distinct.take {scope : Scope} (distinct : scope.Distinct) (name : QualifiedName) :
    (scope.take name).Distinct := by
  unfold Scope.take
  split
  · exact distinct
  · rename_i free
    have absent : name.simple ∉ scope.owners.map (·.simple) := by
      rintro inside
      obtain ⟨owner, listed, same⟩ := List.mem_map.1 inside
      exact absurd (List.find?_eq_none.1 free owner listed) (by simp [same])
    unfold Distinct
    rw [List.map_append, List.map_singleton]
    exact distinct.append (List.nodup_singleton _) (by simpa using absent)

/-- A free simple name brings the import of the class that takes it. -/
theorem imports_take {scope : Scope} {name : QualifiedName}
    (free : scope.owner? name.simple = none) :
    (scope.take name).imports =
      if scope.needsImport name then scope.imports.add name.package name.simple
      else scope.imports := by
  have taken : scope.take name = { scope with owners := scope.owners ++ [name] } := by
    simp [take, free]
  have same : (scope.take name).needsImport = scope.needsImport := by
    rw [taken]
    rfl
  unfold imports
  rw [same, taken, List.filter_append, List.foldl_append]
  cases needed : scope.needsImport name <;> simp [needed]

/-- A class without a package has no full name other than its simple one. -/
theorem write_eq_ite (scope : Scope) (name : QualifiedName) :
    scope.write name =
      if scope.owner? name.simple = some name then name.simple else name.dotted := by
  by_cases bare : name.package = "" <;> simp [write, QualifiedName.dotted, bare]

/-- A class of a package is written by its simple name exactly if it owns that. -/
theorem write_eq_simple_iff (scope : Scope) {name : QualifiedName} (packaged : name.package ≠ "") :
    scope.write name = name.simple ↔ scope.owner? name.simple = some name := by
  have differ := QualifiedName.dotted_ne_simple packaged
  by_cases owned : scope.owner? name.simple = some name <;> simp [write, packaged, owned, differ]

end Scope

/-! ## One reference -/

namespace Draft

/-- What a reference does to a draft: a class whose simple name is free takes it and is written
short; any other class has a settled text. -/
theorem refer_cases (draft : Draft) (name : QualifiedName) :
    (name.package ≠ "" ∧ draft.scope.owner? name.simple = none ∧
      draft.refer name = (name.simple, (draft.claim name).record name name.simple)) ∨
    (draft.scope.Settles name ∧
      draft.refer name =
        (draft.scope.write name, draft.record name (draft.scope.write name))) := by
  by_cases bare : name.package = ""
  · exact .inr ⟨.inl bare, by simp [refer, Scope.write, bare]⟩
  · cases owned : draft.scope.owner? name.simple with
    | none => exact .inl ⟨bare, rfl, by simp [refer, bare, owned]⟩
    | some owner =>
      refine .inr ⟨.inr ⟨owner, owned⟩, ?_⟩
      by_cases same : owner = name <;> simp [refer, Scope.write, bare, owned, same]

/-- A class that takes a free simple name owns it. -/
theorem owner?_claim {draft : Draft} {name : QualifiedName}
    (free : draft.scope.owner? name.simple = none) :
    (draft.claim name).scope.owner? name.simple = some name := by
  unfold Scope.owner? at free
  simp [claim, Scope.take, Scope.owner?, free]

/-- A reference takes effect on the scope as references do elsewhere. -/
theorem scope_refer (draft : Draft) (name : QualifiedName) :
    (draft.refer name).2.scope = draft.scope.refer name := by
  obtain ⟨packaged, -, outcome⟩ | ⟨settled, outcome⟩ := draft.refer_cases name
  · rw [outcome]
    simp [record, claim, Scope.refer, packaged]
  · rw [outcome]
    obtain bare | ⟨owner, owned⟩ := settled
    · simp [record, Scope.refer, bare]
    · simp [record, Scope.refer, Scope.take, owned]

/-- A reference settles the text of its class, which is the text of the scope behind it. -/
theorem settles_refer (draft : Draft) (name : QualifiedName) :
    (draft.refer name).2.scope.Settles name ∧
      (draft.refer name).1 = (draft.refer name).2.scope.write name := by
  obtain ⟨packaged, free, outcome⟩ | ⟨settled, outcome⟩ := draft.refer_cases name
  · have owned := owner?_claim free
    rw [outcome]
    exact ⟨.inr ⟨name, owned⟩, by simp [record, Scope.write, owned]⟩
  · rw [outcome]
    exact ⟨settled, rfl⟩

/-- A reference only adds to the scope. -/
theorem extends_refer (draft : Draft) (name : QualifiedName) :
    (draft.refer name).2.scope.Extends draft.scope := by
  obtain ⟨-, -, outcome⟩ | ⟨-, outcome⟩ := draft.refer_cases name
  · rw [outcome]
    exact draft.scope.extends_take name
  · rw [outcome]
    exact .refl draft.scope

/-- References, one after another. -/
def referAll (draft : Draft) (names : List QualifiedName) : Draft :=
  names.foldl (fun draft name => (draft.refer name).2) draft

/-- References take effect on the scope as they do elsewhere. -/
theorem scope_referAll (draft : Draft) (names : List QualifiedName) :
    (draft.referAll names).scope = draft.scope.referAll names := by
  induction names generalizing draft with
  | nil => rfl
  | cons name names ih =>
    show ((draft.refer name).2.referAll names).scope = (draft.scope.refer name).referAll names
    rw [ih, scope_refer]

/-- References only add to the scope. -/
theorem extends_referAll (draft : Draft) (names : List QualifiedName) :
    (draft.referAll names).scope.Extends draft.scope := by
  induction names generalizing draft with
  | nil => exact .refl draft.scope
  | cons name names ih => exact (ih (draft.refer name).2).trans (draft.extends_refer name)

/-- References settle the texts of their classes. -/
theorem settles_referAll {draft : Draft} {names : List QualifiedName} {name : QualifiedName}
    (listed : name ∈ names) : (draft.referAll names).scope.Settles name := by
  induction names generalizing draft with
  | nil => cases listed
  | cons first names ih =>
    obtain rfl | later := List.mem_cons.1 listed
    · exact (extends_referAll _ names).settles (draft.settles_refer name).1
    · exact ih later

/-! ## Types -/

/-- What was referred to is written alike when more was referred to. -/
theorem write_referAll_append (draft : Draft) (front behind : List QualifiedName) :
    ∀ name ∈ front, (draft.referAll front).scope.write name =
      ((draft.referAll front).referAll behind).scope.write name :=
  fun _ listed => ((extends_referAll _ behind).write_eq (settles_referAll listed)).symm

/-- References to some classes and then to others are references to all of them. -/
theorem referAll_append (draft : Draft) (front behind : List QualifiedName) :
    draft.referAll (front ++ behind) = (draft.referAll front).referAll behind :=
  List.foldl_append

mutual

/-- A type is written as the scope behind all of its references writes it. -/
theorem write_eq (draft : Draft) : (type : TypeExpr) →
    draft.write type =
      (type.textWith (draft.referAll type.references).scope.write, draft.referAll type.references)
  | .named name arguments nullable => by
    obtain ⟨settled, written⟩ := draft.settles_refer name
    have here : (draft.refer name).1 =
        ((draft.refer name).2.referAll (argumentListReferences arguments)).scope.write name := by
      rw [written, (extends_referAll _ _).write_eq settled]
    have inside := writeArguments_eq (draft.refer name).2 arguments
    simp only [write, inside, here]
    rfl
  | .function parameters result nullable => by
    have front := writeAll_eq draft parameters
    have behind := write_eq (draft.referAll (listReferences parameters)) result
    have same := texts_congr parameters (draft.write_referAll_append _ result.references)
    simp only [write, front, behind, same, textWith, TypeExpr.references, referAll_append]
  | .variable _ _ => rfl
  | .dynamic => rfl

/-- Types are written as the scope behind all of their references writes them. -/
theorem writeAll_eq (draft : Draft) : (types : List TypeExpr) →
    draft.writeAll types =
      (texts (draft.referAll (listReferences types)).scope.write types,
        draft.referAll (listReferences types))
  | [] => rfl
  | type :: types => by
    have first := write_eq draft type
    have others := writeAll_eq (draft.referAll type.references) types
    have same := textWith_congr type (draft.write_referAll_append _ (listReferences types))
    simp only [writeAll, first, others, same, texts, listReferences, referAll_append]

/-- An argument is written as the scope behind all of its references writes it. -/
theorem writeArgument_eq (draft : Draft) : (argument : TypeArgument) →
    draft.writeArgument argument =
      (argumentText (draft.referAll (argumentReferences argument)).scope.write argument,
        draft.referAll (argumentReferences argument))
  | .type variance type => by
    have inner := write_eq draft type
    simp only [writeArgument, inner, argumentText, argumentReferences]
  | .star => rfl

/-- Arguments are written as the scope behind all of their references writes them. -/
theorem writeArguments_eq (draft : Draft) : (arguments : List TypeArgument) →
    draft.writeArguments arguments =
      (argumentTexts (draft.referAll (argumentListReferences arguments)).scope.write arguments,
        draft.referAll (argumentListReferences arguments))
  | [] => rfl
  | argument :: arguments => by
    have first := writeArgument_eq draft argument
    have others := writeArguments_eq (draft.referAll (argumentReferences argument)) arguments
    have same := argumentText_congr argument
      (draft.write_referAll_append _ (argumentListReferences arguments))
    simp only [writeArguments, first, others, same, argumentTexts, argumentListReferences,
      referAll_append]

end

/-! ## Drafts that agree -/

/-- A request declares its name or refers to its classes, one after another. -/
theorem respond_snd (draft : Draft) : (request : Request) →
    (draft.respond request).2 =
      match request with
      | .declare simple => draft.declare simple
      | .refer name => draft.referAll [name]
      | .write type => draft.referAll type.references
  | .declare _ => rfl
  | .refer _ => rfl
  | .write type => by
    have written := write_eq draft type
    simp only [respond, written]

/-- The imports are those of the scope, every simple name has one owner, every text on record is
that of the scope, and every owner from another package is on record by its simple name. -/
structure Agrees (draft : Draft) : Prop where
  /-- No simple name has two owners. -/
  distinct : draft.scope.Distinct
  /-- The file imports what the scope says it must. -/
  imported : draft.imports = draft.scope.imports
  /-- Each reference on record has the text that the scope gives it now. -/
  recorded : ∀ entry ∈ draft.references,
    draft.scope.Settles entry.1 ∧ entry.2 = draft.scope.write entry.1
  /-- An owner from another package was referred to, so its import is used. -/
  owned : ∀ owner ∈ draft.scope.owners, owner.package ≠ draft.scope.package →
    owner.package ≠ "" ∧ (owner, owner.simple) ∈ draft.references

/-- An empty file agrees. -/
theorem agrees_start (package : String) : (start package).Agrees where
  distinct := by simp [start, Scope.Distinct]
  imported := rfl
  recorded := by simp [start]
  owned := by simp [start]

/-- A draft that agrees still does when its file declares a name. -/
theorem Agrees.declare {draft : Draft} (agrees : draft.Agrees) (simple : String) :
    (draft.declare simple).Agrees where
  distinct := agrees.distinct.take _
  imported := by
    show draft.imports = (draft.scope.take ⟨draft.scope.package, simple⟩).imports
    cases owned : draft.scope.owner? simple with
    | some owner =>
      rw [Scope.take, owned]
      exact agrees.imported
    | none =>
      rw [Scope.imports_take owned, agrees.imported]
      simp [Scope.needsImport]
  recorded entry listed := by
    obtain ⟨settled, written⟩ := agrees.recorded entry listed
    have grows := draft.scope.extends_take ⟨draft.scope.package, simple⟩
    exact ⟨grows.settles settled, written.trans (grows.write_eq settled).symm⟩
  owned owner listed other := by
    have scope : (draft.declare simple).scope = draft.scope.take ⟨draft.scope.package, simple⟩ :=
      rfl
    rw [scope] at listed other
    rw [(draft.scope.extends_take _).package] at other
    unfold Scope.take at listed
    split at listed
    · exact agrees.owned owner listed other
    · obtain before | here := List.mem_append.1 listed
      · exact agrees.owned owner before other
      · rw [List.mem_singleton.1 here] at other
        exact absurd rfl other

/-- A draft that agrees still does behind a reference. -/
theorem Agrees.refer {draft : Draft} (agrees : draft.Agrees) (name : QualifiedName) :
    (draft.refer name).2.Agrees := by
  obtain ⟨packaged, free, outcome⟩ | ⟨settled, outcome⟩ := draft.refer_cases name
  · have grows : (draft.claim name).scope.Extends draft.scope := draft.scope.extends_take name
    have owned := owner?_claim free
    rw [outcome]
    refine ⟨agrees.distinct.take name, ?_, ?_, ?_⟩
    · show (if draft.scope.needsImport name then _ else _) = (draft.scope.take name).imports
      rw [Scope.imports_take free, agrees.imported]
    · intro entry listed
      obtain before | here := List.mem_append.1 listed
      · obtain ⟨settled, written⟩ := agrees.recorded entry before
        exact ⟨grows.settles settled, written.trans (grows.write_eq settled).symm⟩
      · rw [List.mem_singleton.1 here]
        exact ⟨.inr ⟨name, owned⟩, by simp [record, Scope.write, owned]⟩
    · intro owner listed other
      have taken : (draft.claim name).scope.owners = draft.scope.owners ++ [name] := by
        simp [claim, Scope.take, free]
      have package : (draft.claim name).scope.package = draft.scope.package := grows.package
      change owner ∈ (draft.claim name).scope.owners at listed
      change owner.package ≠ (draft.claim name).scope.package at other
      rw [package] at other
      rw [taken] at listed
      obtain before | here := List.mem_append.1 listed
      · obtain ⟨qualified, found⟩ := agrees.owned owner before other
        exact ⟨qualified, List.mem_append_left _ found⟩
      · rw [List.mem_singleton.1 here]
        exact ⟨packaged, List.mem_append_right _ (List.mem_singleton.2 rfl)⟩
  · rw [outcome]
    refine ⟨agrees.distinct, agrees.imported, ?_, ?_⟩
    · intro entry listed
      obtain before | here := List.mem_append.1 listed
      · exact agrees.recorded entry before
      · rw [List.mem_singleton.1 here]
        exact ⟨settled, rfl⟩
    · intro owner listed other
      obtain ⟨qualified, found⟩ := agrees.owned owner listed other
      exact ⟨qualified, List.mem_append_left _ found⟩

/-- A draft that agrees still does behind references. -/
theorem Agrees.referAll {draft : Draft} (agrees : draft.Agrees) (names : List QualifiedName) :
    (draft.referAll names).Agrees := by
  induction names generalizing draft with
  | nil => exact agrees
  | cons name names ih => exact ih (agrees.refer name)

/-- A draft that agrees still does behind a request. -/
theorem Agrees.respond {draft : Draft} (agrees : draft.Agrees) (request : Request) :
    (draft.respond request).2.Agrees := by
  rw [respond_snd]
  cases request with
  | declare simple => exact agrees.declare simple
  | refer name => exact agrees.referAll [name]
  | write type => exact agrees.referAll type.references

/-- A draft that agrees still does behind requests. -/
theorem Agrees.respondAll {draft : Draft} (agrees : draft.Agrees) (requests : List Request) :
    (draft.respondAll requests).2.Agrees := by
  induction requests generalizing draft with
  | nil => exact agrees
  | cons request requests ih => exact ih (agrees.respond request)

/-! ## Replies -/

/-- A request only adds to the scope. -/
theorem extends_respond (draft : Draft) (request : Request) :
    (draft.respond request).2.scope.Extends draft.scope := by
  rw [respond_snd]
  cases request with
  | declare simple => exact draft.scope.extends_take _
  | refer name => exact draft.extends_referAll [name]
  | write type => exact draft.extends_referAll type.references

/-- Requests only add to the scope. -/
theorem extends_respondAll (draft : Draft) (requests : List Request) :
    (draft.respondAll requests).2.scope.Extends draft.scope := by
  induction requests generalizing draft with
  | nil => exact .refl draft.scope
  | cons request requests ih =>
    exact (ih (draft.respond request).2).trans (draft.extends_respond request)

/-- References come on record in their order. -/
theorem references_referAll (draft : Draft) (names : List QualifiedName) :
    (draft.referAll names).references.map (·.1) = draft.references.map (·.1) ++ names := by
  induction names generalizing draft with
  | nil => simp [referAll]
  | cons name names ih =>
    have one : (draft.refer name).2.references.map (·.1) =
        draft.references.map (·.1) ++ [name] := by
      obtain ⟨-, -, outcome⟩ | ⟨-, outcome⟩ := draft.refer_cases name <;>
        simp [outcome, record, claim]
    show ((draft.refer name).2.referAll names).references.map (·.1) = _
    rw [ih, one, List.append_assoc]
    rfl

/-- The references of requests come on record in their order. -/
theorem references_respondAll (draft : Draft) (requests : List Request) :
    (draft.respondAll requests).2.references.map (·.1) =
      draft.references.map (·.1) ++ requests.flatMap Request.references := by
  induction requests generalizing draft with
  | nil => simp [respondAll]
  | cons request requests ih =>
    have one : (draft.respond request).2.references.map (·.1) =
        draft.references.map (·.1) ++ request.references := by
      rw [respond_snd]
      cases request with
      | declare simple => simp [declare, Request.references]
      | refer name => exact draft.references_referAll [name]
      | write type => exact draft.references_referAll type.references
    show ((draft.respond request).2.respondAll requests).2.references.map (·.1) = _
    rw [ih, one, List.flatMap_cons, List.append_assoc]

/-- The answer to a request where classes are written like this. -/
def reply (spelling : QualifiedName → String) : Request → Option String
  | .declare _ => none
  | .refer name => some (spelling name)
  | .write type => some (type.textWith spelling)

/-- The answer to a request is what the scope behind it and behind any further requests writes. -/
theorem respond_fst (draft : Draft) (request : Request) {later : Scope}
    (grows : later.Extends (draft.respond request).2.scope) :
    (draft.respond request).1 = reply later.write request := by
  rw [respond_snd] at grows
  cases request with
  | declare simple => rfl
  | refer name =>
    have further : later.Extends (draft.refer name).2.scope := grows
    obtain ⟨settled, written⟩ := draft.settles_refer name
    show some (draft.refer name).1 = some (later.write name)
    rw [written, further.write_eq settled]
  | write type =>
    have same := textWith_congr type fun name listed =>
      (grows.write_eq (settles_referAll listed)).symm
    have written := write_eq draft type
    simp only [respond, written, reply, same]

/-- The answers to requests are what the scope behind all of them writes. -/
theorem respondAll_fst (draft : Draft) (requests : List Request) :
    (draft.respondAll requests).1 =
      requests.map (reply (draft.respondAll requests).2.scope.write) := by
  induction requests generalizing draft with
  | nil => rfl
  | cons request requests ih =>
    have first := draft.respond_fst request
      (extends_respondAll (draft.respond request).2 requests)
    show (draft.respond request).1 :: ((draft.respond request).2.respondAll requests).1 = _
    rw [first, ih]
    rfl

end Draft

/-! ## Imports -/

/-- The imports of classes with different simple names are these classes. -/
theorem entries_foldl_add_perm (names : List QualifiedName)
    (distinct : (names.map (·.simple)).Nodup) :
    (names.foldl (fun imports name => imports.add name.package name.simple)
      ({} : Code.ImportSet)).entries.Perm (names.map fun name => (name.package, name.simple)) := by
  induction names using List.reverseRecOn with
  | nil => exact .refl _
  | append_singleton names name ih =>
    rw [List.map_append, List.nodup_append] at distinct
    obtain ⟨others, -, apart⟩ := distinct
    have before := ih others
    rw [List.foldl_append, List.map_append]
    refine (Code.ImportSet.entries_add_perm fun inside => ?_).trans
      ((before.cons _).trans (List.perm_append_singleton _ _).symm)
    obtain ⟨other, listed, same⟩ := List.mem_map.1 (before.mem_iff.1 inside)
    exact apart _ (List.mem_map_of_mem listed) name.simple (by simp) (Prod.ext_iff.1 same).2

/-- The imports of a scope are its owners that have to be imported. -/
theorem Scope.Distinct.entries_imports {scope : Scope} (distinct : scope.Distinct) :
    scope.imports.entries.Perm
      ((scope.owners.filter scope.needsImport).map fun owner => (owner.package, owner.simple)) :=
  entries_foldl_add_perm _ (distinct.sublist (List.filter_sublist.map _))

namespace Draft

/-- No two imports have one simple name. -/
theorem Agrees.nodup_imports {draft : Draft} (agrees : draft.Agrees) :
    (draft.imports.entries.map (·.2)).Nodup := by
  have entries := agrees.distinct.entries_imports
  rw [agrees.imported, (entries.map _).nodup_iff, List.map_map]
  exact agrees.distinct.sublist (List.filter_sublist.map _)

/-- A symbol is imported exactly if it belongs to an owner that has to be imported. -/
theorem Agrees.mem_imports_iff {draft : Draft} (agrees : draft.Agrees) {name : QualifiedName} :
    (name.package, name.simple) ∈ draft.imports.entries ↔
      name ∈ draft.scope.owners ∧ draft.scope.needsImport name = true := by
  rw [agrees.imported, agrees.distinct.entries_imports.mem_iff, List.mem_map, ← List.mem_filter]
  constructor
  · rintro ⟨owner, found, same⟩
    obtain ⟨package, simple⟩ := owner
    cases same
    exact found
  · exact fun found => ⟨name, found, rfl⟩

/-- A symbol is imported exactly if its class is on record by its simple name and has to be
imported. -/
theorem Agrees.mem_imports_iff_recorded {draft : Draft} (agrees : draft.Agrees)
    {name : QualifiedName} :
    (name.package, name.simple) ∈ draft.imports.entries ↔
      name.package ≠ "" ∧ (name, name.simple) ∈ draft.references ∧
        name.package ≠ draft.scope.package ∧ name.package ∉ defaultPackages := by
  have needs : draft.scope.needsImport name = true ↔
      name.package ≠ draft.scope.package ∧ name.package ∉ defaultPackages := by
    simp [Scope.needsImport]
  rw [agrees.mem_imports_iff, needs]
  constructor
  · rintro ⟨owner, other, hidden⟩
    obtain ⟨packaged, written⟩ := agrees.owned name owner other
    exact ⟨packaged, written, other, hidden⟩
  · rintro ⟨packaged, written, other, hidden⟩
    have text : draft.scope.write name = name.simple := (agrees.recorded _ written).2.symm
    have owner := (draft.scope.write_eq_simple_iff packaged).1 text
    exact ⟨List.mem_of_find?_eq_some owner, other, hidden⟩

/-- Every reference on record has the text that the scope writes now. -/
theorem Agrees.references_eq {draft : Draft} (agrees : draft.Agrees) :
    draft.references =
      (draft.references.map (·.1)).map fun name => (name, draft.scope.write name) := by
  have each : ∀ entry ∈ draft.references, entry = (entry.1, draft.scope.write entry.1) := by
    intro entry inside
    rw [← (agrees.recorded entry inside).2]
  rw [List.map_map]
  exact (List.map_id _).symm.trans (List.map_congr_left each)

/-- A class that was referred to is written alike whenever it is referred to again. -/
theorem Agrees.refer_again {draft : Draft} (agrees : draft.Agrees) {name : QualifiedName}
    (asked : name ∈ draft.references.map (·.1)) (later : List Request) :
    ((draft.respondAll later).2.refer name).1 = draft.scope.write name := by
  obtain ⟨entry, inside, rfl⟩ := List.mem_map.1 asked
  obtain ⟨settled, written⟩ := (draft.respondAll later).2.settles_refer entry.1
  have grows := ((draft.respondAll later).2.extends_refer entry.1).trans
    (draft.extends_respondAll later)
  rw [written, grows.write_eq (agrees.recorded entry inside).1]

end Draft

/-- The imports of a host file agree with the names in it, whatever was asked of it in which
order. The imports that were added one by one are those of the final owners, and no two of them
have one simple name. A symbol is imported exactly if the class was referred to by its simple name
and its package is neither that of the file nor visible by default. A class is written by its
simple name exactly if it finally owns that, and in full otherwise, also when it is asked for
again later; and a type is written with this text for each of its classes. -/
theorem imports_follow_references (package : String) (requests : List Request) :
    let replies := ((Draft.start package).respondAll requests).1
    let draft := ((Draft.start package).respondAll requests).2
    let spelling := fun name : QualifiedName =>
      if draft.scope.owner? name.simple = some name then name.simple else name.dotted
    draft.imports = draft.scope.imports ∧
    (draft.imports.entries.map (·.2)).Nodup ∧
    (∀ name : QualifiedName, (name.package, name.simple) ∈ draft.imports.entries ↔
      name.package ≠ "" ∧ (name, name.simple) ∈ draft.references ∧ name.package ≠ package ∧
        name.package ∉ defaultPackages) ∧
    draft.references =
      (requests.flatMap Request.references).map (fun name => (name, spelling name)) ∧
    (∀ name : QualifiedName, name.package ≠ "" →
      (spelling name = name.simple ↔ draft.scope.owner? name.simple = some name)) ∧
    (∀ later, ∀ name ∈ requests.flatMap Request.references,
      ((draft.respondAll later).2.refer name).1 = spelling name) ∧
    replies = requests.map (Draft.reply spelling) := by
  intro replies draft spelling
  have agrees : draft.Agrees := (Draft.agrees_start package).respondAll requests
  have scope : draft.scope.package = package :=
    ((Draft.start package).extends_respondAll requests).package
  have spells : spelling = draft.scope.write :=
    (funext draft.scope.write_eq_ite).symm
  have listed : draft.references.map (·.1) = requests.flatMap Request.references :=
    (Draft.start package).references_respondAll requests
  rw [spells]
  refine ⟨agrees.imported, agrees.nodup_imports, fun name => ?_, ?_,
    fun name packaged => draft.scope.write_eq_simple_iff packaged, fun later name asked => ?_,
    (Draft.start package).respondAll_fst requests⟩
  · rw [← scope]
    exact agrees.mem_imports_iff_recorded
  · rw [← listed]
    exact agrees.references_eq
  · exact agrees.refer_again (listed ▸ asked) later

end Host

end ViewGlue
