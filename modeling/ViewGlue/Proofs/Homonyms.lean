import ViewGlue.Proofs.ImportAgreement
import ViewGlue.Proofs.TypeTexts

/-!
# Homonyms

In a host file, a class with a package that owns its simple name is written as that name alone, and
so are variables, the dynamic type and classes without a package. Types are told apart by their
texts wherever no class with a package is written like one of these in them; and every class with a
package that is written short has a homonym, the type that its simple name is read as
(`types_are_told_apart`).
-/

namespace ViewGlue

open Text TypeExpr

namespace TypeExpr

variable {typeParameters : List String}

/-! ## Well-formed atoms -/

/-- Whether the name of an atom is of the right kind. -/
def Atom.wellFormed (typeParameters : List String) : Atom → Bool
  | .cls name => isClassName typeParameters name
  | .variable name => isVariableName typeParameters name
  | .dynamic => true

mutual

/-- A type is well formed exactly if its atoms are. -/
theorem all_atoms : (type : TypeExpr) →
    type.atoms.all (Atom.wellFormed typeParameters) = wellFormed typeParameters type
  | .named name arguments _ => by
    simp [atoms, wellFormed, Atom.wellFormed, all_argumentListAtoms arguments]
  | .function parameters result _ => by
    simp [atoms, wellFormed, all_listAtoms parameters, all_atoms result]
  | .variable name _ => by simp [atoms, wellFormed, Atom.wellFormed]
  | .dynamic => by simp [atoms, wellFormed, Atom.wellFormed]

/-- Types are well formed exactly if their atoms are. -/
theorem all_listAtoms : (types : List TypeExpr) →
    (listAtoms types).all (Atom.wellFormed typeParameters) = listWellFormed typeParameters types
  | [] => rfl
  | type :: types => by
    simp [listAtoms, listWellFormed, all_atoms type, all_listAtoms types]

/-- An argument is well formed exactly if its atoms are. -/
theorem all_argumentAtoms : (argument : TypeArgument) →
    (argumentAtoms argument).all (Atom.wellFormed typeParameters) =
      argumentWellFormed typeParameters argument
  | .type _ type => by simp [argumentAtoms, argumentWellFormed, all_atoms type]
  | .star => rfl

/-- Arguments are well formed exactly if their atoms are. -/
theorem all_argumentListAtoms : (arguments : List TypeArgument) →
    (argumentListAtoms arguments).all (Atom.wellFormed typeParameters) =
      argumentListWellFormed typeParameters arguments
  | [] => rfl
  | argument :: arguments => by
    simp [argumentListAtoms, argumentListWellFormed, all_argumentAtoms argument,
      all_argumentListAtoms arguments]

end

/-- The atoms of what was read are well formed. -/
theorem wellFormed_of_mem_atoms {source : String} {type : TypeExpr}
    (read : parse typeParameters source = .ok type) :
    ∀ atom ∈ type.atoms, atom.wellFormed typeParameters = true := by
  rw [← List.all_eq_true, all_atoms]
  exact wellFormed_of_parse read

/-- The name of an atom that has no package, and so is never written in full. -/
def Atom.bareName? : Atom → Option String
  | .cls name => if name.package = "" then some name.simple else none
  | .variable name => some name
  | .dynamic => some "dynamic"

/-- The atom that a simple name stands for when no class owns it. -/
def Atom.ofBare (typeParameters : List String) (name : String) : Atom :=
  if name = "dynamic" then .dynamic
  else if name ∈ typeParameters then .variable name
  else .cls ⟨"", name⟩

/-- The name of the atom that a simple name stands for. -/
theorem Atom.bareName?_ofBare (typeParameters : List String) (name : String) :
    (ofBare typeParameters name).bareName? = some name := by
  unfold ofBare
  split
  · rename_i same
    rw [same]
    rfl
  · split <;> simp [bareName?]

/-- A well-formed atom without a package is the one that its name stands for. -/
theorem Atom.eq_ofBare {atom : Atom} {name : String}
    (formed : atom.wellFormed typeParameters = true) (bare : atom.bareName? = some name) :
    atom = .ofBare typeParameters name := by
  cases atom with
  | cls named =>
    obtain ⟨package, simple⟩ := named
    obtain ⟨rfl, rfl⟩ : package = "" ∧ simple = name := by simpa [bareName?] using bare
    have allowed : simple ≠ "dynamic" ∧ simple ∉ typeParameters := by
      simpa [wellFormed, isClassName] using (Bool.and_eq_true_iff.1 formed).2
    simp [ofBare, allowed]
  | dynamic =>
    obtain rfl : "dynamic" = name := by simpa [bareName?] using bare
    rfl
  | _ other =>
    obtain rfl : other = name := by simpa [bareName?] using bare
    simp only [wellFormed, isVariableName, Bool.and_eq_true, bne_iff_ne,
      List.contains_iff_mem] at formed
    simp [ofBare, formed.1.2, formed.2]

/-- An atom without a package is written as its name wherever classes without one are written by
their simple names. -/
theorem Atom.text_of_bareName? {className : QualifiedName → String}
    (short : ∀ simple, className ⟨"", simple⟩ = simple) {atom : Atom} {name : String}
    (bare : atom.bareName? = some name) : atom.text className = name := by
  cases atom with
  | cls named =>
    obtain ⟨package, simple⟩ := named
    obtain ⟨rfl, rfl⟩ : package = "" ∧ simple = name := by simpa [bareName?] using bare
    exact short simple
  | _ => simpa [text, bareName?] using bare

/-- An atom with a package is a class. -/
theorem Atom.eq_cls_of_bareName? {atom : Atom} (packaged : atom.bareName? = none) :
    ∃ name, atom = .cls name ∧ name.package ≠ "" := by
  cases atom with
  | cls name => exact ⟨name, rfl, by simpa [bareName?] using packaged⟩
  | _ => cases packaged

/-- The type that an atom alone is. -/
def Atom.type : Atom → TypeExpr
  | .cls name => .named name [] false
  | .variable name => .variable name false
  | .dynamic => .dynamic

/-- Different atoms are different types. -/
theorem Atom.type_injective {left right : Atom} (same : left.type = right.type) : left = right := by
  cases left <;> cases right <;> simp_all [type]

/-- An atom alone is written as its text. -/
theorem textWith_type (className : QualifiedName → String) (atom : Atom) :
    atom.type.textWith className = atom.text className := by
  cases atom <;> simp [Atom.type, Atom.text, textWith, argumentTexts, bracketed, mark]

/-- A simple name is read as the atom that it stands for. -/
theorem parse_ofBare {name : String} (identifier : isIdentifier name = true) :
    parse typeParameters name = .ok (Atom.ofBare typeParameters name).type := by
  have formed : wellFormed typeParameters (Atom.ofBare typeParameters name).type = true := by
    unfold Atom.ofBare
    split
    · rfl
    · rename_i other
      split
      · rename_i declared
        simp [Atom.type, wellFormed, isVariableName, identifier, other, declared]
      · rename_i undeclared
        simp [Atom.type, wellFormed, argumentListWellFormed, isClassName, QualifiedName.isPlain,
          identifier, other, undeclared]
  have written : (Atom.ofBare typeParameters name).type.text = name := by
    rw [text, textWith_type]
    exact Atom.text_of_bareName? (by simp [QualifiedName.dotted]) (Atom.bareName?_ofBare ..)
  have read := parse_text formed
  rwa [written] at read

end TypeExpr

namespace Host

variable {typeParameters : List String} {scope : Scope}

/-- A class of which the name is plain is written as a dotted name. -/
theorem Scope.isSpelled_write {name : QualifiedName} (plain : name.isPlain = true) :
    IsSpelled (scope.write name) := by
  unfold write
  split
  · exact isSpelled_of_isIdentifier (Bool.and_eq_true_iff.1 plain).2
  · exact isSpelled_of_isDotted (QualifiedName.isDotted_dotted plain)

/-- Classes with packages are the same if they are written alike. -/
theorem Scope.eq_of_write {left right : QualifiedName} (plain : left.isPlain = true)
    (plain' : right.isPlain = true) (packaged : left.package ≠ "") (packaged' : right.package ≠ "")
    (same : scope.write left = scope.write right) : left = right := by
  have dotless := QualifiedName.dot_notMem_of_isPlain plain
  have dotless' := QualifiedName.dot_notMem_of_isPlain plain'
  have dot {name : QualifiedName} (packaged : name.package ≠ "") : '.' ∈ name.dotted.toList := by
    simp [QualifiedName.dotted, packaged]
  unfold write at same
  -- A simple name has no dot and a full one has, so both classes are written in one of these ways.
  split at same <;> split at same
  · rename_i owned owned'
    have own := owned.resolve_left packaged
    rw [same, owned'.resolve_left packaged'] at own
    exact (Option.some.inj own).symm
  · exact absurd (same ▸ dot packaged') dotless
  · exact absurd (same ▸ dot packaged) dotless'
  · rw [← QualifiedName.ofDotted_dotted dotless, same, QualifiedName.ofDotted_dotted dotless']

/-- No class with a package is written like an atom without one. -/
def Scope.HasNoHomonyms (scope : Scope) (atoms : List Atom) : Prop :=
  ∀ packaged ∈ atoms, packaged.bareName? = none → ∀ bare ∈ atoms,
    bare.bareName? ≠ some (packaged.text scope.write)

instance (scope : Scope) (atoms : List Atom) : Decidable (scope.HasNoHomonyms atoms) :=
  inferInstanceAs (Decidable (∀ _ ∈ _, _))

/-- Classes without packages are written by their simple names. -/
theorem Scope.write_bare (scope : Scope) (simple : String) : scope.write ⟨"", simple⟩ = simple := by
  simp [write]

/-- Well-formed atoms without homonyms are told apart by what is written for them. -/
theorem Scope.HasNoHomonyms.toldApart {atoms : List Atom} (free : scope.HasNoHomonyms atoms)
    (formed : ∀ atom ∈ atoms, atom.wellFormed typeParameters = true) :
    ToldApart scope.write atoms where
  spelled atom inside := by
    have here := formed atom inside
    cases atom with
    | cls name => exact isSpelled_write (Bool.and_eq_true_iff.1 here).1
    | dynamic =>
      have word : isIdentifier "dynamic" = true := by decide
      exact isSpelled_of_isIdentifier word
    | _ name =>
      simp only [Atom.wellFormed, isVariableName, Bool.and_eq_true] at here
      exact isSpelled_of_isIdentifier here.1.1
  distinct left inside right inside' same := by
    have short := scope.write_bare
    cases bare : left.bareName? with
    | some name =>
      cases bare' : right.bareName? with
      | some name' =>
        rw [Atom.text_of_bareName? short bare, Atom.text_of_bareName? short bare'] at same
        rw [Atom.eq_ofBare (formed left inside) bare, Atom.eq_ofBare (formed right inside') bare',
          same]
      | none =>
        rw [Atom.text_of_bareName? short bare] at same
        exact absurd (bare.trans (congrArg some same)) (free right inside' bare' left inside)
    | none =>
      cases bare' : right.bareName? with
      | some name' =>
        rw [Atom.text_of_bareName? short bare'] at same
        exact absurd (bare'.trans (congrArg some same.symm)) (free left inside bare right inside')
      | none =>
        obtain ⟨named, rfl, packaged⟩ := Atom.eq_cls_of_bareName? bare
        obtain ⟨named', rfl, packaged'⟩ := Atom.eq_cls_of_bareName? bare'
        have plain := (Bool.and_eq_true_iff.1 (formed _ inside)).1
        have plain' := (Bool.and_eq_true_iff.1 (formed _ inside')).1
        rw [eq_of_write plain plain' packaged packaged' same]

/-! ## Types in a file -/

/-- What was asked for is answered as the scope behind all requests writes it. -/
theorem Draft.reply_of_getElem? {draft : Draft} {requests : List Request} {place : Nat}
    {type : TypeExpr} (asked : requests[place]? = some (.write type)) :
    (draft.respondAll requests).1[place]? =
      some (some (type.textWith (draft.respondAll requests).2.scope.write)) := by
  rw [respondAll_fst, List.getElem?_map, asked]
  rfl

/-- Two types that were read and asked for in one file, at any two places, get one text exactly if
they are the same, provided that no class with a package is written in them like a class without
one, a variable or the dynamic type. And each class of theirs with a package that owns its simple
name has a homonym: the type that its simple name is read as is another one, and both are written as
that name whenever they are asked for. -/
theorem types_are_told_apart {typeParameters : List String} {source source' : String}
    {first second : TypeExpr} (read : parse typeParameters source = .ok first)
    (read' : parse typeParameters source' = .ok second) (package : String)
    (requests : List Request) {place place' : Nat}
    (asked : requests[place]? = some (.write first))
    (asked' : requests[place']? = some (.write second)) :
    let replies := ((Draft.start package).respondAll requests).1
    let draft := ((Draft.start package).respondAll requests).2
    (draft.scope.HasNoHomonyms (first.atoms ++ second.atoms) →
      (replies[place]? = replies[place']? ↔ first = second)) ∧
    ∀ name : QualifiedName, .cls name ∈ first.atoms ++ second.atoms → name.package ≠ "" →
      draft.scope.owner? name.simple = some name →
      ∃ homonym, parse typeParameters name.simple = .ok homonym ∧
        homonym ≠ .named name [] false ∧
        ∀ later, ((draft.respondAll later).2.write homonym).1 = name.simple ∧
          ((draft.respondAll later).2.write (.named name [] false)).1 = name.simple := by
  intro replies draft
  have formed : ∀ atom ∈ first.atoms ++ second.atoms, atom.wellFormed typeParameters = true := by
    intro atom inside
    rcases List.mem_append.1 inside with here | there
    · exact wellFormed_of_mem_atoms read atom here
    · exact wellFormed_of_mem_atoms read' atom there
  constructor
  · intro free
    have reply : replies[place]? = _ := Draft.reply_of_getElem? asked
    have reply' : replies[place']? = _ := Draft.reply_of_getElem? asked'
    rw [reply, reply', Option.some.injEq, Option.some.injEq]
    constructor
    · exact eq_of_textWith (free.toldApart formed)
    · rintro rfl
      rfl
  · intro name inside packaged owned
    have plain := (Bool.and_eq_true_iff.1 (formed _ inside)).1
    have simple : isIdentifier name.simple = true := (Bool.and_eq_true_iff.1 plain).2
    have bare := Atom.bareName?_ofBare typeParameters name.simple
    refine ⟨_, parse_ofBare simple, fun same => ?_, fun later => ⟨?_, ?_⟩⟩
    · have one : Atom.ofBare typeParameters name.simple = .cls name := Atom.type_injective same
      rw [one] at bare
      simp [Atom.bareName?, packaged] at bare
    · rw [Draft.write_eq, textWith_type, Atom.text_of_bareName? (Scope.write_bare _) bare]
    · have grows := ((draft.respondAll later).2.extends_referAll [name]).trans
        (draft.extends_respondAll later)
      have kept := grows.owner? owned
      rw [Draft.write_eq]
      simp [textWith, argumentTexts, bracketed, mark, references, argumentListReferences,
        Scope.write, kept]

/-- A box of a variable and a box of another package with it in it, asked for in one file around a
declaration, have no homonyms and get two texts. -/
theorem boxes_are_told_apart :
    ∃ first second : TypeExpr, parse ["T"] "app.Box<T>?" = .ok first ∧
      parse ["T"] "other.Box<app.Box<T>?>" = .ok second ∧
      let requests := [.write first, .declare "Holder", .write second]
      let replies := ((Draft.start "com.example").respondAll requests).1
      ((Draft.start "com.example").respondAll requests).2.scope.HasNoHomonyms
        (first.atoms ++ second.atoms) ∧
      replies = [some "Box<T>?", none, some "other.Box<Box<T>?>"] ∧
      replies[0]? ≠ replies[2]? := by
  let box : TypeExpr := .named ⟨"app", "Box"⟩ [.type .invariant (.variable "T" false)] true
  let boxed : TypeExpr := .named ⟨"other", "Box"⟩ [.type .invariant box] false
  let requests : List Request := [.write box, .declare "Holder", .write boxed]
  have read : parse ["T"] "app.Box<T>?" = .ok box := by with_unfolding_all rfl
  have read' : parse ["T"] "other.Box<app.Box<T>?>" = .ok boxed := by with_unfolding_all rfl
  have asked : requests[0]? = some (.write box) := rfl
  have asked' : requests[2]? = some (.write boxed) := rfl
  have free : ((Draft.start "com.example").respondAll requests).2.scope.HasNoHomonyms
      (box.atoms ++ boxed.atoms) := by decide +kernel
  have differ : box ≠ boxed := by decide +kernel
  have told := (types_are_told_apart read read' "com.example" requests asked asked').1 free
  exact ⟨box, boxed, read, read', free, by decide +kernel, fun same => differ (told.1 same)⟩

/-- A variable and a class of its name in a package are different types with one text in a file, and
so are a class without a package and one of its name in a package. -/
theorem homonyms_share_texts :
    ∃ parameter named bare packaged : TypeExpr, parse ["T"] "T" = .ok parameter ∧
      parse ["T"] "other.T" = .ok named ∧ parse ["T"] "Item" = .ok bare ∧
      parse ["T"] "other.Item" = .ok packaged ∧ [parameter, named, bare, packaged].Nodup ∧
      ((Draft.start "com.example").respondAll
        [.write parameter, .write named, .write bare, .write packaged]).1 =
        [some "T", some "T", some "Item", some "Item"] := by
  refine ⟨.variable "T" false, .named ⟨"other", "T"⟩ [] false, .named ⟨"", "Item"⟩ [] false,
    .named ⟨"other", "Item"⟩ [] false, ?_, ?_, ?_, ?_, ?_, ?_⟩
  · with_unfolding_all rfl
  · with_unfolding_all rfl
  · with_unfolding_all rfl
  · with_unfolding_all rfl
  · decide +kernel
  · decide +kernel

end Host

end ViewGlue
