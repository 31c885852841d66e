import ViewGlue.Manifest.Basic
import ViewGlue.Proofs.Contributions
import ViewGlue.Proofs.PathCollisions
import ViewGlue.Proofs.Traversals

/-!
# Names of manifests

A manifest that was read names its declarations by identifiers, and the packages of its source
files consist of identifiers. Grouping the declarations by round adds none. So the project of a
manifest consists of identifiers if its runtime package does (`isNamed_project`).
-/

namespace ViewGlue

open Output Text

/-- The name of a declaration is an identifier, and the package of its source file consists of
identifiers. -/
structure Declaration.IsNamed (declaration : Declaration) : Prop where
  /-- Its name can name generated code. -/
  name : isIdentifier declaration.name = true
  /-- Its package has no name or a dotted one. -/
  package : ∀ file, declaration.file = some file → IsPackage file.package

namespace Manifest

/-- A name that was accepted is an identifier. -/
theorem isIdentifier_of_identifier {kind : NameKind} {written : Quoted} {name : String}
    (read : identifier kind written = .ok name) : isIdentifier name = true := by
  rw [identifier] at read
  split at read
  · rename_i isName
    cases read
    exact isName
  · cases read

/-- A package that was accepted consists of identifiers. -/
theorem isPackage_of_package {written : Option Quoted} {name : String}
    (read : package written = .ok name) : IsPackage name := by
  cases written with
  | none =>
    cases read
    exact .inl rfl
  | some written =>
    simp only [package] at read
    split at read
    · rename_i isPackage
      cases read
      exact isPackage
    · cases read

/-- A declaration that was accepted has an identifier as its name and stands in its file. -/
theorem isNamed_of_declaration {text : String} {file : Option SourceFile}
    {entry : DeclarationEntry} {declared : Declaration}
    (read : declaration text file entry = .ok declared)
    (packaged : ∀ source, file = some source → IsPackage source.package) : declared.IsNamed := by
  simp only [declaration, bind_eq_ok_iff] at read
  obtain ⟨name, isName, _, -, _, -, _, -, same⟩ := read
  cases same
  exact ⟨isIdentifier_of_identifier isName, packaged⟩

/-- Declarations that were accepted have names. -/
theorem isNamed_of_declarationsOf {text : String} {file : Option SourceFile}
    {entries : List DeclarationEntry} {declared : List (Nat × Declaration)}
    (read : declarationsOf text file entries = .ok declared)
    (packaged : ∀ source, file = some source → IsPackage source.package) :
    ∀ each ∈ declared, each.2.IsNamed := by
  intro each inside
  obtain ⟨entry, -, one⟩ := exists_of_mem_mapM read inside
  obtain ⟨declaration, accepted, rfl⟩ := map_eq_ok_iff.1 one
  exact isNamed_of_declaration accepted packaged

/-- The declarations of a manifest have names. -/
theorem isNamed_of_parse {text : String} {manifest : Manifest}
    (parsed : parse text = .ok manifest) : ∀ each ∈ manifest.discovered, each.2.IsNamed := by
  rw [parse] at parsed
  split at parsed
  · cases parsed
  · simp only [ofLayout, bind_eq_ok_iff] at parsed
    obtain ⟨inFiles, ofFiles, loose, ofNone, same⟩ := parsed
    cases same
    intro each inside
    rcases List.mem_append.1 inside with filed | unfiled
    · obtain ⟨declared, listed, found⟩ := List.mem_flatten.1 filed
      obtain ⟨entry, -, one⟩ := exists_of_mem_mapM ofFiles listed
      simp only [fileDeclarations, bind_eq_ok_iff] at one
      obtain ⟨package, isPackage, read⟩ := one
      refine isNamed_of_declarationsOf read ?_ each found
      rintro _ ⟨⟩
      exact isPackage_of_package isPackage
    · exact isNamed_of_declarationsOf ofNone (fun _ missing => by cases missing) each unfiled

/-- A round has one more declaration than before, and the others have as many. -/
theorem mem_addToRound {number : Nat} {added declared : Declaration}
    {rounds : List (Nat × List Declaration)} {round : Nat × List Declaration}
    (inside : round ∈ addToRound number added rounds) (found : declared ∈ round.2) :
    declared = added ∨ ∃ earlier ∈ rounds, declared ∈ earlier.2 := by
  induction rounds with
  | nil =>
    obtain rfl := List.mem_singleton.1 inside
    exact .inl (List.mem_singleton.1 found)
  | cons first rest ih =>
    rw [addToRound] at inside
    split at inside
    · rcases List.mem_cons.1 inside with rfl | later
      · exact .inl (List.mem_singleton.1 found)
      · exact .inr ⟨round, later, found⟩
    · split at inside
      · rcases List.mem_cons.1 inside with rfl | later
        · rcases List.mem_append.1 found with before | last
          · exact .inr ⟨first, List.mem_cons_self, before⟩
          · exact .inl (List.mem_singleton.1 last)
        · exact .inr ⟨round, List.mem_cons_of_mem first later, found⟩
      · rcases List.mem_cons.1 inside with rfl | later
        · exact .inr ⟨round, List.mem_cons_self, found⟩
        · refine (ih later).imp_right ?_
          rintro ⟨earlier, listed, member⟩
          exact ⟨earlier, List.mem_cons_of_mem first listed, member⟩

/-- The declarations of the rounds are those of the manifest. -/
theorem mem_discovered_of_mem_rounds {manifest : Manifest} {round : Nat × List Declaration}
    (listed : round ∈ manifest.rounds) {declared : Declaration} (found : declared ∈ round.2) :
    ∃ number, (number, declared) ∈ manifest.discovered := by
  let Discovered (rounds : List (Nat × List Declaration)) : Prop :=
    ∀ round ∈ rounds, ∀ declared ∈ round.2, ∃ number, (number, declared) ∈ manifest.discovered
  have start : Discovered [] := fun _ missing => by cases missing
  have built : Discovered manifest.rounds := by
    refine List.foldlRecOn manifest.discovered _ start ?_
    intro rounds earlier entry inside round isRound declared member
    rcases mem_addToRound isRound member with rfl | ⟨before, isEarlier, kept⟩
    · exact ⟨entry.1, inside⟩
    · exact earlier before isEarlier declared kept
  exact built round listed declared found

end Manifest

namespace Discovery

/-- A view that declarations contribute was accepted from one of them. -/
theorem accepted_of_mem_contributedViews {defaults : ReadingDefaults}
    {declarations : List Declaration} {view : View}
    (inside : view ∈ contributedViews defaults declarations) :
    ∃ declaration ∈ declarations, Reading.Accepted defaults declaration view := by
  obtain ⟨declaration, listed, _, outcome⟩ := read_of_mem_contributedViews inside
  exact ⟨declaration, listed, Reading.accepted_of_read outcome⟩

/-- The views of a manifest are named, whatever the options are. -/
theorem hasNamedViews_project {text : String} {manifest : Manifest}
    (parsed : Manifest.parse text = .ok manifest) (options : Options) (target : BuildTarget) :
    (project options (manifest.rounds.map (·.2)) target).HasNamedViews := by
  have read : ∀ view ∈ (project options (manifest.rounds.map (·.2)) target).views,
      ∃ declaration, declaration.IsNamed ∧
        Reading.Accepted (.ofOptions options) declaration view := by
    intro view inside
    rw [views_project] at inside
    obtain ⟨declaration, listed, accepted⟩ := accepted_of_mem_contributedViews inside
    obtain ⟨_, isRound, found⟩ := List.mem_flatten.1 listed
    obtain ⟨round, inRounds, rfl⟩ := List.mem_map.1 isRound
    obtain ⟨number, discovered⟩ := Manifest.mem_discovered_of_mem_rounds inRounds found
    exact ⟨declaration, Manifest.isNamed_of_parse parsed _ discovered, accepted⟩
  refine ⟨fun view inside => ?_, fun view inside => ?_, fun view inside => ?_⟩
  · obtain ⟨declaration, named, accepted⟩ := read view inside
    rw [accepted.named]
    exact named.name
  · obtain ⟨declaration, -, accepted⟩ := read view inside
    exact accepted.isGroup
  · obtain ⟨declaration, named, accepted⟩ := read view inside
    exact named.package view.file accepted.filed

/-- The package of the runtime is that of the options. -/
theorem runtime_project (options : Options) (rounds : List (List Declaration))
    (target : BuildTarget) : (project options rounds target).runtime = ⟨options.runtime⟩ :=
  (extends_rounds (start options Lint.builtin) rounds).runtime

/-- The project of a manifest consists of identifiers if its runtime package does. -/
theorem isNamed_project {text : String} {manifest : Manifest}
    (parsed : Manifest.parse text = .ok manifest) {options : Options}
    (runtime : isDotted options.runtime = true) (target : BuildTarget) :
    (project options (manifest.rounds.map (·.2)) target).IsNamed := by
  refine ⟨hasNamedViews_project parsed options target, ?_⟩
  rw [runtime_project]
  exact runtime

end Discovery

end ViewGlue
