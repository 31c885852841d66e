import Mathlib.Data.List.Induction
import ViewGlue.Manifest.Basic
import ViewGlue.Proofs.Contributions
import ViewGlue.Proofs.Traversals

/-!
# The order of rounds

Rounds only order the declarations of a manifest: one after another they are the declarations
stably sorted by the number of their round (`flatten_rounds`). How declarations are divided into
rounds makes no difference to a discovery but for the number of rounds (`foldl_round_eq`), so a run
finds what it would find if it read the sorted declarations one by one
(`rounds_order_discovery`).
-/

namespace ViewGlue

open List (Forall₂)

/-! ## Stable sorting -/

namespace Numbered

variable {α : Type}

/-- The order of numbered elements, which looks at the numbers alone. -/
def inOrder (first second : Nat × α) : Bool :=
  decide (first.1 ≤ second.1)

/-- The order of numbers is transitive. -/
theorem inOrder_trans (first second third : Nat × α) (left : inOrder first second = true)
    (right : inOrder second third = true) : inOrder first third = true := by
  simp only [inOrder, decide_eq_true_eq] at left right ⊢
  omega

/-- Two numbers stand in one order or the other. -/
theorem inOrder_total (first second : Nat × α) :
    (inOrder first second || inOrder second first) = true := by
  simp only [inOrder, Bool.or_eq_true, decide_eq_true_eq]
  omega

/-- The elements of a number in their order. -/
def ofNumber (number : Nat) (elements : List (Nat × α)) : List (Nat × α) :=
  elements.filter (·.1 = number)

/-- The elements of a number in two lists, one behind the other. -/
theorem ofNumber_append (number : Nat) (front behind : List (Nat × α)) :
    ofNumber number (front ++ behind) = ofNumber number front ++ ofNumber number behind :=
  List.filter_append front behind

/-- The elements of a number are those with it. -/
theorem mem_ofNumber {number : Nat} {elements : List (Nat × α)} {element : Nat × α} :
    element ∈ ofNumber number elements ↔ element ∈ elements ∧ element.1 = number := by
  simp [ofNumber]

/-- An element may stand behind those with greater numbers as well as before them. -/
theorem ofNumber_singleton_append (number : Nat) {head : Nat × α} {later : List (Nat × α)}
    (greater : ∀ element ∈ later, head.1 < element.1) :
    ofNumber number ([head] ++ later) = ofNumber number (later ++ [head]) := by
  rw [ofNumber_append, ofNumber_append]
  by_cases here : head.1 = number
  · have none : ofNumber number later = [] := by
      refine List.filter_eq_nil_iff.2 fun element inside => ?_
      have above := greater element inside
      rw [decide_eq_true_eq]
      omega
    simp [none]
  · have none : ofNumber number [head] = [] := by simp [ofNumber, here]
    simp [none]

/-- Every element is among those of its number. -/
theorem mem_of_ofNumber_eq {first second : List (Nat × α)}
    (same : ∀ number, ofNumber number first = ofNumber number second) {element : Nat × α}
    (inside : element ∈ first) : element ∈ second := by
  have here : element ∈ ofNumber element.1 first := mem_ofNumber.2 ⟨inside, rfl⟩
  rw [same] at here
  exact (mem_ofNumber.1 here).1

/-- The first element of an ascending list has the least number. -/
theorem le_of_mem_cons {head element : Nat × α} {rest : List (Nat × α)}
    (ascending : (head :: rest).Pairwise (inOrder · · = true)) (inside : element ∈ head :: rest) :
    head.1 ≤ element.1 := by
  rcases List.mem_cons.1 inside with rfl | later
  · exact Nat.le_refl _
  · have before := (List.pairwise_cons.1 ascending).1 element later
    simpa [inOrder] using before

/-- Ascending lists with the same elements of each number in the same order are the same. -/
theorem eq_of_ofNumber_eq {first second : List (Nat × α)}
    (ascending : first.Pairwise (inOrder · · = true))
    (otherAscending : second.Pairwise (inOrder · · = true))
    (same : ∀ number, ofNumber number first = ofNumber number second) : first = second := by
  induction first generalizing second with
  | nil =>
    cases second with
    | nil => rfl
    | cons head rest =>
      exact absurd (mem_of_ofNumber_eq (fun number => (same number).symm) List.mem_cons_self)
        List.not_mem_nil
  | cons head rest ih =>
    cases second with
    | nil => exact absurd (mem_of_ofNumber_eq same List.mem_cons_self) List.not_mem_nil
    | cons other others =>
      -- Each head has the least number of its list, and each is in the other list.
      have below : head.1 ≤ other.1 := le_of_mem_cons ascending
        (mem_of_ofNumber_eq (fun number => (same number).symm) List.mem_cons_self)
      have above : other.1 ≤ head.1 :=
        le_of_mem_cons otherAscending (mem_of_ofNumber_eq same List.mem_cons_self)
      have numbers : other.1 = head.1 := Nat.le_antisymm above below
      have heads : head = other ∧ ofNumber head.1 rest = ofNumber head.1 others := by
        have here := same head.1
        simpa [ofNumber, numbers] using here
      have tails : ∀ number, ofNumber number rest = ofNumber number others := by
        intro number
        by_cases here : head.1 = number
        · rw [← here]
          exact heads.2
        · have there := same number
          simpa [ofNumber, here, numbers] using there
      rw [heads.1, ih (List.pairwise_cons.1 ascending).2
        (List.pairwise_cons.1 otherAscending).2 tails]

/-- Sorting keeps the order of elements with one number. -/
theorem ofNumber_mergeSort (number : Nat) (elements : List (Nat × α)) :
    ofNumber number (elements.mergeSort inOrder) = ofNumber number elements := by
  have level : (ofNumber number elements).Pairwise (inOrder · · = true) := by
    refine List.pairwise_of_forall_mem_list fun first inside second listed => ?_
    have left := (mem_ofNumber.1 inside).2
    have right := (mem_ofNumber.1 listed).2
    simp [inOrder, left, right]
  have kept : (ofNumber number elements).Sublist (elements.mergeSort inOrder) :=
    List.sublist_mergeSort inOrder_trans inOrder_total level List.filter_sublist
  have selected := kept.filter (·.1 = number)
  have idempotent : (ofNumber number elements).filter (·.1 = number) =
      ofNumber number elements := by
    simp [ofNumber]
  rw [idempotent] at selected
  have lengths : (ofNumber number elements).length =
      (ofNumber number (elements.mergeSort inOrder)).length :=
    ((List.mergeSort_perm elements inOrder).filter _).length_eq.symm
  exact (selected.eq_of_length lengths).symm

/-- An ascending list with the elements of each number in their order is the sorted list. -/
theorem eq_mergeSort {sorted elements : List (Nat × α)}
    (ascending : sorted.Pairwise (inOrder · · = true))
    (same : ∀ number, ofNumber number sorted = ofNumber number elements) :
    sorted = elements.mergeSort inOrder := by
  have other := List.pairwise_mergeSort inOrder_trans inOrder_total elements
  refine eq_of_ofNumber_eq ascending other fun number => ?_
  rw [same, ofNumber_mergeSort]

end Numbered

open Numbered

/-! ## Rounds of a manifest -/

namespace Manifest

/-- The declarations of rounds, each with the number of its round. -/
def numbered (rounds : List (Nat × List Declaration)) : List (Nat × Declaration) :=
  rounds.flatMap fun round => round.2.map (round.1, ·)

/-- Rounds in the order of their numbers, each number once. -/
def Ascending (rounds : List (Nat × List Declaration)) : Prop :=
  rounds.Pairwise fun first second => first.1 < second.1

/-- Adding a declaration adds at most the round of its number. -/
theorem number_of_mem_addToRound {number : Nat} {added : Declaration}
    {rounds : List (Nat × List Declaration)} {round : Nat × List Declaration}
    (inside : round ∈ addToRound number added rounds) :
    round.1 = number ∨ ∃ earlier ∈ rounds, earlier.1 = round.1 := by
  induction rounds with
  | nil =>
    rw [List.mem_singleton.1 inside]
    exact .inl rfl
  | cons first rest ih =>
    rw [addToRound] at inside
    split at inside
    · rcases List.mem_cons.1 inside with rfl | later
      · exact .inl rfl
      · exact .inr ⟨round, later, rfl⟩
    · split at inside
      · rename_i same
        rcases List.mem_cons.1 inside with rfl | later
        · exact .inl rfl
        · exact .inr ⟨round, List.mem_cons_of_mem first later, rfl⟩
      · rcases List.mem_cons.1 inside with rfl | later
        · exact .inr ⟨round, List.mem_cons_self, rfl⟩
        · refine (ih later).imp_right ?_
          rintro ⟨earlier, listed, named⟩
          exact ⟨earlier, List.mem_cons_of_mem first listed, named⟩

/-- Rounds stay in the order of their numbers. -/
theorem Ascending.addToRound {rounds : List (Nat × List Declaration)}
    (ascending : Ascending rounds) (number : Nat) (added : Declaration) :
    Ascending (addToRound number added rounds) := by
  induction rounds with
  | nil => exact List.pairwise_singleton _ _
  | cons first rest ih =>
    obtain ⟨least, others⟩ := List.pairwise_cons.1 ascending
    rw [Manifest.addToRound]
    split
    · rename_i before
      refine List.pairwise_cons.2 ⟨fun round inside => ?_, ascending⟩
      rcases List.mem_cons.1 inside with rfl | later
      · exact before
      · have := least round later
        show number < round.1
        omega
    · split
      · rename_i same
        refine List.pairwise_cons.2 ⟨fun round inside => ?_, others⟩
        have := least round inside
        show number < round.1
        omega
      · rename_i later differs
        refine List.pairwise_cons.2 ⟨fun round inside => ?_, ih others⟩
        rcases number_of_mem_addToRound inside with named | ⟨earlier, listed, named⟩
        · rw [named]
          omega
        · have := least earlier listed
          rw [← named]
          exact this

/-- Numbered rounds are in order. -/
theorem Ascending.numbered {rounds : List (Nat × List Declaration)}
    (ascending : Ascending rounds) :
    (numbered rounds).Pairwise (inOrder · · = true) := by
  refine List.pairwise_flatMap.2 ⟨fun round _ => ?_, ascending.imp fun before => ?_⟩
  · refine List.pairwise_map.2 (List.pairwise_of_forall_mem_list fun _ _ _ _ => ?_)
    simp [inOrder]
  · intro first inside second listed
    obtain ⟨_, -, rfl⟩ := List.mem_map.1 inside
    obtain ⟨_, -, rfl⟩ := List.mem_map.1 listed
    simp only [inOrder, decide_eq_true_eq]
    exact Nat.le_of_lt before

/-- Where all rounds come later, so do their declarations. -/
theorem lt_of_mem_numbered {number : Nat} {rounds : List (Nat × List Declaration)}
    (later : ∀ round ∈ rounds, number < round.1) {entry : Nat × Declaration}
    (inside : entry ∈ numbered rounds) : number < entry.1 := by
  obtain ⟨round, listed, found⟩ := List.mem_flatMap.1 inside
  obtain ⟨declaration, -, rfl⟩ := List.mem_map.1 found
  exact later round listed

/-- A declaration comes last in the round of its number. -/
theorem ofNumber_addToRound {rounds : List (Nat × List Declaration)}
    (ascending : Ascending rounds) (wanted number : Nat) (added : Declaration) :
    ofNumber wanted (numbered (addToRound number added rounds)) =
      ofNumber wanted (numbered rounds ++ [(number, added)]) := by
  induction rounds with
  | nil => rfl
  | cons first rest ih =>
    obtain ⟨least, others⟩ := List.pairwise_cons.1 ascending
    have front : numbered (first :: rest) = first.2.map (first.1, ·) ++ numbered rest := rfl
    rw [addToRound]
    split
    · rename_i before
      have behind : ∀ round ∈ first :: rest, number < round.1 := by
        intro round inside
        rcases List.mem_cons.1 inside with rfl | later
        · exact before
        · exact Nat.lt_trans before (least round later)
      exact ofNumber_singleton_append wanted fun entry listed => lt_of_mem_numbered behind listed
    · split
      · rename_i same
        have behind : ∀ round ∈ rest, number < round.1 := fun round inside =>
          same ▸ least round inside
        have moved : ofNumber wanted ([(number, added)] ++ numbered rest) =
            ofNumber wanted (numbered rest ++ [(number, added)]) :=
          ofNumber_singleton_append wanted fun entry listed => lt_of_mem_numbered behind listed
        have joined : numbered ((number, first.2 ++ [added]) :: rest) =
            first.2.map (first.1, ·) ++ ([(number, added)] ++ numbered rest) := by
          simp [numbered, same]
        rw [joined, ofNumber_append, moved, ← ofNumber_append, ← List.append_assoc, ← front]
      · have joined : numbered (first :: addToRound number added rest) =
            first.2.map (first.1, ·) ++ numbered (addToRound number added rest) := rfl
        rw [joined, front, List.append_assoc, ofNumber_append, ofNumber_append, ih others]

/-- What rounds are built from declarations one by one: rounds in the order of their numbers, with
the declarations of each number in their order. -/
theorem ascending_rounds (manifest : Manifest) :
    Ascending manifest.rounds ∧
      ∀ number, ofNumber number (numbered manifest.rounds) =
        ofNumber number manifest.discovered := by
  unfold rounds
  induction manifest.discovered using List.reverseRecOn with
  | nil => exact ⟨List.Pairwise.nil, fun _ => rfl⟩
  | append_singleton earlier entry ih =>
    obtain ⟨ascending, same⟩ := ih
    rw [List.foldl_append, List.foldl_cons, List.foldl_nil]
    refine ⟨ascending.addToRound entry.1 entry.2, fun number => ?_⟩
    rw [ofNumber_addToRound ascending, ofNumber_append, ofNumber_append, same]

/-- The declarations of a manifest stably sorted by the number of their round. -/
def byRound (manifest : Manifest) : List Declaration :=
  (manifest.discovered.mergeSort inOrder).map (·.2)

/-- Rounds one after another are the sorted declarations. -/
theorem flatten_rounds (manifest : Manifest) :
    (manifest.rounds.map (·.2)).flatten = manifest.byRound := by
  obtain ⟨ascending, same⟩ := ascending_rounds manifest
  have bare : (manifest.rounds.map (·.2)).flatten = (numbered manifest.rounds).map (·.2) := by
    simp [numbered, List.flatMap_def, Function.comp_def]
  rw [bare, eq_mergeSort ascending.numbered same, byRound]

/-- There are as many declarations in the rounds as in the manifest. -/
theorem declarationCount_eq (manifest : Manifest) :
    manifest.declarationCount = manifest.discovered.length := by
  rw [declarationCount, List.flatMap_def, flatten_rounds, byRound, List.length_map,
    List.length_mergeSort]

/-! ## The order of the text -/

/-- The source file that the entry of a file states. -/
inductive IsSource : Option FileEntry → Option SourceFile → Prop where
  /-- A declaration outside of all files states none. -/
  | none : IsSource none none
  /-- The path of the entry, and its package as it is read. -/
  | some {entry : FileEntry} {name : String} (packaged : package entry.package = .ok name) :
      IsSource (some entry) (some ⟨entry.path, name⟩)

/-- The entries of a layout in the order of the text: those of each source file in its place, and
behind them those without one. -/
def Layout.entries (layout : Layout) : List (Option FileEntry × DeclarationEntry) :=
  layout.files.flatMap (fun file => file.declarations.map (some file, ·)) ++
    layout.declarations.map (none, ·)

/-- An entry of a text states a declaration of its round in its source file. -/
def States (text : String) (entry : Option FileEntry × DeclarationEntry)
    (numbered : Nat × Declaration) : Prop :=
  numbered.1 = entry.2.round ∧
    ∃ source, IsSource entry.1 source ∧ declaration text source entry.2 = .ok numbered.2

/-- Entries that are read one by one state what was read. -/
theorem states_of_declarationsOf {text : String} {file : Option FileEntry}
    {source : Option SourceFile} (isSource : IsSource file source) {entries : List DeclarationEntry}
    {declared : List (Nat × Declaration)}
    (read : declarationsOf text source entries = .ok declared) :
    Forall₂ (States text) (entries.map (file, ·)) declared := by
  have each := mapM_eq_ok_iff.1 read
  refine List.forall₂_map_left_iff.2 (each.imp fun entry numbered one => ?_)
  obtain ⟨found, accepted, rfl⟩ := map_eq_ok_iff.1 one
  exact ⟨rfl, source, isSource, accepted⟩

/-- The declarations of a manifest are those of its text in their order. -/
theorem states_of_parse {text : String} {manifest : Manifest}
    (parsed : parse text = .ok manifest) :
    ∃ layout, document? text >>= Manifest.layout = some layout ∧
      Forall₂ (States text) layout.entries manifest.discovered := by
  rw [parse] at parsed
  split at parsed
  · cases parsed
  · rename_i layout read
    simp only [ofLayout, bind_eq_ok_iff] at parsed
    obtain ⟨inFiles, ofFiles, loose, ofNone, same⟩ := parsed
    cases same
    refine ⟨layout, read, List.rel_append ?_ (states_of_declarationsOf .none ofNone)⟩
    rw [List.flatMap_def]
    refine List.rel_flatten (List.forall₂_map_left_iff.2 ?_)
    refine (mapM_eq_ok_iff.1 ofFiles).imp fun file declared one => ?_
    simp only [fileDeclarations, bind_eq_ok_iff] at one
    obtain ⟨package, packaged, accepted⟩ := one
    exact states_of_declarationsOf (.some packaged) accepted

end Manifest

/-! ## Discovery round by round -/

namespace Discovery

/-- What rounds bring, one after another, added up. -/
def acceptedInRounds (discovery : Discovery) : List (List Declaration) → Nat
  | [] => 0
  | declarations :: rest =>
    discovery.accepted declarations + (discovery.round declarations).acceptedInRounds rest

/-- Whether a declaration becomes a view. -/
def accepts (discovery : Discovery) (declaration : Declaration) : Bool :=
  (Reading.verdict discovery.defaults declaration).1.isSome

/-- Reading declarations counts no rounds. -/
theorem rounds_foldl_take (discovery : Discovery) (declarations : List Declaration) :
    (declarations.foldl take discovery).rounds = discovery.rounds := by
  induction declarations generalizing discovery with
  | nil => rfl
  | cons declaration rest ih => exact ih (discovery.take declaration)

/-- Each round is counted once. -/
theorem rounds_foldl_round (discovery : Discovery) (rounds : List (List Declaration)) :
    (rounds.foldl round discovery).rounds = discovery.rounds + rounds.length := by
  induction rounds generalizing discovery with
  | nil => rfl
  | cons declarations rest ih =>
    have one : (discovery.round declarations).rounds = discovery.rounds + 1 :=
      rounds_foldl_take _ declarations
    rw [List.foldl_cons, ih, one, List.length_cons]
    omega

/-- Two discoveries that add the same declarations to a third differ in the number of their rounds
at most. -/
theorem Extends.eq {first second earlier : Discovery} {declarations : List Declaration}
    (one : first.Extends earlier declarations) (other : second.Extends earlier declarations) :
    first = { second with rounds := first.rounds } := by
  obtain ⟨defaults, runtime, lints, views, diagnostics⟩ := one
  obtain ⟨otherDefaults, otherRuntime, otherLints, otherViews, otherDiagnostics⟩ := other
  cases first
  cases second
  simp_all only

/-- How declarations are divided into rounds makes no difference but for the number of rounds. -/
theorem foldl_round_eq (discovery : Discovery) (rounds : List (List Declaration)) :
    rounds.foldl round discovery =
      { discovery.round rounds.flatten with rounds := discovery.rounds + rounds.length } := by
  rw [← rounds_foldl_round]
  exact (extends_rounds discovery rounds).eq (extends_round discovery rounds.flatten)

/-- Later rounds only add views and reports behind those of earlier ones. -/
theorem foldl_round_prefix (discovery : Discovery) (earlier later : List (List Declaration)) :
    (earlier.foldl round discovery).views <+: ((earlier ++ later).foldl round discovery).views ∧
      (earlier.foldl round discovery).diagnostics <+:
        ((earlier ++ later).foldl round discovery).diagnostics := by
  have more := extends_rounds (earlier.foldl round discovery) later
  rw [List.foldl_append, more.views, more.diagnostics]
  exact ⟨List.prefix_append _ _, List.prefix_append _ _⟩

/-- The views that declarations contribute are as many as those that are accepted. -/
theorem length_contributedViews (discovery : Discovery) (declarations : List Declaration) :
    (contributedViews discovery.defaults declarations).length =
      declarations.countP discovery.accepts := by
  induction declarations with
  | nil => rfl
  | cons declaration rest ih =>
    rw [List.countP_cons, ← ih]
    cases found : (Reading.verdict discovery.defaults declaration).1 <;>
      simp [contributedViews, accepts, found]

/-- A round brings as many views as declarations of it are accepted. -/
theorem accepted_eq (discovery : Discovery) (declarations : List Declaration) :
    discovery.accepted declarations = declarations.countP discovery.accepts := by
  have views := (extends_round discovery declarations).views
  rw [accepted, views, List.length_append, length_contributedViews]
  omega

/-- The views that rounds bring add up to the declarations that are accepted. -/
theorem acceptedInRounds_eq (discovery : Discovery) (rounds : List (List Declaration)) :
    discovery.acceptedInRounds rounds = rounds.flatten.countP discovery.accepts := by
  induction rounds generalizing discovery with
  | nil => rfl
  | cons declarations rest ih =>
    have defaults := (extends_round discovery declarations).defaults
    have same : (discovery.round declarations).accepts = discovery.accepts := by
      unfold accepts
      rw [defaults]
    rw [acceptedInRounds, accepted_eq, ih, same, List.flatten_cons, List.countP_append]

end Discovery

/-! ## Runs -/

/-- A manifest has the declarations of its text in their order, and its rounds only sort them: a run
has the views and the reports of reading the sorted declarations one by one, and behind these the
reports of the lints. However declarations are divided into rounds, a discovery ends as with a
single round of all of them; later rounds leave what was found before as it is; and the views that
the rounds bring add up to the declarations that are accepted. -/
theorem rounds_order_discovery {text : String} {manifest : Manifest}
    (parsed : Manifest.parse text = .ok manifest) (options : Options) (target : BuildTarget) :
    let one := manifest.byRound.foldl Discovery.take (Discovery.start options Lint.builtin)
    let project := Discovery.project options (manifest.rounds.map (·.2)) target
    (∃ layout, Manifest.document? text >>= Manifest.layout = some layout ∧
      Forall₂ (Manifest.States text) layout.entries manifest.discovered) ∧
    (project.views = one.views ∧
      project.diagnostics = one.diagnostics ++ Lint.builtin.flatMap (·.check one.views) ∧
      manifest.declarationCount = manifest.discovered.length) ∧
    ∀ (discovery : Discovery) (rounds : List (List Declaration)),
      rounds.foldl Discovery.round discovery =
        { discovery.round rounds.flatten with rounds := discovery.rounds + rounds.length } ∧
      (∀ earlier later, rounds = earlier ++ later →
        (earlier.foldl Discovery.round discovery).views <+:
            (rounds.foldl Discovery.round discovery).views ∧
          (earlier.foldl Discovery.round discovery).diagnostics <+:
            (rounds.foldl Discovery.round discovery).diagnostics) ∧
      discovery.acceptedInRounds rounds = rounds.flatten.countP discovery.accepts := by
  intro one project
  have read := Discovery.extends_foldl_take (Discovery.start options Lint.builtin) manifest.byRound
  have views : project.views = one.views := by
    rw [Discovery.views_project, Manifest.flatten_rounds, read.views]
    rfl
  have diagnostics :
      project.diagnostics = one.diagnostics ++ Lint.builtin.flatMap (·.check one.views) := by
    rw [Discovery.diagnostics_project, Manifest.flatten_rounds, ← views, read.diagnostics]
    rfl
  refine ⟨Manifest.states_of_parse parsed,
    ⟨views, diagnostics, manifest.declarationCount_eq⟩, fun discovery rounds => ?_⟩
  refine ⟨discovery.foldl_round_eq rounds, ?_, discovery.acceptedInRounds_eq rounds⟩
  rintro earlier later rfl
  exact discovery.foldl_round_prefix earlier later

/-- A manifest whose first declaration is discovered last, and one of whose declarations has no
source file. -/
def laterText : String :=
  "[[files]]\n" ++
  "path = \"Maps.kt\"\n" ++
  "package = \"app\"\n" ++
  "[[files.declarations]]\n" ++
  "name = \"ShowRoute\"\n" ++
  "visibility = \"public\"\n" ++
  "round = 2\n" ++
  "[[files.declarations]]\n" ++
  "name = \"ShowMap\"\n" ++
  "visibility = \"public\"\n" ++
  "[[declarations]]\n" ++
  "name = \"ShowBadge\"\n"

/-- The declaration of the second round is read last, and the one without a source file brings no
view. -/
theorem rounds_of_laterText_order :
    ∃ manifest, Manifest.parse laterText = .ok manifest ∧
      manifest.discovered.map (fun entry => (entry.1, entry.2.name)) =
        [(2, "ShowRoute"), (1, "ShowMap"), (1, "ShowBadge")] ∧
      manifest.byRound.map (·.name) = ["ShowMap", "ShowBadge", "ShowRoute"] ∧
      manifest.declarationCount = 3 ∧
      let project := Discovery.project {} (manifest.rounds.map (·.2)) .primary
      let one := manifest.byRound.foldl Discovery.take (Discovery.start {} Lint.builtin)
      project.views.map (·.name) = ["ShowMap", "ShowRoute"] ∧
      project.diagnostics.map (·.code) =
        [some "missing-handle-slot", some "missing-file", some "missing-handle-slot"] ∧
      project.views = one.views ∧
      project.diagnostics = one.diagnostics ++ Lint.builtin.flatMap (·.check one.views) ∧
      (Discovery.start {} Lint.builtin).acceptedInRounds (manifest.rounds.map (·.2)) = 2 := by
  have found : (Manifest.parse laterText).toOption.any (fun manifest =>
      let rounds := manifest.rounds.map (·.2)
      let project := Discovery.project {} rounds .primary
      decide (manifest.discovered.map (fun entry => (entry.1, entry.2.name)) =
        [(2, "ShowRoute"), (1, "ShowMap"), (1, "ShowBadge")] ∧
      rounds.flatten.map (·.name) = ["ShowMap", "ShowBadge", "ShowRoute"] ∧
      project.views.map (·.name) = ["ShowMap", "ShowRoute"] ∧
      project.diagnostics.map (·.code) =
        [some "missing-handle-slot", some "missing-file", some "missing-handle-slot"] ∧
      rounds.flatten.countP (Discovery.start {} Lint.builtin).accepts = 2)) = true := by
    decide +kernel
  cases outcome : Manifest.parse laterText with
  | error _ =>
    rw [outcome] at found
    cases found
  | ok manifest =>
    rw [outcome] at found
    obtain ⟨discovered, sorted, views, codes, accepted⟩ := of_decide_eq_true found
    obtain ⟨-, ⟨sameViews, sameReports, counted⟩, rounds⟩ :=
      rounds_order_discovery outcome {} .primary
    obtain ⟨-, -, brought⟩ := rounds (.start {} Lint.builtin) (manifest.rounds.map (·.2))
    have three : manifest.discovered.length = 3 := by
      simpa using congrArg List.length discovered
    rw [Manifest.flatten_rounds] at sorted
    exact ⟨manifest, rfl, discovered, sorted, counted.trans three, views, codes, sameViews,
      sameReports, brought.trans accepted⟩

end ViewGlue
