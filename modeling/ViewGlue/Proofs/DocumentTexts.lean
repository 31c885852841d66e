import ViewGlue.Manifest.Document

/-!
# Quoted texts in documents

A document holds no quoted text but those among its tokens: values are read off tokens, and tables
only put values together. So what is known of the quoted tokens of a text is known of every quoted
text in its document (`from_document?`).
-/

namespace ViewGlue.Manifest

open Text (Rest)

/-! ## Texts inside of values -/

/-- A quoted text stands somewhere in a value. -/
inductive Node.Holds (written : Quoted) : Node → Prop
  /-- The value is the text. -/
  | text : Node.Holds written (.text written)
  /-- It stands in an item of an array. -/
  | item {item : Node} {items : List Node} (listed : item ∈ items)
      (inside : Node.Holds written item) : Node.Holds written (.array items)
  /-- It stands in a table of a list. -/
  | element {item : Node} {items : List Node} (listed : item ∈ items)
      (inside : Node.Holds written item) : Node.Holds written (.tables items)
  /-- It stands in an entry of a table. -/
  | entry {origin : Origin} {entry : String × Node} {entries : List (String × Node)}
      (listed : entry ∈ entries) (inside : Node.Holds written entry.2) :
      Node.Holds written (.table origin entries)

variable {known : Quoted → Prop}

/-- All quoted texts in a value are known. -/
def Node.From (known : Quoted → Prop) (node : Node) : Prop :=
  ∀ written, node.Holds written → known written

/-- All quoted texts in the values of a table are known. -/
def Entries.From (known : Quoted → Prop) (entries : Entries) : Prop :=
  ∀ entry ∈ entries, entry.2.From known

namespace Node

@[simp] theorem from_text {written : Quoted} : (text written).From known ↔ known written := by
  constructor
  · exact fun all => all written .text
  · rintro isKnown _ ⟨⟩
    exact isKnown

@[simp] theorem from_array {items : List Node} :
    (array items).From known ↔ ∀ item ∈ items, item.From known := by
  constructor
  · exact fun all item listed written inside => all written (.item listed inside)
  · intro all written holds
    cases holds with
    | item listed inside => exact all _ listed written inside

@[simp] theorem from_tables {items : List Node} :
    (tables items).From known ↔ ∀ item ∈ items, item.From known := by
  constructor
  · exact fun all item listed written inside => all written (.element listed inside)
  · intro all written holds
    cases holds with
    | element listed inside => exact all _ listed written inside

@[simp] theorem from_table {origin : Origin} {entries : Entries} :
    (table origin entries).From known ↔ entries.From known := by
  constructor
  · exact fun all entry listed written inside => all written (.entry listed inside)
  · intro all written holds
    cases holds with
    | entry listed inside => exact all _ listed written inside

end Node

/-- A word denotes a value without quoted texts. -/
theorem from_of_plainValue? {word : List Char} {node : Node} (read : plainValue? word = some node) :
    node.From known := by
  intro written holds
  unfold plainValue? at read
  repeat' split at read
  all_goals cases read
  all_goals cases holds

/-! ## Tables -/

namespace Entries

variable {entries : Entries} {key : String} {node : Node} {change : Change}

/-- A value that is found is one of the table's. -/
theorem From.of_find? (all : From known entries) (found : find? entries key = some node) :
    node.From known := by
  induction entries with
  | nil => cases found
  | cons entry rest ih =>
    rw [find?] at found
    split at found
    · cases found
      exact all entry List.mem_cons_self
    · exact ih (fun other listed => all other (List.mem_cons_of_mem entry listed)) found

/-- Another known value in the place of one leaves all known. -/
theorem From.replace (all : From known entries) (isKnown : node.From known) :
    From known (replace entries key node) := by
  intro entry listed
  obtain ⟨earlier, before, rfl⟩ := List.mem_map.1 listed
  split
  · exact isKnown
  · exact all earlier before

/-- One more known value leaves all known. -/
theorem From.append (all : From known entries) (isKnown : node.From known) :
    From known (entries ++ [(key, node)]) := by
  intro entry listed
  rcases List.mem_append.1 listed with before | last
  · exact all entry before
  · rw [List.mem_singleton.1 last]
    exact isKnown

/-- An empty table holds no quoted text. -/
theorem from_nil : From known [] := nofun

/-- The change adds no quoted text that is not known. -/
def Change.Keeps (known : Quoted → Prop) (change : Change) : Prop :=
  ∀ origin entries table, From known entries → change origin entries = some table →
    From known table.2

/-- A change that is refused keeps everything. -/
theorem keeps_none : Change.Keeps known fun _ _ => none := fun _ _ _ _ refused => by cases refused

/-- A change down a path keeps what it keeps where the path leads. -/
theorem Change.Keeps.changeAt (keeps : change.Keeps known) (passing : Origin) (path : List String) :
    (changeAt passing change path).Keeps known := by
  intro origin entries table all changed
  fun_induction Entries.changeAt passing change path origin entries generalizing table with
  | case1 => exact keeps _ _ _ all changed
  | case2 key path origin entries _ inner within below ih =>
    cases changed
    exact all.append (Node.from_table.2 (ih _ from_nil below))
  | case5 key path origin entries outer earlier found _ inner within below ih =>
    cases changed
    have known := Node.from_table.1 (all.of_find? found)
    exact all.replace (Node.from_table.2 (ih _ known below))
  | case7 key path origin entries items found outer earlier before last inner within below ih =>
    cases changed
    -- The table that is still open is the last of its kind.
    have each : ∀ item ∈ items, item.From known := Node.from_tables.1 (all.of_find? found)
    have reversed : ∀ item ∈ Node.table outer earlier :: before, item.From known := by
      intro item listed
      exact each item (List.mem_reverse.1 (last ▸ listed))
    have opened := Node.from_table.1 (reversed _ List.mem_cons_self)
    refine all.replace (Node.from_tables.2 fun item listed => ?_)
    rcases List.mem_cons.1 (List.mem_reverse.1 listed) with rfl | other
    · exact Node.from_table.2 (ih _ opened below)
    · exact reversed item (List.mem_cons_of_mem _ other)
  | case3 => cases changed
  | case4 => cases changed
  | case6 => cases changed
  | case8 => cases changed
  | case9 => cases changed
  | case10 => cases changed

/-- A known value may be added. -/
theorem keeps_addValue (isDotted : Bool) (isKnown : node.From known) :
    (addValue isDotted key node).Keeps known := by
  intro origin entries table all changed
  rw [addValue] at changed
  split at changed
  · cases changed
  · obtain ⟨added, fresh, rfl⟩ := Option.map_eq_some_iff.1 changed
    rw [add?] at fresh
    split at fresh
    · cases fresh
    · cases fresh
      exact all.append isKnown

/-- A known value may be given to a key of one or more parts. -/
theorem keeps_addKey (path : List String) (isKnown : node.From known) :
    (addKey path node).Keeps known := by
  unfold addKey
  split
  · exact keeps_none
  · exact (keeps_addValue _ isKnown).changeAt _ _

/-- A table that is opened has no values. -/
theorem keeps_openTable : (openTable key).Keeps known := by
  intro origin entries table all changed
  rw [openTable] at changed
  split at changed
  · cases changed
    exact all.append (Node.from_table.2 from_nil)
  · rename_i within found
    cases changed
    exact all.replace (Node.from_table.2 (Node.from_table.1 (all.of_find? found)))
  · cases changed

/-- One more table that is opened has no values. -/
theorem keeps_openItem : (openItem key).Keeps known := by
  have opened : (Node.table .header []).From known := Node.from_table.2 from_nil
  intro origin entries table all changed
  rw [openItem] at changed
  split at changed
  · cases changed
    exact all.append (by simpa using opened)
  · rename_i items found
    cases changed
    have items := Node.from_tables.1 (all.of_find? found)
    refine all.replace (Node.from_tables.2 fun item listed => ?_)
    rcases List.mem_append.1 listed with before | last
    · exact items item before
    · rw [List.mem_singleton.1 last]
      exact opened
  · cases changed

/-- A header keeps what the change at its end keeps. -/
theorem keeps_underHeader {change : String → Change} (keeps : ∀ key, (change key).Keeps known)
    (path : List String) : (underHeader change path).Keeps known := by
  unfold underHeader
  split
  · exact keeps_none
  · exact (keeps _).changeAt _ _

end Entries

/-- What each step of a fold that may fail keeps holds of its result. -/
theorem holds_of_foldlM {α β : Type} {step : β → α → Option β} (holds : β → Prop)
    {elements : List α} {start result : β} (starts : holds start)
    (keeps : ∀ element ∈ elements, ∀ state next, holds state → step state element = some next →
      holds next)
    (done : elements.foldlM step start = some result) : holds result := by
  induction elements generalizing start with
  | nil =>
    cases done
    exact starts
  | cons element elements ih =>
    rw [List.foldlM_cons] at done
    obtain ⟨next, one, rest⟩ := Option.bind_eq_some_iff.1 done
    have held := keeps element List.mem_cons_self start next starts one
    exact ih held (fun other listed => keeps other (List.mem_cons_of_mem element listed)) rest

/-- Members with known values make an inline table of known values. -/
theorem from_of_inlineEntries {members : List (List String × Node)}
    (all : ∀ member ∈ members, member.2.From known) {table : Origin × Entries}
    (made : inlineEntries members = some table) : Entries.From known table.2 :=
  holds_of_foldlM (fun table : Origin × Entries => Entries.From known table.2)
    Entries.from_nil
    (fun member listed state next held changed =>
      Entries.keeps_addKey member.1 (all member listed) state.1 state.2 next held changed)
    made

/-! ## Readers of tokens -/

/-- The quoted texts among tokens are known. -/
def Supplies (known : Quoted → Prop) (tokens : List Token) : Prop :=
  ∀ token ∈ tokens, ∀ value quotes, token.lexeme = .quoted value quotes →
    known ⟨value, token.start, token.length⟩

/-- What is known of tokens is known of some of them. -/
theorem Supplies.subset {tokens others : List Token} (supplies : Supplies known tokens)
    (fewer : others ⊆ tokens) : Supplies known others :=
  fun token listed => supplies token (fewer listed)

/-- Blanks are left out of tokens from before. -/
theorem skipBlanks_subset (s : List Token) : skipBlanks s ⊆ s :=
  (s.dropWhile_sublist Token.isBlank).subset

/-- Blanks and line ends are left out of tokens from before. -/
theorem skipSpacing_subset (s : List Token) : skipSpacing s ⊆ s :=
  (s.dropWhile_sublist Token.isSpacing).subset

variable {s left : List Token} {token : Token}

/-- Behind the token after blanks are tokens from before. -/
theorem subset_of_skipBlanks (same : skipBlanks s = token :: left) : left ⊆ s :=
  fun _ listed => skipBlanks_subset s (same ▸ List.mem_cons_of_mem token listed)

/-- Behind the token after blanks and line ends are tokens from before. -/
theorem subset_of_skipSpacing (same : skipSpacing s = token :: left) : left ⊆ s :=
  fun _ listed => skipSpacing_subset s (same ▸ List.mem_cons_of_mem token listed)

/-- Behind the parts of a key are tokens from before. -/
theorem readParts_subset {parts : List String} {rest : Rest s}
    (read : readParts s = some (parts, rest)) : rest.left ⊆ s := by
  fun_induction readParts s generalizing parts with
  | case1 => cases read
  | case2 => cases read
  | case3 token rest part start length left dotted _ parts inner later ih =>
    cases read
    have below : inner.left ⊆ rest :=
      List.Subset.trans (ih later)
        (List.Subset.trans (skipBlanks_subset left) (subset_of_skipBlanks dotted))
    exact List.subset_cons_of_subset token below
  | case4 => cases read
  | case5 token rest part =>
    cases read
    exact List.subset_cons_of_subset token (skipBlanks_subset rest)

/-- Behind a key are tokens from before. -/
theorem readKey_subset {parts : List String} {rest : Rest s}
    (read : readKey s = some (parts, rest)) : rest.left ⊆ s := by
  rw [readKey] at read
  split at read
  · cases read
  · rename_i found
    split at read
    · cases read
      exact readParts_subset found
    · cases read

/-- A value of plain words holds no quoted text, and behind it are tokens from before. -/
theorem from_of_readPlain {word : List Char} {token : Token} {tokens : List Token} {node : Node}
    {rest : Rest (token :: tokens)} (read : readPlain word tokens = some (node, rest)) :
    node.From known ∧ rest.left ⊆ token :: tokens := by
  rw [readPlain.eq_def] at read
  split at read
  · obtain ⟨value, plain, same⟩ := Option.map_eq_some_iff.1 read
    cases same
    exact ⟨from_of_plainValue? plain, List.subset_cons_of_subset _
      (List.subset_cons_of_subset _ (List.subset_cons_self _ _))⟩
  · obtain ⟨value, plain, same⟩ := Option.map_eq_some_iff.1 read
    cases same
    exact ⟨from_of_plainValue? plain, by simp [Rest.behind]⟩

mutual

/-- A value holds the quoted texts of tokens, and behind it are tokens from before. -/
theorem from_of_readValue {room : Nat} {s : List Token} {node : Node} {rest : Rest s}
    (supplies : Supplies known s) (read : readValue room s = some (node, rest)) :
    node.From known ∧ rest.left ⊆ s := by
  rw [readValue.eq_def] at read
  split at read
  · cases read
  · rename_i lexeme start length others
    have below : others ⊆ ⟨lexeme, start, length⟩ :: others := List.subset_cons_self _ _
    split at read
    · cases read
      exact ⟨Node.from_text.2 (supplies _ List.mem_cons_self _ _ rfl), below⟩
    · exact from_of_readPlain read
    · split at read
      · rename_i items inner found
        cases read
        have all := from_of_readItems (supplies.subset below) found
        exact ⟨Node.from_array.2 all.1, List.Subset.trans all.2 below⟩
      · cases read
    · split at read
      · rename_i members inner found
        obtain ⟨table, made, same⟩ := Option.map_eq_some_iff.1 read
        cases same
        have all := from_of_readMembers (supplies.subset below) found
        exact ⟨Node.from_table.2 (from_of_inlineEntries all.1 made), List.Subset.trans all.2 below⟩
      · cases read
    · cases read
termination_by 2 * s.length
decreasing_by all_goals grind

/-- The items of an array hold the quoted texts of tokens, and behind them are tokens from
before. -/
theorem from_of_readItems {room : Nat} {s : List Token} {items : List Node} {rest : Rest s}
    (supplies : Supplies known s) (read : readItems room s = some (items, rest)) :
    (∀ item ∈ items, item.From known) ∧ rest.left ⊆ s := by
  rw [readItems.eq_def] at read
  split at read
  · rename_i same
    cases read
    exact ⟨nofun, subset_of_skipSpacing same⟩
  · split at read
    · cases read
    · rename_i item after found
      have first := from_of_readValue (supplies.subset (skipSpacing_subset s)) found
      have behind : after.left ⊆ s := List.Subset.trans first.2 (skipSpacing_subset s)
      split at read
      · rename_i start length left following
        have below : left ⊆ s := List.Subset.trans (subset_of_skipSpacing following) behind
        split at read
        · rename_i others inner later
          cases read
          have all := from_of_readItems (supplies.subset below) later
          exact ⟨List.forall_mem_cons.2 ⟨first.1, all.1⟩, List.Subset.trans all.2 below⟩
        · cases read
      · rename_i left following
        cases read
        exact ⟨List.forall_mem_cons.2 ⟨first.1, nofun⟩,
          List.Subset.trans (subset_of_skipSpacing following) behind⟩
      · cases read
termination_by 2 * s.length + 1
decreasing_by all_goals grind

/-- The members of an inline table hold the quoted texts of tokens, and behind them are tokens from
before. -/
theorem from_of_readMembers {room : Nat} {s : List Token} {members : List (List String × Node)}
    {rest : Rest s} (supplies : Supplies known s)
    (read : readMembers room s = some (members, rest)) :
    (∀ member ∈ members, member.2.From known) ∧ rest.left ⊆ s := by
  rw [readMembers.eq_def] at read
  split at read
  · rename_i same
    cases read
    exact ⟨nofun, subset_of_skipSpacing same⟩
  · split at read
    · cases read
    · rename_i key afterKey keyRead
      have front : afterKey.left ⊆ s :=
        List.Subset.trans (readKey_subset keyRead) (skipSpacing_subset s)
      split at read
      · rename_i start length valueTokens equals
        have inside : valueTokens ⊆ s := List.Subset.trans (subset_of_skipSpacing equals) front
        split at read
        · cases read
        · rename_i value after found
          have beginning : skipSpacing valueTokens ⊆ s :=
            List.Subset.trans (skipSpacing_subset valueTokens) inside
          have first := from_of_readValue (supplies.subset beginning) found
          have behind : after.left ⊆ s := List.Subset.trans first.2 beginning
          split at read
          · rename_i left following
            have below : left ⊆ s := List.Subset.trans (subset_of_skipSpacing following) behind
            split at read
            · rename_i others inner later
              cases read
              have all := from_of_readMembers (supplies.subset below) later
              exact ⟨List.forall_mem_cons.2 ⟨first.1, all.1⟩, List.Subset.trans all.2 below⟩
            · cases read
          · rename_i following
            cases read
            exact ⟨List.forall_mem_cons.2 ⟨first.1, nofun⟩,
              List.Subset.trans (subset_of_skipSpacing following) behind⟩
          · cases read
      · cases read
termination_by 2 * s.length + 1
decreasing_by all_goals grind

end

/-! ## Documents -/

/-- All quoted texts in the value of a line are known. -/
def Line.From (known : Quoted → Prop) : Line → Prop
  | .member _ value => value.From known
  | .header _ => True
  | .item _ => True

/-- Behind a header are tokens from before. -/
theorem readHeader_subset {brackets : Nat} {path : List String} {rest : Rest s}
    (read : readHeader brackets s = some (path, rest)) : rest.left ⊆ s := by
  rw [readHeader.eq_def] at read
  split at read
  · cases read
  · rename_i path after found
    have front : after.left ⊆ s := List.Subset.trans (readKey_subset found) (skipBlanks_subset s)
    split at read
    · rename_i same
      cases read
      exact List.Subset.trans (subset_of_skipBlanks same) front
    · rename_i same
      cases read
      have behind := List.Subset.trans (List.subset_cons_self _ _) (subset_of_skipBlanks same)
      exact List.Subset.trans behind front
    · cases read

/-- A line holds the quoted texts of tokens, and behind it are tokens from before. -/
theorem from_of_readLine {line : Line} {rest : Rest s} (supplies : Supplies known s)
    (read : readLine s = some (line, rest)) : line.From known ∧ rest.left ⊆ s := by
  rw [readLine.eq_def] at read
  split at read
  · obtain ⟨⟨path, left⟩, found, same⟩ := Option.map_eq_some_iff.1 read
    cases same
    exact ⟨trivial, List.subset_cons_of_subset _
      (List.subset_cons_of_subset _ (readHeader_subset found))⟩
  · obtain ⟨⟨path, left⟩, found, same⟩ := Option.map_eq_some_iff.1 read
    cases same
    exact ⟨trivial, List.subset_cons_of_subset _ (readHeader_subset found)⟩
  · split at read
    · cases read
    · rename_i key after found
      split at read
      · rename_i start length behind same
        obtain ⟨⟨value, left⟩, valueRead, equal⟩ := Option.map_eq_some_iff.1 read
        cases equal
        have inside : skipBlanks behind ⊆ s :=
          List.Subset.trans (skipBlanks_subset behind)
            (List.Subset.trans (subset_of_skipBlanks same) (readKey_subset found))
        have all := from_of_readValue (supplies.subset inside) valueRead
        exact ⟨all.1, List.Subset.trans all.2 inside⟩
      · cases read

/-- The lines of a document hold the quoted texts of its tokens. -/
theorem from_of_readLines {lines : List Line} (supplies : Supplies known s)
    (read : readLines s = some lines) : ∀ line ∈ lines, line.From known := by
  fun_induction readLines s generalizing lines with
  | case1 =>
    cases read
    exact nofun
  | case2 => cases read
  | case3 tokens next others same line after found =>
    cases read
    have front : next :: others ⊆ tokens := same ▸ skipSpacing_subset tokens
    have first := from_of_readLine (supplies.subset front) found
    exact List.forall_mem_cons.2 ⟨first.1, nofun⟩
  | case4 tokens next others same line after found start length left ended ih =>
    obtain ⟨later, laterRead, rfl⟩ := Option.map_eq_some_iff.1 read
    have front : next :: others ⊆ tokens := same ▸ skipSpacing_subset tokens
    have first := from_of_readLine (supplies.subset front) found
    have behind : left ⊆ tokens :=
      List.Subset.trans (subset_of_skipBlanks ended) (List.Subset.trans first.2 front)
    exact List.forall_mem_cons.2 ⟨first.1, ih (supplies.subset behind) laterRead⟩
  | case5 => cases read

/-- A line of known texts adds no others. -/
theorem from_of_add {outline next : Outline} {line : Line} (isKnown : line.From known)
    (all : Entries.From known outline.entries) (added : outline.add line = some next) :
    Entries.From known next.entries := by
  cases line with
  | header path =>
    obtain ⟨table, changed, rfl⟩ := Option.map_eq_some_iff.1 added
    exact Entries.keeps_underHeader (fun _ => Entries.keeps_openTable) path _ _ _ all changed
  | item path =>
    obtain ⟨table, changed, rfl⟩ := Option.map_eq_some_iff.1 added
    exact Entries.keeps_underHeader (fun _ => Entries.keeps_openItem) path _ _ _ all changed
  | member key value =>
    obtain ⟨table, changed, rfl⟩ := Option.map_eq_some_iff.1 added
    exact (Entries.keeps_addKey key isKnown).changeAt _ _ _ _ _ all changed

/-- A document holds no quoted text but those of its tokens. -/
theorem from_document? {text : String} {entries : Entries} (read : document? text = some entries)
    (supplies : ∀ tokens, tokens? text = some tokens → Supplies known tokens) :
    Entries.From known entries := by
  simp only [document?, Option.bind_eq_bind, Option.bind_eq_some_iff, Option.pure_def,
    Option.some.injEq] at read
  obtain ⟨tokens, found, lines, linesRead, outline, built, rfl⟩ := read
  have each := from_of_readLines (supplies tokens found) linesRead
  exact holds_of_foldlM (fun outline : Outline => Entries.From known outline.entries)
    Entries.from_nil (fun line listed state next held => from_of_add (each line listed) held) built

end ViewGlue.Manifest
