import Mathlib.Control.Monad.Basic
import ViewGlue.Proofs.DocumentTexts
import ViewGlue.Proofs.QuotedTexts
import ViewGlue.Proofs.RoundOrder
import ViewGlue.Proofs.TypeBytes

/-!
# Where the types of a manifest stand

The fault of a type is counted from behind the opening quotes, which are found by looking at the
text where the type starts. An error of a type therefore selects the bytes of the expression that
the fault is about, wherever the type comes from, if it stands in the text at its start. The types
that a manifest states do: they are quoted texts of its document, and those are quoted tokens of its
text (`invalid_types_are_located`). The error is not that of a parameter whose name is no
identifier, since names are checked before types (`misnamed_parameter_hides_type`).
-/

namespace ViewGlue.Manifest

open TypeExpr (byteLength)

variable {known : Quoted → Prop}

/-! ## Manifests -/

/-- All quoted texts in the values of a record are known. -/
def Record.From (known : Quoted → Prop) : Record → Prop
  | .named entries => Entries.From known entries
  | .positional items => ∀ item ∈ items, item.From known

/-- A value of known texts is a record of known texts. -/
theorem Record.from_of_ofNode? {keys : List String} {node : Node} {record : Record}
    (all : node.From known) (made : Record.ofNode? keys node = some record) :
    record.From known := by
  unfold ofNode? at made
  split at made
  · split at made
    · cases made
      exact Node.from_table.1 all
    · cases made
  · cases made
    exact Node.from_array.1 all
  · cases made
    exact Node.from_tables.1 all
  · cases made

variable {α : Type} {read : Node → Option α} {holds : α → Prop}

/-- The reader gives only what holds where all texts are known. -/
def Reads (known : Quoted → Prop) (read : Node → Option α) (holds : α → Prop) : Prop :=
  ∀ node value, node.From known → read node = some value → holds value

/-- What a field is when it is left out. -/
def Absent.default? : Absent α → Option α
  | .refused => none
  | .inTables value => some value
  | .anywhere value => some value

/-- A field of a record is read off one of its values, or left out. -/
theorem Record.holds_of_field {record : Record} {place : Nat} {key : String} {absent : Absent α}
    {value : α} (all : record.From known) (reads : Reads known read holds)
    (leftOut : ∀ default, absent.default? = some default → holds default)
    (taken : record.field place key read absent = some value) : holds value := by
  cases record with
  | named entries =>
    unfold field at taken
    dsimp only at taken
    split at taken
    · rename_i found
      exact reads _ value (Entries.From.of_find? all found) taken
    · cases taken
    · cases taken
      exact leftOut _ rfl
    · cases taken
      exact leftOut _ rfl
  | positional items =>
    unfold field at taken
    dsimp only at taken
    split at taken
    · rename_i node found
      exact reads node value (all node (List.mem_of_getElem? found)) taken
    · cases taken
      exact leftOut _ rfl
    · cases taken

/-- What is read off the items of an array holds. -/
theorem holds_of_mapM {items : List Node} {values : List α}
    (all : ∀ item ∈ items, item.From known) (reads : Reads known read holds)
    (done : items.mapM read = some values) : ∀ value ∈ values, holds value := by
  induction items generalizing values with
  | nil =>
    cases done
    exact nofun
  | cons item items ih =>
    simp only [List.mapM_cons, Option.bind_eq_bind, Option.bind_eq_some_iff, Option.pure_def,
      Option.some.injEq] at done
    obtain ⟨first, one, others, rest, rfl⟩ := done
    obtain ⟨here, later⟩ := List.forall_mem_cons.1 all
    exact List.forall_mem_cons.2 ⟨reads item first here one, ih later rest⟩

/-- What is read off an array holds. -/
theorem reads_listOf (reads : Reads known read holds) :
    Reads known (listOf read) fun values => ∀ value ∈ values, holds value := by
  intro node values all done
  unfold listOf at done
  split at done
  · exact holds_of_mapM (Node.from_array.1 all) reads done
  · exact holds_of_mapM (Node.from_tables.1 all) reads done
  · cases done

/-- What is read off the items of a field holds, also if the field may be left out. -/
theorem Record.forall_mem_of_field {record : Record} {place : Nat} {key : String}
    {values : List α} (all : record.From known) (reads : Reads known read holds)
    (taken : record.field place key (listOf read) (.anywhere []) = some values) :
    ∀ value ∈ values, holds value := by
  refine holds_of_field all (reads_listOf reads) ?_ taken
  rintro _ ⟨⟩
  exact nofun

/-- A quoted text that is read is known. -/
theorem reads_quoted : Reads known quoted known := by
  intro node written all read
  unfold quoted at read
  split at read
  · cases read
    exact Node.from_text.1 all
  · cases read

/-- The type of a parameter is known. -/
theorem reads_parameterEntry : Reads known parameterEntry fun entry => known entry.type := by
  intro node entry all read
  simp only [parameterEntry, Option.bind_eq_bind, Option.bind_eq_some_iff, Option.pure_def,
    Option.some.injEq] at read
  obtain ⟨record, made, name, -, type, taken, modifiers, -, rfl⟩ := read
  exact Record.holds_of_field (Record.from_of_ofNode? all made) reads_quoted
    (by rintro _ ⟨⟩) taken

/-- The types of a declaration's parameters are known. -/
theorem reads_declarationEntry :
    Reads known declarationEntry fun entry => ∀ parameter ∈ entry.parameters,
      known parameter.type := by
  intro node entry all read
  simp only [declarationEntry, Option.bind_eq_bind, Option.bind_eq_some_iff, Option.pure_def,
    Option.some.injEq] at read
  obtain ⟨record, made, _, -, _, -, _, -, _, -, _, -, _, -, _, -, _, -, parameters, taken, rfl⟩ :=
    read
  exact Record.forall_mem_of_field (Record.from_of_ofNode? all made) reads_parameterEntry taken

/-- The types of the parameters in a source file are known. -/
theorem reads_fileEntry :
    Reads known fileEntry fun entry => ∀ declaration ∈ entry.declarations,
      ∀ parameter ∈ declaration.parameters, known parameter.type := by
  intro node entry all read
  simp only [fileEntry, Option.bind_eq_bind, Option.bind_eq_some_iff, Option.pure_def,
    Option.some.injEq] at read
  obtain ⟨record, made, _, -, _, -, declarations, taken, rfl⟩ := read
  exact Record.forall_mem_of_field (Record.from_of_ofNode? all made) reads_declarationEntry taken

/-- The parameters of a manifest as written. -/
def Layout.parameters (layout : Layout) : List ParameterEntry :=
  layout.entries.flatMap (·.2.parameters)

/-- The types in a manifest are known. -/
theorem known_type_of_layout {entries : Entries} {written : Layout}
    (all : Entries.From known entries) (read : layout entries = some written)
    {entry : ParameterEntry} (listed : entry ∈ written.parameters) : known entry.type := by
  simp only [layout, Option.bind_eq_bind, Option.bind_eq_some_iff, Option.pure_def,
    Option.some.injEq] at read
  obtain ⟨record, made, _, -, _, -, files, filesRead, loose, looseRead, rfl⟩ := read
  have whole := Record.from_of_ofNode? (Node.from_table.2 all) made
  have inFiles := Record.forall_mem_of_field whole reads_fileEntry filesRead
  have inNone := Record.forall_mem_of_field whole reads_declarationEntry looseRead
  obtain ⟨stated, declared, inside⟩ := List.mem_flatMap.1 listed
  rcases List.mem_append.1 declared with filed | unfiled
  · obtain ⟨file, isFile, among⟩ := List.mem_flatMap.1 filed
    obtain ⟨declaration, found, rfl⟩ := List.mem_map.1 among
    exact inFiles file isFile declaration found entry inside
  · obtain ⟨declaration, found, rfl⟩ := List.mem_map.1 unfiled
    exact inNone declaration found entry inside

/-! ## Spans -/

/-- The bytes of a text that a span selects. -/
def Span.bytes (text : String) (span : Span) : ByteArray :=
  text.toUTF8.extract span.offset (span.offset + span.length)

/-- What a span selects of characters that stand among others is selected by the same span behind
the bytes before them. -/
theorem Span.bytes_between {text : String} {before inside behind : List Char}
    (whole : text.toList = before ++ (inside ++ behind)) {offset length : Nat}
    (fits : offset + length ≤ byteLength inside) :
    (⟨byteLength before + offset, length⟩ : Span).bytes text =
      (⟨offset, length⟩ : Span).bytes (String.ofList inside) := by
  have size (s : List Char) : byteLength s = (String.ofList s).toByteArray.size := by
    rw [TypeExpr.byteLength_eq_utf8ByteSize, String.size_toByteArray]
  have parts : text.toByteArray = (String.ofList before).toByteArray ++
      ((String.ofList inside).toByteArray ++ (String.ofList behind).toByteArray) := by
    rw [← String.toByteArray_append, ← String.toByteArray_append, ← String.ofList_append,
      ← String.ofList_append, ← whole, String.ofList_toList]
  rw [size] at fits
  have first : offset - (String.ofList inside).toByteArray.size = 0 := by omega
  have last : offset + length - (String.ofList inside).toByteArray.size = 0 := by omega
  unfold bytes
  dsimp only
  rw [String.toUTF8_eq_toByteArray, String.toUTF8_eq_toByteArray, parts, size, Nat.add_assoc,
    ByteArray.extract_append_size_add, ByteArray.extract_append, first, last,
    ByteArray.extract_eq_empty_iff.2 (Nat.min_le_left 0 _), ByteArray.append_empty]

/-- The type of each parameter in a manifest has its place in the text. -/
theorem isReadFrom_of_mem_parameters {text : String} {written : Layout}
    (read : (document? text >>= layout) = some written) {entry : ParameterEntry}
    (listed : entry ∈ written.parameters) : entry.type.IsReadFrom text.toList := by
  obtain ⟨entries, isDocument, isManifest⟩ := Option.bind_eq_some_iff.1 read
  have known : Entries.From (Quoted.IsReadFrom text.toList) entries :=
    from_document? isDocument fun _ scanned _ among _ _ isQuoted =>
      isReadFrom_of_tokens? scanned among isQuoted
  exact known_type_of_layout known isManifest listed

/-- The fault of a text that states no type is about a part of the text. -/
theorem isPartOf_of_parse {typeParameters : List String} {text : String} {fault : TypeExpr.Fault}
    (refused : TypeExpr.parse typeParameters text = .error fault) : fault.IsPartOf text := by
  obtain ⟨type, -, read⟩ | ⟨found, -, read, part⟩ :=
    TypeExpr.parseBytes_cases typeParameters text
  · cases read.symm.trans refused
  · cases read.symm.trans refused
    exact part

/-- A type that cannot be read is what is wrong with a parameter whose name is an identifier. -/
theorem parameter_eq_invalidType {entry : ParameterEntry} (text : String)
    {typeParameters : List String} {fault : TypeExpr.Fault}
    (named : ∀ name, entry.name = some name → Text.isIdentifier name.value = true)
    (refused : TypeExpr.parse typeParameters entry.type.value = .error fault) :
    parameter text typeParameters entry = .error (.invalidType entry.type.value fault.reason
      ⟨valueStart text entry.type.start + fault.offset, fault.length⟩) := by
  have type : parameterType text typeParameters entry.type = .error (.invalidType entry.type.value
      fault.reason ⟨valueStart text entry.type.start + fault.offset, fault.length⟩) := by
    rw [parameterType, refused]
  unfold parameter
  rw [type]
  cases given : entry.name with
  | none => rfl
  | some name =>
    have isName : identifier .parameter name = .ok name.value := if_pos (named name given)
    dsimp only
    rw [isName]
    rfl

/-- If the expression of a type stands in the text between quotes as it is, the bytes of the text
that a fault of it is about are counted from behind the quotes that are found where it starts. -/
theorem Quoted.StandsIn.bytes_fault {text : String} {written : Quoted}
    {before opening behind : List Char}
    (stands : written.StandsIn text.toList before opening written.value.toList behind)
    {typeParameters : List String} {fault : TypeExpr.Fault}
    (refused : TypeExpr.parse typeParameters written.value = .error fault) :
    (⟨valueStart text written.start + fault.offset, fault.length⟩ : Span).bytes text =
        (⟨fault.offset, fault.length⟩ : Span).bytes written.value ∧
      valueStart text written.start + fault.offset + fault.length ≤
        byteLength (before ++ opening ++ written.value.toList) := by
  have size : byteLength written.value.toList = written.value.utf8ByteSize := by
    rw [TypeExpr.byteLength_eq_utf8ByteSize, String.ofList_toList]
  have fits : fault.offset + fault.length ≤ byteLength written.value.toList :=
    size ▸ (isPartOf_of_parse refused).inside
  have whole : text.toList =
      (before ++ opening) ++ (written.value.toList ++ (opening ++ behind)) := by
    simpa only [List.append_assoc] using stands.whole
  have selected := Span.bytes_between whole fits
  rw [String.ofList_toList] at selected
  rw [stands.valueStart_eq]
  refine ⟨selected, ?_⟩
  rw [byteLength_append _ written.value.toList, Nat.add_assoc]
  exact Nat.add_le_add_left fits _

/-- A parameter has an error that selects the bytes that the fault of its type is about, and these
are between the quotes of the type, if the type stands in the text with its expression as it is
between the quotes, the expression cannot be read, and the name of the parameter, if it has one, is
an identifier. Wherever a type stands, the quotes are found by looking at the text at its start. In
a manifest each parameter has a type that stands in the text, between the same quotes, one or three
of either kind, and is decoded from what is between them. -/
theorem invalid_types_are_located (text : String) :
    (∀ (entry : ParameterEntry) (before opening inside behind : List Char),
      entry.type.StandsIn text.toList before opening inside behind →
      valueStart text entry.type.start = byteLength (before ++ opening) ∧
      (inside = entry.type.value.toList →
        (∀ name, entry.name = some name → Text.isIdentifier name.value = true) →
        ∀ typeParameters fault, TypeExpr.parse typeParameters entry.type.value = .error fault →
          ∃ span,
            parameter text typeParameters entry =
              .error (.invalidType entry.type.value fault.reason span) ∧
            span = ⟨valueStart text entry.type.start + fault.offset, fault.length⟩ ∧
            span.bytes text = (⟨fault.offset, fault.length⟩ : Span).bytes entry.type.value ∧
            byteLength (before ++ opening) ≤ span.offset ∧
            span.offset + span.length ≤ byteLength (before ++ opening ++ inside))) ∧
    ∀ written, (document? text >>= layout) = some written → ∀ entry ∈ written.parameters,
      ∃ before opening inside behind,
        entry.type.StandsIn text.toList before opening inside behind ∧
        quotedValue (opening.head? == some '"') (opening.length == 3) inside =
          some entry.type.value := by
  refine ⟨fun entry before opening inside behind stands => ⟨stands.valueStart_eq, ?_⟩,
    fun _ read _ listed => isReadFrom_of_mem_parameters read listed⟩
  rintro rfl named typeParameters fault refused
  obtain ⟨selected, ends⟩ := stands.bytes_fault refused
  have starts : byteLength (before ++ opening) ≤ valueStart text entry.type.start + fault.offset :=
    stands.valueStart_eq ▸ Nat.le_add_right _ _
  exact ⟨_, parameter_eq_invalidType text named refused, rfl, selected, starts, ends⟩

/-- A manifest with one parameter is read as one that lists the parameter. -/
theorem exists_mem_parameters (text : String) (only : ParameterEntry)
    (read : (document? text >>= layout).map (fun written =>
      written.parameters.map fun entry => (entry.name, entry.type, entry.modifiers)) =
        some [(only.name, only.type, only.modifiers)]) :
    ∃ written, (document? text >>= layout) = some written ∧ only ∈ written.parameters := by
  obtain ⟨written, isManifest, parts⟩ := Option.map_eq_some_iff.1 read
  obtain ⟨⟨name, type, modifiers⟩, single, same⟩ := List.map_eq_singleton_iff.1 parts
  cases same
  exact ⟨written, isManifest, single ▸ List.mem_singleton_self _⟩

/-- A manifest with a type that cannot be read, behind a letter that takes two bytes. -/
def brokenText : String :=
  "# é\n" ++
  "[[declarations]]\n" ++
  "name = \"Broken\"\n" ++
  "[[declarations.parameters]]\n" ++
  "type = '''kotlin.é'''\n"

/-- The parameter in it. -/
def brokenParameter : ParameterEntry :=
  ⟨none, ⟨"kotlin.é", 73, 15⟩, []⟩

/-- The type of the parameter stands in the text. -/
theorem brokenParameter_standsIn :
    brokenParameter.type.StandsIn brokenText.toList (brokenText.toList.take 72) "'''".toList
      "kotlin.é".toList ['\n'] where
  whole := by decide +kernel
  opens := by decide
  longest := nofun
  start := by decide +kernel
  length := by decide

/-- The error selects the letter in the text that no name starts with, and the manifest states the
type so. -/
theorem broken_letter_is_located :
    (∃ span,
      parameter brokenText [] brokenParameter =
        .error (.invalidType "kotlin.é" .expectedIdentifier span) ∧
      span.bytes brokenText = "é".toUTF8) ∧
    ∃ written, (document? brokenText >>= layout) = some written ∧
      brokenParameter ∈ written.parameters ∧
      ∃ before opening inside behind,
        brokenParameter.type.StandsIn brokenText.toList before opening inside behind ∧
        quotedValue (opening.head? == some '"') (opening.length == 3) inside =
          some "kotlin.é" := by
  obtain ⟨written, read, listed⟩ :=
    exists_mem_parameters brokenText brokenParameter (by decide +kernel)
  have refused : TypeExpr.parse [] "kotlin.é" = .error ⟨.expectedIdentifier, 7, 2⟩ := by
    decide +kernel
  obtain ⟨located, stated⟩ := invalid_types_are_located brokenText
  obtain ⟨-, reported⟩ := located brokenParameter _ _ _ _ brokenParameter_standsIn
  obtain ⟨span, error, -, selected, -⟩ := reported rfl nofun [] _ refused
  refine ⟨⟨span, error, selected.trans ?_⟩, written, read, listed, stated written read _ listed⟩
  decide +kernel

/-- A manifest with a parameter that has neither a name nor a type that can be read. -/
def misnamedText : String :=
  "[[declarations]]\n" ++
  "name = \"Broken\"\n" ++
  "[[declarations.parameters]]\n" ++
  "name = \"a b\"\n" ++
  "type = \"(\"\n"

/-- The parameter in it. -/
def misnamedParameter : ParameterEntry :=
  ⟨some ⟨"a b", 68, 5⟩, ⟨"(", 81, 3⟩, []⟩

/-- The type of a parameter is not reported if its name is no identifier, which is seen before. -/
theorem misnamed_parameter_hides_type :
    (∃ written, (document? misnamedText >>= layout) = some written ∧
      misnamedParameter ∈ written.parameters) ∧
    (∃ before opening behind, misnamedParameter.type.StandsIn misnamedText.toList before opening
      misnamedParameter.type.value.toList behind) ∧
    (∃ fault, TypeExpr.parse [] misnamedParameter.type.value = .error fault) ∧
    ∀ expression reason span,
      parameter misnamedText [] misnamedParameter ≠
        .error (.invalidType expression reason span) := by
  have stands : misnamedParameter.type.StandsIn misnamedText.toList (misnamedText.toList.take 81)
      ['"'] ['('] ['\n'] :=
    ⟨by decide +kernel, by decide, by decide, by decide +kernel, by decide⟩
  have refused : TypeExpr.parse [] "(" = .error ⟨.expectedType, 1, 0⟩ := by
    decide +kernel
  have hidden : parameter misnamedText [] misnamedParameter =
      .error (.invalid (.invalidName .parameter "a b") ⟨68, 5⟩) := by
    rfl
  refine ⟨exists_mem_parameters misnamedText misnamedParameter (by decide +kernel),
    ⟨_, _, _, stands⟩, ⟨_, refused⟩, fun expression reason span => ?_⟩
  rw [hidden]
  exact nofun

end ViewGlue.Manifest
