import ViewGlue.Proofs.ManifestNames
import ViewGlue.Proofs.OutputPlaces
import ViewGlue.Proofs.RunReports

/-!
# Generating again

A real run that succeeds leaves every previewed file with its content and all other files as they
were, and reports each file as written or unchanged. What it left behind is what it would write, so
the same run finds nothing to do (`generate_settles`).
-/

namespace ViewGlue

open Output Text

/-! ## Writing entries -/

namespace Output

/-- The place of an entry below a directory. -/
def Entry.place (entry : Entry) (base : String) : Place :=
  .ofPath (entry.fullPath base)

/-- A record takes in each path that was not refused. -/
theorem Written.add?_eq_some {record next : Written} {path : String} {outcome : WriteOutcome}
    (added : record.add? path outcome = some next) :
    outcome ≠ .refused ∧
      (next.written ++ next.unchanged).Perm (record.written ++ record.unchanged ++ [path]) := by
  cases outcome with
  | written =>
    cases added
    refine ⟨by decide, ?_⟩
    rw [List.append_assoc, List.append_assoc]
    exact List.perm_append_comm.append_left _
  | unchanged =>
    cases added
    refine ⟨by decide, ?_⟩
    rw [List.append_assoc]
  | refused => cases added

namespace FileTree

variable {tree after : FileTree} {base : String} {record result : Written}

/-- Entries are written one after another. -/
theorem exists_of_writeEntries_cons {entry : Entry} {rest : List Entry}
    (done : tree.writeEntries base record (entry :: rest) = (some result, after)) :
    ∃ outcome middle next, tree.writeEntry base entry = (outcome, middle) ∧
      record.add? entry.path outcome = some next ∧
        middle.writeEntries base next rest = (some result, after) := by
  rw [writeEntries_cons] at done
  cases added : record.add? entry.path (tree.writeEntry base entry).1 with
  | none => simp [added] at done
  | some next =>
    rw [added] at done
    exact ⟨_, _, next, rfl, added, done⟩

/-- Writing entries changes no other files, and the record takes in every path. -/
theorem writeEntries_spec {entries : List Entry}
    (done : tree.writeEntries base record entries = (some result, after)) :
    KeepsOutside (entries.map (·.place base)) tree after ∧
      (result.written ++ result.unchanged).Perm
        (record.written ++ record.unchanged ++ entries.map (·.path)) := by
  induction entries generalizing tree record with
  | nil =>
    obtain ⟨same, rfl⟩ := Prod.mk.inj done
    cases same
    exact ⟨.refl tree, by simp⟩
  | cons entry rest ih =>
    obtain ⟨outcome, middle, next, one, added, others⟩ := exists_of_writeEntries_cons done
    obtain ⟨accepted, covered⟩ := Written.add?_eq_some added
    obtain ⟨keeps, all⟩ := ih others
    refine ⟨(write_spec one accepted).1.trans keeps, all.trans ?_⟩
    rw [List.map_cons, ← List.singleton_append, ← List.append_assoc]
    exact covered.append_right _

/-- Entries at different places all have their content once they are written. -/
theorem read?_of_writeEntries {entries : List Entry}
    (done : tree.writeEntries base record entries = (some result, after))
    (apart : (entries.map (·.place base)).Nodup) :
    ∀ entry ∈ entries, after.read? (entry.fullPath base) = some entry.content := by
  induction entries generalizing tree record with
  | nil => simp
  | cons first rest ih =>
    obtain ⟨outcome, middle, next, one, added, others⟩ := exists_of_writeEntries_cons done
    obtain ⟨fresh, apart⟩ := List.nodup_cons.1 apart
    intro entry inside
    rcases List.mem_cons.1 inside with rfl | later
    · have present := (write_spec one (Written.add?_eq_some added).1).2
      exact (writeEntries_spec others).1.read? fresh present
    · exact ih others apart entry later

/-- Entries that have their content are left alone. -/
theorem writeEntries_of_read? {entries : List Entry}
    (present : ∀ entry ∈ entries, tree.read? (entry.fullPath base) = some entry.content)
    (record : Written) :
    tree.writeEntries base record entries =
      (some { record with unchanged := record.unchanged ++ entries.map (·.path) }, tree) := by
  induction entries generalizing record with
  | nil => simp [writeEntries_nil]
  | cons entry rest ih =>
    have one : tree.writeEntry base entry = (.unchanged, tree) :=
      write_of_read? (present entry List.mem_cons_self)
    have others := ih fun other inside => present other (List.mem_cons_of_mem entry inside)
    simp [writeEntries_cons, one, Written.add?, others]

end FileTree

end Output

/-! ## Writing sources -/

namespace Run

/-- The files of sources, each below its directory. -/
def filesOf (outputs : List (Sources × String)) : List PreviewFile :=
  outputs.flatMap fun output => previewSources output.1 output.2

/-- The place of a file. -/
def PreviewFile.place (file : PreviewFile) : Place := .ofPath file.path

/-- A record says for each file of sources whether it was written or unchanged. -/
structure Covers (output : Sources × String) (written : WrittenSources) : Prop where
  /-- The record is about the language of the sources. -/
  language : written.language = output.1.language
  /-- The record is about the directory where they go. -/
  directory : written.directory = output.2
  /-- Each file of the sources is on record once, as written or as unchanged. -/
  files :
    ((written.record.written ++ written.record.unchanged).map (joinPath output.2)).Perm
      ((previewSources output.1 output.2).map (·.path))

/-- The record of sources of which nothing was written. -/
def untouched (output : Sources × String) : WrittenSources where
  language := output.1.language
  directory := output.2
  record := { unchanged := output.1.registry.entries.map (·.path) }

variable {tree after : FileTree}

/-- The places of previewed files are those of their entries. -/
theorem map_place_previewSources (sources : Sources) (directory : String) :
    (previewSources sources directory).map (·.place) =
      sources.registry.entries.map (·.place directory) := by
  rw [previewSources, List.map_map]
  rfl

/-- Sources are written one after another. -/
theorem exists_of_writeOutputs_cons {output : Sources × String} {rest : List (Sources × String)}
    {written : List WrittenSources}
    (done : writeOutputs tree (output :: rest) = (.ok written, after)) :
    ∃ record middle others, tree.writeRegistry output.2 output.1.registry = (some record, middle) ∧
      writeOutputs middle rest = (.ok others, after) ∧
        written = ⟨output.1.language, output.2, record⟩ :: others := by
  simp only [writeOutputs] at done
  split at done
  · cases done
  · rename_i record middle one
    split at done
    · cases done
    · rename_i others last more
      cases done
      exact ⟨record, middle, others, one, more, rfl⟩

/-- Writing sources changes no other files, and the records cover all sources. -/
theorem writeOutputs_spec {outputs : List (Sources × String)} {written : List WrittenSources}
    (done : writeOutputs tree outputs = (.ok written, after)) :
    FileTree.KeepsOutside ((filesOf outputs).map (·.place)) tree after ∧
      List.Forall₂ Covers outputs written := by
  induction outputs generalizing tree written with
  | nil =>
    cases done
    exact ⟨.refl _, .nil⟩
  | cons output rest ih =>
    obtain ⟨record, middle, others, one, more, rfl⟩ := exists_of_writeOutputs_cons done
    obtain ⟨first, covered⟩ := FileTree.writeEntries_spec one
    obtain ⟨keeps, all⟩ := ih more
    refine ⟨?_, .cons ⟨rfl, rfl, ?_⟩ all⟩
    · rw [filesOf, List.flatMap_cons, List.map_append, map_place_previewSources]
      exact first.trans keeps
    · rw [previewSources, List.map_map]
      refine (covered.map _).trans ?_
      simp [Entry.fullPath, Function.comp_def]

/-- Files at different places all have their content once the sources are written. -/
theorem read?_of_writeOutputs {outputs : List (Sources × String)} {written : List WrittenSources}
    (done : writeOutputs tree outputs = (.ok written, after))
    (apart : ((filesOf outputs).map (·.place)).Nodup) :
    ∀ file ∈ filesOf outputs, after.read? file.path = some file.content := by
  induction outputs generalizing tree written with
  | nil => simp [filesOf]
  | cons output rest ih =>
    obtain ⟨record, middle, others, one, more, rfl⟩ := exists_of_writeOutputs_cons done
    rw [filesOf, List.flatMap_cons, List.map_append, List.nodup_append] at apart
    obtain ⟨first, behind, disjoint⟩ := apart
    intro file inside
    rcases List.mem_append.1 inside with here | later
    · have outside : file.place ∉ (filesOf rest).map (·.place) := fun found =>
        disjoint _ (List.mem_map_of_mem here) _ found rfl
      obtain ⟨entry, listed, rfl⟩ := List.mem_map.1 here
      rw [map_place_previewSources] at first
      have present := FileTree.read?_of_writeEntries one first entry listed
      exact (writeOutputs_spec more).1.read? outside present
    · exact ih more behind file later

/-- Sources whose files have their content are left alone. -/
theorem writeOutputs_of_read? {outputs : List (Sources × String)}
    (present : ∀ file ∈ filesOf outputs, tree.read? file.path = some file.content) :
    writeOutputs tree outputs = (.ok (outputs.map untouched), tree) := by
  induction outputs with
  | nil => rfl
  | cons output rest ih =>
    have here : ∀ entry ∈ output.1.registry.entries,
        tree.read? (entry.fullPath output.2) = some entry.content := fun entry inside =>
      present ⟨entry.fullPath output.2, entry.content⟩
        (List.mem_append_left _ (List.mem_map.2 ⟨entry, inside, rfl⟩))
    have others := ih fun file inside => present file (List.mem_append_right _ inside)
    have one := FileTree.writeEntries_of_read? here {}
    simp [writeOutputs, FileTree.writeRegistry, one, others, untouched]

/-! ## Runs -/

variable {project : Project}

/-- Entries of one registry stand at different places if their paths lead down. -/
theorem nodup_places {entries : List Entry}
    (down : ∀ entry ∈ entries, LeadsDown entry.path) (base : String) :
    ((Registry.ofList entries).entries.map (·.place base)).Nodup := by
  have paths : (Registry.ofList entries).entries.Pairwise fun other entry =>
      other.path ≠ entry.path :=
    List.pairwise_map.1 (Registry.nodup_paths_entries entries)
  refine List.pairwise_map.2 (paths.imp_of_mem fun inside listed differ same => differ ?_)
  have otherDown := down _ (Registry.mem_of_mem_entries inside)
  exact otherDown.ofPath_joinPath_inj (down _ (Registry.mem_of_mem_entries listed)) same

/-- All files of a named project stand at different places. -/
theorem files_apart (named : project.IsNamed) (destination : Destination) :
    ((filesOf (outputs project destination)).map (·.place)).Nodup := by
  have host : ∀ entry ∈ (Host.generated project).map (·.entry),
      LeadsDown entry.path ∧ EndsIn ".kt" entry.path := by
    intro entry inside
    obtain ⟨part, found, rfl⟩ := List.mem_map.1 inside
    exact Host.leadsDown_of_mem_generated named found
  have native : ∀ entry ∈ (Foreign.generated destination.framework.toList project).map (·.entry),
      LeadsDown entry.path ∧ EndsIn ".swift" entry.path := by
    intro entry inside
    obtain ⟨part, found, rfl⟩ := List.mem_map.1 inside
    exact Foreign.leadsDown_of_mem_generated named.toHasNamedViews found
  have hosts := nodup_places (fun entry inside => (host entry inside).1) destination.host
  have all := areOutputs project destination
  generalize outputs project destination = listed at all ⊢
  cases all with
  | host =>
    rw [filesOf, List.flatMap_singleton, map_place_previewSources]
    exact hosts
  | both _ given =>
    rename_i directory
    have natives := nodup_places (fun entry inside => (native entry inside).1) directory
    rw [filesOf, List.flatMap_cons, List.flatMap_singleton, List.map_append,
      map_place_previewSources, map_place_previewSources]
    refine List.nodup_append.2 ⟨hosts, natives, fun place isHost other isNative => ?_⟩
    obtain ⟨entry, listed, rfl⟩ := List.mem_map.1 isHost
    obtain ⟨later, inside, rfl⟩ := List.mem_map.1 isNative
    obtain ⟨down, ending⟩ := host entry (Registry.mem_of_mem_entries listed)
    obtain ⟨otherDown, otherEnding⟩ := native later (Registry.mem_of_mem_entries inside)
    exact ofPath_ne_of_endsIn down otherDown ending otherEnding destination.host directory

/-- What a real run of a project leaves behind, compared with what a dry run shows: every file has
its content, every other place keeps its own, each file is reported as written or unchanged, and
the same run finds nothing to write. -/
structure Settles (project : Project) (destination : Destination) (files : List PreviewFile)
    (sources : List WrittenSources) (before after : FileTree) : Prop where
  /-- Every shown file has the shown content. -/
  present : ∀ file ∈ files, after.read? file.path = some file.content
  /-- No other file is changed. -/
  kept : ∀ place, (∀ file ∈ files, Place.ofPath file.path ≠ place) →
    after.fileAt? place = before.fileAt? place
  /-- The sources of each language have their record. -/
  covered : List.Forall₂ Covers (outputs project destination) sources
  /-- The same run changes nothing any more and reports every file as unchanged. -/
  again : generate after project destination =
    (.ok (generateReport project destination
      (.written ((outputs project destination).map untouched))), after)

/-- A run that succeeds settles a named project. -/
theorem settles_of_generate (named : project.IsNamed) {destination : Destination}
    {before after : FileTree} {report : GenerateReport}
    (ran : generate before project destination = (.ok report, after)) :
    ∃ sources, report = generateReport project destination (.written sources) ∧
      Settles project destination (filesOf (outputs project destination)) sources before after := by
  rw [generate] at ran
  split at ran
  · cases ran
  · rename_i sources later done
    cases ran
    obtain ⟨keeps, covered⟩ := writeOutputs_spec done
    have present := read?_of_writeOutputs done (files_apart named destination)
    refine ⟨sources, rfl, present, fun place outside => keeps.files place fun inside => ?_,
      covered, ?_⟩
    · obtain ⟨file, found, same⟩ := List.mem_map.1 inside
      exact outside file found same
    · rw [generate, writeOutputs_of_read? present]

/-- A run that succeeds for a manifest whose runtime package consists of identifiers leaves behind
what a dry run shows and nothing else, and running again changes nothing. All of them report the
same, and so does a check if a directory is given for the native sources that the target needs. -/
theorem generate_settles {text : String} {manifest : Manifest}
    (parsed : Manifest.parse text = .ok manifest) {options : Options}
    (runtime : isDotted options.runtime = true) {target : BuildTarget} {project : Project}
    (made : project = Discovery.project options (manifest.rounds.map (·.2)) target)
    {destination : Destination} {before after : FileTree} {report : GenerateReport}
    (ran : generate before project destination = (.ok report, after)) :
    ∃ files sources,
      ((preview project destination).outcome = .preview files ∧
        report.outcome = .written sources ∧
          Settles project destination files sources before after) ∧
      report.diagnostics = (preview project destination).diagnostics ∧
      ((project.target = .primary → destination.foreign.isSome = true) →
        ∀ config, report.diagnostics = (check project config).diagnostics) := by
  have named : project.IsNamed := made ▸ Discovery.isNamed_project parsed runtime target
  obtain ⟨sources, rfl, settles⟩ := settles_of_generate named ran
  exact ⟨_, sources, ⟨rfl, rfl, settles⟩, rfl, allDiagnostics_eq_check⟩

/-- A manifest with one view. -/
def mapText : String :=
  "[[files]]\n" ++
  "path = \"Maps.kt\"\n" ++
  "package = \"app\"\n" ++
  "[[files.declarations]]\n" ++
  "name = \"ShowMap\"\n" ++
  "visibility = \"public\"\n" ++
  "parameters = [\x7b type = \"kotlin.Int\", name = \"zoom\" \x7d]\n"

/-- What the text says. -/
def mapManifest : Manifest where
  platforms := []
  options := []
  discovered :=
    [(1,
      { name := "ShowMap"
        file := some ⟨"Maps.kt", "app"⟩
        parameters := [⟨some "zoom", .named ⟨"kotlin", "Int"⟩ [] false, []⟩] })]

/-- The text is read as this manifest. -/
theorem parse_mapText : Manifest.parse mapText = .ok mapManifest := by
  have read : (Manifest.parse mapText).toOption.map
      (fun manifest => (manifest.platforms, manifest.options, manifest.discovered)) =
        some (mapManifest.platforms, mapManifest.options, mapManifest.discovered) := by
    decide +kernel
  cases outcome : Manifest.parse mapText with
  | error _ =>
    rw [outcome] at read
    cases read
  | ok manifest =>
    rw [outcome] at read
    simp only [Except.toOption, Option.map_some, Option.some.injEq, Prod.mk.injEq] at read
    obtain ⟨platforms, options, discovered⟩ := read
    cases manifest
    subst platforms options discovered
    rfl

/-- The project of the manifest for the primary target. -/
def mapProject : Project :=
  Discovery.project {} (mapManifest.rounds.map (·.2)) .primary

/-- A directory in which an earlier run left a file that is no longer up to date, and which holds a
file of its own. -/
def usedTree : FileTree :=
  let out := Place.start.inside "out"
  ⟨[(out, .folder), (out.inside "NativeViewFactory.swift", .file "stale"),
    (out.inside "notes.txt", .file "notes")]⟩

/-- Sources of both languages in one directory that was used before are settled. -/
theorem generate_settles_usedTree :
    ∃ report after, generate usedTree mapProject ⟨"out", some "out", none⟩ = (.ok report, after) ∧
      ∃ files sources,
        files.map (·.path) =
          ["out/dev/viewbridge/ComposeNativeViewFactory.primary.kt",
            "out/dev/viewbridge/delegate/ShowMapDelegate.kt", "out/app/Maps.primary.kt",
            "out/NativeViewFactory.swift", "out/ForeignNativeViewFactory.swift",
            "out/ShowMapObservable.swift"] ∧
        report.outcome = .written sources ∧
        Settles mapProject ⟨"out", some "out", none⟩ files sources usedTree after ∧
        report.diagnostics = (check mapProject "bridge.toml").diagnostics := by
  have succeeds : (generate usedTree mapProject ⟨"out", some "out", none⟩).1.toOption.isSome =
      true := by decide +kernel
  have runtime : isDotted (Options.runtime {}) = true := by decide +kernel
  have made : mapProject = Discovery.project {} (mapManifest.rounds.map (·.2)) .primary := rfl
  cases ran : generate usedTree mapProject ⟨"out", some "out", none⟩ with
  | mk result after =>
    cases result with
    | error _ =>
      rw [ran] at succeeds
      cases succeeds
    | ok report =>
      obtain ⟨files, sources, ⟨previewed, written, settles⟩, -, checked⟩ :=
        generate_settles parse_mapText runtime made ran
      obtain rfl := Outcome.preview.inj previewed
      exact ⟨report, after, rfl, _, sources, by decide +kernel, written, settles,
        checked (fun _ => rfl) "bridge.toml"⟩

end Run

end ViewGlue
