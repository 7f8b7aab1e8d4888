import RecipeMatrix.Manifest.Decode
import RecipeMatrix.Manifest.Encode
import RecipeMatrix.Proofs.Manifest.Shape
import RecipeMatrix.Proofs.Toml.Assembly
import RecipeMatrix.Proofs.Toml.Layout

/-!
# Manifests are read back as they were written

Every manifest whose output directory is a text has a document, and the document is read as that
manifest, apart from the directory it was found in.

The way there and back has three stages, and each has its counterpart here.

* The lines of the manifest have unquoted keys, so `read?_renderAll` turns the text back into their
  statements (`exists_lines`).
* The statements are assembled to one table.  Empty lists are assigned before the first header,
  where no table is open; further down they would become entries of the generator settings
  (`assemble_statements`).
* The table has an entry for each list, empty or not, and each entry decodes to the part of the
  manifest that it was written for (`ofTable_table`).

An introduction in front of the lines is skipped, so the document of a new manifest is read as the
built-in one (`parse_of_initialDocument`).
-/

namespace RecipeMatrix.Manifest

open Toml

/-! ## Decoding single tables -/

/-- The table of a platform. -/
def platformTable (entry : PlatformEntry) : Table :=
  [("name", .text entry.name), ("image", .text entry.image),
    ("install-command", .text entry.install),
    ("dev-deps", .array (entry.dev.map .text)), ("runtime-deps", .array (entry.runtime.map .text))]

/-- The table of a compiler. -/
def compilerTable (entry : CompilerEntry) : Table :=
  [("name", .text entry.name), ("package", .text entry.package)]

/-- The table of the generator settings, whose output directory is a text. -/
def settingsTable (settings : GeneratorSettings) : Table :=
  match settings.outputDirectory with
  | some (.text path) => [("output-dir", .text path.text)]
  | _ => []

theorem list_map {α : Type} {item : Value → Decoded α} {write : α → Value}
    (hitem : ∀ entry, item (write entry) = .ok entry) (entries : List α) :
    list item (.array (entries.map write)) = .ok entries := by
  rw [list, mapM_eq_ok_iff, List.map_map]
  exact List.map_congr_left fun entry _ => hitem entry

theorem platform_table (entry : PlatformEntry) :
    platform (.table (platformTable entry)) = .ok entry := by
  have hcheck : checkEntries checkPlatformEntry (platformTable entry) = .ok () := by
    refine (checkEntries_eq_ok_iff Iff.rfl).2 ?_
    simp [platformTable, checkPlatformEntry, texts_map, text]
  rw [platform, record, platformOfTable, hcheck]
  simp [platformTable, required, optional, Table.get?, List.lookup_cons, texts_map, text, bind,
    Except.bind]

theorem compiler_table (entry : CompilerEntry) :
    compiler (.table (compilerTable entry)) = .ok entry := by
  have hcheck : checkEntries checkCompilerEntry (compilerTable entry) = .ok () := by
    refine (checkEntries_eq_ok_iff Iff.rfl).2 ?_
    simp [compilerTable, checkCompilerEntry, text]
  rw [compiler, record, compilerOfTable, hcheck]
  simp [compilerTable, required, Table.get?, List.lookup_cons, text, bind, Except.bind]

theorem settings_table {generator : GeneratorSettings}
    (htext : ∀ name, generator.outputDirectory = some name → ∃ path, name = .text path) :
    settings (.table (settingsTable generator)) = .ok generator := by
  obtain ⟨directory⟩ := generator
  cases directory with
  | none =>
    have hcheck : checkEntries checkGeneratorEntry [] = .ok () := by
      refine (checkEntries_eq_ok_iff Iff.rfl).2 ?_
      simp
    rw [settings, record, settingsTable, settingsOfTable, hcheck]
    rfl
  | some name =>
    obtain ⟨path, hname⟩ := htext name rfl
    subst hname
    have hcheck : checkEntries checkGeneratorEntry [("output-dir", .text path.text)] = .ok () := by
      refine (checkEntries_eq_ok_iff Iff.rfl).2 ?_
      simp [checkGeneratorEntry, Manifest.path]
    rw [settings, record, settingsTable, settingsOfTable, hcheck]
    simp [optional, Table.get?, Manifest.path, bind, Except.bind]

/-! ## The statements of a manifest -/

/-- The entry for a list without entries. -/
def emptyTable (key : String) (isEmpty : Bool) : Table :=
  if isEmpty then [(key, .array [])] else []

/-- The entries that stand before the first header. -/
def rootTable (manifest : Manifest) : Table :=
  emptyTable "platforms" manifest.platforms.isEmpty ++
    emptyTable "compilers" manifest.compilers.isEmpty

/-- The statements of the generator settings. -/
def generatorStatements (generator : Option GeneratorSettings) : List Statement :=
  match generator with
  | none => []
  | some settings => headed "generator" (settingsTable settings)

/-- The statements of a manifest. -/
def statements (manifest : Manifest) : List Statement :=
  assignments manifest.rootTable ++ generatorStatements manifest.generator ++
  elements "platforms" (manifest.platforms.map platformTable) ++
  elements "compilers" (manifest.compilers.map compilerTable)

theorem map_statement_emptyLine (key : String) (isEmpty : Bool) :
    (emptyLine key isEmpty).map Line.statement = assignments (emptyTable key isEmpty) := by
  cases isEmpty <;> rfl

theorem map_statement_platformLines (platforms : List PlatformEntry) :
    (platforms.flatMap platformLines).map Line.statement =
      elements "platforms" (platforms.map platformTable) := by
  rw [List.map_flatMap, elements, List.flatMap_map]
  rfl

theorem map_statement_compilerLines (compilers : List CompilerEntry) :
    (compilers.flatMap compilerLines).map Line.statement =
      elements "compilers" (compilers.map compilerTable) := by
  rw [List.map_flatMap, elements, List.flatMap_map]
  rfl

theorem exists_generatorLines {generator : GeneratorSettings}
    (htext : ∀ name, generator.outputDirectory = some name → ∃ path, name = .text path) :
    ∃ lines, generatorLines generator = .ok lines ∧
      (∀ key ∈ lines.map Line.key, isBare key = true) ∧
      lines.map Line.statement = generatorStatements (some generator) := by
  obtain ⟨directory⟩ := generator
  cases directory with
  | none => exact ⟨_, rfl, by decide, rfl⟩
  | some name =>
    obtain ⟨path, hname⟩ := htext name rfl
    subst hname
    refine ⟨_, rfl, ?_, rfl⟩
    show ∀ key ∈ ["generator", "output-dir"], isBare key = true
    decide

theorem isBare_platformLines (entry : PlatformEntry) :
    ∀ key ∈ (platformLines entry).map Line.key, isBare key = true := by
  show ∀ key ∈ ["platforms", "name", "image", "install-command", "dev-deps", "runtime-deps"],
    isBare key = true
  decide

theorem isBare_compilerLines (entry : CompilerEntry) :
    ∀ key ∈ (compilerLines entry).map Line.key, isBare key = true := by
  show ∀ key ∈ ["compilers", "name", "package"], isBare key = true
  decide

theorem isBare_emptyLine {key : String} (hkey : isBare key = true) (isEmpty : Bool) :
    ∀ other ∈ (emptyLine key isEmpty).map Line.key, isBare other = true := by
  cases isEmpty <;> simp [emptyLine, Line.key, hkey]

/-- A manifest whose output directory is a text can be written, with unquoted keys only. -/
theorem exists_lines {manifest : Manifest}
    (htext : ∀ name, manifest.outputDirectory? = some name → ∃ path, name = .text path) :
    ∃ lines, manifest.lines = .ok lines ∧ (∀ key ∈ lines.map Line.key, isBare key = true) ∧
      lines.map Line.statement = manifest.statements := by
  obtain ⟨generator, platforms, compilers, directory⟩ := manifest
  obtain ⟨settings, hsettings, hbare, hstatements⟩ : ∃ settings,
      lines ⟨generator, platforms, compilers, directory⟩ =
        .ok (emptyLine "platforms" platforms.isEmpty ++ emptyLine "compilers" compilers.isEmpty ++
          settings ++ platforms.flatMap platformLines ++ compilers.flatMap compilerLines) ∧
      (∀ key ∈ settings.map Line.key, isBare key = true) ∧
      settings.map Line.statement = generatorStatements generator := by
    cases generator with
    | none => exact ⟨[], rfl, by simp, rfl⟩
    | some generator =>
      obtain ⟨settings, hlines, hbare, hstatements⟩ := exists_generatorLines htext
      refine ⟨settings, ?_, hbare, hstatements⟩
      simp only [lines, hlines]
      rfl
  refine ⟨_, hsettings, ?_, ?_⟩
  · simp only [List.map_append, List.forall_mem_append, List.map_flatMap]
    refine ⟨⟨⟨⟨?_, ?_⟩, hbare⟩, ?_⟩, ?_⟩
    · exact isBare_emptyLine (by decide) _
    · exact isBare_emptyLine (by decide) _
    · intro key hkey
      obtain ⟨entry, _, hentry⟩ := List.mem_flatMap.mp hkey
      exact isBare_platformLines entry key hentry
    · intro key hkey
      obtain ⟨entry, _, hentry⟩ := List.mem_flatMap.mp hkey
      exact isBare_compilerLines entry key hentry
  · simp only [List.map_append, map_statement_emptyLine, map_statement_platformLines,
      map_statement_compilerLines, hstatements, statements, rootTable, assignments]

/-! ## The table of a manifest -/

/-- The drafts of the generator settings. -/
def generatorDrafts (generator : Option GeneratorSettings) : Drafts :=
  match generator with
  | none => []
  | some settings => [("generator", .table .headed (Drafts.closed (settingsTable settings)))]

/-- The drafts of a manifest. -/
def drafts (manifest : Manifest) : Drafts :=
  Drafts.closed manifest.rootTable ++ generatorDrafts manifest.generator ++
  listEntry "platforms" (manifest.platforms.map platformTable) ++
  listEntry "compilers" (manifest.compilers.map compilerTable)

theorem nodup_rootTable (manifest : Manifest) : (manifest.rootTable.map Prod.fst).Nodup := by
  unfold rootTable emptyTable
  cases manifest.platforms.isEmpty <;> cases manifest.compilers.isEmpty <;> decide

theorem foldlM_generatorStatements {entries : Drafts} (hentries : entries.lookup "generator" = none)
    (path : Key) (generator : Option GeneratorSettings) :
    ∃ last, (generatorStatements generator).foldlM Progress.add ⟨entries, path⟩ =
      some ⟨entries ++ generatorDrafts generator, last⟩ := by
  cases generator with
  | none => exact ⟨path, by simp [generatorStatements, generatorDrafts]⟩
  | some settings =>
    have hkeys : ((settingsTable settings).map Prod.fst).Nodup := by
      unfold settingsTable
      split <;> simp
    exact ⟨_, foldlM_headed hentries path hkeys⟩

theorem lookup_platforms {manifest : Manifest} (hsome : manifest.platforms ≠ []) :
    (Drafts.closed manifest.rootTable ++ generatorDrafts manifest.generator).lookup "platforms" =
      none := by
  obtain ⟨generator, platforms, compilers, directory⟩ := manifest
  cases platforms with
  | nil => exact absurd rfl hsome
  | cons entry platforms => cases compilers <;> cases generator <;> rfl

theorem lookup_compilers {manifest : Manifest} (hsome : manifest.compilers ≠ []) :
    (Drafts.closed manifest.rootTable ++ generatorDrafts manifest.generator ++
      listEntry "platforms" (manifest.platforms.map platformTable)).lookup "compilers" = none := by
  obtain ⟨generator, platforms, compilers, directory⟩ := manifest
  cases compilers with
  | nil => exact absurd rfl hsome
  | cons entry compilers => cases platforms <;> cases generator <;> rfl

theorem assemble_statements (manifest : Manifest) :
    assemble manifest.statements = some (Drafts.table manifest.drafts) := by
  have hroot := foldlM_assignments Drafts.focused_nil (nodup_rootTable manifest) [] (fun _ _ => rfl)
  have hgenerator : (Drafts.closed manifest.rootTable).lookup "generator" = none := by
    unfold rootTable emptyTable
    cases manifest.platforms.isEmpty <;> cases manifest.compilers.isEmpty <;> rfl
  obtain ⟨afterGenerator, hsettings⟩ :=
    foldlM_generatorStatements hgenerator [] manifest.generator
  have hplatformKeys : ∀ table ∈ manifest.platforms.map platformTable,
      (table.map Prod.fst).Nodup := by
    intro table htable
    obtain ⟨entry, _, hentry⟩ := List.mem_map.mp htable
    subst hentry
    show ["name", "image", "install-command", "dev-deps", "runtime-deps"].Nodup
    decide
  have hcompilerKeys : ∀ table ∈ manifest.compilers.map compilerTable,
      (table.map Prod.fst).Nodup := by
    intro table htable
    obtain ⟨entry, _, hentry⟩ := List.mem_map.mp htable
    subst hentry
    show ["name", "package"].Nodup
    decide
  obtain ⟨afterPlatforms, hplatforms⟩ := exists_foldlM_elements
    (fun hsome => lookup_platforms (fun hnone => hsome (by rw [hnone]; rfl))) afterGenerator
    hplatformKeys
  obtain ⟨afterCompilers, hcompilers⟩ := exists_foldlM_elements
    (fun hsome => lookup_compilers (fun hnone => hsome (by rw [hnone]; rfl))) afterPlatforms
    hcompilerKeys
  simp only [id_eq, List.nil_append] at hroot
  simp only [assemble, statements, List.foldlM_append, hroot, hsettings, hplatforms, hcompilers,
    Option.bind_eq_bind, Option.bind_some]
  rfl

/-- The value of the generator settings. -/
def generatorTable (generator : Option GeneratorSettings) : Table :=
  match generator with
  | none => []
  | some settings => [("generator", .table (settingsTable settings))]

/-- The table that a manifest is written as. -/
def table (manifest : Manifest) : Table :=
  manifest.rootTable ++ generatorTable manifest.generator ++
  listTable "platforms" (manifest.platforms.map platformTable) ++
  listTable "compilers" (manifest.compilers.map compilerTable)

theorem table_drafts (manifest : Manifest) : Drafts.table manifest.drafts = manifest.table := by
  have hgenerator : Drafts.table (generatorDrafts manifest.generator) =
      generatorTable manifest.generator := by
    cases manifest.generator with
    | none => simp [generatorDrafts, generatorTable, Drafts.table, entryValues]
    | some settings =>
      simp [generatorDrafts, generatorTable, Drafts.table, entryValues, Draft.value,
        Drafts.entryValues_closed]
  have hroot : Drafts.table (Drafts.closed manifest.rootTable) = manifest.rootTable :=
    Drafts.entryValues_closed _
  simp only [drafts, table, Drafts.table_append, table_listEntry, hroot, hgenerator]

/-- The value of the platforms. -/
def platformsValue (manifest : Manifest) : Value :=
  .array ((manifest.platforms.map platformTable).map .table)

/-- The value of the compilers. -/
def compilersValue (manifest : Manifest) : Value :=
  .array ((manifest.compilers.map compilerTable).map .table)

theorem get?_platforms (manifest : Manifest) :
    manifest.table.get? "platforms" = some manifest.platformsValue := by
  obtain ⟨generator, platforms, compilers, directory⟩ := manifest
  cases platforms <;> cases compilers <;> cases generator <;>
    simp [table, rootTable, emptyTable, generatorTable, listTable, platformsValue, Table.get?,
      List.lookup_cons]

theorem get?_compilers (manifest : Manifest) :
    manifest.table.get? "compilers" = some manifest.compilersValue := by
  obtain ⟨generator, platforms, compilers, directory⟩ := manifest
  cases platforms <;> cases compilers <;> cases generator <;>
    simp [table, rootTable, emptyTable, generatorTable, listTable, compilersValue, Table.get?,
      List.lookup_cons]

theorem get?_generator (manifest : Manifest) :
    manifest.table.get? "generator" =
      manifest.generator.map fun settings => .table (settingsTable settings) := by
  obtain ⟨generator, platforms, compilers, directory⟩ := manifest
  cases platforms <;> cases compilers <;> cases generator <;>
    simp [table, rootTable, emptyTable, generatorTable, listTable, Table.get?, List.lookup_cons]

theorem forall_mem_table {manifest : Manifest} {property : String × Value → Prop}
    (hgenerator : ∀ settings, manifest.generator = some settings →
      property ("generator", .table (settingsTable settings)))
    (hplatforms : property ("platforms", manifest.platformsValue))
    (hcompilers : property ("compilers", manifest.compilersValue)) :
    ∀ entry ∈ manifest.table, property entry := by
  obtain ⟨generator, platforms, compilers, directory⟩ := manifest
  cases platforms <;> cases compilers <;> cases generator <;>
    simp_all [table, rootTable, emptyTable, generatorTable, listTable, platformsValue,
      compilersValue]

theorem ofTable_table {manifest : Manifest}
    (htext : ∀ name, manifest.outputDirectory? = some name → ∃ path, name = .text path) :
    ofTable manifest.table = .ok manifest.detached := by
  have hplatforms : list platform manifest.platformsValue = .ok manifest.platforms := by
    rw [platformsValue, List.map_map]
    exact list_map platform_table manifest.platforms
  have hcompilers : list compiler manifest.compilersValue = .ok manifest.compilers := by
    rw [compilersValue, List.map_map]
    exact list_map compiler_table manifest.compilers
  have hsettings : ∀ generator, manifest.generator = some generator →
      settings (.table (settingsTable generator)) = .ok generator := by
    intro generator hgenerator
    refine settings_table ?_
    intro name hname
    exact htext name (by rw [outputDirectory?, hgenerator]; exact hname)
  have hcheck : checkEntries checkEntry manifest.table = .ok () := by
    refine (checkEntries_eq_ok_iff Iff.rfl).2 ?_
    apply forall_mem_table
    · intro generator hgenerator
      simp [checkEntry, hsettings generator hgenerator]
    · simp [checkEntry, hplatforms]
    · simp [checkEntry, hcompilers]
  rw [ofTable, hcheck]
  simp only [optional, get?_generator, get?_platforms, get?_compilers, hplatforms, hcompilers]
  cases hgenerator : manifest.generator with
  | none => simp [bind, Except.bind, detached, hgenerator]
  | some generator => simp [bind, Except.bind, hsettings generator hgenerator, detached, hgenerator]

theorem exists_render {manifest : Manifest}
    (htext : ∀ name, manifest.outputDirectory? = some name → ∃ path, name = .text path) :
    ∃ document, manifest.render = .ok document := by
  obtain ⟨lines, hlines, -⟩ := exists_lines htext
  rw [render, hlines]
  exact ⟨_, rfl⟩

/-- Whatever text it stands in, the table of the statements is the manifest. -/
theorem parse_of_statements {manifest : Manifest} {document : String}
    (htext : ∀ name, manifest.outputDirectory? = some name → ∃ path, name = .text path)
    (hread : read? document = assemble manifest.statements) :
    parse document = .ok manifest.detached := by
  rw [assemble_statements, table_drafts] at hread
  simp only [parse, hread, ofTable_table htext]

/-- What a manifest is written as is read as that manifest without its directory. -/
theorem parse_of_render {manifest : Manifest} {document : String}
    (htext : ∀ name, manifest.outputDirectory? = some name → ∃ path, name = .text path)
    (hrender : manifest.render = .ok document) : parse document = .ok manifest.detached := by
  obtain ⟨lines, hlines, hbare, hstatements⟩ := exists_lines htext
  rw [render, hlines] at hrender
  obtain rfl : Line.renderAll lines = document := Except.ok.inj hrender
  refine parse_of_statements htext ?_
  rw [read?_renderAll (List.forall_mem_map.mp hbare), hstatements]

/-- An introduction of comments and empty lines does not change what is read. -/
theorem parse_append_of_render {manifest : Manifest} {document introduction : String}
    (htext : ∀ name, manifest.outputDirectory? = some name → ∃ path, name = .text path)
    (hrender : manifest.render = .ok document)
    (hskip : skipTrivia false introduction.toList = some [])
    (hend : introduction.toList.getLast? = some '\n') :
    parse (introduction ++ document) = .ok manifest.detached := by
  obtain ⟨lines, hlines, hbare, hstatements⟩ := exists_lines htext
  rw [render, hlines] at hrender
  obtain rfl : Line.renderAll lines = document := Except.ok.inj hrender
  refine parse_of_statements htext ?_
  rw [read?_append_renderAll hskip hend (List.forall_mem_map.mp hbare), hstatements]

/-- The document of a new manifest is read as the built-in one. -/
theorem parse_of_initialDocument {document : String}
    (hdocument : initialDocument = .ok document) : parse document = .ok builtin := by
  have htext : ∀ name, builtin.outputDirectory? = some name → ∃ path, name = .text path := nofun
  have hlines : skipTrivia false introduction.toList = some [] ∧
      introduction.toList.getLast? = some '\n' := by decide +kernel
  obtain ⟨body, hbody⟩ := exists_render htext
  rw [initialDocument, hbody] at hdocument
  obtain rfl : introduction ++ body = document := Except.ok.inj hdocument
  exact parse_append_of_render htext hbody hlines.1 hlines.2

/-- A manifest whose output directory is a text, if it has one, can be written, and what is written
is read as the same manifest without its directory, wherever it is read from. -/
theorem exists_parse_render {manifest : Manifest}
    (htext : ∀ name, manifest.outputDirectory? = some name → ∃ path, name = .text path) :
    ∃ document, manifest.render = .ok document ∧
      ∀ origin, parseFrom origin document = .ok manifest.detached := by
  obtain ⟨lines, hlines, hbare, hstatements⟩ := exists_lines htext
  have hread : read? (Line.renderAll lines) = some manifest.table := by
    rw [read?_renderAll (List.forall_mem_map.mp hbare), hstatements, assemble_statements,
      table_drafts]
  refine ⟨Line.renderAll lines, ?_, ?_⟩
  · rw [render, hlines]
    rfl
  · intro origin
    simp only [parseFrom, parse, hread, ofTable_table htext]

/-- A manifest with a text for each kind of quotes, and without compilers. -/
def intricate : Manifest where
  generator := some ⟨some (.text ⟨"out \"1\"\\"⟩)⟩
  platforms :=
    [⟨"", "\n\n", "'\"\"\"\"\"\n\t\\\x00", [], ["caf\u00e9", "''\"", "a\nb\\"]⟩,
      ⟨"\x7f", "''''\"\"\"", "\r\n", ["\\\\"], []⟩]
  compilers := []
  directory := some ⟨"/project"⟩

theorem exists_parse_render_intricate :
    (∀ name, intricate.outputDirectory? = some name → ∃ path, name = .text path) ∧
      ∃ document, intricate.render = .ok document ∧
        ∀ origin, parseFrom origin document = .ok intricate.detached := by
  have htext : ∀ name, intricate.outputDirectory? = some name → ∃ path, name = .text path := by
    intro name hname
    exact ⟨_, (Option.some.inj hname).symm⟩
  exact ⟨htext, exists_parse_render htext⟩

end RecipeMatrix.Manifest
