import Mathlib.Data.List.Forall2
import RecipeMatrix.Manifest.Decode
import RecipeMatrix.Proofs.Catalog.Acceptance
import RecipeMatrix.Proofs.Toml.Layout

/-!
# The shape of a manifest

Which tables are manifests, and of what.  The rules are relations between the values of a document
and what is read from them; they know nothing of the order in which a reader looks at the keys of a
table, nor of its errors.

* Kinds.  `IsText`, `AreTexts` and `ListOf` are the kinds of single values, and `FieldIs` the value
  of a key that may be missing.
* The rules.  `DescribesPlatform`, `DescribesCompiler` and `DescribesSettings` each have one case
  for a table and one for every array that may stand for it; `Describes` puts them together.
* Readers.  A reader `Decides` a kind when it succeeds exactly on the values of the kind
  (`decides_text`, `decides_platform` and so on, up to `ofTable_eq_ok_iff`).  The keys are sorted
  before they are checked, which no longer shows in what the checks find
  (`checkEntries_eq_ok_iff`).
* The assembly.  `HasUnknownKey` finds a key that belongs nowhere (`not_describes_of_unknownKey`),
  and `parseFrom_decides` says what is made of a well-formed document.
-/

namespace RecipeMatrix.Manifest

open Toml (Value Table)

/-! ## Kinds -/

/-- A text. -/
def IsText (value : Value) (content : String) : Prop := value = .text content

/-- An array of texts. -/
def AreTexts (value : Value) (contents : List String) : Prop := value = .array (contents.map .text)

/-- An array of values of one kind, in order. -/
def ListOf {α : Type} (kind : Value → α → Prop) (value : Value) (found : List α) : Prop :=
  ∃ items, value = .array items ∧ List.Forall₂ kind items found

/-- What a key says: the value under it is of a kind, or it is missing and something else holds. -/
def FieldIs {α : Type} (table : Table) (key : String) (kind : Value → α → Prop) (otherwise : α)
    (found : α) : Prop :=
  match table.get? key with
  | some value => kind value found
  | none => found = otherwise

/-! ## The rules -/

/-- What may stand under the keys of a platform. -/
inductive PlatformField : String → Value → Prop
  | name (content : String) : PlatformField "name" (.text content)
  | image (content : String) : PlatformField "image" (.text content)
  | install (content : String) : PlatformField "install-command" (.text content)
  | dev (contents : List String) : PlatformField "dev-deps" (.array (contents.map .text))
  | runtime (contents : List String) : PlatformField "runtime-deps" (.array (contents.map .text))

/-- What may stand under the keys of a compiler. -/
inductive CompilerField : String → Value → Prop
  | name (content : String) : CompilerField "name" (.text content)
  | package (content : String) : CompilerField "package" (.text content)

/-- What may stand under the keys of the generator settings. -/
inductive SettingsField : String → Value → Prop
  | directory (content : String) : SettingsField "output-dir" (.text content)

/-- A value that stands for a platform. -/
inductive DescribesPlatform : Value → PlatformEntry → Prop
  | table {table : Table} {entry : PlatformEntry}
      (fields : ∀ field ∈ table, PlatformField field.1 field.2)
      (name : table.get? "name" = some (.text entry.name))
      (image : table.get? "image" = some (.text entry.image))
      (install : table.get? "install-command" = some (.text entry.install))
      (dev : FieldIs table "dev-deps" AreTexts [] entry.dev)
      (runtime : FieldIs table "runtime-deps" AreTexts [] entry.runtime) :
      DescribesPlatform (.table table) entry
  | required (name image install : String) :
      DescribesPlatform (.array [.text name, .text image, .text install])
        ⟨name, image, install, [], []⟩
  | withDev (name image install : String) (dev : List String) :
      DescribesPlatform
        (.array [.text name, .text image, .text install, .array (dev.map .text)])
        ⟨name, image, install, dev, []⟩
  | all (name image install : String) (dev runtime : List String) (surplus : List Value) :
      DescribesPlatform
        (.array (.text name :: .text image :: .text install :: .array (dev.map .text) ::
          .array (runtime.map .text) :: surplus))
        ⟨name, image, install, dev, runtime⟩

/-- A value that stands for a compiler. -/
inductive DescribesCompiler : Value → CompilerEntry → Prop
  | table {table : Table} {entry : CompilerEntry}
      (fields : ∀ field ∈ table, CompilerField field.1 field.2)
      (name : table.get? "name" = some (.text entry.name))
      (package : table.get? "package" = some (.text entry.package)) :
      DescribesCompiler (.table table) entry
  | all (name package : String) (surplus : List Value) :
      DescribesCompiler (.array (.text name :: .text package :: surplus)) ⟨name, package⟩

/-- A text that is the path of a directory. -/
def IsPath (value : Value) (found : Option Path) : Prop :=
  ∃ path : Path, value = .text path.text ∧ found = some path

/-- A value that stands for generator settings. -/
inductive DescribesSettings : Value → GeneratorSettings → Prop
  | table {table : Table} {path : Option Path}
      (fields : ∀ field ∈ table, SettingsField field.1 field.2)
      (directory : FieldIs table "output-dir" IsPath none path) :
      DescribesSettings (.table table) ⟨path.map .text⟩
  | empty : DescribesSettings (.array []) ⟨none⟩
  | all (content : String) (surplus : List Value) :
      DescribesSettings (.array (.text content :: surplus)) ⟨some (.text ⟨content⟩)⟩

/-- What may stand under the keys of a manifest. -/
inductive RootField : String → Value → Prop
  | generator {value : Value} {settings : GeneratorSettings}
      (settings : DescribesSettings value settings) : RootField "generator" value
  | platforms {value : Value} {entries : List PlatformEntry}
      (entries : ListOf DescribesPlatform value entries) : RootField "platforms" value
  | compilers {value : Value} {entries : List CompilerEntry}
      (entries : ListOf DescribesCompiler value entries) : RootField "compilers" value

/-- Generator settings that are there. -/
def HasSettings (value : Value) (found : Option GeneratorSettings) : Prop :=
  ∃ settings, DescribesSettings value settings ∧ found = some settings

/-- A table that stands for a manifest. -/
structure Describes (table : Table) (manifest : Manifest) : Prop where
  fields : ∀ field ∈ table, RootField field.1 field.2
  generator : FieldIs table "generator" HasSettings none manifest.generator
  platforms : FieldIs table "platforms" (ListOf DescribesPlatform) [] manifest.platforms
  compilers : FieldIs table "compilers" (ListOf DescribesCompiler) [] manifest.compilers
  directory : manifest.directory = none

/-! ### Keys -/

theorem PlatformField.mem_fields {key : String} {value : Value} (h : PlatformField key value) :
    key ∈ platformFields := by
  cases h <;> simp [platformFields]

theorem CompilerField.mem_fields {key : String} {value : Value} (h : CompilerField key value) :
    key ∈ compilerFields := by
  cases h <;> simp [compilerFields]

theorem SettingsField.mem_fields {key : String} {value : Value} (h : SettingsField key value) :
    key ∈ generatorFields := by
  cases h
  simp [generatorFields]

theorem RootField.mem_fields {key : String} {value : Value} (h : RootField key value) :
    key ∈ fields := by
  cases h <;> simp [fields]

theorem RootField.exists_settings {value : Value} (h : RootField "generator" value) :
    ∃ settings, DescribesSettings value settings := by
  generalize hkey : "generator" = key at h
  cases h with
  | generator settings => exact ⟨_, settings⟩
  | platforms | compilers => exact absurd hkey (by decide)

theorem RootField.exists_platforms {value : Value} (h : RootField "platforms" value) :
    ∃ entries, ListOf DescribesPlatform value entries := by
  generalize hkey : "platforms" = key at h
  cases h with
  | platforms entries => exact ⟨_, entries⟩
  | generator | compilers => exact absurd hkey (by decide)

theorem RootField.exists_compilers {value : Value} (h : RootField "compilers" value) :
    ∃ entries, ListOf DescribesCompiler value entries := by
  generalize hkey : "compilers" = key at h
  cases h with
  | compilers entries => exact ⟨_, entries⟩
  | generator | platforms => exact absurd hkey (by decide)

theorem DescribesPlatform.mem_fields {table : Table} {entry : PlatformEntry}
    (h : DescribesPlatform (.table table) entry) {field : String × Value} (hfield : field ∈ table) :
    field.1 ∈ platformFields := by
  cases h with
  | table fields => exact (fields field hfield).mem_fields

theorem DescribesCompiler.mem_fields {table : Table} {entry : CompilerEntry}
    (h : DescribesCompiler (.table table) entry) {field : String × Value} (hfield : field ∈ table) :
    field.1 ∈ compilerFields := by
  cases h with
  | table fields => exact (fields field hfield).mem_fields

theorem DescribesSettings.mem_fields {table : Table} {settings : GeneratorSettings}
    (h : DescribesSettings (.table table) settings) {field : String × Value}
    (hfield : field ∈ table) : field.1 ∈ generatorFields := by
  cases h with
  | table fields => exact (fields field hfield).mem_fields

/-! ## Readers -/

/-- A reader that succeeds exactly on the values of a kind, and gives what the kind says. -/
def Decides {α : Type} (read : Value → Decoded α) (kind : Value → α → Prop) : Prop :=
  ∀ value found, read value = .ok found ↔ kind value found

theorem decides_text : Decides text IsText := by
  intro value found
  cases value <;> simp [text, IsText]

theorem decides_list {α : Type} {read : Value → Decoded α} {kind : Value → α → Prop}
    (hread : Decides read kind) : Decides (list read) (ListOf kind) := by
  intro value found
  cases value with
  | array items =>
    have hforall : List.Forall₂ (fun item entry => read item = .ok entry) items found ↔
        List.Forall₂ kind items found :=
      ⟨fun h => h.imp fun item entry => (hread item entry).1,
        fun h => h.imp fun item entry => (hread item entry).2⟩
    rw [list, mapM_eq_ok_iff, ← List.forall₂_eq_eq_eq, List.forall₂_map_left_iff,
      List.forall₂_map_right_iff, hforall]
    simp [ListOf]
  | text | integer | float | boolean | dateTime | table => simp [list, ListOf]

theorem decides_texts : Decides texts AreTexts := by
  intro value found
  have hforall (items : List Value) :
      List.Forall₂ IsText items found ↔ items = found.map .text := by
    rw [← List.forall₂_eq_eq_eq, List.forall₂_map_right_iff]
    rfl
  rw [texts, decides_list decides_text]
  constructor
  · rintro ⟨items, rfl, hitems⟩
    rw [AreTexts, (hforall items).1 hitems]
  · intro hvalue
    exact ⟨_, hvalue, (hforall _).2 rfl⟩

theorem texts_map (contents : List String) : texts (.array (contents.map .text)) = .ok contents :=
  (decides_texts _ _).2 rfl

theorem path_eq_ok_iff {value : Value} {found : Path} :
    path value = .ok found ↔ value = .text found.text := by
  cases value with
  | text content =>
    simp only [path, Except.ok.injEq, Value.text.injEq]
    exact ⟨fun h => h ▸ rfl, fun h => h ▸ rfl⟩
  | integer | float | boolean | dateTime | array | table => simp [path]

/-- A result that is there, as one that may be missing. -/
theorem some_eq_ok_iff {α : Type} {result : Decoded α} {found : Option α} :
    some <$> result = .ok found ↔ ∃ content, result = .ok content ∧ found = some content := by
  cases result with
  | error error => simp [Functor.map, Except.map]
  | ok content => simp [Functor.map, Except.map, eq_comm]

theorem decides_path : Decides (fun value => some <$> path value) IsPath := by
  intro value found
  simp only [some_eq_ok_iff, path_eq_ok_iff, IsPath]

/-! ### Tables -/

/-- A check of a value is a reading whose result is not used. -/
theorem checked_eq_ok_iff {α : Type} {read : Value → Decoded α} {value : Value} :
    (do let _ ← read value : Decoded Unit) = .ok () ↔ ∃ found, read value = .ok found := by
  rw [bind_eq_ok_iff]
  exact exists_congr fun found => and_iff_left rfl

/-- The entries of a table pass their checks in the order of their keys exactly if they do in
any. -/
theorem checkEntries_eq_ok_iff {check : String → Value → Decoded Unit}
    {kind : String → Value → Prop}
    (hcheck : ∀ {key value}, check key value = .ok () ↔ kind key value) {table : Table} :
    checkEntries check table = .ok () ↔ ∀ field ∈ table, kind field.1 field.2 := by
  have hsorted : (∀ field ∈ table, kind field.1 field.2) ↔
      ∀ field ∈ table.sortedByKey, kind field.1 field.2 :=
    forall_congr' fun field => by rw [Table.sortedByKey, List.mem_mergeSort]
  rw [hsorted, checkEntries, List.forM_eq_forM]
  induction table.sortedByKey with
  | nil => exact iff_of_true rfl nofun
  | cons field fields ih =>
    rw [List.forM_cons, bind_eq_ok_iff, List.forall_mem_cons]
    constructor
    · intro ⟨_, hfirst, hrest⟩
      exact ⟨hcheck.1 hfirst, ih.1 hrest⟩
    · intro ⟨hfirst, hrest⟩
      exact ⟨(), hcheck.2 hfirst, ih.2 hrest⟩

theorem required_eq_ok_iff {table : Table} {key found : String} :
    required table key text = .ok found ↔ table.get? key = some (.text found) := by
  unfold required
  cases table.get? key with
  | none => simp
  | some value => simp [decides_text value found, IsText]

theorem optional_eq_ok_iff {α : Type} {table : Table} {key : String} {read : Value → Decoded α}
    {kind : Value → α → Prop} (hread : Decides read kind) {otherwise found : α} :
    optional table key read otherwise = .ok found ↔ FieldIs table key kind otherwise found := by
  unfold optional FieldIs
  cases table.get? key with
  | none => simp [eq_comm]
  | some value => exact hread value found

/-! ### Records -/

theorem checkPlatformEntry_eq_ok_iff {key : String} {value : Value} :
    checkPlatformEntry key value = .ok () ↔ PlatformField key value := by
  unfold checkPlatformEntry
  constructor
  · intro hcheck
    split at hcheck
    next hkey =>
      obtain ⟨content, hvalue⟩ := checked_eq_ok_iff.1 hcheck
      obtain rfl := (decides_text value content).1 hvalue
      rcases hkey with rfl | rfl | rfl
      · exact .name content
      · exact .image content
      · exact .install content
    next =>
      split at hcheck
      next hkey =>
        obtain ⟨contents, hvalue⟩ := checked_eq_ok_iff.1 hcheck
        obtain rfl := (decides_texts value contents).1 hvalue
        rcases hkey with rfl | rfl
        · exact .dev contents
        · exact .runtime contents
      next => cases hcheck
  · rintro (content | content | content | contents | contents)
    · rfl
    · rfl
    · rfl
    · exact checked_eq_ok_iff.2 ⟨contents, texts_map contents⟩
    · exact checked_eq_ok_iff.2 ⟨contents, texts_map contents⟩

theorem checkCompilerEntry_eq_ok_iff {key : String} {value : Value} :
    checkCompilerEntry key value = .ok () ↔ CompilerField key value := by
  unfold checkCompilerEntry
  constructor
  · intro hcheck
    split at hcheck
    next hkey =>
      obtain ⟨content, hvalue⟩ := checked_eq_ok_iff.1 hcheck
      obtain rfl := (decides_text value content).1 hvalue
      rcases hkey with rfl | rfl
      · exact .name content
      · exact .package content
    next => cases hcheck
  · rintro (content | content) <;> rfl

theorem checkGeneratorEntry_eq_ok_iff {key : String} {value : Value} :
    checkGeneratorEntry key value = .ok () ↔ SettingsField key value := by
  unfold checkGeneratorEntry
  constructor
  · intro hcheck
    split at hcheck
    next hkey =>
      obtain ⟨found, hvalue⟩ := checked_eq_ok_iff.1 hcheck
      obtain rfl := path_eq_ok_iff.1 hvalue
      rw [hkey]
      exact .directory found.text
    next => cases hcheck
  · rintro ⟨content⟩
    rfl

theorem platformOfTable_eq_ok_iff {table : Table} {entry : PlatformEntry} :
    platformOfTable table = .ok entry ↔ DescribesPlatform (.table table) entry := by
  have hchecked : checkEntries checkPlatformEntry table = .ok () ↔ _ :=
    checkEntries_eq_ok_iff checkPlatformEntry_eq_ok_iff
  simp only [platformOfTable, bind_eq_ok_iff, required_eq_ok_iff, optional_eq_ok_iff decides_texts]
  constructor
  · rintro ⟨⟨⟩, hfields, name, hname, image, himage, install, hinstall, dev, hdev, runtime,
      hruntime, hentry⟩
    obtain rfl := Except.ok.inj hentry
    exact .table (hchecked.1 hfields) hname himage hinstall hdev hruntime
  · rintro ⟨hfields, hname, himage, hinstall, hdev, hruntime⟩
    exact ⟨(), hchecked.2 hfields, _, hname, _, himage, _, hinstall, _, hdev, _, hruntime, rfl⟩

theorem compilerOfTable_eq_ok_iff {table : Table} {entry : CompilerEntry} :
    compilerOfTable table = .ok entry ↔ DescribesCompiler (.table table) entry := by
  have hchecked : checkEntries checkCompilerEntry table = .ok () ↔ _ :=
    checkEntries_eq_ok_iff checkCompilerEntry_eq_ok_iff
  simp only [compilerOfTable, bind_eq_ok_iff, required_eq_ok_iff]
  constructor
  · rintro ⟨⟨⟩, hfields, name, hname, package, hpackage, hentry⟩
    obtain rfl := Except.ok.inj hentry
    exact .table (hchecked.1 hfields) hname hpackage
  · rintro ⟨hfields, hname, hpackage⟩
    exact ⟨(), hchecked.2 hfields, _, hname, _, hpackage, rfl⟩

theorem settingsOfTable_eq_ok_iff {table : Table} {settings : GeneratorSettings} :
    settingsOfTable table = .ok settings ↔ DescribesSettings (.table table) settings := by
  have hchecked : checkEntries checkGeneratorEntry table = .ok () ↔ _ :=
    checkEntries_eq_ok_iff checkGeneratorEntry_eq_ok_iff
  simp only [settingsOfTable, bind_eq_ok_iff, optional_eq_ok_iff decides_path]
  constructor
  · rintro ⟨⟨⟩, hfields, path, hpath, hsettings⟩
    obtain rfl := Except.ok.inj hsettings
    exact .table (hchecked.1 hfields) hpath
  · rintro ⟨hfields, hpath⟩
    exact ⟨(), hchecked.2 hfields, _, hpath, rfl⟩

/-- An array that is too short for its required fields is no record. -/
theorem ne_ok_of_tooShort {α : Type} {items : List Value} {error : ShapeError} {found : α} :
    (do let _ ← items.mapM text; .error error : Decoded α) ≠ .ok found := by
  rw [Ne, bind_eq_ok_iff]
  rintro ⟨_, -, ⟨⟩⟩

theorem platformOfArray_eq_ok_iff {items : List Value} {entry : PlatformEntry} :
    platformOfArray items = .ok entry ↔ DescribesPlatform (.array items) entry := by
  constructor
  · intro hread
    unfold platformOfArray at hread
    split at hread
    next name image install rest =>
      simp only [bind_eq_ok_iff] at hread
      obtain ⟨_, hname, _, himage, _, hinstall, hrest⟩ := hread
      obtain rfl := (decides_text _ _).1 hname
      obtain rfl := (decides_text _ _).1 himage
      obtain rfl := (decides_text _ _).1 hinstall
      split at hrest
      next =>
        obtain rfl := Except.ok.inj hrest
        exact .required _ _ _
      next dev =>
        obtain ⟨_, hdev, hentry⟩ := bind_eq_ok_iff.1 hrest
        obtain rfl := (decides_texts _ _).1 hdev
        obtain rfl := Except.ok.inj hentry
        exact .withDev _ _ _ _
      next dev runtime surplus =>
        simp only [bind_eq_ok_iff] at hrest
        obtain ⟨_, hdev, _, hruntime, hentry⟩ := hrest
        obtain rfl := (decides_texts _ _).1 hdev
        obtain rfl := (decides_texts _ _).1 hruntime
        obtain rfl := Except.ok.inj hentry
        exact .all _ _ _ _ _ _
    next => exact absurd hread ne_ok_of_tooShort
  · rintro (_ | ⟨name, image, install⟩ | ⟨name, image, install, dev⟩ |
      ⟨name, image, install, dev, runtime, surplus⟩)
    · rfl
    · simp only [platformOfArray, text, texts_map, bind, Except.bind]
    · simp only [platformOfArray, text, texts_map, bind, Except.bind]

theorem compilerOfArray_eq_ok_iff {items : List Value} {entry : CompilerEntry} :
    compilerOfArray items = .ok entry ↔ DescribesCompiler (.array items) entry := by
  constructor
  · intro hread
    unfold compilerOfArray at hread
    split at hread
    next name package surplus =>
      simp only [bind_eq_ok_iff] at hread
      obtain ⟨_, hname, _, hpackage, hentry⟩ := hread
      obtain rfl := (decides_text _ _).1 hname
      obtain rfl := (decides_text _ _).1 hpackage
      obtain rfl := Except.ok.inj hentry
      exact .all _ _ _
    next => exact absurd hread ne_ok_of_tooShort
  · rintro ⟨name, package, surplus⟩
    rfl

theorem settingsOfArray_eq_ok_iff {items : List Value} {settings : GeneratorSettings} :
    settingsOfArray items = .ok settings ↔ DescribesSettings (.array items) settings := by
  constructor
  · intro hread
    unfold settingsOfArray at hread
    split at hread
    next =>
      obtain rfl := Except.ok.inj hread
      exact .empty
    next directory surplus =>
      obtain ⟨found, hfound, hsettings⟩ := bind_eq_ok_iff.1 hread
      obtain rfl := path_eq_ok_iff.1 hfound
      obtain rfl := Except.ok.inj hsettings
      exact .all _ _
  · rintro (_ | _ | ⟨content, surplus⟩) <;> rfl

/-- A record is read from a table, or from an array of its fields.  A date or time does for none,
since no record has the key that it stands under. -/
theorem decides_record {α : Type} {name : String} {ofTable : Table → Decoded α}
    {ofArray : List Value → Decoded α} {kind : Value → α → Prop}
    (htable : ∀ {table found}, ofTable table = .ok found ↔ kind (.table table) found)
    (harray : ∀ {items found}, ofArray items = .ok found ↔ kind (.array items) found)
    (hdate : ∀ {written found}, ¬ kind (.table [(Toml.dateTimeKey, .text written)]) found)
    (hkind : ∀ {value found}, kind value found →
      (∃ table, value = .table table) ∨ ∃ items, value = .array items) :
    Decides (record name ofTable ofArray) kind := by
  have hother {value : Value} {found : α} (hnotTable : ∀ table, value ≠ .table table)
      (hnotArray : ∀ items, value ≠ .array items) : ¬ kind value found := by
    intro h
    rcases hkind h with ⟨table, rfl⟩ | ⟨items, rfl⟩
    · exact hnotTable table rfl
    · exact hnotArray items rfl
  intro value found
  cases value with
  | table table => exact htable
  | array items => exact harray
  | dateTime written =>
    exact iff_of_false (fun hread => hdate (htable.1 hread)) (hother nofun nofun)
  | text | integer | float | boolean => exact iff_of_false nofun (hother nofun nofun)

theorem decides_platform : Decides platform DescribesPlatform := by
  refine decides_record platformOfTable_eq_ok_iff platformOfArray_eq_ok_iff ?_ ?_
  · intro written entry hentry
    have hmem : Toml.dateTimeKey ∈ platformFields := hentry.mem_fields List.mem_cons_self
    exact absurd hmem (by decide)
  · rintro value entry (_ | _ | _ | _)
    · exact .inl ⟨_, rfl⟩
    all_goals exact .inr ⟨_, rfl⟩

theorem decides_compiler : Decides compiler DescribesCompiler := by
  refine decides_record compilerOfTable_eq_ok_iff compilerOfArray_eq_ok_iff ?_ ?_
  · intro written entry hentry
    have hmem : Toml.dateTimeKey ∈ compilerFields := hentry.mem_fields List.mem_cons_self
    exact absurd hmem (by decide)
  · rintro value entry (_ | _)
    · exact .inl ⟨_, rfl⟩
    · exact .inr ⟨_, rfl⟩

theorem decides_settings : Decides settings DescribesSettings := by
  refine decides_record settingsOfTable_eq_ok_iff settingsOfArray_eq_ok_iff ?_ ?_
  · intro written entry hentry
    have hmem : Toml.dateTimeKey ∈ generatorFields := hentry.mem_fields List.mem_cons_self
    exact absurd hmem (by decide)
  · rintro value entry (_ | _ | _)
    · exact .inl ⟨_, rfl⟩
    all_goals exact .inr ⟨_, rfl⟩

/-! ### Manifests -/

theorem checkEntry_eq_ok_iff {key : String} {value : Value} :
    checkEntry key value = .ok () ↔ RootField key value := by
  unfold checkEntry
  constructor
  · intro hcheck
    split at hcheck
    next hkey =>
      obtain ⟨found, hvalue⟩ := checked_eq_ok_iff.1 hcheck
      rw [hkey]
      exact .generator ((decides_settings _ _).1 hvalue)
    next =>
      split at hcheck
      next hkey =>
        obtain ⟨found, hvalue⟩ := checked_eq_ok_iff.1 hcheck
        rw [hkey]
        exact .platforms ((decides_list decides_platform _ _).1 hvalue)
      next =>
        split at hcheck
        next hkey =>
          obtain ⟨found, hvalue⟩ := checked_eq_ok_iff.1 hcheck
          rw [hkey]
          exact .compilers ((decides_list decides_compiler _ _).1 hvalue)
        next => cases hcheck
  · rintro (hsettings | hentries | hentries)
    · exact checked_eq_ok_iff.2 ⟨_, (decides_settings _ _).2 hsettings⟩
    · exact checked_eq_ok_iff.2 ⟨_, (decides_list decides_platform _ _).2 hentries⟩
    · exact checked_eq_ok_iff.2 ⟨_, (decides_list decides_compiler _ _).2 hentries⟩

theorem decides_hasSettings : Decides (fun value => some <$> settings value) HasSettings := by
  intro value found
  simp only [some_eq_ok_iff, decides_settings value, HasSettings]

theorem ofTable_eq_ok_iff {table : Table} {manifest : Manifest} :
    ofTable table = .ok manifest ↔ Describes table manifest := by
  have hchecked : checkEntries checkEntry table = .ok () ↔ _ :=
    checkEntries_eq_ok_iff checkEntry_eq_ok_iff
  simp only [ofTable, bind_eq_ok_iff, optional_eq_ok_iff decides_hasSettings,
    optional_eq_ok_iff (decides_list decides_platform),
    optional_eq_ok_iff (decides_list decides_compiler)]
  constructor
  · rintro ⟨⟨⟩, hfields, generator, hgenerator, platforms, hplatforms, compilers, hcompilers,
      hmanifest⟩
    obtain rfl := Except.ok.inj hmanifest
    exact ⟨hchecked.1 hfields, hgenerator, hplatforms, hcompilers, rfl⟩
  · obtain ⟨generator, platforms, compilers, directory⟩ := manifest
    rintro ⟨hfields, hgenerator, hplatforms, hcompilers, hdirectory⟩
    obtain rfl : directory = none := hdirectory
    exact ⟨(), hchecked.2 hfields, _, hgenerator, _, hplatforms, _, hcompilers, rfl⟩

/-! ## The assembly -/

/-- A key that belongs nowhere, in one of the tables of a manifest. -/
inductive HasUnknownKey (table : Table) : Prop
  | root {key : String} {value : Value} (field : (key, value) ∈ table) (unknown : key ∉ fields)
  | generator {inner : Table} {key : String} {value : Value}
      (found : ("generator", .table inner) ∈ table) (field : (key, value) ∈ inner)
      (unknown : key ∉ generatorFields)
  | platforms {items : List Value} {inner : Table} {key : String} {value : Value}
      (found : ("platforms", .array items) ∈ table) (item : .table inner ∈ items)
      (field : (key, value) ∈ inner) (unknown : key ∉ platformFields)
  | compilers {items : List Value} {inner : Table} {key : String} {value : Value}
      (found : ("compilers", .array items) ∈ table) (item : .table inner ∈ items)
      (field : (key, value) ∈ inner) (unknown : key ∉ compilerFields)

/-- Every value of a list is one of the kind of the list. -/
theorem ListOf.exists_of_mem {α : Type} {kind : Value → α → Prop} {items : List Value}
    {found : List α} (hlist : ListOf kind (.array items) found) {item : Value}
    (hitem : item ∈ items) : ∃ entry, kind item entry := by
  obtain ⟨_, ⟨⟩, hforall⟩ := hlist
  induction hforall with
  | nil => cases hitem
  | cons hfirst _ ih =>
    rcases List.mem_cons.1 hitem with rfl | hrest
    · exact ⟨_, hfirst⟩
    · exact ih hrest

theorem not_describes_of_unknownKey {table : Table} (hunknown : HasUnknownKey table)
    (manifest : Manifest) : ¬ Describes table manifest := by
  intro hdescribes
  cases hunknown with
  | root field unknown => exact unknown (hdescribes.fields _ field).mem_fields
  | generator found field unknown =>
    obtain ⟨settings, hsettings⟩ := (hdescribes.fields _ found).exists_settings
    exact unknown (hsettings.mem_fields field)
  | platforms found item field unknown =>
    obtain ⟨entries, hentries⟩ := (hdescribes.fields _ found).exists_platforms
    obtain ⟨entry, hentry⟩ := hentries.exists_of_mem item
    exact unknown (hentry.mem_fields field)
  | compilers found item field unknown =>
    obtain ⟨entries, hentries⟩ := (hdescribes.fields _ found).exists_compilers
    obtain ⟨entry, hentry⟩ := hentries.exists_of_mem item
    exact unknown (hentry.mem_fields field)

theorem parseFrom_eq {document : String} {table : Table}
    (hread : Toml.read? document = some table) (origin : Path) :
    parseFrom origin document = (ofTable table).mapError fun error =>
      .manifestMalformed origin.text (ManifestFault.misshapen error).message := by
  unfold parseFrom parse
  rw [hread]
  cases hfound : ofTable table <;> simp [hfound, Except.mapError]

/-- A table that describes no manifest gives an error that names where its document is from. -/
theorem parseFrom_of_not_describes {document : String} {table : Table}
    (hread : Toml.read? document = some table) (origin : Path)
    (hnone : ∀ manifest, ¬ Describes table manifest) :
    ∃ reason, parseFrom origin document = .error (.manifestMalformed origin.text reason) := by
  rw [parseFrom_eq hread]
  cases hfound : ofTable table with
  | ok manifest => exact absurd (ofTable_eq_ok_iff.1 hfound) (hnone manifest)
  | error error => exact ⟨_, rfl⟩

/-- A well-formed document is read as the manifest that it describes.  If it describes none, then
the error names where the document is from; so it is with every unknown key. -/
theorem parseFrom_decides {document : String} {table : Table}
    (hread : Toml.read? document = some table) (origin : Path) :
    (∀ manifest, parseFrom origin document = .ok manifest ↔ Describes table manifest) ∧
      ((¬ ∃ manifest, Describes table manifest) →
        ∃ reason, parseFrom origin document = .error (.manifestMalformed origin.text reason)) ∧
      (HasUnknownKey table →
        ∃ reason, parseFrom origin document = .error (.manifestMalformed origin.text reason)) := by
  refine ⟨fun manifest => ?_, fun hnone => ?_, fun hunknown => ?_⟩
  · rw [parseFrom_eq hread, ← ofTable_eq_ok_iff]
    cases ofTable table <;> simp [Except.mapError]
  · exact parseFrom_of_not_describes hread origin fun manifest h => hnone ⟨manifest, h⟩
  · exact parseFrom_of_not_describes hread origin (not_describes_of_unknownKey hunknown)

/-- A document with tables, and an array that stands for one. -/
def mixedDocument : String :=
  "generator = [\"out\"]\n\n" ++
  "[[platforms]]\nname = \"alpine\"\nimage = \"alpine:3\"\n" ++
  "install-command = \"apk add \x7bdeps\x7d\"\ndev-deps = [\"make\"]\n\n" ++
  "[[compilers]]\npackage = \"g++\"\nname = \"gcc\"\n"

/-- Its lines. -/
def mixedLines : List Toml.Line :=
  [.field "generator" (.texts ["out"]),
    .element "platforms", .field "name" (.text "alpine"), .field "image" (.text "alpine:3"),
    .field "install-command" (.text "apk add \x7bdeps\x7d"), .field "dev-deps" (.texts ["make"]),
    .element "compilers", .field "package" (.text "g++"), .field "name" (.text "gcc")]

/-- Its table. -/
def mixedTable : Table :=
  [("generator", .array [.text "out"]),
    ("platforms", .array [.table [("name", .text "alpine"), ("image", .text "alpine:3"),
      ("install-command", .text "apk add \x7bdeps\x7d"), ("dev-deps", .array [.text "make"])]]),
    ("compilers", .array [.table [("package", .text "g++"), ("name", .text "gcc")]])]

/-- Its manifest. -/
def mixed : Manifest where
  generator := some ⟨some (.text ⟨"out"⟩)⟩
  platforms := [⟨"alpine", "alpine:3", "apk add \x7bdeps\x7d", ["make"], []⟩]
  compilers := [⟨"gcc", "g++"⟩]
  directory := none

theorem read?_mixedDocument : Toml.read? mixedDocument = some mixedTable := by
  have hlines : Toml.Line.renderAll mixedLines = mixedDocument := by decide +kernel
  rw [← hlines, Toml.read?_renderAll (by decide +kernel)]
  rfl

theorem parseFrom_decides_mixed : Toml.read? mixedDocument = some mixedTable ∧
    parseFrom ⟨"dockgen.toml"⟩ mixedDocument = .ok mixed := by
  have hsettings : DescribesSettings (.array [.text "out"]) ⟨some (.text ⟨"out"⟩)⟩ := .all "out" []
  have hplatform : DescribesPlatform
      (.table [("name", .text "alpine"), ("image", .text "alpine:3"),
        ("install-command", .text "apk add \x7bdeps\x7d"), ("dev-deps", .array [.text "make"])])
      ⟨"alpine", "alpine:3", "apk add \x7bdeps\x7d", ["make"], []⟩ := by
    refine .table ?_ rfl rfl rfl ?_ ?_
    · simp only [List.forall_mem_cons]
      exact ⟨.name "alpine", .image "alpine:3", .install "apk add \x7bdeps\x7d", .dev ["make"],
        List.forall_mem_nil _⟩
    · rfl
    · rfl
  have hplatforms : ListOf DescribesPlatform
      (.array [.table [("name", .text "alpine"), ("image", .text "alpine:3"),
        ("install-command", .text "apk add \x7bdeps\x7d"), ("dev-deps", .array [.text "make"])]])
      mixed.platforms :=
    ⟨_, rfl, .cons hplatform .nil⟩
  have hcompiler : DescribesCompiler
      (.table [("package", .text "g++"), ("name", .text "gcc")]) ⟨"gcc", "g++"⟩ := by
    refine .table ?_ rfl rfl
    simp only [List.forall_mem_cons]
    exact ⟨.package "g++", .name "gcc", List.forall_mem_nil _⟩
  have hcompilers : ListOf DescribesCompiler
      (.array [.table [("package", .text "g++"), ("name", .text "gcc")]]) mixed.compilers :=
    ⟨_, rfl, .cons hcompiler .nil⟩
  have hdescribes : Describes mixedTable mixed := by
    refine ⟨?_, ⟨_, hsettings, rfl⟩, hplatforms, hcompilers, rfl⟩
    simp only [mixedTable, List.forall_mem_cons]
    exact ⟨.generator hsettings, .platforms hplatforms, .compilers hcompilers,
      List.forall_mem_nil _⟩
  exact ⟨read?_mixedDocument, ((parseFrom_decides read?_mixedDocument _).1 mixed).2 hdescribes⟩

end RecipeMatrix.Manifest
