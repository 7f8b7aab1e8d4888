import RecipeMatrix.Proofs.Command.Location
import RecipeMatrix.Proofs.Files.Atomicity
import RecipeMatrix.Proofs.Manifest.Discovery

/-!
# What a new manifest is good for

With and without force, for every target without `..`: a run of `init` that succeeds leaves a
manifest with which everything is as with none, and a run that fails leaves what was there.

There are three groups.

* Alike manifests.  Two that differ in their directory only have one catalog, and the same cells
  and recipes for every selection (`alike_of_detached`).
* The manifest.  `Founded` says what a success leaves: a file with the document that is read as the
  built-in manifest.  Writing it a second time changes nothing (`outcome_work_again`).
* The rest.  `FoundsOrSpares` adds what becomes of the other entries, and of the manifest where a
  run fails.  Directories are made on the way to the target only (`foundsOrSpares_of_adds`), and the
  replacement touches no other file (`get?_of_beside`).
-/

namespace RecipeMatrix

open Files RecipeMatrix.Path

/-! ## Alike manifests -/

namespace Manifest

/-- The selected cells of the catalog of a manifest. -/
def cells (manifest : Manifest) (selection : Selection) : Except Error (List Cell) := do
  let catalog ← manifest.catalog
  selection.cells catalog

/-- The recipes of the selected cells, with the built-in template. -/
def recipes (manifest : Manifest) (selection : Selection) : Except Error (List Recipe) := do
  let catalog ← manifest.catalog
  let generator ← Generator.ofCatalog catalog
  generator.recipes selection

/-- Two manifests come to the same, whatever is selected. -/
structure Alike (first second : Manifest) : Prop where
  catalog_eq : first.catalog = second.catalog
  cells_eq : ∀ selection, first.cells selection = second.cells selection
  recipes_eq : ∀ selection, first.recipes selection = second.recipes selection

/-- The directory of a manifest plays no part. -/
theorem alike_of_detached {first second : Manifest} (hsame : first.detached = second.detached) :
    Alike first second := by
  have hcatalog : first.catalog = second.catalog := by
    change first.detached.catalog = second.detached.catalog
    rw [hsame]
  refine ⟨hcatalog, fun selection => ?_, fun selection => ?_⟩
  · rw [cells, cells, hcatalog]
  · rw [recipes, recipes, hcatalog]

theorem exists_catalog_builtin : ∃ catalog, builtin.catalog = .ok catalog := by
  have haccepted : builtin.catalog.isOk = true := by decide +kernel
  cases hcatalog : builtin.catalog with
  | ok catalog => exact ⟨catalog, rfl⟩
  | error error =>
    rw [hcatalog] at haccepted
    cases haccepted

end Manifest

/-! ## The manifest -/

/-- What a run of `init` leaves that succeeds. -/
structure Founded (options : InitOptions) (after : Workspace) : Prop where
  /-- The manifest is a file. -/
  isFile : after.isFile options.manifestPath = true
  /-- It is loaded as the built-in manifest, but for its directory. -/
  load : (Manifest.load options.manifestPath).outcome after =
    (.ok (Manifest.builtin.placed options.manifestPath), after)
  /-- It has a catalog, which comes into use where the manifest is asked for. -/
  inUse : ∃ catalog, Manifest.builtin.catalog = .ok catalog ∧
    LoadedManifest.inUse (some options.manifestPath) after =
      .ok (⟨Manifest.builtin.placed options.manifestPath, some options.manifestPath⟩, catalog)
  /-- It comes to what is used where no manifest is found. -/
  alike : ∀ asked elsewhere loaded,
    ((LoadedManifest.find asked).outcome elsewhere).1 = .ok loaded → loaded.path = none →
      (Manifest.builtin.placed options.manifestPath).Alike loaded.manifest
  /-- It can be written again by force, and that changes nothing. -/
  again : ∀ manifest display, ∃ outcome,
    ((Command.init { options with force := true }).run manifest display).run after =
      (outcome, after) ∧ outcome.result = .ok ()

namespace InitOptions

variable {options : InitOptions} {document : String} {before made after : Workspace}

/-- A run that succeeded succeeds again by force, and changes nothing. -/
theorem outcome_work_again (hdocument : Manifest.initialDocument = .ok document)
    (houtcome : options.work.outcome before = (.ok (), after)) :
    (work { options with force := true }).outcome after = (.ok (), after) := by
  rw [outcome_work options hdocument] at houtcome
  rw [outcome_work { options with force := true } hdocument, if_neg (by simp)]
  split at houtcome
  next => cases houtcome
  next =>
    rcases hrequired : (requireDirectory options.target).outcome before with ⟨failure | _, made⟩
    · rw [hrequired] at houtcome
      cases houtcome
    · rw [hrequired] at houtcome
      obtain ⟨directory, hwrote⟩ := exists_wrote isName_fileName houtcome
      have hagain : (requireDirectory (target { options with force := true })).outcome after =
          (.ok (), after) :=
        outcome_requireDirectory_again hrequired hwrote.current_eq hwrote.directories
      rw [hagain]
      exact outcome_replaceContent_again isName_fileName houtcome

theorem founded_of_content (hdocument : Manifest.initialDocument = .ok document)
    (houtcome : options.work.outcome before = (.ok (), after))
    (hcontent : after.content options.manifestPath = .ok document.toUTF8) :
    Founded options after := by
  have hparse := Manifest.parse_of_initialDocument hdocument
  have hfile := Workspace.content_eq_ok_iff.1 hcontent
  exact
    { isFile := Workspace.isFile_iff.2 ⟨_, hfile⟩
      load := Manifest.outcome_load hcontent hparse
      inUse := by
        obtain ⟨catalog, hcatalog⟩ := Manifest.exists_catalog_builtin
        obtain ⟨place, hfind⟩ := Workspace.found?_eq_some_iff.1 hfile
        exact ⟨catalog, hcatalog,
          LoadedManifest.inUse_of_parse (Manifest.locate_some hfind) hfind hparse hcatalog⟩
      alike := by
        intro asked elsewhere loaded hloaded hpath
        obtain ⟨-, rfl⟩ := LoadedManifest.eq_builtin_of_path_eq_none hloaded hpath
        exact Manifest.alike_of_detached rfl
      again := by
        intro manifest display
        have hagain := outcome_work_again hdocument houtcome
        obtain ⟨hresult, hafter⟩ := run_init { options with force := true } manifest display after
        rw [hagain] at hresult hafter
        exact ⟨_, Prod.ext rfl hafter, hresult⟩ }

/-! ## The rest -/

theorem manifestPath_eq (options : InitOptions) :
    options.manifestPath = options.target.join ⟨Manifest.fileName⟩ := rfl

theorem place_manifestPath (options : InitOptions) (workspace : Workspace) :
    workspace.place options.manifestPath =
      Manifest.fileName :: workspace.place options.target :=
  workspace.place_join isName_fileName

theorem place_temporaryPath (options : InitOptions) (workspace : Workspace) :
    workspace.place (temporaryPath options.manifestPath) =
      temporaryName Manifest.fileName :: workspace.place options.target := by
  rw [manifestPath, temporaryPath_join isName_fileName,
    workspace.place_join isName_fileName.temporary, Workspace.place_holder]
  rfl

end InitOptions

/-- What a run of `init` leaves, by how it ends. -/
structure FoundsOrSpares (options : InitOptions) (before after : Workspace)
    (result : Except Failure Unit) : Prop where
  founded : result = .ok () → Founded options after
  /-- A failure leaves the manifest as it was. -/
  spared : result ≠ .ok () →
    after.files.get? (Manifest.fileName :: before.place options.target) =
        before.files.get? (Manifest.fileName :: before.place options.target) ∧
      after.found? options.manifestPath = before.found? options.manifestPath
  /-- Nothing else that was there is touched, except the temporary file. -/
  kept : ∀ place entry, before.files.get? place = some entry →
    place ≠ Manifest.fileName :: before.place options.target →
    place ≠ temporaryName Manifest.fileName :: before.place options.target →
    after.files.get? place = some entry

namespace InitOptions

variable {options : InitOptions} {document : String} {before made after : Workspace}

theorem foundsOrSpares_self (failure : Failure) :
    FoundsOrSpares options before before (.error failure) where
  founded := nofun
  spared := fun _ => ⟨rfl, rfl⟩
  kept := fun _ _ hentry _ _ => hentry

/-- Directories on the way to the target may be made first. -/
theorem foundsOrSpares_of_adds {result : Except Failure Unit} (hplain : options.target.IsPlain)
    (hcurrent : made.current = before.current)
    (hadds : FileSystem.AddsDirectories (before.onTheWay options.target) before.files made.files)
    (hends : FoundsOrSpares options made after result) :
    FoundsOrSpares options before after result := by
  have hplace := Workspace.place_congr hcurrent options.target
  have hentry := Workspace.get?_of_adds_onTheWay hadds Manifest.fileName
  have hfound : made.found? options.manifestPath = before.found? options.manifestPath :=
    Workspace.found?_congr (hplain.join isName_fileName) hcurrent
      (by rwa [place_manifestPath])
  obtain ⟨hfounded, hspared, hkept⟩ := hends
  rw [hplace] at hspared hkept
  refine ⟨hfounded, fun hfailed => ?_, fun place entry hbefore => hkept place entry ?_⟩
  · obtain ⟨hsame, hseen⟩ := hspared hfailed
    exact ⟨hsame.trans hentry, hseen.trans hfound⟩
  · rw [hadds.get?_of_ne_none (by simp [hbefore]), hbefore]

/-- A replacement of the manifest touches nothing else. -/
theorem get?_of_beside (hbeside : Beside options.manifestPath made after) {place : Place}
    {entry : Entry} (hentry : made.files.get? place = some entry)
    (hmanifest : place ≠ Manifest.fileName :: made.place options.target)
    (htemporary : place ≠ temporaryName Manifest.fileName :: made.place options.target) :
    after.files.get? place = some entry := by
  rw [← place_manifestPath] at hmanifest
  rw [← place_temporaryPath] at htemporary
  rcases hbeside.places place hmanifest htemporary with hsame | ⟨-, hnone, -⟩
  · rw [hsame, hentry]
  · rw [hentry] at hnone
    cases hnone

theorem foundsOrSpares_work (hplain : options.target.IsPlain)
    (hdocument : Manifest.initialDocument = .ok document) (before : Workspace) :
    FoundsOrSpares options before (options.work.outcome before).2
      (options.work.outcome before).1 := by
  have hwork := outcome_work options hdocument before
  obtain ⟨hcurrent, -⟩ := requireDirectory_adds options.target before
  have hadds := requireDirectory_adds_onTheWay hplain before
  split at hwork
  next =>
    rw [hwork]
    exact foundsOrSpares_self _
  next =>
    rcases hrequired : (requireDirectory options.target).outcome before with ⟨failure | _, made⟩
    · rw [hrequired] at hwork hcurrent hadds
      rw [hwork]
      exact foundsOrSpares_of_adds hplain hcurrent hadds (foundsOrSpares_self failure)
    · rw [hrequired] at hwork hcurrent hadds
      obtain ⟨after, hbeside, hends⟩ :=
        replaceContent_ends (hplain.join isName_fileName) document.toUTF8 made
      rcases hends with ⟨houtcome, hreplaced⟩ | ⟨failure, houtcome, hleft⟩
      · have hdone : options.work.outcome before = (.ok (), after) := hwork.trans houtcome
        rw [hdone]
        exact foundsOrSpares_of_adds hplain hcurrent hadds
          { founded := fun _ => founded_of_content hdocument hdone hreplaced.content_eq
            spared := fun hnot => absurd rfl hnot
            kept := fun _ _ => get?_of_beside hbeside }
      · have hfailed : options.work.outcome before = (.error failure, after) :=
          hwork.trans houtcome
        have hentry := hleft.entry_eq
        rw [← manifestPath_eq, place_manifestPath] at hentry
        rw [hfailed]
        exact foundsOrSpares_of_adds hplain hcurrent hadds
          { founded := nofun
            spared := fun _ => ⟨hentry, hleft.found?_eq⟩
            kept := fun _ _ => get?_of_beside hbeside }

end InitOptions

/-- With and without force, every run of `init` to a target without `..` ends in one of two ways.
It leaves the built-in manifest, but for its directory, and with it the same is generated as with
none; or it fails, and spares the manifest.  Nothing else that was there is touched, except the
temporary file. -/
theorem founds_or_spares {options : InitOptions} (hplain : options.target.IsPlain)
    (manifest : Option Path) (display : Display) (before : Workspace) :
    ∃ outcome after,
      ((Command.init options).run manifest display).run before = (outcome, after) ∧
        FoundsOrSpares options before after outcome.result := by
  obtain ⟨document, hdocument⟩ : ∃ document, Manifest.initialDocument = .ok document := ⟨_, rfl⟩
  obtain ⟨hresult, hafter⟩ := InitOptions.run_init options manifest display before
  have hends := InitOptions.foundsOrSpares_work hplain hdocument before
  rw [← hresult, ← hafter] at hends
  exact ⟨_, _, rfl, hends⟩

/-- A new manifest below the one of `owned`. -/
theorem founds_or_spares_owned :
    (InitOptions.target ⟨some ⟨"sub"⟩, false⟩).IsPlain ∧ ∃ outcome after,
      ((Command.init ⟨some ⟨"sub"⟩, false⟩).run none ⟨false, false⟩).run owned =
          (outcome, after) ∧
        outcome.result = .ok () ∧ Founded ⟨some ⟨"sub"⟩, false⟩ after ∧
        after.files.get? [Manifest.fileName, "work"] = some (.file "# mine\n".toUTF8) := by
  have hplain : (InitOptions.target ⟨some ⟨"sub"⟩, false⟩).IsPlain := by decide +kernel
  have hok : (((Command.init ⟨some ⟨"sub"⟩, false⟩).run none ⟨false, false⟩).run
      owned).1.result.isOk = true := by decide +kernel
  have hmine : owned.files.get? [Manifest.fileName, "work"] = some (.file "# mine\n".toUTF8) := by
    decide +kernel
  obtain ⟨outcome, after, hrun, hends⟩ := founds_or_spares hplain none ⟨false, false⟩ owned
  have hresult : outcome.result = .ok () := by
    rw [hrun] at hok
    cases hanswer : outcome.result with
    | ok => rfl
    | error failure =>
      rw [hanswer] at hok
      cases hok
  exact ⟨hplain, outcome, after, hrun, hresult, hends.founded hresult,
    hends.kept _ _ hmine (by decide +kernel) (by decide +kernel)⟩

end RecipeMatrix
