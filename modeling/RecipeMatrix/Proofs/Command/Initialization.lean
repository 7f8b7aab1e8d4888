import RecipeMatrix.Command.Run
import RecipeMatrix.Proofs.Files.Deliveries

/-!
# New manifests

What `init` without force does to the manifests that are there when it starts.

There are three groups.

* Directories.  Making the target directory adds directories and touches nothing else
  (`requireDirectory_adds`).
* The run.  `outcome_work` takes a run apart into the look at the path of the manifest, the making
  of the directory, and the writing.
* Manifests.  `Initialized` says what a run leaves.  A failure leaves every manifest as it was.  A
  success writes one, at a path at which nothing was seen when the run started.

The look comes before the directory is made.  Where the target has no `..`, or can be reached from
the start, it sees the place that is written to, and no manifest is replaced.  Otherwise the path
may lead to a manifest as soon as the directory is there; `not_forall_keepsManifests` is such a
run.
-/

namespace RecipeMatrix

open Files RecipeMatrix.Path

/-! ## Directories -/

namespace Files

/-- Requiring a directory adds directories, and no more. -/
theorem requireDirectory_adds (path : Path) (workspace : Workspace) :
    ((requireDirectory path).outcome workspace).2.current = workspace.current ∧
      FileSystem.AddsDirectories (fun _ => True) workspace.files
        ((requireDirectory path).outcome workspace).2.files := by
  rw [outcome_requireDirectory]
  split
  next => exact ⟨rfl, .refl _⟩
  next => exact makeWithOuter_adds _ _ workspace _ (Program.run_mem_states _ workspace)

/-- Without `..` they are on the way to the place of the path. -/
theorem requireDirectory_adds_onTheWay {path : Path} (hplain : path.IsPlain)
    (workspace : Workspace) :
    FileSystem.AddsDirectories (workspace.onTheWay path) workspace.files
      ((requireDirectory path).outcome workspace).2.files := by
  rw [outcome_requireDirectory]
  split
  next => exact .refl _
  next =>
    exact (makeDirectories_adds_onTheWay hplain workspace _ (Program.run_mem_states _ workspace)).2

end Files

/-! ## The run -/

namespace InitOptions

/-- The directory that a new manifest goes to. -/
def target (options : InitOptions) : Path := options.directory.getD ⟨"."⟩

/-- Without force, a run stops where something stands at the path of the manifest.  It stops where
the directory cannot be made, and otherwise writes the manifest. -/
theorem outcome_work (options : InitOptions) {document : String}
    (hdocument : Manifest.initialDocument = .ok document) (before : Workspace) :
    options.work.outcome before =
      if before.present options.manifestPath = true ∧ options.force = false then
        (.error (.ofMessage ("Manifest already exists at " ++ options.manifestPath.text ++
          ". Use --force to overwrite")), before)
      else
        match (requireDirectory options.target).outcome before with
        | (.error failure, made) => (.error failure, made)
        | (.ok (), made) =>
            (replaceContent options.manifestPath document.toUTF8).outcome made := by
  rw [work, Attempt.outcome_bind, Attempt.outcome_always, Program.run_present]
  simp only [Bool.and_eq_true, Bool.not_eq_true']
  split
  next => rfl
  next =>
    simp only [hdocument]
    rw [Attempt.outcome_bind, target]
    rcases (requireDirectory (options.directory.getD ⟨"."⟩)).outcome before with ⟨_ | _, made⟩
    · rfl
    · rfl

end InitOptions

/-! ## Manifests -/

/-- Every manifest of the first workspace, wherever it is, is the same in the second one. -/
def KeepsManifests (before after : Workspace) : Prop :=
  ∀ directory entry, before.files.get? (Manifest.fileName :: directory) = some entry →
    after.files.get? (Manifest.fileName :: directory) = some entry

/-- The place that a path leads to is known: the path has no `..`, or it can be reached. -/
def Reachable (path : Path) (workspace : Workspace) : Prop :=
  path.IsPlain ∨ ∃ directory, workspace.reach path = .ok directory

/-- What a run of `init` without force leaves. -/
structure Initialized (target : Path) (document : String) (before after : Workspace)
    (result : Except Failure Unit) : Prop where
  /-- A failure leaves all manifests alone. -/
  failing : result ≠ .ok () → KeepsManifests before after
  /-- A success writes a manifest to the directory that the target leads to in the end.  Nothing
  was seen there at the start, and no other manifest is touched. -/
  succeeding : result = .ok () →
    before.found? (target.join ⟨Manifest.fileName⟩) = none ∧
      ∃ directory, after.reach target = .ok directory ∧
        after.files.get? (Manifest.fileName :: directory) = some (.file document.toUTF8) ∧
        ∀ other entry, other ≠ directory →
          before.files.get? (Manifest.fileName :: other) = some entry →
            after.files.get? (Manifest.fileName :: other) = some entry
  /-- Where the target is known from the start there was no manifest in that directory either. -/
  created : Reachable target before → result = .ok () → ∀ directory,
    after.reach target = .ok directory →
      before.files.get? (Manifest.fileName :: directory) = none
  /-- Then no manifest is replaced. -/
  kept : Reachable target before → KeepsManifests before after

namespace InitOptions

theorem isName_fileName : IsName Manifest.fileName := by
  constructor <;> decide +kernel

theorem head?_ne_temporaryName (directory : Place) :
    (Manifest.fileName :: directory).head? ≠ some (temporaryName Manifest.fileName) := by
  intro hsame
  have hlength := length_temporaryName Manifest.fileName
  rw [← Option.some.inj hsame] at hlength
  omega

/-- Where the target is known from the start, the look at the path of the manifest sees the place
that it leads to in the end. -/
theorem get?_of_found? {target : Path} {before after : Workspace} {directory : Place}
    (hcurrent : after.current = before.current)
    (hdirectories : ∀ place, before.files.get? place = some .directory →
      after.files.get? place = some .directory)
    (hknown : Reachable target before) (hspells : Workspace.Spells target Manifest.fileName)
    (hreach : after.reach target = .ok directory)
    (hnone : before.found? (target.join ⟨Manifest.fileName⟩) = none) :
    before.files.get? (Manifest.fileName :: directory) = none := by
  rcases hknown with hplain | ⟨seen, hseen⟩
  · obtain ⟨rfl, hshort, -⟩ := (Workspace.reach_eq_ok_iff hplain).1 hreach
    rwa [Workspace.found?_join_of_isPlain isName_fileName hplain, if_pos ⟨hspells, hshort⟩,
      ← Workspace.place_congr hcurrent] at hnone
  · have hsame := Workspace.reach_of_directories hcurrent hdirectories hseen
    obtain rfl : seen = directory := Except.ok.inj (hsame.symm.trans hreach)
    rwa [Workspace.found?_join isName_fileName hseen, if_pos hspells] at hnone

/-- What the command leaves, by what its work comes to. -/
theorem run_init (options : InitOptions) (manifest : Option Path) (display : Display)
    (before : Workspace) :
    (((Command.init options).run manifest display).run before).1.result =
        (options.work.outcome before).1 ∧
      (((Command.init options).run manifest display).run before).2 =
        (options.work.outcome before).2 := by
  rw [Command.run, run, Program.run_bind, Attempt.run_eq_outcome]
  cases (options.work.outcome before).1 <;> exact ⟨rfl, rfl⟩

theorem initialized_of_error {target : Path} {document : String} {before after : Workspace}
    (failure : Failure) (hkept : KeepsManifests before after) :
    Initialized target document before after (.error failure) where
  failing := fun _ => hkept
  succeeding := nofun
  created := nofun
  kept := fun _ => hkept

/-- A run that made the target directory and wrote the manifest there. -/
theorem initialized_of_wrote {target : Path} {document : String}
    {before made after : Workspace} {directory : Place}
    (hnone : before.found? (target.join ⟨Manifest.fileName⟩) = none)
    (hcurrent : made.current = before.current)
    (hadds : FileSystem.AddsDirectories (fun _ => True) before.files made.files)
    (hwrote : Wrote target Manifest.fileName document.toUTF8 made directory after) :
    Initialized target document before after (.ok ()) := by
  have hothers (other : Place) (entry : Entry) (hne : other ≠ directory)
      (hentry : before.files.get? (Manifest.fileName :: other) = some entry) :
      after.files.get? (Manifest.fileName :: other) = some entry := by
    refine hwrote.kept _ entry ?_ (fun hsame => hne (List.cons.inj hsame).2)
      (head?_ne_temporaryName other)
    rw [hadds.get?_of_ne_none (by simp [hentry]), hentry]
  have hcreated (hknown : Reachable target before) (place : Place)
      (hreach : after.reach target = .ok place) :
      before.files.get? (Manifest.fileName :: place) = none :=
    get?_of_found? (hwrote.current_eq.trans hcurrent)
      (fun place hplace => hwrote.directories place (hadds.directory hplace)) hknown
      hwrote.spells hreach hnone
  exact
    { failing := fun hnot => absurd rfl hnot
      succeeding := fun _ => ⟨hnone, directory, hwrote.reach_eq, hwrote.written, hothers⟩
      created := fun hknown _ => hcreated hknown
      kept := fun hknown other entry hentry => by
        refine hothers other entry (fun hsame => ?_) hentry
        rw [hsame, hcreated hknown directory hwrote.reach_eq] at hentry
        cases hentry }

theorem initialized_work (options : InitOptions) (hforce : options.force = false)
    {document : String} (hdocument : Manifest.initialDocument = .ok document)
    (before : Workspace) :
    Initialized options.target document before (options.work.outcome before).2
      (options.work.outcome before).1 := by
  obtain ⟨hcurrent, hadds⟩ := requireDirectory_adds options.target before
  have hmade (directory : Place) (entry : Entry)
      (hentry : before.files.get? (Manifest.fileName :: directory) = some entry) :
      ((requireDirectory options.target).outcome before).2.files.get?
        (Manifest.fileName :: directory) = some entry := by
    rw [hadds.get?_of_ne_none (by simp [hentry]), hentry]
  rw [outcome_work options hdocument]
  split
  next => exact initialized_of_error _ fun _ _ hentry => hentry
  next hfree =>
    have hnone := Workspace.present_eq_false_iff.1
      (Bool.eq_false_iff.2 fun hpresent => hfree ⟨hpresent, hforce⟩)
    rcases houtcome : (requireDirectory options.target).outcome before with ⟨failure | _, made⟩
    · rw [houtcome] at hmade
      exact initialized_of_error failure hmade
    · rw [houtcome] at hmade hcurrent hadds
      dsimp only at hmade hcurrent hadds ⊢
      rcases hwrite : (replaceContent options.manifestPath document.toUTF8).outcome made with
        ⟨failure | _, after⟩
      · exact initialized_of_error failure fun directory entry hentry =>
          get?_of_replaceContent_error isName_fileName hwrite (hmade directory entry hentry)
            (head?_ne_temporaryName directory)
      · obtain ⟨directory, hwrote⟩ := exists_wrote isName_fileName hwrite
        exact initialized_of_wrote hnone hcurrent hadds hwrote

end InitOptions

/-- What every run of `init` without force leaves, however its target is spelled. -/
theorem exists_initialized (directory : Option Path) (manifest : Option Path) (display : Display)
    (before : Workspace) :
    ∃ document outcome after, Manifest.initialDocument = .ok document ∧
      ((Command.init ⟨directory, false⟩).run manifest display).run before = (outcome, after) ∧
      Initialized (directory.getD ⟨"."⟩) document before after outcome.result := by
  obtain ⟨document, hdocument⟩ : ∃ document, Manifest.initialDocument = .ok document := ⟨_, rfl⟩
  obtain ⟨hresult, hafter⟩ := InitOptions.run_init ⟨directory, false⟩ manifest display before
  have hwork := InitOptions.initialized_work ⟨directory, false⟩ rfl hdocument before
  rw [← hresult, ← hafter] at hwork
  exact ⟨document, _, _, hdocument, rfl, hwork⟩

/-- A workspace with a manifest in the current directory. -/
def owned : Workspace where
  files := (Workspace.fresh "work").files.put Manifest.fileName ["work"] (.file "# mine\n".toUTF8)
  current := ["work"]

/-- A new manifest below it leaves it alone. -/
theorem exists_initialized_owned : ∃ outcome after,
    ((Command.init ⟨some ⟨"sub"⟩, false⟩).run none ⟨false, false⟩).run owned = (outcome, after) ∧
      KeepsManifests owned after := by
  obtain ⟨_, outcome, after, -, hrun, hinitialized⟩ :=
    exists_initialized (some ⟨"sub"⟩) none ⟨false, false⟩ owned
  exact ⟨outcome, after, hrun, hinitialized.kept (.inl (by decide +kernel))⟩

/-- Seen through a missing directory the manifest is not there, and it is replaced as soon as the
directory was made. -/
theorem not_forall_keepsManifests :
    ¬∀ (directory manifest : Option Path) (display : Display) (before : Workspace),
      KeepsManifests before
        (((Command.init ⟨directory, false⟩).run manifest display).run before).2 := by
  intro hall
  have hmine : owned.files.get? [Manifest.fileName, "work"] = some (.file "# mine\n".toUTF8) := by
    decide +kernel
  have hreplaced : (((Command.init ⟨some ⟨"missing/.."⟩, false⟩).run none ⟨false, false⟩).run
      owned).2.files.get? [Manifest.fileName, "work"] ≠ some (.file "# mine\n".toUTF8) := by
    decide +kernel
  exact hreplaced (hall (some ⟨"missing/.."⟩) none ⟨false, false⟩ owned ["work"] _ hmine)

end RecipeMatrix
