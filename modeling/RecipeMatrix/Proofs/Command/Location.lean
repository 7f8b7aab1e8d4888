import RecipeMatrix.Proofs.Command.Agreement
import RecipeMatrix.Proofs.Command.Initialization
import RecipeMatrix.Proofs.Generation.Location
import RecipeMatrix.Proofs.Manifest.RoundTrip

/-!
# One manifest, spelled in different ways

A manifest can be named by any path to its file, or be left to be found.  What `generate` does
with it depends on the spelling only through the lengths of the paths that are made from it, as
paths are used as they are written: `RunAlike` says what two runs have in common, and
`runAlike_of_names` that they have it where no path is too long on one side only.

There are five groups.

* The directory of a manifest.  From wherever a manifest is found, its directory is the place that
  the path leads to without its last step (`leads_directoryOf`).
* Loading.  Two paths to one file load one manifest, but for its directory (`endAlike_ofFile`), so
  the output directories that follow from it meet (`exists_meet`).
* A project.  Its manifest is found by its name behind any way back to the directory, however many
  steps the way has (`find_detour`).
* The command (`endAlike_work`, `runAlike_of_names`).
* A way that is too long.  Where the manifest can still be reached but its recipes cannot,
  a run does not do the same (`not_runAlike_detour`).
-/

namespace RecipeMatrix

open Workspace Program RecipeMatrix.Path

namespace Manifest

/-! ## The directory of a manifest -/

/-- A path to a file has a step, and leads to the directory of the file without it. -/
theorem exists_steps_of_find {workspace : Workspace} {path : Path} {place : Place}
    {content : ByteArray} (hfind : workspace.find path = .ok (place, .file content)) :
    ∃ steps part, path.route = steps ++ [part] ∧ IsClear path.route ∧
      walk workspace.files (workspace.start path) steps = .ok place.tail := by
  rw [find_of_target] at hfind
  cases htarget : workspace.target path with
  | error refusal =>
    rw [htarget] at hfind
    cases hfind
  | ok target =>
    rw [htarget] at hfind
    cases target with
    | directory found => cases (Prod.mk.inj (Except.ok.inj hfind)).2
    | name directory name asDirectory =>
      obtain ⟨steps, part, hrefusal, hroute, -, -, hwalk, -, -, -⟩ := target_eq_name htarget
      have hclear := contains_null_eq_false_iff.1 (refusal?_eq_none hrefusal).2.1
      refine ⟨steps, part, hroute, hclear, ?_⟩
      simp only [Except.bind] at hfind
      split at hfind
      next => cases hfind
      next => cases (Prod.mk.inj (Except.ok.inj hfind)).2
      next =>
        split at hfind
        next => cases hfind
        next =>
          rw [← (Prod.mk.inj (Except.ok.inj hfind)).1]
          exact hwalk

theorem directoryOf_spec {path : Path} {steps : List (List Char)} {part : List Char}
    (hroute : path.route = steps ++ [part]) :
    (directoryOf path).route = steps ∧ (directoryOf path).isAbsolute = path.isAbsolute := by
  have houtward := outward_outerPaths path
  unfold directoryOf parent?
  cases hparents : path.outerPaths with
  | nil =>
    rw [hparents] at houtward
    cases houtward with
    | root hnil _ => simp [hnil] at hroute
  | cons nearest further =>
    rw [hparents] at houtward
    cases houtward with
    | root hnil _ => simp [hnil] at hroute
    | step hsteps habsolute _ =>
      rw [hroute] at hsteps
      obtain ⟨rfl, -⟩ := List.append_inj' hsteps rfl
      rw [List.head?_cons]
      dsimp only
      split
      next hempty =>
        have hchars := isEmpty_iff.1 hempty
        have hnil : nearest.route = [] := by
          rw [route, Path.parts, hchars]
          rfl
        have hrelative : nearest.isAbsolute = false := by simp [isAbsolute, hchars]
        rw [habsolute, hnil, hrelative]
        exact ⟨by decide, by decide⟩
      next => exact ⟨rfl, habsolute.symm⟩

/-- The directory of a manifest is where its file is. -/
theorem leads_directoryOf {workspace : Workspace} {path : Path} {place : Place}
    {content : ByteArray} (hfind : workspace.find path = .ok (place, .file content)) :
    Leads workspace place.tail [] (directoryOf path) := by
  obtain ⟨steps, part, hroute, hclear, hwalk⟩ := exists_steps_of_find hfind
  obtain ⟨hsteps, habsolute⟩ := directoryOf_spec hroute
  refine ⟨steps, by rw [hsteps, List.append_nil], ?_, ?_⟩
  · rwa [start, habsolute]
  · rw [hroute, isClear_append] at hclear
    exact hclear.1

/-! ## Loading -/

/-- A way to name a manifest, by a path or by none, that comes to a file. -/
def Names (manifest : Option Path) (workspace : Workspace) (place : Place)
    (content : ByteArray) : Prop :=
  ∃ path, ((locate manifest).outcome workspace).1 = .ok path ∧
    workspace.find path = .ok (place, .file content)

/-- A path is taken as it is given, where something stands. -/
theorem locate_some {workspace : Workspace} {path : Path} {place : Place} {content : ByteArray}
    (hfind : workspace.find path = .ok (place, .file content)) :
    ((locate (some path)).outcome workspace).1 = .ok path := by
  have hpresent : workspace.present path = true := by rw [present, hfind]
  rw [locate, given, Attempt.outcome_if (run_present path workspace), hpresent]
  rfl

theorem names_some {workspace : Workspace} {path : Path} {place : Place} {content : ByteArray}
    (hfind : workspace.find path = .ok (place, .file content)) :
    Names (some path) workspace place content :=
  ⟨path, locate_some hfind, hfind⟩

/-- The manifest that was located is loaded. -/
theorem outcome_find_of_locate {manifest : Option Path} {workspace : Workspace} {path : Path}
    (hlocate : ((locate manifest).outcome workspace).1 = .ok path) :
    (LoadedManifest.find manifest).outcome workspace =
      (LoadedManifest.ofFile path).outcome workspace := by
  cases manifest with
  | some asked =>
    rw [locate, given, Attempt.outcome_if (run_present asked workspace)] at hlocate
    rw [LoadedManifest.find, Attempt.outcome_bind, given,
      Attempt.outcome_if (run_present asked workspace)]
    cases hpresent : workspace.present asked with
    | false => simp [hpresent] at hlocate
    | true =>
      rw [hpresent] at hlocate
      obtain rfl : asked = path := Except.ok.inj hlocate
      rfl
  | none =>
    have hasked := Attempt.outcome_of_makes makes_nearest? workspace
    rw [locate, nearestToCurrent, Attempt.outcome_bind, hasked] at hlocate
    rw [LoadedManifest.find, Attempt.outcome_bind, hasked]
    cases hnearest : (nearest?.outcome workspace).1 with
    | error failure => simp [hnearest] at hlocate
    | ok found =>
      cases found with
      | none => simp [hnearest] at hlocate
      | some nearest =>
        simp only [hnearest, Attempt.outcome_pure, Except.ok.injEq] at hlocate
        rw [hlocate]

/-- Whether a document is a manifest does not depend on where it stands. -/
theorem resultsAlike_parseFrom (first second : Path) (document : String) :
    ResultsAlike Eq (parseFrom first document) (parseFrom second document) := by
  unfold parseFrom
  cases parse document with
  | error fault => exact .error
  | ok manifest => exact .ok rfl

/-- A manifest as it is loaded from a file. -/
def placed (manifest : Manifest) (path : Path) : Manifest :=
  { manifest with directory := some (directoryOf path) }

/-- Recipes go to the directory of the manifest, or to where the manifest says from there. -/
theorem defaultOutput_placed (manifest : Manifest) (path : Path) :
    (manifest.placed path).defaultOutput =
      manifest.outputDirectory?.elim (directoryOf path)
        fun name => (directoryOf path).join name.shown := by
  have houtput : (manifest.placed path).outputDirectory? = manifest.outputDirectory? := rfl
  rw [defaultOutput, houtput]
  cases manifest.outputDirectory? <;> rfl

theorem endAlike_load {workspace : Workspace} {first second : Path}
    (hcontent : workspace.content first = workspace.content second) :
    EndAlike (ResultsAlike fun one other =>
        ∃ manifest : Manifest, one = manifest.placed first ∧ other = manifest.placed second)
      ((load first).outcome workspace) ((load second).outcome workspace) := by
  have hread : EndAlike (ResultsAlike Eq)
      ((Attempt.during ("Failed to read manifest file: " ++ first.text)
        (textOf <$> question (.content first))).outcome workspace)
      ((Attempt.during ("Failed to read manifest file: " ++ second.text)
        (textOf <$> question (.content second))).outcome workspace) := by
    rw [Attempt.outcome_during, Attempt.outcome_during, run_map, run_map, run_content,
      run_content, hcontent]
    exact ⟨(ResultsAlike.self _).mapError _ _, rfl⟩
  refine Attempt.endAlike_then hread fun document other hdocument => ?_
  subst hdocument
  have hparsed (reached : Workspace) : EndAlike (ResultsAlike Eq)
      ((Attempt.ofExcept ((parseFrom first document).mapError Failure.ofError)).outcome reached)
      ((Attempt.ofExcept ((parseFrom second document).mapError Failure.ofError)).outcome
        reached) :=
    ⟨(resultsAlike_parseFrom first second document).mapError _ _, rfl⟩
  refine Attempt.endAlike_then (hparsed _) fun manifest other hmanifest => ?_
  subst hmanifest
  exact ⟨.ok ⟨manifest, rfl, rfl⟩, rfl⟩

theorem textOf_toUTF8 (document : String) : textOf (.ok document.toUTF8) = .ok document := by
  have hdecoded : String.fromUTF8? document.toUTF8 = some document := by
    rw [String.fromUTF8?, String.toUTF8_eq_toByteArray, dif_pos document.isValidUTF8]
    rfl
  simp only [textOf, hdecoded]

/-- What loading a well-formed document comes to. -/
theorem outcome_load {workspace : Workspace} {path : Path} {document : String}
    {manifest : Manifest} (hcontent : workspace.content path = .ok document.toUTF8)
    (hparse : parse document = .ok manifest) :
    (load path).outcome workspace = (.ok (manifest.placed path), workspace) := by
  have hread : (Attempt.during ("Failed to read manifest file: " ++ path.text)
      (textOf <$> question (.content path))).outcome workspace = (.ok document, workspace) := by
    rw [Attempt.outcome_during, run_map, run_content, hcontent, textOf_toUTF8]
    rfl
  have hparsed : (parseFrom path document).mapError Failure.ofError = .ok manifest := by
    rw [parseFrom, hparse]
    rfl
  rw [load, Attempt.outcome_bind, hread]
  dsimp only
  rw [hparsed, Attempt.ofExcept_ok_then]
  rfl

end Manifest

namespace LoadedManifest

open Manifest

/-- One manifest, loaded from two paths. -/
inductive Twins (first second : Path) : LoadedManifest → LoadedManifest → Prop
  | intro (manifest : Manifest) :
      Twins first second ⟨manifest.placed first, some first⟩ ⟨manifest.placed second, some second⟩

variable {workspace : Workspace} {first second : Path} {one other : LoadedManifest}

/-- From two paths with one content, one manifest is loaded, or none from either. -/
theorem endAlike_ofFile (hcontent : workspace.content first = workspace.content second) :
    EndAlike (ResultsAlike (Twins first second)) ((ofFile first).outcome workspace)
      ((ofFile second).outcome workspace) := by
  refine Attempt.endAlike_then (endAlike_load hcontent) ?_
  rintro one other ⟨manifest, rfl, rfl⟩
  exact ⟨.ok (.intro manifest), rfl⟩

theorem Twins.catalog_eq (htwins : Twins first second one other) :
    one.manifest.catalog = other.manifest.catalog := by
  cases htwins
  rfl

/-- The output directories meet, whatever is asked for. -/
theorem Twins.exists_meet {place : Place} {content : ByteArray}
    (htwins : Twins first second one other)
    (hfirst : workspace.find first = .ok (place, .file content))
    (hsecond : workspace.find second = .ok (place, .file content)) (asked : Option Path) :
    ∃ rest, Meet workspace rest (one.output asked) (other.output asked) := by
  obtain ⟨manifest⟩ := htwins
  have hmeet : Meet workspace [] (directoryOf first) (directoryOf second) :=
    ⟨place.tail, leads_directoryOf hfirst, leads_directoryOf hsecond⟩
  cases asked with
  | some output => exact ⟨_, .self workspace output⟩
  | none =>
    simp only [output, Option.getD_none, defaultOutput_placed]
    cases manifest.outputDirectory? with
    | none => exact ⟨[], hmeet⟩
    | some name =>
      simp only [Option.elim_some]
      cases habsolute : name.shown.isAbsolute with
      | true =>
        simp only [join, habsolute, if_true]
        exact ⟨_, .self workspace name.shown⟩
      | false => exact ⟨_, hmeet.join habsolute⟩

/-- A manifest with a catalog comes into use. -/
theorem inUse_of_parse {located : Option Path} {path : Path} {place : Place} {document : String}
    {manifest : Manifest} {catalog : Catalog}
    (hlocate : ((locate located).outcome workspace).1 = .ok path)
    (hfind : workspace.find path = .ok (place, .file document.toUTF8))
    (hparse : parse document = .ok manifest) (hcatalog : manifest.catalog = .ok catalog) :
    inUse located workspace = .ok (⟨manifest.placed path, some path⟩, catalog) := by
  have hcontent : workspace.content path = .ok document.toUTF8 := by
    rw [content, hfind]
    rfl
  have hplaced : (manifest.placed path).catalog = .ok catalog := hcatalog
  rw [inUse, outcome_find_of_locate hlocate, ofFile, Attempt.outcome_bind,
    outcome_load hcontent hparse]
  simp only [Attempt.outcome_pure, hplaced]

end LoadedManifest

/-! ## A project -/

namespace Manifest

/-- A manifest with one platform and two compilers. -/
def pair : Manifest where
  generator := none
  platforms := [⟨"debian", "debian:12", "apt-get install -y \x7bdeps\x7d", ["make"], []⟩]
  compilers := [⟨"gcc", "g++"⟩, ⟨"clang", "clang"⟩]
  directory := none

/-- The document that it is written as. -/
def pairDocument : String :=
  "[[platforms]]\nname = \"debian\"\nimage = \"debian:12\"\n" ++
  "install-command = \"apt-get install -y \x7bdeps\x7d\"\n" ++
  "dev-deps = [\"make\"]\nruntime-deps = []\n\n" ++
  "[[compilers]]\nname = \"gcc\"\npackage = \"g++\"\n\n" ++
  "[[compilers]]\nname = \"clang\"\npackage = \"clang\"\n"

/-- The document is written, not read, to see that it is the one of the manifest: that computes
much less. -/
theorem parse_pairDocument : parse pairDocument = .ok pair := by
  have hrender : pair.render = .ok pairDocument := by decide +kernel
  have htext : ∀ name, pair.outputDirectory? = some name → ∃ path, name = .text path := nofun
  exact parse_of_render htext hrender

theorem catalog_pair : pair.catalog = .ok (Catalog.small "gcc" "clang") := by decide +kernel

end Manifest

namespace Path

/-- The way into the directory `sub` and back, a number of times. -/
def roundTrips : Nat → Path
  | 0 => ⟨""⟩
  | times + 1 => (roundTrips times).join ⟨"sub/.."⟩

/-- The manifest behind a number of round trips. -/
def detour (times : Nat) : Path := (roundTrips times).join ⟨Manifest.fileName⟩

/-- The steps of one round trip. -/
def trip : List (List Char) := ["sub".toList, "..".toList]

theorem route_roundTrips_succ (times : Nat) :
    (roundTrips (times + 1)).route = (roundTrips times).route ++ trip :=
  route_join_of_relative (by decide)

theorem byteSize_roundTrips_le (times : Nat) :
    byteSize (roundTrips times).chars ≤ 7 * times := by
  induction times with
  | zero => exact Nat.le_refl 0
  | succ times ih =>
    have hjoin : byteSize (roundTrips (times + 1)).chars ≤
        byteSize (roundTrips times).chars + 1 + 6 := byteSize_join_le (by decide)
    omega

theorem isShort_detour {times : Nat} (htimes : times ≤ 583) : (detour times).IsShort := by
  have hway := byteSize_roundTrips_le times
  have hjoin : byteSize (detour times).chars ≤ byteSize (roundTrips times).chars + 1 + 12 :=
    byteSize_join_le InitOptions.isName_fileName.not_isAbsolute
  unfold IsShort maxPathSize
  omega

end Path

namespace Workspace

/-- A directory with a manifest and a directory `sub`, seen from inside. -/
def project : Workspace where
  files := ((FileSystem.empty.put "work" [] .directory).put "sub" ["work"] .directory).put
    Manifest.fileName ["work"] (.file Manifest.pairDocument.toUTF8)
  current := ["work"]

/-- The manifest of the project. -/
def manifestPlace : Place := [Manifest.fileName, "work"]

theorem get?_manifestPlace :
    project.files.get? manifestPlace = some (.file Manifest.pairDocument.toUTF8) := by
  rw [project, FileSystem.get?_put (by decide +kernel), manifestPlace, if_pos rfl]

/-- The manifest is found by its bare name. -/
theorem find_fileName : project.find ⟨Manifest.fileName⟩ =
    .ok (manifestPlace, .file Manifest.pairDocument.toUTF8) := by
  have hlookup : Files.lookupRefusal? project.files ["work"]
      ((⟨""⟩ : Path).join ⟨Manifest.fileName⟩) Manifest.fileName = none := by
    decide +kernel
  have hbare : (⟨""⟩ : Path).join ⟨Manifest.fileName⟩ = ⟨Manifest.fileName⟩ := by decide
  rw [← hbare]
  exact Files.find_file InitOptions.isName_fileName rfl hlookup get?_manifestPlace

/-- It is found behind every way to its directory. -/
theorem find_join_fileName {base : Path} (hleads : Leads project ["work"] [] base)
    (hshort : (base.join ⟨Manifest.fileName⟩).IsShort) :
    project.find (base.join ⟨Manifest.fileName⟩) =
      .ok (manifestPlace, .file Manifest.pairDocument.toUTF8) := by
  have hmeet : Meet project [] ⟨""⟩ base := ⟨["work"], .self project ⟨""⟩, hleads⟩
  rw [← hmeet.find_eq InitOptions.isName_fileName (iff_of_true (by decide) hshort)]
  exact find_fileName

theorem leads_roundTrips (times : Nat) : Leads project ["work"] [] (roundTrips times) := by
  have htrip : walk project.files ["work"] trip = .ok ["work"] := by decide +kernel
  induction times with
  | zero => exact .self project ⟨""⟩
  | succ times ih =>
    have hjoin : Leads project ["work"] (trip ++ []) (roundTrips (times + 1)) :=
      ih.join (by decide)
    exact hjoin.advance htrip (by decide)

theorem find_detour {times : Nat} (htimes : times ≤ 583) : project.find (detour times) =
    .ok (manifestPlace, .file Manifest.pairDocument.toUTF8) :=
  find_join_fileName (leads_roundTrips times) (isShort_detour htimes)

theorem inUse_project {manifest : Option Path} {path : Path}
    (hlocate : ((Manifest.locate manifest).outcome project).1 = .ok path)
    (hfind : project.find path = .ok (manifestPlace, .file Manifest.pairDocument.toUTF8)) :
    LoadedManifest.inUse manifest project =
      .ok (⟨Manifest.pair.placed path, some path⟩, Catalog.small "gcc" "clang") :=
  LoadedManifest.inUse_of_parse hlocate hfind Manifest.parse_pairDocument Manifest.catalog_pair

end Workspace

/-! ## The command -/

/-- Two results alike: both say that all is up to date, or both report alike. -/
inductive GenerateResult.Alike : GenerateResult → GenerateResult → Prop
  | upToDate {first second : Path} : Alike (.upToDate first) (.upToDate second)
  | reported {first second : Path} {report other : Report} (halike : report.Alike other) :
      Alike (.reported first report) (.reported second other)

theorem GenerateResult.Alike.conclusion {first second : GenerateResult}
    (halike : first.Alike second) : ResultsAlike Eq first.conclusion second.conclusion := by
  cases halike with
  | upToDate => exact .ok rfl
  | reported halike =>
    simp only [GenerateResult.conclusion, Report.ensureSuccess, halike.isSuccess_eq]
    split
    next => exact .ok rfl
    next => exact .error

namespace GenerateOptions

variable {options : GenerateOptions} {first second : Option Path} {workspace : Workspace}

/-- No path that the run makes of one way to name the manifest is too long, unless the one that
the other run makes of the other way is too.  The paths of temporary files and of the directory
matter only if something is to be written. -/
def LengthsAgree (options : GenerateOptions) (first second : Option Path)
    (workspace : Workspace) : Prop :=
  ∀ one other catalog cells, LoadedManifest.inUse first workspace = .ok (one, catalog) →
    LoadedManifest.inUse second workspace = .ok (other, catalog) →
    options.selection.cells catalog = .ok cells → ∀ cell ∈ cells,
      Workspace.LengthsAgree ((one.output options.output).join ⟨cell.outputName⟩)
          ((other.output options.output).join ⟨cell.outputName⟩) ∧
        (¬options.Looks →
          Files.AgreeFor cell.outputName (one.output options.output)
            (other.output options.output))

/-- Two runs that differ in how the manifest is named, and in nothing that they do. -/
structure RunAlike (options : GenerateOptions) (first second : Option Path)
    (workspace : Workspace) : Prop where
  /-- Both fail before they write, or both come to the same numbers of recipes of each kind. -/
  work : EndAlike (ResultsAlike GenerateResult.Alike) ((options.work first).outcome workspace)
    ((options.work second).outcome workspace)
  /-- The commands leave the same files and end with the same exit code. -/
  run : ∀ display, EndAlike (fun one other : Outcome => one.exitCode = other.exitCode)
    (((Command.generate options).run first display).run workspace)
    (((Command.generate options).run second display).run workspace)
  /-- The recipes belong in the same place, before the run and after it. -/
  location : ∀ one other, ((LoadedManifest.find first).outcome workspace).1 = .ok one →
    ((LoadedManifest.find second).outcome workspace).1 = .ok other →
    ∀ reached, reached = workspace ∨ reached = ((options.work first).outcome workspace).2 →
      reached.reach (one.output options.output) = reached.reach (other.output options.output)

/-- The reports of both runs count the same numbers of recipes. -/
theorem RunAlike.report_alike {output otherOutput : Path} {report other : Report}
    (halike : options.RunAlike first second workspace)
    (hfirst : ((options.work first).outcome workspace).1 = .ok (.reported output report))
    (hsecond : ((options.work second).outcome workspace).1 = .ok (.reported otherOutput other)) :
    report.Alike other := by
  have hwork := halike.work.result
  rw [hfirst, hsecond] at hwork
  cases hwork with
  | ok hresults =>
    cases hresults with
    | reported hreports => exact hreports

/-- What is done once a catalog and an output directory are known. -/
def workWith (options : GenerateOptions) (catalog : Catalog) (output : Path) :
    Attempt Error GenerateResult := do
  let generator : Generator := ⟨catalog, Recipe.builtin⟩
  if options.check then
    generator.check options.selection output
    pure (.upToDate output)
  else
    let report ← generator.generate options.selection output options.dryRun
    pure (.reported output report)

theorem outcome_work (options : GenerateOptions) (manifest : Option Path)
    (workspace : Workspace) :
    (options.work manifest).outcome workspace =
      match LoadedManifest.inUse manifest workspace with
      | .error failure => (.error failure, workspace)
      | .ok (loaded, catalog) =>
          (Attempt.mapError Failure.ofError
            (options.workWith catalog (loaded.output options.output))).outcome workspace := by
  rw [work, Attempt.outcome_bind, LoadedManifest.outcome_find, LoadedManifest.inUse]
  cases ((LoadedManifest.find manifest).outcome workspace).1 with
  | error failure => rfl
  | ok loaded =>
    dsimp only
    cases loaded.manifest.catalog with
    | error error => rw [Attempt.ofExcept_error_then, Attempt.outcome_mapError]; rfl
    | ok catalog =>
      rw [Attempt.ofExcept_ok_then, Generator.ofCatalog_eq, Attempt.ofExcept_ok_then]
      rfl

/-- Output directories that meet are worked on alike. -/
theorem endAlike_workWith {catalog : Catalog} {output other : Path} {rest : List (List Char)}
    (hmeet : Meet workspace rest output other)
    (hagrees : ∀ dryRun, (dryRun = false → ¬options.Looks) → ∀ recipes,
      (⟨catalog, Recipe.builtin⟩ : Generator).recipes options.selection = .ok recipes →
        ∀ recipe ∈ recipes, recipe.Agrees dryRun output other) :
    EndAlike (ResultsAlike GenerateResult.Alike)
      ((options.workWith catalog output).outcome workspace)
      ((options.workWith catalog other).outcome workspace) := by
  unfold workWith
  split
  next =>
    exact Attempt.endAlike_then (Generator.endAlike_check hmeet (hagrees true nofun))
      fun _ _ _ => ⟨.ok .upToDate, rfl⟩
  next hcheck =>
    have hwrites : options.dryRun = false → ¬options.Looks := by
      rintro hdry (hlooks | hlooks)
      · exact hcheck hlooks
      · simp [hdry] at hlooks
    exact Attempt.endAlike_then (Generator.endAlike_generate hmeet (hagrees _ hwrites))
      fun _ _ halike => ⟨.ok (.reported halike), rfl⟩

/-- What the lengths have to do with the recipes of a run. -/
theorem LengthsAgree.agrees {one other : LoadedManifest} {catalog : Catalog}
    (hlengths : options.LengthsAgree first second workspace)
    (hone : LoadedManifest.inUse first workspace = .ok (one, catalog))
    (hother : LoadedManifest.inUse second workspace = .ok (other, catalog))
    (haccepted : catalog.Accepted) (dryRun : Bool) (hwrites : dryRun = false → ¬options.Looks) :
    ∀ recipes, (⟨catalog, Recipe.builtin⟩ : Generator).recipes options.selection = .ok recipes →
      ∀ recipe ∈ recipes,
        recipe.Agrees dryRun (one.output options.output) (other.output options.output) := by
  intro recipes hrecipes recipe hrecipe
  obtain ⟨cells, hcells, -⟩ := Recipe.ofSelection_eq_ok_iff.1 hrecipes
  have hof := (Generator.mem_recipes_iff hcells hrecipes).1 hrecipe
  have hname := Generator.isName_of_mem_recipes haccepted hrecipes recipe hrecipe
  obtain ⟨cell, hcell, hcellRecipe⟩ := hof
  obtain ⟨hpath, hwriting⟩ := hlengths one other catalog cells hone hother hcells cell hcell
  rw [← (Recipe.ofCell_eq_ok hcellRecipe).2.2] at hpath hwriting
  exact ⟨hname, hpath, fun hdry => hwriting (hwrites hdry)⟩

section

variable {path other : Path} {place : Place} {content : ByteArray}

theorem endAlike_find (hlocate : ((Manifest.locate first).outcome workspace).1 = .ok path)
    (hotherLocate : ((Manifest.locate second).outcome workspace).1 = .ok other)
    (hfind : workspace.find path = .ok (place, .file content))
    (hotherFind : workspace.find other = .ok (place, .file content)) :
    EndAlike (ResultsAlike (LoadedManifest.Twins path other))
      ((LoadedManifest.find first).outcome workspace)
      ((LoadedManifest.find second).outcome workspace) := by
  rw [Manifest.outcome_find_of_locate hlocate, Manifest.outcome_find_of_locate hotherLocate]
  refine LoadedManifest.endAlike_ofFile ?_
  simp only [Workspace.content, hfind, hotherFind]

/-- One manifest with one accepted catalog comes into use, or none. -/
theorem resultsAlike_inUse
    (hfound : ResultsAlike (LoadedManifest.Twins path other)
      ((LoadedManifest.find first).outcome workspace).1
      ((LoadedManifest.find second).outcome workspace).1) :
    ResultsAlike
      (fun one two : LoadedManifest × Catalog =>
        LoadedManifest.Twins path other one.1 two.1 ∧ one.2 = two.2 ∧ one.2.Accepted)
      (LoadedManifest.inUse first workspace) (LoadedManifest.inUse second workspace) := by
  unfold LoadedManifest.inUse
  revert hfound
  generalize ((LoadedManifest.find first).outcome workspace).1 = found
  generalize ((LoadedManifest.find second).outcome workspace).1 = otherFound
  intro hfound
  cases hfound with
  | error => exact .error
  | @ok loaded otherLoaded htwins =>
    simp only [← htwins.catalog_eq]
    cases hcatalog : loaded.manifest.catalog with
    | error error => exact .error
    | ok catalog => exact .ok ⟨htwins, rfl, _, _, hcatalog⟩

/-- The work of two runs that come to one manifest file. -/
theorem endAlike_work (hlocate : ((Manifest.locate first).outcome workspace).1 = .ok path)
    (hotherLocate : ((Manifest.locate second).outcome workspace).1 = .ok other)
    (hfind : workspace.find path = .ok (place, .file content))
    (hotherFind : workspace.find other = .ok (place, .file content))
    (hlengths : options.LengthsAgree first second workspace) :
    EndAlike (ResultsAlike GenerateResult.Alike) ((options.work first).outcome workspace)
      ((options.work second).outcome workspace) := by
  have hinUse := resultsAlike_inUse (endAlike_find hlocate hotherLocate hfind hotherFind).result
  rw [outcome_work, outcome_work]
  cases hone : LoadedManifest.inUse first workspace with
  | error failure =>
    cases hother : LoadedManifest.inUse second workspace with
    | error otherFailure => exact ⟨.error, rfl⟩
    | ok found =>
      rw [hone, hother] at hinUse
      cases hinUse
  | ok found =>
    cases hother : LoadedManifest.inUse second workspace with
    | error failure =>
      rw [hone, hother] at hinUse
      cases hinUse
    | ok otherFound =>
      rw [hone, hother] at hinUse
      obtain ⟨loaded, catalog⟩ := found
      obtain ⟨otherLoaded, otherCatalog⟩ := otherFound
      cases hinUse with
      | ok halike =>
        obtain ⟨htwins, hcatalog, haccepted⟩ := halike
        obtain rfl : catalog = otherCatalog := hcatalog
        obtain ⟨rest, hmeet⟩ := htwins.exists_meet hfind hotherFind options.output
        exact Attempt.endAlike_mapError _ _
          (endAlike_workWith hmeet (hlengths.agrees hone hother haccepted))

end

/-- Runs alike, as the commands that they belong to end. -/
theorem endAlike_run (hwork : EndAlike (ResultsAlike GenerateResult.Alike)
      ((options.work first).outcome workspace) ((options.work second).outcome workspace))
    (display : Display) :
    EndAlike (fun one other : Outcome => one.exitCode = other.exitCode)
      ((options.run first display).run workspace)
      ((options.run second display).run workspace) := by
  refine EndAlike.bind hwork fun answer other halike => ?_
  cases halike with
  | error => exact ⟨rfl, rfl⟩
  | @ok result other halike =>
    refine ⟨?_, rfl⟩
    have hconclusion := halike.conclusion
    revert hconclusion
    simp only [run_pure, Outcome.exitCode]
    generalize result.conclusion = conclusion
    generalize other.conclusion = otherConclusion
    rintro (_ | _) <;> rfl

/-- However the manifest is named, a run does the same: with a path and with another one to the
same file, or with none if that file is the nearest manifest.  Only the lengths of paths can make
a difference. -/
theorem runAlike_of_names {place : Place} {content : ByteArray}
    (hfirst : Manifest.Names first workspace place content)
    (hsecond : Manifest.Names second workspace place content)
    (hlengths : options.LengthsAgree first second workspace) :
    options.RunAlike first second workspace := by
  obtain ⟨path, hlocate, hfind⟩ := hfirst
  obtain ⟨other, hotherLocate, hotherFind⟩ := hsecond
  have hwork := endAlike_work hlocate hotherLocate hfind hotherFind hlengths
  refine ⟨hwork, endAlike_run hwork, fun one two hone htwo reached hreached => ?_⟩
  have hresult := (endAlike_find hlocate hotherLocate hfind hotherFind).result
  rw [hone, htwo] at hresult
  have htwins : LoadedManifest.Twins path other one two := by
    cases hresult with
    | ok htwins => exact htwins
  obtain ⟨rest, hmeet⟩ := htwins.exists_meet hfind hotherFind options.output
  rcases hreached with rfl | rfl
  · exact hmeet.reach_eq
  · exact (hmeet.mono (retains_run (options.work first).run workspace)).reach_eq

theorem runAlike_of_names_project :
    Manifest.Names none project manifestPlace Manifest.pairDocument.toUTF8 ∧
      Manifest.Names (some (detour 1)) project manifestPlace Manifest.pairDocument.toUTF8 ∧
      standard.LengthsAgree none (some (detour 1)) project ∧
      standard.RunAlike none (some (detour 1)) project := by
  have hlocate : ((Manifest.locate none).outcome project).1 = .ok ⟨"/work/dockgen.toml"⟩ := by
    decide +kernel
  have hleads : Leads project ["work"] [] ⟨"/work"⟩ :=
    ⟨_, (List.append_nil _).symm, by decide +kernel, by decide⟩
  have hfind := find_join_fileName hleads (by decide)
  have hotherFind := find_detour (show 1 ≤ 583 by decide)
  have hnames : Manifest.Names none project manifestPlace Manifest.pairDocument.toUTF8 :=
    ⟨_, hlocate, hfind⟩
  have hotherNames := Manifest.names_some hotherFind
  have hall : ∀ cell ∈ (Catalog.small "gcc" "clang").cells,
      Workspace.LengthsAgree
          ((Manifest.directoryOf ⟨"/work/dockgen.toml"⟩).join ⟨cell.outputName⟩)
          ((Manifest.directoryOf (detour 1)).join ⟨cell.outputName⟩) ∧
        Files.AgreeFor cell.outputName (Manifest.directoryOf ⟨"/work/dockgen.toml"⟩)
          (Manifest.directoryOf (detour 1)) := by
    decide +kernel
  have hlengths : standard.LengthsAgree none (some (detour 1)) project := by
    intro one other catalog cells hone hother hcells cell hcell
    rw [inUse_project hlocate hfind] at hone
    rw [inUse_project (Manifest.locate_some hotherFind) hotherFind] at hother
    obtain ⟨rfl, rfl⟩ := Prod.mk.inj (Except.ok.inj hone)
    obtain ⟨rfl, -⟩ := Prod.mk.inj (Except.ok.inj hother)
    obtain ⟨hpath, hwriting⟩ := hall cell (Catalog.mem_cells_of_selection hcells cell hcell)
    exact ⟨hpath, fun _ => hwriting⟩
  exact ⟨hnames, hotherNames, hlengths, runAlike_of_names hnames hotherNames hlengths⟩

end GenerateOptions

/-! ## A way that is too long -/

theorem Path.room_roundTrips (times : Nat) : room (roundTrips times).route = 7 * times := by
  induction times with
  | zero => rfl
  | succ times ih =>
    have htrip : room trip = 7 := rfl
    rw [route_roundTrips_succ, room_append, ih, htrip]
    omega

/-- Behind many round trips the names of recipes do not fit any more, though the name of the
manifest may still do. -/
theorem Path.not_isShort_detour {times : Nat} (htimes : 583 ≤ times) {name : String}
    (hname : IsName name) (hsize : 15 ≤ byteSize name.toList) :
    ¬((Manifest.directoryOf (detour times)).join ⟨name⟩).IsShort := by
  have hroute : (detour times).route = (roundTrips times).route ++ [Manifest.fileName.toList] :=
    route_join InitOptions.isName_fileName
  refine not_isShort_of_room ?_
  rw [route_join hname, (Manifest.directoryOf_spec hroute).1, room_append,
    room_roundTrips, room_cons]
  unfold maxPathSize
  omega

namespace GenerateOptions

/-- The report of a run with the standard options. -/
theorem result_work_standard {manifest : Option Path} {workspace : Workspace}
    {loaded : LoadedManifest} {catalog : Catalog} {output : Path} {report : Report}
    (hinUse : LoadedManifest.inUse manifest workspace = .ok (loaded, catalog))
    (houtput : loaded.output none = output)
    (hreport : (((⟨catalog, Recipe.builtin⟩ : Generator).generate .all output false).outcome
      workspace).1 = .ok report) :
    ((standard.work manifest).outcome workspace).1 = .ok (.reported output report) := by
  have hstandard : standard.workWith catalog output = (do
      let report ← (⟨catalog, Recipe.builtin⟩ : Generator).generate .all output false
      pure (.reported output report)) := rfl
  rw [outcome_work, hinUse]
  dsimp only
  rw [Attempt.outcome_mapError, show standard.output = none from rfl, houtput, hstandard,
    Attempt.outcome_bind]
  revert hreport
  cases (Generator.generate _ _ _ _).outcome workspace with
  | mk answer after =>
    rintro rfl
    rfl

/-- The recipes of the project belong beside its manifest. -/
theorem output_pair (path : Path) :
    LoadedManifest.output ⟨Manifest.pair.placed path, some path⟩ none =
      Manifest.directoryOf path := rfl

/-- The generator of the project. -/
def pairGenerator : Generator := ⟨Catalog.small "gcc" "clang", Recipe.builtin⟩

/-- By its bare name, the manifest gives two recipes. -/
theorem exists_report_fileName : ∃ report,
    ((pairGenerator.generate .all (Manifest.directoryOf ⟨Manifest.fileName⟩) false).outcome
        project).1 = .ok report ∧ report.count .created = 2 := by
  have hcount : ((pairGenerator.generate .all (Manifest.directoryOf ⟨Manifest.fileName⟩)
      false).outcome project).1.map (fun report => report.count .created) = .ok 2 := by
    decide +kernel
  revert hcount
  generalize (Attempt.outcome _ project).1 = answer
  intro hcount
  cases answer with
  | error => cases hcount
  | ok report => exact ⟨report, rfl, Except.ok.inj hcount⟩

/-- By a way that is long enough, it gives none. -/
theorem exists_report_detour {times : Nat} (htimes : 583 ≤ times) : ∃ report,
    ((pairGenerator.generate .all (Manifest.directoryOf (detour times)) false).outcome
        project).1 = .ok report ∧ report.artifacts = [] := by
  have hrecipes := Generator.recipes_all (Catalog.small "gcc" "clang")
  have hsizes : ∀ recipe ∈ (Catalog.small "gcc" "clang").cells.map Recipe.ofBuiltin,
      15 ≤ byteSize recipe.outputName.toList := by
    decide +kernel
  refine Generator.artifacts_of_not_isShort hrecipes (fun recipe hrecipe => ?_) project
  have hname := Generator.isName_of_mem_recipes Catalog.accepted_small hrecipes recipe hrecipe
  exact ⟨hname, not_isShort_detour htimes hname (hsizes recipe hrecipe)⟩

/-- Without a condition on lengths, two names of one manifest can make a difference. -/
theorem not_runAlike_detour :
    Manifest.Names (some ⟨Manifest.fileName⟩) project manifestPlace Manifest.pairDocument.toUTF8 ∧
      Manifest.Names (some (detour 583)) project manifestPlace Manifest.pairDocument.toUTF8 ∧
      ¬standard.RunAlike (some ⟨Manifest.fileName⟩) (some (detour 583)) project := by
  -- The number is abstracted, so that no step of the proof computes with the path.
  obtain ⟨times, htimes⟩ : ∃ times, times = 583 := ⟨583, rfl⟩
  rw [← htimes]
  have hfind := find_detour htimes.le
  refine ⟨Manifest.names_some find_fileName, Manifest.names_some hfind, fun halike => ?_⟩
  obtain ⟨report, hreport, hcount⟩ := exists_report_fileName
  obtain ⟨other, hother, hnone⟩ := exists_report_detour htimes.ge
  have hinUse := inUse_project (Manifest.locate_some find_fileName) find_fileName
  have hotherInUse := inUse_project (Manifest.locate_some hfind) hfind
  have hreports := halike.report_alike
    (result_work_standard hinUse (output_pair _) hreport)
    (result_work_standard hotherInUse (output_pair _) hother)
  have hcreated := hreports.count_eq .created
  rw [hcount, Report.count, hnone] at hcreated
  cases hcreated

end GenerateOptions

end RecipeMatrix
