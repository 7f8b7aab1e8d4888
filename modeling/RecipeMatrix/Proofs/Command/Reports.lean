import RecipeMatrix.Proofs.Catalog.Selections
import RecipeMatrix.Proofs.Command.Location
import RecipeMatrix.Proofs.Generation.Modes

/-!
# What a report accounts for

A run parts its plans into artifacts and failures.  Whichever of them fail, nothing is lost,
counted twice or put out of order.

There are four groups.

* Parting.  `Parts` is what the loop of a run keeps: each plan so far is in one of two lists, and
  in that of the failures only if it was stale.
* Marks.  A mark is what a plan, an artifact and a failure have in common: a pair of names and
  a path.  The marks of the plans are those of the selected cells (`map_mark_inWorkspace`).
* Conclusions.  A report is a success or an error with all of its failures (`concludes`).
* The assembly.  `Accounts` says what a report accounts for, and `accounts_of_generate` that every
  report does, and that the command ends as the report concludes.
-/

namespace RecipeMatrix

open RecipeMatrix.Path

/-! ## Parting -/

/-- What comes of one plan: its artifact, or the failure of a write that was called for. -/
theorem Planned.run_carryOut_cases (dryRun : Bool) (planned : Planned) (reached : Workspace) :
    ((carryOut dryRun planned).run reached).1 = .ok planned.artifact ∨
      dryRun = false ∧ planned.status.isStale = true ∧
        ∃ failure,
          ((Files.replaceContent planned.path planned.recipe.text.toUTF8).outcome reached).1 =
              .error failure ∧
            ((carryOut dryRun planned).run reached).1 = .error (planned.failed failure) := by
  cases dryRun with
  | true =>
    rw [run_carryOut_dry]
    exact .inl rfl
  | false =>
    cases hstale : planned.status.isStale with
    | false =>
      rw [run_carryOut_of_not_isStale hstale]
      exact .inl rfl
    | true =>
      rw [run_carryOut_of_isStale hstale]
      cases ((Files.replaceContent planned.path planned.recipe.text.toUTF8).outcome reached).1 with
      | ok => exact .inl rfl
      | error failure => exact .inr ⟨rfl, rfl, failure, rfl, rfl⟩

namespace Report

/-- Plans, parted into artifacts and failures.  What fails was to be written, and could not be
at the moment of its turn. -/
inductive Parts (dryRun : Bool) :
    List Planned → List Artifact → List WriteFailure → Prop
  | nil : Parts dryRun [] [] []
  | done {item : Planned} {planned : List Planned} {artifacts : List Artifact}
      {failures : List WriteFailure} (rest : Parts dryRun planned artifacts failures) :
      Parts dryRun (item :: planned) (item.artifact :: artifacts) failures
  | failing {item : Planned} {planned : List Planned} {artifacts : List Artifact}
      {failures : List WriteFailure} {reached : Workspace} {failure : Failure}
      (hwrites : dryRun = false) (hstale : item.status.isStale = true)
      (hfailed : ((Files.replaceContent item.path item.recipe.text.toUTF8).outcome reached).1 =
        .error failure)
      (rest : Parts dryRun planned artifacts failures) :
      Parts dryRun (item :: planned) artifacts (item.failed failure :: failures)

/-- A run parts its plans, whatever those before left in the workspace. -/
theorem parts_run (dryRun : Bool) (planned : List Planned) (reached : Workspace) :
    Parts dryRun planned
      (ofOutcomes dryRun ((planned.mapM (Planned.carryOut dryRun)).run reached).1).artifacts
      (ofOutcomes dryRun ((planned.mapM (Planned.carryOut dryRun)).run reached).1).failures := by
  induction planned generalizing reached with
  | nil => exact .nil
  | cons item planned ih =>
    have hrest := ih ((Planned.carryOut dryRun item).run reached).2
    rw [Program.run_mapM_cons]
    obtain hdone | ⟨hwrites, hstale, failure, hfailed, hanswer⟩ :=
      item.run_carryOut_cases dryRun reached
    · rw [hdone, artifacts_ofOutcomes_ok, failures_ofOutcomes_ok]
      exact hrest.done
    · rw [hanswer, artifacts_ofOutcomes_error, failures_ofOutcomes_error]
      exact hrest.failing hwrites hstale hfailed

namespace Parts

variable {dryRun : Bool} {planned : List Planned} {artifacts : List Artifact}
  {failures : List WriteFailure}

theorem failures_eq_nil (hparts : Parts true planned artifacts failures) : failures = [] := by
  induction hparts with
  | nil => rfl
  | done _ ih => exact ih
  | failing hwrites => cases hwrites

/-- An unchanged recipe never fails. -/
theorem artifact_mem (hparts : Parts dryRun planned artifacts failures) {item : Planned}
    (hitem : item ∈ planned) (hunchanged : item.status = .unchanged) :
    item.artifact ∈ artifacts := by
  induction hparts with
  | nil => cases hitem
  | done _ ih =>
    rcases List.mem_cons.1 hitem with rfl | hitem
    · exact List.mem_cons_self
    · exact List.mem_cons_of_mem _ (ih hitem)
  | failing _ hstale _ _ ih =>
    rcases List.mem_cons.1 hitem with rfl | hitem
    · rw [hunchanged] at hstale
      cases hstale
    · exact ih hitem

/-- What fails is a stale plan, for the reason that its write gave. -/
theorem exists_of_mem_failures (hparts : Parts dryRun planned artifacts failures)
    {failure : WriteFailure} (hfailure : failure ∈ failures) :
    ∃ item ∈ planned, item.status.isStale = true ∧ ∃ reached cause,
      ((Files.replaceContent item.path item.recipe.text.toUTF8).outcome reached).1 =
          .error cause ∧
        failure = item.failed cause := by
  induction hparts with
  | nil => cases hfailure
  | done _ ih =>
    obtain ⟨item, hitem, hfound⟩ := ih hfailure
    exact ⟨item, List.mem_cons_of_mem _ hitem, hfound⟩
  | failing _ hstale hfailed _ ih =>
    rcases List.mem_cons.1 hfailure with rfl | hfailure
    · exact ⟨_, List.mem_cons_self, hstale, _, _, hfailed, rfl⟩
    · obtain ⟨item, hitem, hfound⟩ := ih hfailure
      exact ⟨item, List.mem_cons_of_mem _ hitem, hfound⟩

end Parts

end Report

/-! ## Marks -/

/-- Where the recipe of a cell goes, and the names of its platform and its compiler. -/
def Cell.mark (output : Path) (cell : Cell) : (String × String) × Path :=
  ((cell.platform.name, cell.compiler.name), output.join ⟨cell.outputName⟩)

/-- What a plan is about. -/
def Planned.mark (planned : Planned) : (String × String) × Path := (planned.pair, planned.path)

/-- What an artifact is about. -/
def Artifact.mark (artifact : Artifact) : (String × String) × Path :=
  (artifact.pair, artifact.path)

/-- What a failure is about. -/
def WriteFailure.mark (failure : WriteFailure) : (String × String) × Path :=
  (failure.pair, failure.path)

/-- The plans of a selection are about its cells. -/
theorem Planned.map_mark_inWorkspace {renderer : Renderer} {cells : List Cell}
    {recipes : List Recipe} (hrecipes : cells.map (Recipe.ofCell renderer) = recipes.map .ok)
    (output : Path) (workspace : Workspace) :
    (recipes.map (inWorkspace output workspace)).map mark = cells.map (Cell.mark output) := by
  rw [List.map_map]
  refine map_eq_of_map_ok (fun cell recipe hrecipe => ?_) hrecipes
  obtain ⟨hplatform, hcompiler, hname⟩ := Recipe.ofCell_eq_ok hrecipe
  rw [Cell.mark, ← hplatform, ← hcompiler, ← hname]
  rfl

namespace Report.Parts

variable {dryRun : Bool} {planned : List Planned} {artifacts : List Artifact}
  {failures : List WriteFailure}

theorem artifacts_sublist (hparts : Parts dryRun planned artifacts failures) :
    (artifacts.map Artifact.mark).Sublist (planned.map Planned.mark) := by
  induction hparts with
  | nil => exact .slnil
  | done _ ih => exact ih.cons_cons _
  | failing _ _ _ _ ih => exact ih.cons _

theorem failures_sublist (hparts : Parts dryRun planned artifacts failures) :
    (failures.map WriteFailure.mark).Sublist (planned.map Planned.mark) := by
  induction hparts with
  | nil => exact .slnil
  | done _ ih => exact ih.cons _
  | failing _ _ _ _ ih => exact ih.cons_cons _

theorem marks_perm (hparts : Parts dryRun planned artifacts failures) :
    (artifacts.map Artifact.mark ++ failures.map WriteFailure.mark).Perm
      (planned.map Planned.mark) := by
  induction hparts with
  | nil => exact .refl _
  | done _ ih => exact ih.cons _
  | failing _ _ _ _ ih => exact List.perm_middle.trans (ih.cons _)

/-- Without their paths, marks are pairs. -/
theorem pairs_perm (hparts : Parts dryRun planned artifacts failures) :
    (artifacts.map Artifact.pair ++ failures.map WriteFailure.pair).Perm
      (planned.map Planned.pair) := by
  have hpairs := hparts.marks_perm.map Prod.fst
  rwa [List.map_append, List.map_map, List.map_map, List.map_map] at hpairs

end Report.Parts

/-! ## Conclusions -/

namespace Report

/-- Every artifact has one of the three statuses. -/
theorem total_eq_counts (report : Report) :
    report.total = report.count .created + report.count .updated + report.count .unchanged +
      report.failures.length := by
  have hartifacts (artifacts : List Artifact) : artifacts.length =
      artifacts.countP (fun artifact => artifact.status == .created) +
        artifacts.countP (fun artifact => artifact.status == .updated) +
        artifacts.countP (fun artifact => artifact.status == .unchanged) := by
    induction artifacts with
    | nil => rfl
    | cons artifact artifacts ih =>
      simp only [List.length_cons, List.countP_cons, ih]
      cases artifact.status <;> simp <;> omega
  unfold total count
  rw [hartifacts report.artifacts]

/-- What a report comes to: a success if nothing failed, and otherwise an error that says of every
failure what it was. -/
structure Concludes (report : Report) : Prop where
  ok_iff : report.ensureSuccess = .ok () ↔ report.failures = []
  error : report.failures ≠ [] →
    report.ensureSuccess = .error (.generationFailed report.failures.length report.total
      (report.failures.map fun failure =>
        "Failed to write recipe for " ++ failure.platform ++ "/" ++ failure.compiler ++ " to " ++
          failure.path.text ++ ": " ++ failure.reason))

theorem concludes (report : Report) : report.Concludes := by
  have hempty : report.isSuccess = true ↔ report.failures = [] := List.isEmpty_iff
  constructor
  · rw [← hempty, ensureSuccess]
    split
    next hsuccess => exact iff_of_true rfl hsuccess
    next hfailed => exact iff_of_false (by rintro ⟨⟩) hfailed
  · intro hfailures
    rw [ensureSuccess, if_neg (hempty.not.2 hfailures)]
    rfl

end Report

/-! ## Accounts -/

/-- The selected cells are those that pass both filters. -/
theorem Selection.mem_of_cells {selection : Selection} {catalog : Catalog} {cells : List Cell}
    (hcells : selection.cells catalog = .ok cells) {cell : Cell} : cell ∈ cells ↔
      cell.platform ∈ catalog.platforms ∧ cell.compiler ∈ catalog.compilers ∧
        (selection.platforms = [] ∨ cell.platform.name ∈ selection.platforms) ∧
        (selection.compilers = [] ∨ cell.compiler.name ∈ selection.compilers) := by
  simp only [Selection.cells, bind_eq_ok_iff] at hcells
  obtain ⟨⟨⟩, -, ⟨⟩, -, hpicked⟩ := hcells
  rw [← Except.ok.inj hpicked]
  exact mem_picked

/-- What a report on a selection accounts for. -/
structure Generator.Accounts (generator : Generator) (selection : Selection) (output : Path)
    (dryRun : Bool) (before : Workspace) (cells : List Cell) (planned : List Planned)
    (report : Report) : Prop where
  /-- The cells are those of the selection, in the order of the catalog. -/
  cells_eq : selection.cells generator.catalog = .ok cells
  mem_cells_iff : ∀ cell, cell ∈ cells ↔
    cell.platform ∈ generator.catalog.platforms ∧ cell.compiler ∈ generator.catalog.compilers ∧
      (selection.platforms = [] ∨ cell.platform.name ∈ selection.platforms) ∧
      (selection.compilers = [] ∨ cell.compiler.name ∈ selection.compilers)
  cells_sublist : cells.Sublist generator.catalog.cells
  /-- There is a plan for each of them. -/
  plan_eq : (generator.plan selection output).outcome before = (.ok planned, before)
  plan_marks : planned.map Planned.mark = cells.map (Cell.mark output)
  /-- Artifacts and failures come in the order of the cells, each under the path of its cell. -/
  artifacts_sublist : (report.artifacts.map Artifact.mark).Sublist (cells.map (Cell.mark output))
  failures_sublist : (report.failures.map WriteFailure.mark).Sublist (cells.map (Cell.mark output))
  /-- Together they are all cells, and no pair occurs twice. -/
  marks_perm : (report.artifacts.map Artifact.mark ++ report.failures.map WriteFailure.mark).Perm
    (cells.map (Cell.mark output))
  nodup_pairs : report.pairs.Nodup
  total_eq : report.total = cells.length
  total_eq_counts : report.total =
    report.count .created + report.count .updated + report.count .unchanged +
      report.failures.length
  /-- A dry run has no failures. -/
  dryRun_eq : report.dryRun = dryRun
  dry_failures : dryRun = true → report.failures = []
  /-- What is found unchanged does not fail. -/
  unchanged : ∀ item ∈ planned, item.status = .unchanged →
    item.artifact ∈ report.artifacts ∧ item.pair ∉ report.failures.map WriteFailure.pair
  /-- What fails was to be written, and fails for the reason that its write gave. -/
  reasons : ∀ failure ∈ report.failures, ∃ item ∈ planned, item.status.isStale = true ∧
    ∃ reached cause,
      ((Files.replaceContent item.path item.recipe.text.toUTF8).outcome reached).1 =
          .error cause ∧
        failure = item.failed cause

/-- The command, told not to check, comes to a run of a generator with the built-in template. -/
structure GenerateOptions.ComesTo (options : GenerateOptions) (manifest : Option Path)
    (before : Workspace) (generator : Generator) (selection : Selection) (output : Path)
    (dryRun : Bool) : Prop where
  check_eq : options.check = false
  selection_eq : options.selection = selection
  dryRun_eq : options.dryRun = dryRun
  builtin : Generator.ofCatalog generator.catalog = .ok generator
  located : ∃ loaded, LoadedManifest.inUse manifest before = .ok (loaded, generator.catalog) ∧
    loaded.output options.output = output

variable {generator : Generator} {selection : Selection} {output : Path} {dryRun : Bool}
  {before after : Workspace} {report : Report}

/-- The command prints the report and ends as it concludes. -/
theorem GenerateOptions.ComesTo.run_generate {options : GenerateOptions} {manifest : Option Path}
    (hcomes : options.ComesTo manifest before generator selection output dryRun)
    (hreport : (generator.generate selection output dryRun).outcome before = (.ok report, after))
    (display : Display) :
    ((Command.generate options).run manifest display).run before =
      (⟨if display.quiet then "" else report.lines display.colored output,
        report.ensureSuccess.mapError Failure.ofError⟩, after) := by
  obtain ⟨hcheck, rfl, rfl, hbuiltin, loaded, hinUse, rfl⟩ := hcomes
  rw [Generator.ofCatalog_eq] at hbuiltin
  have hwork : (options.work manifest).outcome before =
      (.ok (.reported (loaded.output options.output) report), after) := by
    rw [outcome_work, hinUse]
    dsimp only
    rw [Attempt.outcome_mapError, workWith, hcheck, Except.ok.inj hbuiltin, if_neg nofun,
      Attempt.outcome_bind, hreport]
    rfl
  change (options.run manifest display).run before = _
  rw [run, Program.run_bind, Attempt.run_eq_outcome, hwork]
  rfl

namespace Generator

/-- A run that gives a report accounts for its selection. -/
theorem exists_accounts (haccepted : generator.catalog.Accepted)
    (hreport : (generator.generate selection output dryRun).outcome before = (.ok report, after)) :
    ∃ cells planned, generator.Accounts selection output dryRun before cells planned report := by
  cases hrecipes : generator.recipes selection with
  | error error =>
    rw [outcome_generate_of_error hrecipes] at hreport
    cases hreport
  | ok recipes =>
    rw [outcome_generate hrecipes] at hreport
    obtain rfl := Except.ok.inj (Prod.mk.inj hreport).1
    have hparts := Report.parts_run dryRun (recipes.map (Planned.inWorkspace output before)) before
    obtain ⟨cells, hcells, hmap⟩ := Recipe.ofSelection_eq_ok_iff.1 hrecipes
    have hmarks := Planned.map_mark_inWorkspace hmap output before
    have hpairs : ((recipes.map (Planned.inWorkspace output before)).map Planned.pair).Nodup := by
      rw [List.map_map]
      exact nodup_pairs haccepted hrecipes
    have hnodup := hparts.pairs_perm.nodup_iff.2 hpairs
    refine ⟨cells, recipes.map (Planned.inWorkspace output before),
      { cells_eq := hcells
        mem_cells_iff := fun cell => Selection.mem_of_cells hcells
        cells_sublist := Catalog.cells_sublist_of_selection hcells
        plan_eq := by rw [outcome_plan, hrecipes]; rfl
        plan_marks := hmarks
        artifacts_sublist := hmarks ▸ hparts.artifacts_sublist
        failures_sublist := hmarks ▸ hparts.failures_sublist
        marks_perm := hmarks ▸ hparts.marks_perm
        nodup_pairs := hnodup
        total_eq := ?_
        total_eq_counts := Report.total_eq_counts _
        dryRun_eq := rfl
        dry_failures := ?_
        unchanged := fun item hitem hunchanged => ?_
        reasons := fun failure hfailure => hparts.exists_of_mem_failures hfailure }⟩
    · have hlength := (hmarks ▸ hparts.marks_perm).length_eq
      simpa [Report.total] using hlength
    · rintro rfl
      exact hparts.failures_eq_nil
    · have hmem := hparts.artifact_mem hitem hunchanged
      exact ⟨hmem, List.disjoint_of_nodup_append hnodup
        (List.mem_map_of_mem (f := Artifact.pair) hmem)⟩

/-- Every run that gives a report accounts for its selection, and the command succeeds if the
report does. -/
theorem accounts_of_generate (haccepted : generator.catalog.Accepted)
    (hreport : (generator.generate selection output dryRun).outcome before = (.ok report, after)) :
    (∃ cells planned,
        generator.Accounts selection output dryRun before cells planned report) ∧
      report.Concludes ∧
      ∀ options manifest, options.ComesTo manifest before generator selection output dryRun →
        ∀ display, ∃ outcome,
          ((Command.generate options).run manifest display).run before = (outcome, after) ∧
            outcome.result = report.ensureSuccess.mapError Failure.ofError ∧
            (outcome.exitCode = 0 ↔ report.ensureSuccess = .ok ()) := by
  refine ⟨exists_accounts haccepted hreport, report.concludes,
    fun options manifest hcomes display => ?_⟩
  refine ⟨_, hcomes.run_generate hreport display, rfl, ?_⟩
  unfold Outcome.exitCode
  cases report.ensureSuccess with
  | ok => exact iff_of_true rfl rfl
  | error error =>
    have hcode : (1 : UInt32) ≠ 0 := by decide
    exact iff_of_false hcode nofun

/-- A project in which a directory has the name of one of the two recipes. -/
def occupied : Workspace where
  files := Workspace.project.files.put "Dockerfile.debian-gcc" ["work"] .directory
  current := ["work"]

theorem find_occupied : occupied.find ⟨Manifest.fileName⟩ =
    .ok (Workspace.manifestPlace, .file Manifest.pairDocument.toUTF8) := by
  have hlookup : Files.lookupRefusal? occupied.files ["work"]
      ((⟨""⟩ : Path).join ⟨Manifest.fileName⟩) Manifest.fileName = none := by
    decide +kernel
  have hbare : (⟨""⟩ : Path).join ⟨Manifest.fileName⟩ = ⟨Manifest.fileName⟩ := by decide
  have hentry : occupied.files.get? Workspace.manifestPlace =
      some (.file Manifest.pairDocument.toUTF8) := by
    rw [occupied, FileSystem.get?_put (by decide +kernel), if_neg (by decide)]
    exact Workspace.get?_manifestPlace
  rw [← hbare]
  exact Files.find_file InitOptions.isName_fileName rfl hlookup hentry

theorem comesTo_occupied : GenerateOptions.standard.ComesTo (some ⟨Manifest.fileName⟩) occupied
    GenerateOptions.pairGenerator .all ⟨"."⟩ false where
  check_eq := rfl
  selection_eq := rfl
  dryRun_eq := rfl
  builtin := ofCatalog_eq _
  located := ⟨_, LoadedManifest.inUse_of_parse (Manifest.locate_some find_occupied)
    find_occupied Manifest.parse_pairDocument Manifest.catalog_pair, by decide⟩

/-- One of two recipes fails, and the command with it. -/
theorem accounts_of_generate_occupied : ∃ report after,
    (GenerateOptions.pairGenerator.generate .all ⟨"."⟩ false).outcome occupied =
        (.ok report, after) ∧
      (∃ cells planned, GenerateOptions.pairGenerator.Accounts .all ⟨"."⟩ false occupied cells
        planned report) ∧
      report.failures.map WriteFailure.pair = [("debian", "gcc")] ∧
      report.artifacts.map Artifact.pair = [("debian", "clang")] ∧
      ∃ outcome, ((Command.generate .standard).run (some ⟨Manifest.fileName⟩)
          ⟨true, false⟩).run occupied = (outcome, after) ∧ outcome.exitCode ≠ 0 := by
  have hpairs : ((GenerateOptions.pairGenerator.generate .all ⟨"."⟩ false).outcome
      occupied).1.map (fun report =>
        (report.failures.map WriteFailure.pair, report.artifacts.map Artifact.pair)) =
      .ok ([("debian", "gcc")], [("debian", "clang")]) := by
    decide +kernel
  rcases hreport : (GenerateOptions.pairGenerator.generate .all ⟨"."⟩ false).outcome occupied with
    ⟨error | report, after⟩
  · rw [hreport] at hpairs
    cases hpairs
  · rw [hreport] at hpairs
    obtain ⟨hfailures, hartifacts⟩ := Prod.mk.inj (Except.ok.inj hpairs)
    obtain ⟨haccounts, hconcludes, hcommand⟩ :=
      accounts_of_generate Catalog.accepted_small hreport
    obtain ⟨outcome, hrun, -, hcode⟩ := hcommand _ _ comesTo_occupied ⟨true, false⟩
    refine ⟨report, after, rfl, haccounts, hfailures, hartifacts, outcome, hrun, ?_⟩
    rw [ne_eq, hcode, hconcludes.ok_iff]
    intro hnone
    rw [hnone] at hfailures
    cases hfailures

end Generator

end RecipeMatrix
