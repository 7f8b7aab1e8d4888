import RecipeMatrix.Proofs.Generation.Repetition

/-!
# Checks, dry runs and real runs

Three ways to look at one selection in one output directory.

There are three groups.

* Plans.  A dry run shows every plan as it is (`run_mapM_carryOut_dry`).  In a real run a plan
  comes out as in the dry one, or it was stale and fails (`Realizes`).
* Reports.  What a dry run lists is `Foretold` recipe by recipe; what a check complains about is
  what a dry run does not find unchanged (`Complains`); and a real run lists what the dry run
  lists but for its own failures (`artifacts_of_realizes`).
* The assembly.  `Compared` says what the three have in common, and `exists_compared` that they
  have it in every workspace.
-/

namespace RecipeMatrix

open Files RecipeMatrix.Path

/-! ## Plans -/

namespace Planned

/-- What a real run makes of a plan: what the dry run shows, or a failure if it was stale. -/
inductive Realizes (planned : Planned) : Except WriteFailure Artifact → Prop
  | done : Realizes planned (.ok planned.artifact)
  | failing (hstale : planned.status.isStale = true) (failure : Failure) :
      Realizes planned (.error (planned.failed failure))

/-- The pair that a plan is about. -/
def pair (planned : Planned) : String × String := planned.recipe.pair

theorem run_mapM_carryOut_dry (planned : List Planned) (workspace : Workspace) :
    (planned.mapM (carryOut true)).run workspace =
      (planned.map fun item => .ok item.artifact, workspace) := by
  induction planned with
  | nil => rfl
  | cons item planned ih =>
    rw [Program.run_mapM_cons, run_carryOut_dry, ih]
    rfl

theorem realizes_run_carryOut (planned : Planned) (workspace : Workspace) :
    planned.Realizes ((carryOut false planned).run workspace).1 := by
  cases hstale : planned.status.isStale with
  | false =>
    rw [run_carryOut_of_not_isStale hstale]
    exact .done
  | true =>
    rw [run_carryOut_of_isStale hstale]
    cases ((replaceContent planned.path planned.recipe.text.toUTF8).outcome workspace).1 with
    | ok => exact .done
    | error failure => exact .failing hstale failure

/-- Plan by plan, whatever the others do to the workspace. -/
theorem forall₂_realizes (planned : List Planned) (workspace : Workspace) :
    List.Forall₂ Realizes planned ((planned.mapM (carryOut false)).run workspace).1 := by
  induction planned generalizing workspace with
  | nil => exact .nil
  | cons item planned ih =>
    rw [Program.run_mapM_cons]
    exact .cons (item.realizes_run_carryOut workspace) (ih _)

end Planned

/-! ## Reports -/

/-- What a dry run says about a recipe: where it belongs, and how it compares with what is
there. -/
structure Recipe.Foretold (output : Path) (before : Workspace) (recipe : Recipe)
    (artifact : Artifact) : Prop where
  pair_eq : artifact.pair = recipe.pair
  path_eq : artifact.path = output.join ⟨recipe.outputName⟩
  created_iff : artifact.status = .created ↔ before.isFile artifact.path = false
  unchanged_iff : artifact.status = .unchanged ↔ recipe.Stands output before

/-- What a check says about an artifact that a dry run does not find unchanged. -/
inductive Complains : Artifact → String → Prop
  | missing {artifact : Artifact} (hcreated : artifact.status = .created) :
      Complains artifact (artifact.path.text ++ " (missing)")
  | stale {artifact : Artifact} (hupdated : artifact.status = .updated) :
      Complains artifact (artifact.path.text ++ " (stale)")

namespace Planned

variable {output : Path} {before : Workspace}

theorem created_iff (recipe : Recipe) (path : Path) :
    statusIn before recipe path = .created ↔ before.isFile path = false := by
  rw [← Bool.not_eq_true, Workspace.isFile_iff, statusIn]
  cases before.found? path with
  | none => simp
  | some entry =>
    cases entry with
    | directory => simp
    | file content =>
      refine iff_of_false ?_ (not_not_intro ⟨content, rfl⟩)
      dsimp only
      split
      · simp
      · simp

theorem foretold (recipe : Recipe) :
    recipe.Foretold output before (inWorkspace output before recipe).artifact where
  pair_eq := rfl
  path_eq := rfl
  created_iff := created_iff recipe _
  unchanged_iff := by
    rw [← isStale_eq_false_iff, Recipe.isStale, Status.isStale, bne_eq_false_iff_eq]
    rfl

/-- The complaint about a stale plan is one about what the dry run shows of it. -/
theorem complains {planned : Planned} (hstale : planned.status.isStale = true) :
    Complains planned.artifact planned.complaint := by
  have hjoined (state : String) :
      planned.path.text ++ " (" ++ state ++ ")" = planned.path.text ++ (" (" ++ state ++ ")") := by
    rw [String.append_assoc, String.append_assoc, String.append_assoc]
  simp only [complaint, hjoined]
  cases hstatus : planned.status with
  | created =>
    have hcreated : planned.artifact.status = .created := hstatus
    exact .missing hcreated
  | updated =>
    have hupdated : planned.artifact.status = .updated := hstatus
    exact .stale hupdated
  | unchanged =>
    rw [hstatus] at hstale
    cases hstale

end Planned

namespace Report

variable {planned : List Planned} {outcomes : List (Except WriteFailure Artifact)}

/-- A dry run reports what it shows. -/
theorem ofOutcomes_map_ok (dryRun : Bool) (artifacts : List Artifact) :
    ofOutcomes dryRun (artifacts.map .ok) = ⟨artifacts, [], dryRun⟩ := by
  simp [ofOutcomes, List.filterMap_map, Function.comp_def, Except.toOption]

/-- What fails is one of the stale plans. -/
theorem exists_of_mem_failures (hrealizes : List.Forall₂ Planned.Realizes planned outcomes)
    {failure : WriteFailure} (hfailure : failure ∈ (ofOutcomes false outcomes).failures) :
    ∃ item ∈ planned, item.status.isStale = true ∧ failure.pair = item.pair ∧
      failure.path = item.path := by
  rw [mem_failures_ofOutcomes] at hfailure
  induction hrealizes with
  | nil => cases hfailure
  | cons houtcome _ ih =>
    rcases List.mem_cons.1 hfailure with rfl | hfailure
    · cases houtcome with
      | failing hstale cause => exact ⟨_, List.mem_cons_self, hstale, rfl, rfl⟩
    · obtain ⟨item, hitem, hfound⟩ := ih hfailure
      exact ⟨item, List.mem_cons_of_mem _ hitem, hfound⟩

/-- A real run lists what the dry run lists, but for what it reports as failed. -/
theorem artifacts_of_realizes (hrealizes : List.Forall₂ Planned.Realizes planned outcomes)
    (hnodup : (planned.map Planned.pair).Nodup) :
    (ofOutcomes false outcomes).artifacts =
      (planned.map Planned.artifact).filter fun artifact =>
        artifact.pair ∉ (ofOutcomes false outcomes).failures.map WriteFailure.pair := by
  induction hrealizes with
  | nil => rfl
  | @cons item outcome planned outcomes houtcome hrest ih =>
    obtain ⟨hnew, hnodup⟩ := List.nodup_cons.1 hnodup
    have hkept := ih hnodup
    cases houtcome with
    | done =>
      have hnone : item.artifact.pair ∉
          (ofOutcomes false outcomes).failures.map WriteFailure.pair := by
        intro hmem
        obtain ⟨failure, hfailure, hpair⟩ := List.mem_map.1 hmem
        obtain ⟨other, hother, -, hsame, -⟩ := exists_of_mem_failures hrest hfailure
        exact hnew (List.mem_map.2 ⟨other, hother, hsame.symm.trans hpair⟩)
      rw [artifacts_ofOutcomes_ok, failures_ofOutcomes_ok, List.map_cons,
        List.filter_cons_of_pos (by simpa using hnone), hkept]
    | failing hstale failure =>
      have hother (artifact : Artifact) (hartifact : artifact ∈ planned.map Planned.artifact) :
          artifact.pair ≠ item.pair := by
        intro hsame
        obtain ⟨other, hmem, rfl⟩ := List.mem_map.1 hartifact
        exact hnew (List.mem_map.2 ⟨other, hmem, hsame⟩)
      have hself : item.artifact.pair = (item.failed failure).pair := rfl
      rw [artifacts_ofOutcomes_error, failures_ofOutcomes_error, List.map_cons, List.map_cons,
        List.filter_cons_of_neg (by simp [hself]), hkept]
      refine List.filter_congr fun artifact hartifact => ?_
      have hne : artifact.pair ≠ (item.failed failure).pair := hother artifact hartifact
      simp [hne]

end Report

/-! ## Three runs of a generator -/

namespace Generator

variable {generator : Generator} {selection : Selection} {recipes : List Recipe} {output : Path}
  {before : Workspace}

/-- A dry run reports every plan. -/
theorem outcome_generate_dry (hrecipes : generator.recipes selection = .ok recipes) :
    (generator.generate selection output true).outcome before =
      (.ok ⟨recipes.map fun recipe => (Planned.inWorkspace output before recipe).artifact, [],
        true⟩, before) := by
  have hshown : (recipes.map (Planned.inWorkspace output before)).map
      (fun item => (.ok item.artifact : Except WriteFailure Artifact)) =
        (recipes.map fun recipe =>
          (Planned.inWorkspace output before recipe).artifact).map .ok := by
    simp
  rw [outcome_generate hrecipes, Planned.run_mapM_carryOut_dry, hshown, Report.ofOutcomes_map_ok]

/-- A dry run that finds every file unchanged is one that a check is content with. -/
theorem check_eq_ok_iff_unchanged (hrecipes : generator.recipes selection = .ok recipes) :
    ((generator.check selection output).outcome before).1 = .ok () ↔
      ∀ artifact ∈ recipes.map fun recipe => (Planned.inWorkspace output before recipe).artifact,
        artifact.status = .unchanged := by
  rw [check_eq_ok_iff hrecipes, List.forall_mem_map]
  exact forall₂_congr fun recipe _ => (Planned.foretold recipe).unchanged_iff.symm

/-- A check that fails complains about every change that a dry run shows, in their order. -/
theorem check_complains (hrecipes : generator.recipes selection = .ok recipes) :
    ((generator.check selection output).outcome before).1 = .ok () ∨
      ∃ entries, ((generator.check selection output).outcome before).1 =
          .error (.outOfDate entries) ∧
        List.Forall₂ Complains ((recipes.map fun recipe =>
          (Planned.inWorkspace output before recipe).artifact).filter
            fun artifact => artifact.status.isStale) entries := by
  have hstale : (recipes.map fun recipe =>
        (Planned.inWorkspace output before recipe).artifact).filter
          (fun artifact => artifact.status.isStale) =
      (recipes.filter (Recipe.isStale output before)).map fun recipe =>
        (Planned.inWorkspace output before recipe).artifact := List.filter_map
  rw [outcome_check hrecipes, hstale]
  split
  next => exact .inl rfl
  next =>
    refine .inr ⟨_, rfl, ?_⟩
    rw [List.forall₂_map_left_iff, List.forall₂_map_right_iff, List.forall₂_same]
    exact fun recipe hrecipe => Planned.complains (List.mem_filter.1 hrecipe).2

/-- Where all recipes stand, a run never touches a file. -/
theorem generate_states_of_stands (hrecipes : generator.recipes selection = .ok recipes)
    (hall : ∀ recipe ∈ recipes, recipe.Stands output before) (dryRun : Bool) :
    ∀ state ∈ (generator.generate selection output dryRun).states before, state = before := by
  refine forall_states_generate rfl fun found hfound recipe hrecipe reached hreached => ?_
  obtain rfl : recipes = found := Except.ok.inj (hrecipes.symm.trans hfound)
  rw [Planned.carryOut_of_not_isStale (isStale_eq_false_iff.2 (hall recipe hrecipe)), hreached]
  exact fun state hstate => List.mem_singleton.1 hstate

/-- What a check, a dry run and a real run of one selection have in common. -/
structure Compared (generator : Generator) (selection : Selection) (output : Path)
    (before : Workspace) (recipes : List Recipe) (checked : Except Error Unit)
    (dry real : Report) (after : Workspace) : Prop where
  recipes_eq : generator.recipes selection = .ok recipes
  check_run : (generator.check selection output).outcome before = (checked, before)
  dry_run : (generator.generate selection output true).outcome before = (.ok dry, before)
  real_run : (generator.generate selection output false).outcome before = (.ok real, after)
  /-- The dry run lists all recipes, in their order, and nothing fails in it. -/
  foretold : List.Forall₂ (Recipe.Foretold output before) recipes dry.artifacts
  dry_failures : dry.failures = []
  /-- The check succeeds if every file holds its recipe, that is, if the dry run finds no
  change to make. -/
  check_iff : checked = .ok () ↔ ∀ recipe ∈ recipes, recipe.Stands output before
  unchanged_iff : checked = .ok () ↔ ∀ artifact ∈ dry.artifacts, artifact.status = .unchanged
  /-- Otherwise it complains about every change that the dry run finds, in their order. -/
  complaints : checked = .ok () ∨ ∃ entries, checked = .error (.outOfDate entries) ∧
    List.Forall₂ Complains (dry.artifacts.filter fun artifact => artifact.status.isStale) entries
  /-- The real run lists what the dry run lists, but for its own failures. -/
  artifacts : real.artifacts = dry.artifacts.filter fun artifact =>
    artifact.pair ∉ real.failures.map WriteFailure.pair
  failures : ∀ failure ∈ real.failures, ∃ artifact ∈ dry.artifacts,
    artifact.status.isStale = true ∧ artifact.pair = failure.pair ∧ artifact.path = failure.path
  /-- Where the check succeeds, the real run never touches a file. -/
  still : checked = .ok () → real.failures = [] ∧ after = before ∧
    ∀ state ∈ (generator.generate selection output false).states before, state = before

/-- In every workspace the three runs have in common what `Compared` says. -/
theorem exists_compared {cells : List Cell} (haccepted : generator.catalog.Accepted)
    (hbuiltin : ofCatalog generator.catalog = .ok generator)
    (hcells : selection.cells generator.catalog = .ok cells) (output : Path)
    (before : Workspace) :
    ∃ recipes checked dry real after,
      recipes.map Recipe.outputName = cells.map Cell.outputName ∧
        Compared generator selection output before recipes checked dry real after := by
  obtain ⟨recipes, hrecipes⟩ := exists_recipes hbuiltin hcells
  have hnames : recipes.map Recipe.outputName = cells.map Cell.outputName := by
    obtain ⟨found, hfound, hmap⟩ := Recipe.ofSelection_eq_ok_iff.1 hrecipes
    obtain rfl : cells = found := Except.ok.inj (hcells.symm.trans hfound)
    exact Recipe.map_outputName hmap
  have hrealizes :=
    Planned.forall₂_realizes (recipes.map (Planned.inWorkspace output before)) before
  have hnodup : ((recipes.map (Planned.inWorkspace output before)).map Planned.pair).Nodup := by
    rw [List.map_map]
    exact nodup_pairs haccepted hrecipes
  have hshown : (recipes.map (Planned.inWorkspace output before)).map Planned.artifact =
      recipes.map fun recipe => (Planned.inWorkspace output before recipe).artifact := by
    rw [List.map_map]
    rfl
  refine ⟨recipes, ((generator.check selection output).outcome before).1, _, _, _, hnames,
    { recipes_eq := hrecipes
      check_run := by rw [outcome_check hrecipes]
      dry_run := outcome_generate_dry hrecipes
      real_run := outcome_generate hrecipes output false before
      foretold := ?_
      dry_failures := rfl
      check_iff := check_eq_ok_iff hrecipes
      unchanged_iff := check_eq_ok_iff_unchanged hrecipes
      complaints := check_complains hrecipes
      artifacts := ?_
      failures := fun failure hfailure => ?_
      still := fun hok => ?_ }⟩
  · rw [List.forall₂_map_right_iff, List.forall₂_same]
    exact fun recipe _ => Planned.foretold recipe
  · rw [← hshown]
    exact Report.artifacts_of_realizes hrealizes hnodup
  · obtain ⟨item, hitem, hstale, hpair, hpath⟩ :=
      Report.exists_of_mem_failures hrealizes hfailure
    rw [← hshown]
    exact ⟨item.artifact, List.mem_map_of_mem hitem, hstale, hpair.symm, hpath.symm⟩
  · have hall := (check_eq_ok_iff hrecipes).1 hok
    have hstates := generate_states_of_stands hrecipes hall false
    have hend := hstates _ (Attempt.outcome_mem_states _ before)
    rw [outcome_generate hrecipes] at hend
    refine ⟨List.eq_nil_iff_forall_not_mem.2 fun failure hfailure => ?_, hend, hstates⟩
    obtain ⟨item, hitem, hstale, -⟩ := Report.exists_of_mem_failures hrealizes hfailure
    obtain ⟨recipe, hrecipe, rfl⟩ := List.mem_map.1 hitem
    exact isStale_iff.1 hstale (hall recipe hrecipe)

/-- A workspace in which one of two small recipes is there, but something else holds its name. -/
def outdated : Workspace where
  files :=
    ((Workspace.fresh "work").files.put "out" ["work"] .directory).put
      "Dockerfile.debian-gcc" ["out", "work"] (.file "FROM scratch\n".toUTF8)
  current := ["work"]

theorem exists_compared_outdated : ∃ recipes checked dry real after,
    recipes.map Recipe.outputName = ["Dockerfile.debian-gcc", "Dockerfile.debian-clang"] ∧
      Compared smallBuiltin .all ⟨"out"⟩ outdated recipes checked dry real after := by
  have hcells : Selection.all.cells smallBuiltin.catalog = .ok smallBuiltin.catalog.cells := by
    decide +kernel
  have hnames : smallBuiltin.catalog.cells.map Cell.outputName =
      ["Dockerfile.debian-gcc", "Dockerfile.debian-clang"] := by
    decide +kernel
  rw [← hnames]
  exact exists_compared Catalog.accepted_small ofCatalog_smallBuiltin hcells _ _

end Generator

end RecipeMatrix
