import RecipeMatrix.Proofs.Files.Meeting
import RecipeMatrix.Proofs.Generation.Outcome

/-!
# Recipes in directories that meet

A run does the same in an output directory whichever of two paths that meet it is given by: it
finds the same recipes stale, leaves the same files, and its reports differ in the paths that they
show and in nothing else.

There are three groups.

* Reports.  `Report.Alike` says what two reports have in common but for their paths
  (`Report.alike_ofOutcomes`).
* Plans.  `Twin` relates the plans of one recipe for both paths.  One of them after the other is
  carried out alike (`Planned.endAlike_carryOut`), and so are lists of them.
* Runs and checks of a generator (`Generator.endAlike_generate`, `Generator.endAlike_check`).
-/

namespace RecipeMatrix

open Files Workspace Program RecipeMatrix.Path

/-! ## Reports -/

/-- What an artifact says but for its path. -/
def Artifact.gist (artifact : Artifact) : (String × String) × Status :=
  (artifact.pair, artifact.status)

/-- Two outcomes for one recipe: both an artifact, of one status, or both a failure. -/
inductive OutcomeAlike : Except WriteFailure Artifact → Except WriteFailure Artifact → Prop
  | artifact {first second : Artifact} (hgist : first.gist = second.gist) :
      OutcomeAlike (.ok first) (.ok second)
  | failure {first second : WriteFailure} (hpair : first.pair = second.pair) :
      OutcomeAlike (.error first) (.error second)

namespace Report

/-- Two reports with the same numbers of recipes of each status and of failures, and on the same
recipes. -/
structure Alike (first second : Report) : Prop where
  count_eq : ∀ status, first.count status = second.count status
  failed_eq : first.failures.length = second.failures.length
  artifacts_eq : first.artifacts.map Artifact.gist = second.artifacts.map Artifact.gist
  failures_eq : first.failures.map WriteFailure.pair = second.failures.map WriteFailure.pair

theorem alike_of_map_eq {first second : Report}
    (hartifacts : first.artifacts.map Artifact.gist = second.artifacts.map Artifact.gist)
    (hfailures : first.failures.map WriteFailure.pair = second.failures.map WriteFailure.pair) :
    Alike first second where
  count_eq status := by
    have hcount (report : Report) : report.count status =
        (report.artifacts.map Artifact.gist).countP fun gist => gist.2 == status := by
      rw [List.countP_map]
      rfl
    rw [hcount, hcount, hartifacts]
  failed_eq := by simpa using congrArg List.length hfailures
  artifacts_eq := hartifacts
  failures_eq := hfailures

theorem alike_ofOutcomes {outcomes others : List (Except WriteFailure Artifact)}
    (halike : List.Forall₂ OutcomeAlike outcomes others) (dryRun : Bool) :
    Alike (ofOutcomes dryRun outcomes) (ofOutcomes dryRun others) := by
  induction halike with
  | nil => exact alike_of_map_eq rfl rfl
  | cons hfirst _ ih =>
    cases hfirst with
    | artifact hgist => exact alike_of_map_eq (by simp [hgist, ih.artifacts_eq]) ih.failures_eq
    | failure hpair => exact alike_of_map_eq ih.artifacts_eq (by simp [hpair, ih.failures_eq])

theorem Alike.isSuccess_eq {first second : Report} (halike : Alike first second) :
    first.isSuccess = second.isSuccess := by
  rw [isSuccess, isSuccess, Bool.eq_iff_iff, List.isEmpty_iff_length_eq_zero,
    List.isEmpty_iff_length_eq_zero, halike.failed_eq]

end Report

/-! ## Plans -/

variable {start workspace : Workspace} {rest : List (List Char)} {first second : Path}
  {dryRun : Bool}

/-- What has to hold of the paths of a recipe.  The temporary file and the directory matter only
if something is written. -/
structure Recipe.Agrees (recipe : Recipe) (dryRun : Bool) (first second : Path) : Prop where
  isName : IsName recipe.outputName
  path : LengthsAgree (first.join ⟨recipe.outputName⟩) (second.join ⟨recipe.outputName⟩)
  writing : dryRun = false → AgreeFor recipe.outputName first second

namespace Planned

/-- A recipe compares alike with what is found by either path. -/
theorem status_inWorkspace_eq (hmeet : Meet workspace rest first second) {recipe : Recipe}
    (hagrees : recipe.Agrees dryRun first second) :
    (inWorkspace first workspace recipe).status = (inWorkspace second workspace recipe).status := by
  simp only [inWorkspace, statusIn, hmeet.found?_eq hagrees.isName hagrees.path]

/-- The plans of one recipe for two paths. -/
structure Twin (dryRun : Bool) (first second : Path) (one other : Planned) : Prop where
  recipe_eq : one.recipe = other.recipe
  status_eq : one.status = other.status
  agrees : one.recipe.Agrees dryRun first second
  path_eq : one.path = first.join ⟨one.recipe.outputName⟩
  other_eq : other.path = second.join ⟨one.recipe.outputName⟩

theorem Twin.gist_eq {one other : Planned} (htwin : Twin dryRun first second one other) :
    one.artifact.gist = other.artifact.gist := by
  simp only [Artifact.gist, artifact, Artifact.pair, htwin.recipe_eq, htwin.status_eq]

theorem forall₂_twin (hmeet : Meet workspace rest first second) {recipes : List Recipe}
    (hagrees : ∀ recipe ∈ recipes, recipe.Agrees dryRun first second) :
    List.Forall₂ (Twin dryRun first second) (recipes.map (inWorkspace first workspace))
      (recipes.map (inWorkspace second workspace)) := by
  rw [List.forall₂_map_left_iff, List.forall₂_map_right_iff, List.forall₂_same]
  intro recipe hrecipe
  have hrecipeAgrees := hagrees recipe hrecipe
  exact ⟨rfl, status_inWorkspace_eq hmeet hrecipeAgrees, hrecipeAgrees, rfl, rfl⟩

/-- One plan, carried out where the paths meet. -/
theorem endAlike_carryOut {one other : Planned} (htwin : Twin dryRun first second one other)
    (hmeet : Meet workspace rest first second) :
    EndAlike OutcomeAlike ((carryOut dryRun one).run workspace)
      ((carryOut dryRun other).run workspace) := by
  cases dryRun with
  | true =>
    rw [run_carryOut_dry, run_carryOut_dry]
    exact ⟨.artifact htwin.gist_eq, rfl⟩
  | false =>
    cases hstale : one.status.isStale with
    | false =>
      rw [run_carryOut_of_not_isStale hstale,
        run_carryOut_of_not_isStale (htwin.status_eq ▸ hstale)]
      exact ⟨.artifact htwin.gist_eq, rfl⟩
    | true =>
      have hname := htwin.agrees.isName
      have hreplaced := endAlike_replaceContent hmeet hname (htwin.agrees.writing rfl)
        one.recipe.text.toUTF8
      rw [run_carryOut_of_isStale hstale, run_carryOut_of_isStale (htwin.status_eq ▸ hstale),
        htwin.path_eq, htwin.other_eq, ← htwin.recipe_eq]
      refine ⟨?_, hreplaced.workspace_eq⟩
      have hresult := hreplaced.result
      revert hresult
      generalize ((replaceContent (first.join _) _).outcome workspace).1 = answer
      generalize ((replaceContent (second.join _) _).outcome workspace).1 = otherAnswer
      intro hresult
      cases hresult with
      | error =>
        refine .failure ?_
        simp only [failed, WriteFailure.pair, htwin.recipe_eq]
      | ok => exact .artifact htwin.gist_eq

/-- A recipe whose path is too long cannot be written. -/
theorem failure_of_not_isShort {output : Path} {recipe : Recipe}
    (hname : IsName recipe.outputName)
    (hlong : ¬(output.join ⟨recipe.outputName⟩).IsShort) (start reached : Workspace) :
    ∃ failure, ((carryOut false (inWorkspace output start recipe)).run reached).1 =
      .error failure := by
  obtain ⟨-, refusal, hrefusal⟩ := exists_refusal?_of_not_isShort hlong
  have hstale : (inWorkspace output start recipe).status.isStale = true := by
    simp only [inWorkspace, statusIn, found?_eq_none (target_of_refusal hrefusal)]
    rfl
  rw [run_carryOut_of_isStale hstale]
  simp only [inWorkspace]
  cases houtcome : (replaceContent (output.join ⟨recipe.outputName⟩)
      recipe.text.toUTF8).outcome reached with
  | mk answer left =>
    cases answer with
    | error failure => exact ⟨_, rfl⟩
    | ok =>
      obtain ⟨directory, hwrote⟩ := exists_wrote hname houtcome
      exact absurd (isShort_of_refusal? hwrote.spells.1) hlong

end Planned

/-! ## Runs and checks -/

namespace Generator

variable {generator : Generator} {selection : Selection}

/-- A run ends alike for paths that meet. -/
theorem endAlike_generate (hmeet : Meet workspace rest first second)
    (hagrees : ∀ recipes, generator.recipes selection = .ok recipes →
      ∀ recipe ∈ recipes, recipe.Agrees dryRun first second) :
    EndAlike (ResultsAlike Report.Alike)
      ((generator.generate selection first dryRun).outcome workspace)
      ((generator.generate selection second dryRun).outcome workspace) := by
  cases hrecipes : generator.recipes selection with
  | error error =>
    rw [outcome_generate_of_error hrecipes, outcome_generate_of_error hrecipes]
    exact ⟨.error, rfl⟩
  | ok recipes =>
    -- The paths meet before each plan, since no plan takes a directory away.
    obtain ⟨hcarried, -⟩ := EndAlike.mapM (Planned.forall₂_twin hmeet (hagrees recipes hrecipes))
      (fun one other htwin workspace hmeet => ⟨Planned.endAlike_carryOut htwin hmeet,
        hmeet.mono (retains_run (Planned.carryOut dryRun one) workspace)⟩) hmeet
    rw [outcome_generate hrecipes, outcome_generate hrecipes]
    exact ⟨.ok (Report.alike_ofOutcomes hcarried.result dryRun), hcarried.workspace_eq⟩

/-- Where all recipes have paths that are too long, none is written. -/
theorem artifacts_of_not_isShort {output : Path} {recipes : List Recipe}
    (hrecipes : generator.recipes selection = .ok recipes)
    (hlong : ∀ recipe ∈ recipes,
      IsName recipe.outputName ∧ ¬(output.join ⟨recipe.outputName⟩).IsShort)
    (workspace : Workspace) :
    ∃ report, ((generator.generate selection output false).outcome workspace).1 = .ok report ∧
      report.artifacts = [] := by
  rw [outcome_generate hrecipes]
  refine ⟨_, rfl, List.eq_nil_iff_forall_not_mem.2 fun artifact hartifact => ?_⟩
  rw [Report.mem_artifacts_ofOutcomes] at hartifact
  obtain ⟨item, hitem, reached, hreached⟩ := exists_of_mem_run_mapM hartifact
  obtain ⟨recipe, hrecipe, rfl⟩ := List.mem_map.1 hitem
  obtain ⟨hname, hpath⟩ := hlong recipe hrecipe
  obtain ⟨failure, hfailure⟩ := Planned.failure_of_not_isShort hname hpath workspace reached
  rw [hfailure] at hreached
  cases hreached

/-- A check ends alike for paths that meet. -/
theorem endAlike_check (hmeet : Meet workspace rest first second)
    (hagrees : ∀ recipes, generator.recipes selection = .ok recipes →
      ∀ recipe ∈ recipes, recipe.Agrees dryRun first second) :
    EndAlike (ResultsAlike Eq) ((generator.check selection first).outcome workspace)
      ((generator.check selection second).outcome workspace) := by
  rw [check, check, Attempt.outcome_bind, Attempt.outcome_bind, outcome_plan, outcome_plan]
  cases hrecipes : generator.recipes selection with
  | error error => exact ⟨.error, rfl⟩
  | ok recipes =>
    have hstale : recipes.filter (Recipe.isStale first workspace) =
        recipes.filter (Recipe.isStale second workspace) := by
      refine List.filter_congr fun recipe hrecipe => ?_
      rw [Recipe.isStale, Recipe.isStale,
        Planned.status_inWorkspace_eq hmeet (hagrees recipes hrecipes recipe hrecipe)]
    simp only [Except.map, Planned.filter_inWorkspace, hstale, List.isEmpty_map]
    split
    next => exact ⟨.ok rfl, rfl⟩
    next => exact ⟨.error, rfl⟩

end Generator

end RecipeMatrix
