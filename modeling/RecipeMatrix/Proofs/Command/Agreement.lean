import RecipeMatrix.Proofs.Catalog.Selections
import RecipeMatrix.Proofs.Command.Effects
import RecipeMatrix.Proofs.Command.Printing
import RecipeMatrix.Proofs.Generation.Modes

/-!
# Commands that agree

`list`, `validate` and a dry run of `generate` go different ways from the same manifest.  They end
alike: all fail, and with one failure, or all succeed, and print the same recipes.

There are three groups.

* Recipes.  Every cell of a catalog can be rendered with the built-in template
  (`allRecipes_eq`).  A listing renders nothing, but each of its entries `Shows` the recipe in
  its place (`forall₂_shows`).
* The manifest.  `inUse` is the manifest that is found, with its catalog, or the failure on the
  way to it.  What the commands come to is read off it (`outcome_find`, `run_find`,
  `outcome_work_dry`).
* The assembly.  `FailAlike` and `SucceedAlike` are the two ways to end, and `commands_agree` says
  that there is no other.
-/

namespace RecipeMatrix

/-! ## Recipes -/

theorem Generator.recipes_all (catalog : Catalog) :
    (⟨catalog, Recipe.builtin⟩ : Generator).recipes .all =
      .ok (catalog.cells.map Recipe.ofBuiltin) :=
  Recipe.ofSelection_builtin (Selection.cells_all catalog)

/-- Every cell of a catalog can be rendered. -/
theorem Validation.allRecipes_eq (catalog : Catalog) :
    allRecipes catalog = .ok (catalog.cells.map Recipe.ofBuiltin) := by
  rw [allRecipes, Generator.ofCatalog_eq]
  exact Generator.recipes_all catalog

/-- What a listing says about a recipe is what the recipe says. -/
structure RecipeEntry.Shows (entry : RecipeEntry) (recipe : Recipe) : Prop where
  output_eq : entry.output = recipe.outputName
  platform_eq : entry.platform = recipe.platform
  compiler_eq : entry.compiler = recipe.compiler
  dev_eq : entry.dev = recipe.dev
  text_eq : ∃ install : InstallCommand, recipe.text = Recipe.builtinText entry.image
    (install.render entry.dev) (install.render entry.runtime)

theorem Listing.forall₂_shows (listing : Listing) :
    List.Forall₂ RecipeEntry.Shows listing.recipes
      (listing.catalog.cells.map Recipe.ofBuiltin) := by
  unfold Listing.recipes
  rw [List.forall₂_map_left_iff, List.forall₂_map_right_iff, List.forall₂_same]
  exact fun cell _ => ⟨rfl, rfl, rfl, rfl, cell.platform.install, rfl⟩

/-! ## The manifest -/

/-- The manifest that is found from a workspace, with its catalog. -/
def LoadedManifest.inUse (manifest : Option Path) (before : Workspace) :
    Except Failure (LoadedManifest × Catalog) :=
  match ((find manifest).outcome before).1 with
  | .error failure => .error failure
  | .ok loaded =>
      match loaded.manifest.catalog with
      | .error error => .error (.ofError error)
      | .ok catalog => .ok (loaded, catalog)

section

variable (manifest : Option Path) (before : Workspace)

theorem LoadedManifest.outcome_find : (find manifest).outcome before =
    (((find manifest).outcome before).1, before) :=
  Attempt.outcome_of_makes (makes_find manifest) before

theorem Listing.outcome_find : (Listing.find manifest).outcome before =
    ((LoadedManifest.inUse manifest before).map fun found => ⟨found.1.origin, found.2⟩,
      before) := by
  rw [Listing.find, Attempt.outcome_bind, LoadedManifest.outcome_find, LoadedManifest.inUse]
  cases ((LoadedManifest.find manifest).outcome before).1 with
  | error failure => rfl
  | ok loaded =>
    dsimp only
    rw [Attempt.outcome_bind, Attempt.outcome_ofExcept]
    cases loaded.manifest.catalog <;> rfl

/-- The validation of a catalog in which everything can be rendered. -/
def Validation.passed (loaded : LoadedManifest) (catalog : Catalog) : Validation where
  origin := loaded.origin
  platforms := catalog.platforms.length
  compilers := catalog.compilers.length
  recipes := catalog.cells.length
  warnings := warningsOf catalog
  failure := none

theorem Validation.run_find : ∃ origin, (Validation.find manifest).run before =
    (match LoadedManifest.inUse manifest before with
      | .error failure => stopped origin failure
      | .ok (loaded, catalog) => passed loaded catalog, before) := by
  rw [Validation.find, Program.run_bind, Attempt.run_eq_outcome, LoadedManifest.outcome_find,
    LoadedManifest.inUse]
  cases ((LoadedManifest.find manifest).outcome before).1 with
  | error failure => exact ⟨"", rfl⟩
  | ok loaded =>
    refine ⟨loaded.origin, ?_⟩
    simp only [ofLoaded, allRecipes_eq, List.length_map, Program.run_pure]
    cases loaded.manifest.catalog <;> rfl

/-- What a dry run of the whole catalog reports. -/
def Report.foreseen (directory : Path) (catalog : Catalog) : Report where
  artifacts := (catalog.cells.map Recipe.ofBuiltin).map fun recipe =>
    (Planned.inWorkspace directory before recipe).artifact
  failures := []
  dryRun := true

theorem GenerateOptions.outcome_work_dry (output : Option Path) :
    (GenerateOptions.work ⟨output, .all, true, false⟩ manifest).outcome before =
      ((LoadedManifest.inUse manifest before).map fun found =>
        .reported (found.1.output output)
          (Report.foreseen before (found.1.output output) found.2), before) := by
  rw [work, Attempt.outcome_bind, LoadedManifest.outcome_find, LoadedManifest.inUse]
  cases ((LoadedManifest.find manifest).outcome before).1 with
  | error failure => rfl
  | ok loaded =>
    dsimp only
    rw [Attempt.outcome_mapError, Attempt.outcome_bind, Attempt.outcome_ofExcept]
    cases loaded.manifest.catalog with
    | error error => rfl
    | ok catalog =>
      dsimp only
      rw [Generator.ofCatalog_eq, Attempt.outcome_bind, Attempt.outcome_ofExcept]
      dsimp only
      rw [if_neg Bool.false_ne_true, Attempt.outcome_bind,
        Generator.outcome_generate_dry (Generator.recipes_all catalog)]
      rfl

end

/-! ## The assembly -/

/-- All commands fail, and say the same. -/
structure FailAlike (manifest : Option Path) (before : Workspace) (validation : Validation)
    (failure : Failure) : Prop where
  list : ∀ format display,
    ((Command.list format).run manifest display).run before = (.failure failure, before)
  validate : ∀ display,
    ((Command.validate .text).run manifest display).run before = (.failure failure, before)
  generate : ∀ output display,
    ((Command.generate ⟨output, .all, true, false⟩).run manifest display).run before =
      (.failure failure, before)
  errors_eq : validation.errors = [failure.summary]

/-- All commands succeed, and show the same recipes. -/
structure SucceedAlike (manifest : Option Path) (before : Workspace) (validation : Validation)
    (listing : Listing) (recipes : List Recipe) : Prop where
  list : ∀ format display, ((Command.list format).run manifest display).run before =
    (.success (listing.printed format display.colored), before)
  tells : listing.Tells
  validate : ∀ display, ∃ printed, ((Command.validate .text).run manifest display).run before =
      (.success printed, before) ∧ (display.quiet = false → validation.Counted printed)
  errors_eq : validation.errors = []
  /-- The recipes are those of the listed catalog. -/
  recipes_eq : Validation.allRecipes listing.catalog = .ok recipes
  shown : List.Forall₂ RecipeEntry.Shows listing.recipes recipes
  /-- A dry run reports them, each with how it compares with the file under its name. -/
  generate : ∀ output, ∃ directory report,
    (GenerateOptions.work ⟨output, .all, true, false⟩ manifest).outcome before =
        (.ok (.reported directory report), before) ∧
      List.Forall₂ (Recipe.Foretold directory before) recipes report.artifacts ∧
      report.failures = [] ∧ report.total = validation.recipes ∧
      ∀ display, ∃ printed,
        ((Command.generate ⟨output, .all, true, false⟩).run manifest display).run before =
            (.success printed, before) ∧
          (display.quiet = false → report.Counted directory printed)
  platforms_eq : validation.platforms = listing.catalog.platforms.length
  compilers_eq : validation.compilers = listing.catalog.compilers.length
  product_eq : validation.recipes = validation.platforms * validation.compilers
  length_eq : validation.recipes = listing.recipes.length

section

variable {manifest : Option Path} {before : Workspace}

theorem failAlike_of_inUse {failure : Failure} {origin : String}
    (hinUse : LoadedManifest.inUse manifest before = .error failure) :
    FailAlike manifest before (.stopped origin failure) failure := by
  have hlist := Listing.outcome_find manifest before
  obtain ⟨found, hvalidation⟩ := Validation.run_find manifest before
  have hwork := GenerateOptions.outcome_work_dry manifest before
  rw [hinUse] at hlist hvalidation
  simp only [hinUse] at hwork
  refine ⟨fun format display => ?_, fun display => ?_, fun output display => ?_, rfl⟩
  · rw [Command.run, Listing.run, Program.run_bind, Attempt.run_eq_outcome, hlist]
    rfl
  · rw [Command.run, Validation.run, Program.run_bind, hvalidation]
    rfl
  · rw [Command.run, GenerateOptions.run, Program.run_bind, Attempt.run_eq_outcome, hwork]
    rfl

theorem succeedAlike_of_inUse {loaded : LoadedManifest} {catalog : Catalog}
    (hinUse : LoadedManifest.inUse manifest before = .ok (loaded, catalog)) :
    SucceedAlike manifest before (.passed loaded catalog) ⟨loaded.origin, catalog⟩
      (catalog.cells.map Recipe.ofBuiltin) := by
  have hlist := Listing.outcome_find manifest before
  obtain ⟨found, hvalidation⟩ := Validation.run_find manifest before
  have hwork := GenerateOptions.outcome_work_dry manifest before
  rw [hinUse] at hlist hvalidation
  simp only [hinUse] at hwork
  exact
    { list := fun format display => by
        rw [Command.run, Listing.run, Program.run_bind, Attempt.run_eq_outcome, hlist]
        rfl
      tells := Listing.tells _
      validate := fun display => by
        rw [Command.run, Validation.run, Program.run_bind, hvalidation]
        refine ⟨_, rfl, fun hquiet => ?_⟩
        rw [hquiet]
        exact Validation.counted_lines _ _
      errors_eq := rfl
      recipes_eq := Validation.allRecipes_eq catalog
      shown := Listing.forall₂_shows ⟨loaded.origin, catalog⟩
      generate := fun output => by
        refine ⟨_, _, hwork output, ?_, rfl, ?_, fun display => ?_⟩
        · rw [Report.foreseen, List.forall₂_map_right_iff, List.forall₂_same]
          exact fun recipe _ => Planned.foretold recipe
        · simp [Report.foreseen, Report.total, Validation.passed]
        · rw [Command.run, GenerateOptions.run, Program.run_bind, Attempt.run_eq_outcome, hwork]
          refine ⟨_, rfl, fun hquiet => ?_⟩
          rw [hquiet]
          exact Report.counted_lines _ _ _
      platforms_eq := rfl
      compilers_eq := rfl
      product_eq := length_cellsOf
      length_eq := (List.length_map _).symm }

end

/-- From every workspace and with every manifest the commands end alike.  In JSON a validation is
printed whether it is good or bad, as an object that says what was found: it is valid exactly where
it lists no error, and the command succeeds exactly then. -/
theorem commands_agree (manifest : Option Path) (before : Workspace) :
    ∃ validation : Validation,
      (∀ display, ∃ (object : Json) (result : Except Failure Unit),
        ((Command.validate .json).run manifest display).run before =
            (⟨object.pretty ++ "\n", result⟩, before) ∧
          validation.Told object ∧
          (validation.isValid = true ↔ validation.errors = []) ∧
          (validation.errors = [] ↔ result = .ok ())) ∧
      ((∃ failure, FailAlike manifest before validation failure) ∨
        ∃ listing recipes, SucceedAlike manifest before validation listing recipes) := by
  obtain ⟨origin, hvalidation⟩ := Validation.run_find manifest before
  cases hinUse : LoadedManifest.inUse manifest before with
  | error failure =>
    rw [hinUse] at hvalidation
    refine ⟨.stopped origin failure,
      fun display => ⟨_, .error (.ofMessage "Validation failed"), ?_, Validation.told _, ?_, ?_⟩,
      .inl ⟨failure, failAlike_of_inUse hinUse⟩⟩
    · rw [Command.run, Validation.run, Program.run_bind, hvalidation]
      rfl
    · exact iff_of_false nofun nofun
    · exact iff_of_false nofun nofun
  | ok found =>
    rw [hinUse] at hvalidation
    refine ⟨.passed found.1 found.2,
      fun display => ⟨_, .ok (), ?_, Validation.told _, ?_, ?_⟩,
      .inr ⟨_, _, succeedAlike_of_inUse hinUse⟩⟩
    · rw [Command.run, Validation.run, Program.run_bind, hvalidation]
      rfl
    · exact iff_of_true rfl rfl
    · exact iff_of_true rfl rfl

/-- What is printed about a manifest that is not there. -/
example :
    (((Command.validate .json).run (some ⟨"missing.toml"⟩) ⟨false, false⟩).run
        (Workspace.fresh "work")).1.printed =
      "\x7b\n  \"valid\": false,\n  \"manifest\": \"\",\n" ++
      "  \"platforms\": 0,\n  \"compilers\": 0,\n  \"recipes\": 0,\n" ++
      "  \"errors\": [\n    \"" ++ Error.manifestNotFound.message ++ "\"\n  ],\n" ++
      "  \"warnings\": []\n\x7d\n" := by
  decide +kernel

end RecipeMatrix
