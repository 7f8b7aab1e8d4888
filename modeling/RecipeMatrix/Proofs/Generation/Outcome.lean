import RecipeMatrix.Proofs.Generation.Selected

/-!
# What a run comes to

The report of a run and the files that it leaves, for every starting point.

* Reports.  `pairs_ofOutcomes` says that a report lists every outcome once.
* One recipe.  `bring` brings a recipe by itself.  In a run among others it has the same outcome,
  and its path ends up with the same entry, whatever becomes of the others.
* Whole runs.  `Brought` collects what holds of a run, and `exists_brought` says that every run of
  recipes that can be rendered gives a report with all of it.
-/

namespace RecipeMatrix

open Files RecipeMatrix.Path

/-! ## Reports -/

/-- The names of the platform and of the compiler of a recipe. -/
def Recipe.pair (recipe : Recipe) : String × String := (recipe.platform, recipe.compiler)

/-- The pair that an artifact is about. -/
def Artifact.pair (artifact : Artifact) : String × String :=
  (artifact.platform, artifact.compiler)

/-- The pair that a failure is about. -/
def WriteFailure.pair (failure : WriteFailure) : String × String :=
  (failure.platform, failure.compiler)

namespace Report

/-- The pairs of a report: those of its artifacts, then those of its failures. -/
def pairs (report : Report) : List (String × String) :=
  report.artifacts.map Artifact.pair ++ report.failures.map WriteFailure.pair

/-- The pair that an outcome is about. -/
def pairOf : Except WriteFailure Artifact → String × String
  | .ok artifact => artifact.pair
  | .error failure => failure.pair

section

variable (dryRun : Bool) (artifact : Artifact) (failure : WriteFailure)
  (outcomes : List (Except WriteFailure Artifact))

@[simp]
theorem artifacts_ofOutcomes_ok : (ofOutcomes dryRun (.ok artifact :: outcomes)).artifacts =
    artifact :: (ofOutcomes dryRun outcomes).artifacts := rfl

@[simp]
theorem failures_ofOutcomes_ok : (ofOutcomes dryRun (.ok artifact :: outcomes)).failures =
    (ofOutcomes dryRun outcomes).failures := rfl

@[simp]
theorem artifacts_ofOutcomes_error : (ofOutcomes dryRun (.error failure :: outcomes)).artifacts =
    (ofOutcomes dryRun outcomes).artifacts := rfl

@[simp]
theorem failures_ofOutcomes_error : (ofOutcomes dryRun (.error failure :: outcomes)).failures =
    failure :: (ofOutcomes dryRun outcomes).failures := rfl

end

/-- Every outcome is listed once. -/
theorem pairs_ofOutcomes (dryRun : Bool) (outcomes : List (Except WriteFailure Artifact)) :
    (ofOutcomes dryRun outcomes).pairs.Perm (outcomes.map pairOf) := by
  induction outcomes with
  | nil => exact List.Perm.refl _
  | cons outcome outcomes ih =>
    cases outcome with
    | ok artifact => exact ih.cons artifact.pair
    | error failure => exact List.perm_middle.trans (ih.cons failure.pair)

theorem mem_artifacts_ofOutcomes {dryRun : Bool}
    {outcomes : List (Except WriteFailure Artifact)} {artifact : Artifact} :
    artifact ∈ (ofOutcomes dryRun outcomes).artifacts ↔ .ok artifact ∈ outcomes := by
  simp only [ofOutcomes, List.mem_filterMap]
  constructor
  · rintro ⟨outcome, houtcome, hsome⟩
    cases outcome with
    | ok found =>
      rw [← Option.some.inj hsome]
      exact houtcome
    | error failure => cases hsome
  · intro hmem
    exact ⟨.ok artifact, hmem, rfl⟩

theorem mem_failures_ofOutcomes {dryRun : Bool}
    {outcomes : List (Except WriteFailure Artifact)} {failure : WriteFailure} :
    failure ∈ (ofOutcomes dryRun outcomes).failures ↔ .error failure ∈ outcomes := by
  simp only [ofOutcomes, List.mem_filterMap]
  constructor
  · rintro ⟨outcome, houtcome, hsome⟩
    cases outcome with
    | ok artifact => cases hsome
    | error found =>
      rw [← Option.some.inj hsome]
      exact houtcome
  · intro hmem
    exact ⟨.error failure, hmem, rfl⟩

theorem isSuccess_ofOutcomes_iff {dryRun : Bool}
    {outcomes : List (Except WriteFailure Artifact)} :
    (ofOutcomes dryRun outcomes).isSuccess = true ↔ ∀ failure, .error failure ∉ outcomes := by
  rw [isSuccess, List.isEmpty_iff, List.eq_nil_iff_forall_not_mem]
  exact forall_congr' fun failure => not_congr mem_failures_ofOutcomes

end Report

/-! ## One recipe -/

/-- Brings one recipe by itself. -/
def bring (output : Path) (recipe : Recipe) : Program (Except WriteFailure Artifact) := do
  let planned ← Planned.ofRecipe output recipe
  planned.carryOut false

/-- Some recipes on their way to an output directory, and the workspace they have left. -/
structure Bringing (output : Path) (recipes : List Recipe) (before after : Workspace) :
    Prop where
  plain : output.IsPlain
  isName : ∀ recipe ∈ recipes, IsName recipe.outputName
  compatible : Compatible (recipes.map Recipe.delivery)
  delivered : Delivered output (before.place output) before
    (Planned.due (recipes.map (Planned.inWorkspace output before))) after

namespace Bringing

variable {output : Path} {recipes : List Recipe} {before after : Workspace} {recipe : Recipe}

/-- A run of plans brings their recipes. -/
theorem of_run (hplain : output.IsPlain) (hname : ∀ recipe ∈ recipes, IsName recipe.outputName)
    (hcompatible : Compatible (recipes.map Recipe.delivery)) (before : Workspace) :
    (((recipes.map (Planned.inWorkspace output before)).mapM (Planned.carryOut false)).run
        before).1 =
      recipes.map (fun recipe => Planned.answerBy (verdict output (before.place output) before)
        (Planned.inWorkspace output before recipe)) ∧
    Bringing output recipes before
      (((recipes.map (Planned.inWorkspace output before)).mapM (Planned.carryOut false)).run
        before).2 := by
  have hplanned : ∀ item ∈ recipes.map (Planned.inWorkspace output before),
      item.IsIn output := by
    intro item hitem
    obtain ⟨recipe, hrecipe, rfl⟩ := List.mem_map.1 hitem
    exact ⟨hname recipe hrecipe, rfl⟩
  have hdue : Compatible (Planned.due (recipes.map (Planned.inWorkspace output before)) ++ []) := by
    rw [List.append_nil, Planned.due_inWorkspace]
    exact hcompatible.mono fun delivery hdelivery =>
      (List.filter_sublist.map Recipe.delivery).subset hdelivery
  obtain ⟨hanswers, hdelivered⟩ := Planned.run_mapM_carryOut (prepares_of_isPlain hplain before)
    hplanned hdue .untouched
  rw [List.append_nil] at hdelivered
  rw [List.map_map] at hanswers
  exact ⟨hanswers, hplain, hname, hcompatible, hdelivered⟩

theorem mem_due_iff (hrecipe : recipe ∈ recipes) :
    recipe.delivery ∈ Planned.due (recipes.map (Planned.inWorkspace output before)) ↔
      ¬recipe.Stands output before := by
  rw [Planned.due_inWorkspace, List.mem_map]
  constructor
  · rintro ⟨other, hother, hsame⟩
    have hstale := isStale_iff.1 (List.mem_filter.1 hother).2
    simp only [Recipe.delivery, Delivery.mk.injEq] at hsame
    rwa [stands_iff, hsame.1, hsame.2, ← stands_iff] at hstale
  · intro hstale
    exact ⟨recipe, List.mem_filter.2 ⟨hrecipe, isStale_iff.2 hstale⟩, rfl⟩

theorem compatible_cons (hbringing : Bringing output recipes before after)
    (hrecipe : recipe ∈ recipes) :
    Compatible (recipe.delivery ::
      Planned.due (recipes.map (Planned.inWorkspace output before))) := by
  refine hbringing.compatible.mono fun delivery hdelivery => ?_
  rcases List.mem_cons.1 hdelivery with rfl | hdelivery
  · exact List.mem_map_of_mem hrecipe
  · rw [Planned.due_inWorkspace] at hdelivery
    exact (List.filter_sublist.map Recipe.delivery).subset hdelivery

/-- A recipe that was to be written, and could be, stands at its path. -/
theorem stands_of_writes (hbringing : Bringing output recipes before after)
    (hrecipe : recipe ∈ recipes) (hstale : ¬recipe.Stands output before)
    (hwrites : (verdict output (before.place output) before recipe.outputName).writes = true) :
    recipe.Stands output after := by
  obtain ⟨hok, hspells⟩ := spells_of_writes hwrites
  rw [stands_iff, found?_recipe hbringing.plain (hbringing.isName recipe hrecipe)
    hbringing.delivered.current_eq, if_pos ⟨hspells, areShort_of_ok hbringing.plain hok⟩]
  exact (hbringing.delivered.get?_name hbringing.plain
    (hbringing.compatible_cons hrecipe)).1 ((mem_due_iff hrecipe).2 hstale) hwrites

/-- Any other recipe leaves its path alone. -/
theorem entry_eq (hbringing : Bringing output recipes before after)
    (hrecipe : recipe ∈ recipes)
    (hkept : ¬recipe.Stands output before →
      (verdict output (before.place output) before recipe.outputName).writes = false) :
    after.found? (output.join ⟨recipe.outputName⟩) =
      before.found? (output.join ⟨recipe.outputName⟩) := by
  have hname := hbringing.isName recipe hrecipe
  have hsame := (hbringing.delivered.get?_name hbringing.plain
    (hbringing.compatible_cons hrecipe)).2 fun hmem => hkept ((mem_due_iff hrecipe).1 hmem)
  rw [found?_recipe hbringing.plain hname hbringing.delivered.current_eq,
    found?_recipe hbringing.plain hname rfl]
  exact ite_congr rfl (fun _ => hsame) fun _ => rfl

/-- No temporary file is left of a write that was tried. -/
theorem isFile_temporary (hbringing : Bringing output recipes before after)
    (hrecipe : recipe ∈ recipes) (hstale : ¬recipe.Stands output before) :
    after.isFile (temporaryPath (output.join ⟨recipe.outputName⟩)) = false := by
  have hdue : Compatible (Planned.due (recipes.map (Planned.inWorkspace output before))) :=
    (hbringing.compatible_cons hrecipe).mono fun delivery => List.mem_cons_of_mem _
  have hmem := (mem_due_iff hrecipe).2 hstale
  have hnone := hbringing.delivered.isFile_temporary hbringing.plain hdue hmem
    (hbringing.isName recipe hrecipe)
  exact hnone

/-- What a run does to every place. -/
theorem framed (hbringing : Bringing output recipes before after) (place : Place) :
    after.files.get? place = before.files.get? place ∨
    (place <:+ before.place output ∧ before.files.get? place = none ∧
      after.files.get? place = some .directory) ∨
    (∃ recipe ∈ recipes, ¬recipe.Stands output before ∧
      (verdict output (before.place output) before recipe.outputName).writes = true ∧
      place = recipe.outputName :: before.place output ∧
      after.files.get? place = some (.file recipe.text.toUTF8)) ∨
    (∃ recipe ∈ recipes, ¬recipe.Stands output before ∧
      place = temporaryName recipe.outputName :: before.place output ∧
      before.files.get? place ≠ some .directory ∧ after.files.get? place = none) := by
  have hdue (delivery : Delivery)
      (hmem : delivery ∈ Planned.due (recipes.map (Planned.inWorkspace output before))) :
      ∃ recipe ∈ recipes, ¬recipe.Stands output before ∧ delivery = recipe.delivery := by
    rw [Planned.due_inWorkspace] at hmem
    obtain ⟨recipe, hrecipe, rfl⟩ := List.mem_map.1 hmem
    have hfiltered := List.mem_filter.1 hrecipe
    exact ⟨recipe, hfiltered.1, isStale_iff.1 hfiltered.2, rfl⟩
  have hplain := hbringing.plain
  have hdelivered := hbringing.delivered
  generalize Planned.due (recipes.map (Planned.inWorkspace output before)) = deliveries
    at hdue hdelivered
  cases hdelivered with
  | untouched => exact .inl rfl
  | settled hne hsettled =>
    by_cases hwritten : ∃ delivery ∈ deliveries,
        (verdict output (before.place output) before delivery.name).writes = true ∧
          delivery.name :: before.place output = place
    · obtain ⟨delivery, hdelivery, hwrites, rfl⟩ := hwritten
      obtain ⟨recipe, hrecipe, hstale, rfl⟩ := hdue delivery hdelivery
      exact .inr (.inr (.inl ⟨recipe, hrecipe, hstale, hwrites, rfl,
        hsettled.written _ hdelivery hwrites⟩))
    · by_cases hcleared : ∃ delivery ∈ deliveries,
          (verdict output (before.place output) before delivery.name).clears = true ∧
            temporaryName delivery.name :: before.place output = place
      · obtain ⟨delivery, hdelivery, hclears, rfl⟩ := hcleared
        obtain ⟨recipe, hrecipe, hstale, rfl⟩ := hdue delivery hdelivery
        refine .inr (.inr (.inr ⟨recipe, hrecipe, hstale, rfl, ?_,
          hsettled.cleared _ hdelivery hclears⟩))
        have hfits := (fits_verdict output (before.place output) before).cleared _ hclears
        rwa [prepare_beside hplain before (prepared_mem_states output before)] at hfits
      · rw [hsettled.kept place
          (fun delivery hdelivery hwrites hplace =>
            hwritten ⟨delivery, hdelivery, hwrites, hplace⟩)
          (fun delivery hdelivery hclears hplace =>
            hcleared ⟨delivery, hdelivery, hclears, hplace⟩)]
        rcases (prepare_adds_onTheWay hplain before _ (prepared_mem_states output before)).2
          place with hsame | hmade
        · exact .inl hsame
        · exact .inr (.inl hmade)

end Bringing

/-- A recipe by itself is a run of one plan. -/
theorem run_bring (output : Path) (recipe : Recipe) (before : Workspace) :
    (bring output recipe).run before =
      (Planned.carryOut false (Planned.inWorkspace output before recipe)).run before := by
  rw [bring, Program.run_bind, Planned.run_ofRecipe]

section

variable {output : Path} {recipe : Recipe} {before : Workspace} {verdict : String → Verdict}

theorem pairOf_answerBy :
    Report.pairOf (Planned.answerBy verdict (Planned.inWorkspace output before recipe)) =
      recipe.pair := by
  unfold Planned.answerBy
  split
  next => split <;> rfl
  next => rfl

theorem of_answerBy_eq_ok {artifact : Artifact}
    (hanswer : Planned.answerBy verdict (Planned.inWorkspace output before recipe) =
      .ok artifact) :
    artifact.pair = recipe.pair ∧ artifact.path = output.join ⟨recipe.outputName⟩ ∧
      (¬recipe.Stands output before → (verdict recipe.outputName).writes = true) := by
  unfold Planned.answerBy at hanswer
  split at hanswer
  next hstale =>
    cases hwrites : (verdict recipe.outputName).writes with
    | true =>
      simp only [Planned.inWorkspace, Verdict.answer_of_writes hwrites] at hanswer
      rw [← Except.ok.inj hanswer]
      exact ⟨rfl, rfl, fun _ => rfl⟩
    | false =>
      obtain ⟨failure, hfailure⟩ := Verdict.answer_of_not_writes hwrites
      simp only [Planned.inWorkspace, hfailure] at hanswer
      cases hanswer
  next hstale =>
    rw [← Except.ok.inj hanswer]
    exact ⟨rfl, rfl, fun hnot => absurd (isStale_iff.2 hnot) hstale⟩

theorem of_answerBy_eq_error {failure : WriteFailure}
    (hanswer : Planned.answerBy verdict (Planned.inWorkspace output before recipe) =
      .error failure) :
    failure.pair = recipe.pair ∧ failure.path = output.join ⟨recipe.outputName⟩ ∧
      (verdict recipe.outputName).writes = false := by
  unfold Planned.answerBy at hanswer
  split at hanswer
  next hstale =>
    cases hwrites : (verdict recipe.outputName).writes with
    | true =>
      simp only [Planned.inWorkspace, Verdict.answer_of_writes hwrites] at hanswer
      cases hanswer
    | false =>
      obtain ⟨reason, hreason⟩ := Verdict.answer_of_not_writes hwrites
      simp only [Planned.inWorkspace, hreason] at hanswer
      rw [← Except.error.inj hanswer]
      exact ⟨rfl, rfl, rfl⟩
  next hstale => cases hanswer

theorem answerBy_of_writes (hstale : ¬recipe.Stands output before)
    (hwrites : (verdict recipe.outputName).writes = true) :
    Planned.answerBy verdict (Planned.inWorkspace output before recipe) =
      .ok (Planned.inWorkspace output before recipe).artifact := by
  have hstatus : (Planned.inWorkspace output before recipe).status.isStale = true :=
    isStale_iff.2 hstale
  rw [Planned.answerBy, if_pos hstatus]
  simp only [Planned.inWorkspace, Verdict.answer_of_writes hwrites]

end

/-! ## Whole runs -/

/-- What holds of a run that brought some recipes to an output directory. -/
structure Brought (output : Path) (recipes : List Recipe) (before after : Workspace)
    (report : Report) : Prop where
  /-- The pairs of the report are those of the recipes, up to their order. -/
  listed : report.pairs.Perm (recipes.map Recipe.pair)
  /-- No pair occurs twice. -/
  nodup : (recipes.map Recipe.pair).Nodup
  /-- The path of an artifact is a file with exactly its recipe. -/
  written : ∀ artifact ∈ report.artifacts, ∃ recipe ∈ recipes, artifact.pair = recipe.pair ∧
    artifact.path = output.join ⟨recipe.outputName⟩ ∧ recipe.Stands output after
  /-- What was at the path of a failure is still there. -/
  untouched : ∀ failure ∈ report.failures, ∃ recipe ∈ recipes, failure.pair = recipe.pair ∧
    failure.path = output.join ⟨recipe.outputName⟩ ∧
      after.found? failure.path = before.found? failure.path
  /-- No temporary file is left of a write that was tried. -/
  cleared : ∀ recipe ∈ recipes, ¬recipe.Stands output before →
    after.isFile (temporaryPath (output.join ⟨recipe.outputName⟩)) = false
  /-- Everything else is as it was, but for directories on the way to the output directory. -/
  framed : ∀ place, after.files.get? place = before.files.get? place ∨
    (place <:+ before.place output ∧ before.files.get? place = none ∧
      after.files.get? place = some .directory) ∨
    (∃ recipe ∈ recipes, recipe.pair ∈ report.artifacts.map Artifact.pair ∧
      place = recipe.outputName :: before.place output ∧
      after.files.get? place = some (.file recipe.text.toUTF8)) ∨
    (∃ recipe ∈ recipes, ¬recipe.Stands output before ∧
      place = temporaryName recipe.outputName :: before.place output ∧
      before.files.get? place ≠ some .directory ∧ after.files.get? place = none)
  /-- Every recipe has the outcome that it has by itself. -/
  report_eq : report =
    Report.ofOutcomes false (recipes.map fun recipe => ((bring output recipe).run before).1)
  /-- Every path ends up with the entry that it gets from its recipe alone. -/
  entry_eq : ∀ recipe ∈ recipes, after.found? (output.join ⟨recipe.outputName⟩) =
    ((bring output recipe).run before).2.found? (output.join ⟨recipe.outputName⟩)

namespace Bringing

variable {output : Path} {recipes : List Recipe} {before after : Workspace} {recipe : Recipe}

/-- A recipe of a run, by itself. -/
theorem alone (hbringing : Bringing output recipes before after) (hrecipe : recipe ∈ recipes) :
    ((bring output recipe).run before).1 =
        Planned.answerBy (verdict output (before.place output) before)
          (Planned.inWorkspace output before recipe) ∧
      Bringing output [recipe] before ((bring output recipe).run before).2 := by
  have hname : ∀ other ∈ [recipe], IsName other.outputName := by
    intro other hother
    rw [List.mem_singleton.1 hother]
    exact hbringing.isName recipe hrecipe
  have hcompatible : Compatible ([recipe].map Recipe.delivery) := by
    refine hbringing.compatible.mono fun delivery hdelivery => ?_
    rw [List.mem_singleton.1 hdelivery]
    exact List.mem_map_of_mem hrecipe
  obtain ⟨hanswers, halone⟩ := of_run hbringing.plain hname hcompatible before
  rw [List.map_singleton, Program.run_mapM_cons, Program.run_mapM_nil] at hanswers halone
  rw [run_bring]
  exact ⟨(List.cons.inj hanswers).1, halone⟩

/-- In a run among others a recipe leaves the entry that it leaves by itself. -/
theorem entry_eq_alone (hbringing : Bringing output recipes before after)
    (hrecipe : recipe ∈ recipes) :
    after.found? (output.join ⟨recipe.outputName⟩) =
      ((bring output recipe).run before).2.found? (output.join ⟨recipe.outputName⟩) := by
  obtain ⟨-, halone⟩ := hbringing.alone hrecipe
  have hself : recipe ∈ [recipe] := List.mem_singleton.2 rfl
  by_cases hwritten : ¬recipe.Stands output before ∧
      (verdict output (before.place output) before recipe.outputName).writes = true
  · have hafter := hbringing.stands_of_writes hrecipe hwritten.1 hwritten.2
    have hother := halone.stands_of_writes hself hwritten.1 hwritten.2
    rw [stands_iff] at hafter hother
    rw [hafter, hother]
  · have hkept (hstale : ¬recipe.Stands output before) :
        (verdict output (before.place output) before recipe.outputName).writes = false := by
      cases hwrites : (verdict output (before.place output) before recipe.outputName).writes with
      | false => rfl
      | true => exact absurd ⟨hstale, hwrites⟩ hwritten
    rw [hbringing.entry_eq hrecipe hkept, halone.entry_eq hself hkept]

/-- What holds of a run, from the verdicts on its recipes. -/
theorem brought (hbringing : Bringing output recipes before after)
    (hnodup : (recipes.map Recipe.pair).Nodup) :
    Brought output recipes before after (Report.ofOutcomes false (recipes.map fun recipe =>
      Planned.answerBy (verdict output (before.place output) before)
        (Planned.inWorkspace output before recipe))) where
  listed := by
    refine (Report.pairs_ofOutcomes _ _).trans ?_
    rw [List.map_map]
    refine List.Perm.of_eq (List.map_congr_left fun recipe _ => ?_)
    exact pairOf_answerBy
  nodup := hnodup
  written := by
    intro artifact hartifact
    rw [Report.mem_artifacts_ofOutcomes, List.mem_map] at hartifact
    obtain ⟨recipe, hrecipe, hanswer⟩ := hartifact
    obtain ⟨hpair, hpath, hwrites⟩ := of_answerBy_eq_ok hanswer
    refine ⟨recipe, hrecipe, hpair, hpath, ?_⟩
    by_cases hstale : ¬recipe.Stands output before
    · exact hbringing.stands_of_writes hrecipe hstale (hwrites hstale)
    · have hsame := hbringing.entry_eq hrecipe fun hnot => absurd hnot hstale
      rw [stands_iff, hsame, ← stands_iff]
      exact Classical.not_not.1 hstale
  untouched := by
    intro failure hfailure
    rw [Report.mem_failures_ofOutcomes, List.mem_map] at hfailure
    obtain ⟨recipe, hrecipe, hanswer⟩ := hfailure
    obtain ⟨hpair, hpath, hwrites⟩ := of_answerBy_eq_error hanswer
    refine ⟨recipe, hrecipe, hpair, hpath, ?_⟩
    rw [hpath]
    exact hbringing.entry_eq hrecipe fun _ => hwrites
  cleared := fun recipe hrecipe hstale => hbringing.isFile_temporary hrecipe hstale
  framed := by
    intro place
    rcases hbringing.framed place with hsame | hmade |
      ⟨recipe, hrecipe, hstale, hwrites, hplace, hfile⟩ | hcleared
    · exact .inl hsame
    · exact .inr (.inl hmade)
    · refine .inr (.inr (.inl ⟨recipe, hrecipe, ?_, hplace, hfile⟩))
      refine List.mem_map.2 ⟨_, Report.mem_artifacts_ofOutcomes.2
        (List.mem_map.2 ⟨recipe, hrecipe, answerBy_of_writes hstale hwrites⟩), rfl⟩
    · exact .inr (.inr (.inr hcleared))
  report_eq := by
    refine congrArg (Report.ofOutcomes false) (List.map_congr_left fun recipe hrecipe => ?_)
    exact (hbringing.alone hrecipe).1.symm
  entry_eq := fun recipe hrecipe => hbringing.entry_eq_alone hrecipe

end Bringing

namespace Generator

variable {generator : Generator} {selection : Selection} {cells : List Cell}
  {recipes : List Recipe} {output : Path}

theorem isName_of_mem_recipes (haccepted : generator.catalog.Accepted)
    (hrecipes : generator.recipes selection = .ok recipes) :
    ∀ recipe ∈ recipes, IsName recipe.outputName := by
  intro recipe hrecipe
  obtain ⟨cells, hcells, -⟩ := Recipe.ofSelection_eq_ok_iff.1 hrecipes
  have hof := (mem_recipes_iff hcells hrecipes).1 hrecipe
  exact (hof.mono (Catalog.mem_cells_of_selection hcells)).isName haccepted

/-- No two recipes of a selection have one name. -/
theorem nodup_outputNames (haccepted : generator.catalog.Accepted)
    (hrecipes : generator.recipes selection = .ok recipes) :
    (recipes.map Recipe.outputName).Nodup := by
  obtain ⟨cells, hcells, hmap⟩ := Recipe.ofSelection_eq_ok_iff.1 hrecipes
  rw [Recipe.map_outputName hmap]
  exact haccepted.nodup_outputNames.sublist
    ((Catalog.cells_sublist_of_selection hcells).map Cell.outputName)

/-- No pair is selected twice. -/
theorem nodup_pairs (haccepted : generator.catalog.Accepted)
    (hrecipes : generator.recipes selection = .ok recipes) :
    (recipes.map Recipe.pair).Nodup := by
  have hnames := nodup_outputNames haccepted hrecipes
  obtain ⟨cells, hcells, hmap⟩ := Recipe.ofSelection_eq_ok_iff.1 hrecipes
  have hname : ∀ recipe ∈ recipes,
      recipe.outputName = Cell.outputStem ++ recipe.pair.1 ++ "-" ++ recipe.pair.2 := by
    intro recipe hrecipe
    obtain ⟨cell, -, hof⟩ := (mem_recipes_iff hcells hrecipes).1 hrecipe
    obtain ⟨hplatform, hcompiler, houtput⟩ := Recipe.ofCell_eq_ok hof
    rw [houtput, Recipe.pair, hplatform, hcompiler]
    rfl
  rw [List.Nodup, List.pairwise_map] at hnames ⊢
  refine hnames.imp_of_mem fun hfirst hsecond hne hsame => hne ?_
  rw [hname _ hfirst, hname _ hsecond, hsame]

/-- Every run of recipes that can be rendered gives a report, and all that is to be expected of
it: each recipe is written or reported, by itself and without a trace elsewhere. -/
theorem exists_brought (haccepted : generator.catalog.Accepted)
    (hcells : selection.cells generator.catalog = .ok cells)
    (hrecipes : generator.recipes selection = .ok recipes) (hplain : output.IsPlain)
    (hapart : Catalog.Apart cells) (before : Workspace) :
    ∃ report after,
      (generator.generate selection output false).outcome before = (.ok report, after) ∧
        Brought output recipes before after report := by
  have hsubset := Catalog.mem_cells_of_selection hcells
  have hof : ∀ recipe ∈ recipes, generator.RecipeOf cells recipe :=
    fun recipe => (mem_recipes_iff hcells hrecipes).1
  have hcompatible := compatible_of_recipeOf haccepted hsubset hapart hof
  obtain ⟨hanswers, hbringing⟩ := Bringing.of_run hplain
    (isName_of_mem_recipes haccepted hrecipes) hcompatible before
  refine ⟨_, _, outcome_generate hrecipes output false before, ?_⟩
  rw [hanswers]
  exact hbringing.brought (nodup_pairs haccepted hrecipes)

theorem exists_brought_small : ∃ report after,
    ((small "gcc" "clang").generate .all ⟨"out"⟩ false).outcome (Workspace.fresh "work") =
        (.ok report, after) ∧
      Brought ⟨"out"⟩ [Recipe.small "gcc" "g++", Recipe.small "clang" "clang"]
        (Workspace.fresh "work") after report := by
  have hcells : Selection.all.cells (small "gcc" "clang").catalog =
      .ok (small "gcc" "clang").catalog.cells := by decide +kernel
  exact exists_brought Catalog.accepted_small hcells recipes_small (by decide +kernel)
    (by decide +kernel) _

end Generator

end RecipeMatrix
