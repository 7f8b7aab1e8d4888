import RecipeMatrix.Generation
import RecipeMatrix.Proofs.Files.Deliveries

/-!
# Plans and how they are carried out

There are two groups.

* Planning.  Plans and checks only ask (`makes_plan`, `makes_check`): `outcome_plan` gives a plan
  as a function of the workspace, and a recipe is stale exactly where its text does not stand
  (`isStale_iff`).  So what holds in all states of a run is what its plans keep
  (`forall_states_generate`).
* Carrying out.  The stale plans are deliveries of their texts.  `run_mapM_carryOut` follows a
  list of plans from any workspace that earlier deliveries have left, and says both what each
  plan answers and what is left in the end.
-/

namespace RecipeMatrix

open Files RecipeMatrix.Path

/-- The text of a recipe stands at its path. -/
def Recipe.Stands (recipe : Recipe) (output : Path) (workspace : Workspace) : Prop :=
  workspace.content (output.join ⟨recipe.outputName⟩) = .ok recipe.text.toUTF8

theorem stands_iff {recipe : Recipe} {output : Path} {workspace : Workspace} :
    recipe.Stands output workspace ↔
      workspace.found? (output.join ⟨recipe.outputName⟩) = some (.file recipe.text.toUTF8) :=
  Workspace.content_eq_ok_iff

/-- The text of a recipe, to be delivered under its name. -/
def Recipe.delivery (recipe : Recipe) : Delivery := ⟨recipe.outputName, recipe.text.toUTF8⟩

namespace Planned

/-! ## Planning -/

/-- How a recipe compares with what stands at a path. -/
def statusIn (workspace : Workspace) (recipe : Recipe) (path : Path) : Status :=
  match workspace.found? path with
  | some (.file content) =>
      if content.data = recipe.text.toUTF8.data then .unchanged else .updated
  | _ => .created

/-- The plan of a recipe for an output directory as it is in a workspace. -/
def inWorkspace (output : Path) (workspace : Workspace) (recipe : Recipe) : Planned :=
  ⟨recipe, output.join ⟨recipe.outputName⟩,
    statusIn workspace recipe (output.join ⟨recipe.outputName⟩)⟩

theorem outcome_content? (path : Path) (workspace : Workspace) :
    (content? path).outcome workspace =
      (match workspace.found? path with
        | some (.file content) => .ok (some content)
        | _ => .ok none, workspace) := by
  rw [content?, Attempt.outcome_if (Program.run_isFile path workspace)]
  cases hfile : workspace.isFile path with
  | true =>
    obtain ⟨content, hentry⟩ := Workspace.isFile_iff.1 hfile
    have hcontent := Workspace.content_eq_ok_iff.2 hentry
    rw [if_pos rfl, Attempt.outcome_bind, Attempt.outcome_during]
    simp only [Program.run_content, hcontent, hentry]
    rfl
  | false =>
    have hnot (content : ByteArray) : workspace.found? path ≠ some (.file content) := by
      intro hentry
      rw [Workspace.isFile_iff.2 ⟨content, hentry⟩] at hfile
      cases hfile
    cases hentry : workspace.found? path with
    | none => rfl
    | some entry =>
      cases entry with
      | directory => rfl
      | file content => exact absurd hentry (hnot content)

theorem run_compare (recipe : Recipe) (path : Path) (workspace : Workspace) :
    (compare recipe path).run workspace = (statusIn workspace recipe path, workspace) := by
  rw [compare, Program.run_bind, Attempt.run_eq_outcome, outcome_content?, statusIn]
  cases hentry : workspace.found? path with
  | none => rfl
  | some entry => cases entry <;> rfl

theorem run_ofRecipe (output : Path) (recipe : Recipe) (workspace : Workspace) :
    (ofRecipe output recipe).run workspace = (inWorkspace output workspace recipe, workspace) := by
  simp only [ofRecipe, Program.run_bind, run_compare]
  rfl

theorem run_mapM_ofRecipe (output : Path) (recipes : List Recipe) (workspace : Workspace) :
    (recipes.mapM (ofRecipe output)).run workspace =
      (recipes.map (inWorkspace output workspace), workspace) := by
  induction recipes with
  | nil => rfl
  | cons recipe recipes ih =>
    rw [Program.run_mapM_cons, run_ofRecipe, ih]
    rfl

/-! Planning only asks. -/

theorem makes_content? {allowed : Workspace.Change → Prop} (path : Path) :
    (content? path).run.Makes allowed := by
  refine Attempt.makes_then (Attempt.makes_always (Program.makes_question _)) fun present => ?_
  cases present with
  | true =>
    exact Attempt.makes_then (Attempt.makes_during _ (Program.makes_question _))
      fun _ => trivial
  | false => exact trivial

theorem makes_compare {allowed : Workspace.Change → Prop} (recipe : Recipe) (path : Path) :
    (compare recipe path).Makes allowed := by
  refine (makes_content? path).bind fun answer => ?_
  rcases answer with _ | _ | _ <;> exact trivial

theorem makes_ofRecipe {allowed : Workspace.Change → Prop} (output : Path) (recipe : Recipe) :
    (ofRecipe output recipe).Makes allowed :=
  (makes_compare _ _).bind fun _ => trivial

end Planned

/-- A recipe is to be written. -/
def Recipe.isStale (output : Path) (workspace : Workspace) (recipe : Recipe) : Bool :=
  (Planned.inWorkspace output workspace recipe).status.isStale

/-- A recipe is to be written where it does not stand. -/
theorem isStale_iff {output : Path} {workspace : Workspace} {recipe : Recipe} :
    recipe.isStale output workspace = true ↔ ¬recipe.Stands output workspace := by
  rw [stands_iff, Recipe.isStale, Planned.inWorkspace, Planned.statusIn]
  split
  next content hentry =>
    rw [hentry]
    split
    next hdata =>
      have hcontent : content = recipe.text.toUTF8 := ByteArray.ext hdata
      simp [hcontent, Status.isStale]
    next hdata =>
      have hcontent : content ≠ recipe.text.toUTF8 := fun h => hdata (congrArg _ h)
      simpa [Status.isStale] using hcontent
  next hentry => simpa [Status.isStale] using hentry recipe.text.toUTF8

theorem isStale_eq_false_iff {output : Path} {workspace : Workspace} {recipe : Recipe} :
    recipe.isStale output workspace = false ↔ recipe.Stands output workspace := by
  rw [← Bool.not_eq_true, isStale_iff, Classical.not_not]

namespace Generator

theorem outcome_plan (generator : Generator) (selection : Selection) (output : Path)
    (workspace : Workspace) :
    (generator.plan selection output).outcome workspace =
      ((generator.recipes selection).map fun recipes =>
        recipes.map (Planned.inWorkspace output workspace), workspace) := by
  rw [plan, Attempt.outcome_bind, Attempt.outcome_ofExcept]
  cases generator.recipes selection with
  | error error => rfl
  | ok recipes =>
    simp only [Attempt.outcome_always, Planned.run_mapM_ofRecipe]
    rfl

/-- A run brings all plans in turn, if all recipes can be rendered. -/
theorem outcome_generate {generator : Generator} {selection : Selection} {recipes : List Recipe}
    (hrecipes : generator.recipes selection = .ok recipes) (output : Path) (dryRun : Bool)
    (workspace : Workspace) :
    (generator.generate selection output dryRun).outcome workspace =
      (.ok (Report.ofOutcomes dryRun (((recipes.map (Planned.inWorkspace output workspace)).mapM
          (Planned.carryOut dryRun)).run workspace).1),
        (((recipes.map (Planned.inWorkspace output workspace)).mapM
          (Planned.carryOut dryRun)).run workspace).2) := by
  rw [generate, Attempt.outcome_bind, outcome_plan, hrecipes]
  simp only [Except.map, Attempt.outcome_bind, Attempt.outcome_always]
  rfl

/-- A run that cannot render its recipes touches nothing. -/
theorem outcome_generate_of_error {generator : Generator} {selection : Selection} {error : Error}
    (herror : generator.recipes selection = .error error) (output : Path) (dryRun : Bool)
    (workspace : Workspace) :
    (generator.generate selection output dryRun).outcome workspace =
      (.error error, workspace) := by
  rw [generate, Attempt.outcome_bind, outcome_plan, herror]
  rfl

theorem makes_plan {allowed : Workspace.Change → Prop} (generator : Generator)
    (selection : Selection) (output : Path) :
    (generator.plan selection output).run.Makes allowed := by
  refine Attempt.makes_ofExcept_then fun recipes => Attempt.makes_always ?_
  exact Program.Makes.mapM fun recipe _ => Planned.makes_ofRecipe output recipe

theorem makes_check {allowed : Workspace.Change → Prop} (generator : Generator)
    (selection : Selection) (output : Path) :
    (generator.check selection output).run.Makes allowed := by
  refine Attempt.makes_then (generator.makes_plan selection output) fun planned => ?_
  dsimp only
  split <;> exact trivial

/-- What every plan keeps when it is carried out holds in all states of a run. -/
theorem forall_states_generate {generator : Generator} {selection : Selection} {output : Path}
    {dryRun : Bool} {start : Workspace} {holds : Workspace → Prop} (hstart : holds start)
    (hcarry : ∀ recipes, generator.recipes selection = .ok recipes → ∀ recipe ∈ recipes,
      ∀ reached, holds reached →
        ∀ state ∈ (Planned.carryOut dryRun
          (Planned.inWorkspace output start recipe)).states reached, holds state) :
    ∀ state ∈ (generator.generate selection output dryRun).states start, holds state := by
  unfold generate
  refine Attempt.forall_states_then.2 ⟨fun state hstate => ?_, fun planned reached hplan => ?_⟩
  · rw [(generator.makes_plan selection output).states_eq start state hstate]
    exact hstart
  rw [outcome_plan] at hplan
  obtain ⟨hplanned, rfl⟩ := Prod.mk.inj hplan
  have hall : ∀ state ∈ (planned.mapM (Planned.carryOut dryRun)).states start, holds state := by
    cases hrecipes : generator.recipes selection with
    | error error => simp [hrecipes, Except.map] at hplanned
    | ok recipes =>
      obtain rfl : recipes.map (Planned.inWorkspace output start) = planned := by
        simpa [hrecipes, Except.map] using hplanned
      refine Program.forall_states_mapM (fun item hitem reached hreached => ?_) hstart
      obtain ⟨recipe, hrecipe, rfl⟩ := List.mem_map.1 hitem
      exact hcarry recipes hrecipes recipe hrecipe reached hreached
  refine Attempt.forall_states_then.2 ⟨(Attempt.forall_states_always _ _).2 hall,
    fun outcomes reached houtcomes state hstate => ?_⟩
  rw [Attempt.outcome_always] at houtcomes
  rw [List.mem_singleton.1 hstate, ← (Prod.mk.inj houtcomes).2]
  exact hall _ (Program.run_mem_states _ start)

end Generator

/-! ## Carrying out -/

namespace Planned

/-- The deliveries of the stale plans. -/
def due (planned : List Planned) : List Delivery :=
  (planned.filter fun item => item.status.isStale).map fun item => item.recipe.delivery

theorem filter_inWorkspace (output : Path) (workspace : Workspace) (recipes : List Recipe) :
    (recipes.map (inWorkspace output workspace)).filter (fun item => item.status.isStale) =
      (recipes.filter (Recipe.isStale output workspace)).map (inWorkspace output workspace) :=
  List.filter_map

theorem due_inWorkspace (output : Path) (workspace : Workspace) (recipes : List Recipe) :
    due (recipes.map (inWorkspace output workspace)) =
      (recipes.filter (Recipe.isStale output workspace)).map Recipe.delivery := by
  rw [due, filter_inWorkspace, List.map_map]
  rfl

/-- What a plan answers, by the verdict on its name. -/
def answerBy (verdict : String → Verdict) (planned : Planned) : Except WriteFailure Artifact :=
  if planned.status.isStale then
    match (verdict planned.recipe.outputName).answer with
    | .ok () => .ok planned.artifact
    | .error failure => .error (planned.failed failure)
  else .ok planned.artifact

/-- A plan for a name in an output directory. -/
def IsIn (output : Path) (planned : Planned) : Prop :=
  IsName planned.recipe.outputName ∧ planned.path = output.join ⟨planned.recipe.outputName⟩

theorem carryOut_of_not_isStale {planned : Planned} (hstale : planned.status.isStale = false)
    (dryRun : Bool) : carryOut dryRun planned = pure (.ok planned.artifact) := by
  simp [carryOut, hstale]

theorem carryOut_dry (planned : Planned) :
    carryOut true planned = pure (.ok planned.artifact) := by
  simp [carryOut]

theorem run_carryOut_dry (planned : Planned) (workspace : Workspace) :
    (carryOut true planned).run workspace = (.ok planned.artifact, workspace) := by
  rw [carryOut_dry, Program.run_pure]

theorem run_carryOut_of_not_isStale {planned : Planned} (hstale : planned.status.isStale = false)
    (dryRun : Bool) (workspace : Workspace) :
    (carryOut dryRun planned).run workspace = (.ok planned.artifact, workspace) := by
  rw [carryOut_of_not_isStale hstale, Program.run_pure]

theorem run_carryOut_of_isStale {planned : Planned} (hstale : planned.status.isStale = true)
    (workspace : Workspace) :
    (carryOut false planned).run workspace =
      (match ((replaceContent planned.path planned.recipe.text.toUTF8).outcome workspace).1 with
        | .ok () => .ok planned.artifact
        | .error failure => .error (planned.failed failure),
        ((replaceContent planned.path planned.recipe.text.toUTF8).outcome workspace).2) := by
  simp only [carryOut, hstale, Bool.not_false, Bool.and_self, if_true, Program.run_bind,
    Attempt.run_eq_outcome]
  cases ((replaceContent planned.path planned.recipe.text.toUTF8).outcome workspace).1 <;> rfl

/-- A list of plans, carried out after other deliveries. -/
theorem run_mapM_carryOut {output : Path} {directory : Place} {start reached : Workspace}
    {deliveries : List Delivery} {planned : List Planned}
    (hprepares : Prepares output directory start)
    (hplanned : ∀ item ∈ planned, item.IsIn output)
    (hcompatible : Compatible (due planned ++ deliveries))
    (hdelivered : Delivered output directory start deliveries reached) :
    ((planned.mapM (carryOut false)).run reached).1 =
        planned.map (answerBy (verdict output directory start)) ∧
      Delivered output directory start (due planned ++ deliveries)
        ((planned.mapM (carryOut false)).run reached).2 := by
  induction planned generalizing deliveries reached with
  | nil => exact ⟨rfl, hdelivered⟩
  | cons item planned ih =>
    have hrest := fun other hother => hplanned other (List.mem_cons_of_mem item hother)
    rw [Program.run_mapM_cons]
    cases hstale : item.status.isStale with
    | false =>
      have hdue : due (item :: planned) = due planned := by simp [due, hstale]
      rw [hdue] at hcompatible ⊢
      obtain ⟨hanswers, hfinal⟩ := ih hrest hcompatible hdelivered
      rw [run_carryOut_of_not_isStale hstale]
      refine ⟨?_, hfinal⟩
      rw [hanswers, List.map_cons, answerBy, if_neg (by simp [hstale])]
    | true =>
      have hdue : due (item :: planned) = item.recipe.delivery :: due planned := by
        simp [due, hstale]
      rw [hdue] at hcompatible ⊢
      obtain ⟨hname, hpath⟩ := hplanned item List.mem_cons_self
      have hmem (delivery : Delivery) :
          delivery ∈ item.recipe.delivery :: due planned ++ deliveries ↔
            delivery ∈ due planned ++ item.recipe.delivery :: deliveries :=
        List.perm_middle.mem_iff.symm
      have hfirst : Compatible (item.recipe.delivery :: deliveries) :=
        hcompatible.mono fun delivery hdelivery =>
          (hmem delivery).2 (List.mem_append_right _ hdelivery)
      obtain ⟨hanswer, hmade⟩ := hdelivered.deliver hprepares hname hfirst
      obtain ⟨hanswers, hfinal⟩ := ih hrest
        (hcompatible.mono fun delivery hdelivery => (hmem delivery).2 hdelivery) hmade
      rw [run_carryOut_of_isStale hstale, hpath]
      refine ⟨?_, hfinal.congr hmem⟩
      simp only [Recipe.delivery] at hanswer
      rw [List.map_cons, answerBy, if_pos hstale]
      refine List.cons_eq_cons.2 ⟨?_, hanswers⟩
      simp only [hanswer]

end Planned

namespace Generator

/-- A dry run only asks, as a plan does. -/
theorem makes_generate_dry {allowed : Workspace.Change → Prop} (generator : Generator)
    (selection : Selection) (output : Path) :
    (generator.generate selection output true).run.Makes allowed := by
  refine Attempt.makes_then (generator.makes_plan selection output) fun planned => ?_
  refine Attempt.makes_then (Attempt.makes_always ?_) fun _ => trivial
  refine Program.Makes.mapM fun item _ => ?_
  rw [Planned.carryOut_dry]
  exact trivial

end Generator

end RecipeMatrix
