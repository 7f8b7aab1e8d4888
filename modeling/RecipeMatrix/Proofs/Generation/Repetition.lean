import Mathlib.Data.List.Forall2
import RecipeMatrix.Proofs.Generation.Outcome

/-!
# Repeated runs

What a second run of the same selection into the same directory does, whatever became of the
first one.

There are four groups.

* Single outcomes.  `Follows first second` relates the outcome of a recipe to its outcome in the
  next run.  `SameButReason` relates outcomes that differ in no more than the wording of a failure.
* Starting from the directory.  A run makes the directory with its first stale recipe.  Had it
  been made, or refused, before, the run would come to the same but for that recipe's reason
  (`run_mapM_carryOut_prepared`).
* Standing recipes.  In a directory that is settled a recipe stands after deliveries if it stood
  before them or was written (`stands_iff_of_delivered`).  So there is nothing left to write.
* The assembly.  `Landed` is what the first run leaves behind if it had something to write, and
  the second run is read off it.  `Repeated` says what two runs have in common, and
  `exists_repeated` that any two runs have it.

With `..` in the path the first run may bring a file to light that it could not see when it
started; `not_forall_repeated` is such a run.
-/

namespace RecipeMatrix

open Files RecipeMatrix.Path

/-! ## Single outcomes -/

/-- The artifact of a recipe that was already there. -/
def Artifact.settled (artifact : Artifact) : Artifact := { artifact with status := .unchanged }

/-- Outcomes of one recipe that differ in no more than the reason of a failure. -/
inductive SameButReason : Except WriteFailure Artifact → Except WriteFailure Artifact → Prop
  | done (artifact : Artifact) : SameButReason (.ok artifact) (.ok artifact)
  | failing (failure : WriteFailure) (reason : String) :
      SameButReason (.error failure) (.error { failure with reason })

/-- The outcome of a recipe in one run and in the next: what is there stays, and what failed
fails again or is found in its place. -/
inductive Follows : Except WriteFailure Artifact → Except WriteFailure Artifact → Prop
  | kept (artifact : Artifact) : Follows (.ok artifact) (.ok artifact.settled)
  | failing (failure : WriteFailure) (reason : String) :
      Follows (.error failure) (.error { failure with reason })
  | found (failure : WriteFailure) :
      Follows (.error failure)
        (.ok ⟨failure.platform, failure.compiler, failure.path, .unchanged⟩)

theorem SameButReason.refl (outcome : Except WriteFailure Artifact) :
    SameButReason outcome outcome := by
  cases outcome with
  | ok artifact => exact .done artifact
  | error failure => exact .failing failure failure.reason

/-- The reason of an earlier failure does not count. -/
theorem SameButReason.follows {first other second : Except WriteFailure Artifact}
    (hsame : SameButReason first other) (hfollows : Follows other second) :
    Follows first second := by
  cases hsame with
  | done artifact => exact hfollows
  | failing failure reason =>
    cases hfollows with
    | failing _ reason => exact .failing failure reason
    | found _ => exact .found failure

theorem follows_of_sameButReason {first other second : List (Except WriteFailure Artifact)}
    (hsame : List.Forall₂ SameButReason first other)
    (hfollows : List.Forall₂ Follows other second) : List.Forall₂ Follows first second := by
  induction hsame generalizing second with
  | nil => exact hfollows
  | cons houtcome _ ih =>
    cases hfollows with
    | cons hnext hrest => exact .cons (houtcome.follows hnext) (ih hrest)

/-- What a failure is about: the pair, and the path it could not be written to. -/
def WriteFailure.subject (failure : WriteFailure) : (String × String) × Path :=
  (failure.pair, failure.path)

namespace Report

variable {first second : List (Except WriteFailure Artifact)}

/-- The artifacts of a run are listed again by the next one. -/
theorem artifacts_sublist_of_follows (hfollows : List.Forall₂ Follows first second) :
    ((ofOutcomes false first).artifacts.map Artifact.settled).Sublist
      (ofOutcomes false second).artifacts := by
  induction hfollows with
  | nil => exact List.Sublist.slnil
  | cons houtcome _ ih =>
    cases houtcome with
    | kept artifact => exact ih.cons_cons artifact.settled
    | failing failure reason => exact ih
    | found failure => exact ih.cons _

/-- A recipe that fails again failed before. -/
theorem failures_sublist_of_follows (hfollows : List.Forall₂ Follows first second) :
    ((ofOutcomes false second).failures.map WriteFailure.subject).Sublist
      ((ofOutcomes false first).failures.map WriteFailure.subject) := by
  induction hfollows with
  | nil => exact List.Sublist.slnil
  | cons houtcome _ ih =>
    cases houtcome with
    | kept artifact => exact ih
    | failing failure reason => exact ih.cons_cons failure.subject
    | found failure => exact ih.cons _

theorem unchanged_of_follows (hfollows : List.Forall₂ Follows first second) :
    ∀ artifact ∈ (ofOutcomes false second).artifacts, artifact.status = .unchanged := by
  intro artifact hartifact
  rw [mem_artifacts_ofOutcomes] at hartifact
  induction hfollows with
  | nil => cases hartifact
  | cons houtcome _ ih =>
    rcases List.mem_cons.1 hartifact with rfl | hartifact
    · cases houtcome with
      | kept artifact => rfl
      | found failure => rfl
    · exact ih hartifact

end Report

/-! ## Starting from the directory -/

/-- A recipe that stands before the directory is made stands after it. -/
theorem stands_prepared {output : Path} {before : Workspace} {recipe : Recipe}
    (hname : IsName recipe.outputName) (hstands : recipe.Stands output before) :
    recipe.Stands output (prepared output before) := by
  obtain ⟨directory, hreach, hspells, hfile⟩ :=
    Workspace.exists_reach_of_found? hname (stands_iff.1 hstands)
  have hadds := prepared_adds output before
  have hkept := Workspace.reach_of_directories (prepared_current output before)
    (fun _ => hadds.directory) hreach
  rw [stands_iff, Workspace.found?_join hname hkept, if_pos hspells]
  exact hadds.file_iff.2 hfile

namespace Planned

variable {output : Path} {planned : List Planned}

/-- A stale plan comes to the same once the directory was made or refused, and it is refused for
the same reason if the directory is. -/
theorem run_carryOut_prepared {item : Planned} (hitem : item.IsIn output)
    (hstale : item.status.isStale = true) (before : Workspace) :
    ((carryOut false item).run before).2 =
        ((carryOut false item).run (prepared output before)).2 ∧
      SameButReason ((carryOut false item).run before).1
        ((carryOut false item).run (prepared output before)).1 ∧
      (((prepare output).outcome (prepared output before)).1 = ((prepare output).outcome before).1 →
        ((carryOut false item).run before).1 =
          ((carryOut false item).run (prepared output before)).1) := by
  obtain ⟨hname, hpath⟩ := hitem
  have hkept := prepared_prepared output before
  have hfirst := outcome_prepare_eq output before
  have hsecond := outcome_prepare_eq output (prepared output before)
  rw [hkept] at hsecond
  rw [run_carryOut_of_isStale hstale, run_carryOut_of_isStale hstale, hpath]
  cases hanswer : ((prepare output).outcome before).1 with
  | ok =>
    obtain ⟨directory, hprepares⟩ := exists_prepares_of_ok hanswer
    rw [outcome_replaceContent_prepared hprepares hname]
    exact ⟨rfl, .refl _, fun _ => rfl⟩
  | error failure =>
    rw [hanswer] at hfirst
    obtain ⟨again, hagain⟩ := outcome_prepare_refused hfirst
    have hrun : (replaceContent (output.join ⟨item.recipe.outputName⟩)
        item.recipe.text.toUTF8).outcome before = (.error failure, prepared output before) := by
      rw [replaceContent, Attempt.outcome_bind, requireParent_join hname, hfirst]
    have hrunAgain : (replaceContent (output.join ⟨item.recipe.outputName⟩)
        item.recipe.text.toUTF8).outcome (prepared output before) =
          (.error again, prepared output before) := by
      rw [replaceContent, Attempt.outcome_bind, requireParent_join hname, hagain]
    rw [hrun, hrunAgain, hagain]
    refine ⟨rfl, .failing (item.failed failure) again.summary, fun hsame => ?_⟩
    rw [Except.error.inj hsame]

/-- A run with something to write comes to the same once the directory was made or refused. -/
theorem run_mapM_carryOut_prepared (hplanned : ∀ item ∈ planned, item.IsIn output)
    (hstale : ∃ item ∈ planned, item.status.isStale = true) (before : Workspace) :
    ((planned.mapM (carryOut false)).run before).2 =
        ((planned.mapM (carryOut false)).run (prepared output before)).2 ∧
      List.Forall₂ SameButReason ((planned.mapM (carryOut false)).run before).1
        ((planned.mapM (carryOut false)).run (prepared output before)).1 ∧
      (((prepare output).outcome (prepared output before)).1 = ((prepare output).outcome before).1 →
        ((planned.mapM (carryOut false)).run before).1 =
          ((planned.mapM (carryOut false)).run (prepared output before)).1) := by
  induction planned with
  | nil =>
    obtain ⟨item, hitem, -⟩ := hstale
    exact absurd hitem List.not_mem_nil
  | cons item planned ih =>
    rw [Program.run_mapM_cons, Program.run_mapM_cons]
    cases hitemStale : item.status.isStale with
    | true =>
      have hitem := hplanned item List.mem_cons_self
      obtain ⟨hreached, hsame, hexact⟩ := run_carryOut_prepared hitem hitemStale before
      rw [hreached]
      refine ⟨rfl, .cons hsame (List.forall₂_same.2 fun outcome _ => .refl outcome), ?_⟩
      intro hagain
      rw [hexact hagain]
    | false =>
      have hrest : ∃ other ∈ planned, other.status.isStale = true := by
        obtain ⟨other, hother, hotherStale⟩ := hstale
        rcases List.mem_cons.1 hother with rfl | hother
        · rw [hitemStale] at hotherStale
          cases hotherStale
        · exact ⟨other, hother, hotherStale⟩
      obtain ⟨hreached, hsame, hexact⟩ :=
        ih (fun other hother => hplanned other (List.mem_cons_of_mem item hother)) hrest
      rw [run_carryOut_of_not_isStale hitemStale, run_carryOut_of_not_isStale hitemStale]
      refine ⟨hreached, .cons (.refl _) hsame, fun hagain => ?_⟩
      rw [hexact hagain]

end Planned

/-! ## Standing recipes -/

section

variable {output : Path} {directory : Place} {start after : Workspace}
  {deliveries : List Delivery} {recipe : Recipe}

/-- In a settled directory a recipe stands after deliveries if it did before, or was written. -/
theorem stands_iff_of_delivered (hprepares : Prepares output directory start)
    (hstart : prepared output start = start) (hname : IsName recipe.outputName)
    (hcompatible : Compatible (recipe.delivery :: deliveries))
    (hdelivered : Delivered output directory start deliveries after) :
    recipe.Stands output after ↔ recipe.Stands output start ∨
      recipe.delivery ∈ deliveries ∧
        (verdict output directory start recipe.outputName).writes = true := by
  cases hdelivered with
  | untouched => simp
  | settled hne hsettled =>
    rw [hstart] at hsettled
    cases hanswer : ((prepare output).outcome start).1 with
    | error failure =>
      have hafter : after = start := hsettled.eq_start fun delivery _ => by
        rw [verdict_of_error hanswer]
        rfl
      rw [hafter, verdict_of_error hanswer]
      simp [Verdict.writes]
    | ok =>
      have hfits := fits_verdict output directory start
      rw [hstart] at hfits
      have hkeeps := hsettled.keepsDirectories hfits
      have hreach := hprepares.reach_eq hanswer
      rw [hstart] at hreach
      have hreachAfter := Workspace.reach_of_directories hkeeps.current_eq
        (fun place => (hkeeps.directory_iff place).2) hreach
      rw [stands_iff, stands_iff, Workspace.found?_join hname hreach,
        Workspace.found?_join hname hreachAfter]
      by_cases hwritten : recipe.delivery ∈ deliveries ∧
          (verdict output directory start recipe.outputName).writes = true
      · have hspells := (spells_of_writes hwritten.2).2
        have hfile := hsettled.written recipe.delivery hwritten.1 hwritten.2
        rw [if_pos hspells]
        exact iff_of_true hfile (Or.inr hwritten)
      · rw [or_iff_left hwritten]
        have hkept := hsettled.kept_name hcompatible fun item hitem hwrites hsame => by
          obtain rfl := hcompatible.eq_of_name_eq hitem hsame
          exact hwritten ⟨hitem, hwrites⟩
        rw [show recipe.outputName = recipe.delivery.name from rfl, hkept]

end

/-! ## Answers before and after -/

section

variable {output : Path} {before after : Workspace} {recipe : Recipe} {verdict : String → Verdict}

/-- The artifact of a recipe that stands. -/
def Recipe.standing (recipe : Recipe) (output : Path) : Artifact :=
  ⟨recipe.platform, recipe.compiler, output.join ⟨recipe.outputName⟩, .unchanged⟩

theorem artifact_of_stands (hstands : recipe.Stands output after) :
    (Planned.inWorkspace output after recipe).artifact = recipe.standing output := by
  have hfresh : (Planned.inWorkspace output after recipe).status.isStale = false :=
    isStale_eq_false_iff.2 hstands
  have hstatus : (Planned.inWorkspace output after recipe).status = .unchanged := by
    simpa [Status.isStale] using hfresh
  rw [Planned.artifact, hstatus]
  rfl

theorem answerBy_of_stands (hstands : recipe.Stands output after) :
    Planned.answerBy verdict (Planned.inWorkspace output after recipe) =
      .ok (recipe.standing output) := by
  have hfresh : (Planned.inWorkspace output after recipe).status.isStale = false :=
    isStale_eq_false_iff.2 hstands
  rw [Planned.answerBy, if_neg (by simp [hfresh]), artifact_of_stands hstands]

theorem answerBy_of_not_writes {failure : Failure} (hstale : ¬recipe.Stands output before)
    (hfailure : (verdict recipe.outputName).answer = .error failure) :
    Planned.answerBy verdict (Planned.inWorkspace output before recipe) =
      .error ⟨recipe.platform, recipe.compiler, output.join ⟨recipe.outputName⟩,
        failure.summary⟩ := by
  have hstatus : (Planned.inWorkspace output before recipe).status.isStale = true :=
    isStale_iff.2 hstale
  rw [Planned.answerBy, if_pos hstatus]
  simp only [Planned.inWorkspace, hfailure]
  rfl

/-- Where nothing is lost and all that is written stands, one answer follows the other. -/
theorem follows_answerBy (hkept : recipe.Stands output before → recipe.Stands output after)
    (hwritten : (verdict recipe.outputName).writes = true → recipe.Stands output after) :
    Follows (Planned.answerBy verdict (Planned.inWorkspace output before recipe))
      (Planned.answerBy verdict (Planned.inWorkspace output after recipe)) := by
  by_cases hbefore : recipe.Stands output before
  · rw [answerBy_of_stands hbefore, answerBy_of_stands (hkept hbefore)]
    exact .kept (recipe.standing output)
  · cases hwrites : (verdict recipe.outputName).writes with
    | true =>
      rw [answerBy_of_writes hbefore hwrites, answerBy_of_stands (hwritten hwrites)]
      exact .kept _
    | false =>
      obtain ⟨failure, hfailure⟩ := Verdict.answer_of_not_writes hwrites
      rw [answerBy_of_not_writes hbefore hfailure]
      by_cases hafter : recipe.Stands output after
      · rw [answerBy_of_stands hafter]
        exact .found _
      · rw [answerBy_of_not_writes hafter hfailure]
        exact .failing _ _

/-- Where only what is written comes to stand, the answers are the same but for the status. -/
theorem answerBy_eq_map_settled
    (hstands : recipe.Stands output after ↔
      recipe.Stands output before ∨ (verdict recipe.outputName).writes = true) :
    Planned.answerBy verdict (Planned.inWorkspace output after recipe) =
      (Planned.answerBy verdict (Planned.inWorkspace output before recipe)).map
        Artifact.settled := by
  by_cases hbefore : recipe.Stands output before
  · rw [answerBy_of_stands hbefore, answerBy_of_stands (hstands.2 (Or.inl hbefore))]
    rfl
  · cases hwrites : (verdict recipe.outputName).writes with
    | true =>
      rw [answerBy_of_writes hbefore hwrites, answerBy_of_stands (hstands.2 (Or.inr hwrites))]
      rfl
    | false =>
      obtain ⟨failure, hfailure⟩ := Verdict.answer_of_not_writes hwrites
      have hafter : ¬recipe.Stands output after := by
        rw [hstands, hwrites]
        simpa using hbefore
      rw [answerBy_of_not_writes hbefore hfailure, answerBy_of_not_writes hafter hfailure]
      rfl

/-- A recipe that does not stand, and is not written, fails. -/
theorem exists_error_iff
    (hwritten : (verdict recipe.outputName).writes = true → recipe.Stands output after) :
    (∃ failure, Planned.answerBy verdict (Planned.inWorkspace output after recipe) =
      .error failure) ↔ ¬recipe.Stands output after := by
  by_cases hafter : recipe.Stands output after
  · rw [answerBy_of_stands hafter]
    simp [hafter]
  · have hwrites : (verdict recipe.outputName).writes = false := by
      rw [← Bool.not_eq_true]
      exact fun h => hafter (hwritten h)
    obtain ⟨failure, hfailure⟩ := Verdict.answer_of_not_writes hwrites
    rw [answerBy_of_not_writes hafter hfailure]
    exact iff_of_true ⟨_, rfl⟩ hafter

end

/-! ## Two runs of plans -/

/-- The place that an output directory stands for is known from the start: its path has no `..`,
or the directory is there. -/
def Foreseen (output : Path) (before : Workspace) : Prop :=
  output.IsPlain ∨ Ready output before

instance (output : Path) (before : Workspace) : Decidable (Foreseen output before) :=
  inferInstanceAs (Decidable (_ ∨ _))

section

variable {output : Path} {before : Workspace}

theorem prepared_of_ready (hready : Ready output before) : prepared output before = before := by
  rw [prepared, outcome_prepare_of_ready hready]

theorem Foreseen.prepare_eq (hforeseen : Foreseen output before) :
    ((prepare output).outcome (prepared output before)).1 =
      ((prepare output).outcome before).1 := by
  rcases hforeseen with hplain | hready
  · rw [(prepares_of_isPlain hplain before).again]
  · rw [prepared_of_ready hready]

/-- Then making the directory brings no recipe to light. -/
theorem Foreseen.stands_of_prepared (hforeseen : Foreseen output before) {recipe : Recipe}
    (hname : IsName recipe.outputName) (hstands : recipe.Stands output (prepared output before)) :
    recipe.Stands output before := by
  rcases hforeseen with hplain | hready
  · rw [stands_iff, found?_recipe hplain hname (prepared_current output before)] at hstands
    rw [stands_iff, found?_recipe hplain hname rfl]
    split at hstands
    next hwritten =>
      rw [if_pos hwritten]
      exact (prepared_adds output before).file_iff.1 hstands
    next => cases hstands
  · rwa [prepared_of_ready hready] at hstands

end

/-- Two runs of the plans of some recipes, one after the other. -/
structure RunTwice (output : Path) (recipes : List Recipe) (before after : Workspace)
    (first second : List (Except WriteFailure Artifact)) : Prop where
  run_first : ((recipes.map (Planned.inWorkspace output before)).mapM
    (Planned.carryOut false)).run before = (first, after)
  run_second : ((recipes.map (Planned.inWorkspace output after)).mapM
    (Planned.carryOut false)).run after = (second, after)
  follows : List.Forall₂ Follows first second
  stands_iff : (∀ failure, .error failure ∉ second) ↔
    ∀ recipe ∈ recipes, recipe.Stands output after
  exact : Foreseen output before → second = first.map (Except.map Artifact.settled)

section

variable {output : Path} {before : Workspace} {recipes : List Recipe}

theorem run_mapM_carryOut_of_fresh {planned : List Planned}
    (hfresh : ∀ item ∈ planned, item.status.isStale = false) (workspace : Workspace) :
    (planned.mapM (Planned.carryOut false)).run workspace =
      (planned.map fun item => .ok item.artifact, workspace) := by
  induction planned with
  | nil => rfl
  | cons item planned ih =>
    rw [Program.run_mapM_cons,
      Planned.run_carryOut_of_not_isStale (hfresh item List.mem_cons_self),
      ih fun other hother => hfresh other (List.mem_cons_of_mem item hother)]
    rfl

/-- Where all recipes stand, both runs find them so. -/
theorem runTwice_of_stands (hall : ∀ recipe ∈ recipes, recipe.Stands output before) :
    ∃ outcomes, RunTwice output recipes before before outcomes outcomes := by
  have hfresh : ∀ item ∈ recipes.map (Planned.inWorkspace output before),
      item.status.isStale = false := by
    intro item hitem
    obtain ⟨recipe, hrecipe, rfl⟩ := List.mem_map.1 hitem
    exact isStale_eq_false_iff.2 (hall recipe hrecipe)
  have houtcomes : (recipes.map (Planned.inWorkspace output before)).map
      (fun item => (.ok item.artifact : Except WriteFailure Artifact)) =
        recipes.map fun recipe => .ok (recipe.standing output) := by
    rw [List.map_map]
    refine List.map_congr_left fun recipe hrecipe => ?_
    exact congrArg Except.ok (artifact_of_stands (hall recipe hrecipe))
  have hrun := run_mapM_carryOut_of_fresh hfresh before
  rw [houtcomes] at hrun
  refine ⟨recipes.map fun recipe => .ok (recipe.standing output), hrun, hrun, ?_, ?_, ?_⟩
  · rw [List.forall₂_map_left_iff, List.forall₂_map_right_iff, List.forall₂_same]
    exact fun recipe _ => .kept (recipe.standing output)
  · refine iff_of_true (fun failure hfailure => ?_) hall
    obtain ⟨recipe, -, hsame⟩ := List.mem_map.1 hfailure
    cases hsame
  · intro _
    rw [List.map_map]
    rfl

end

/-- Some recipes after the first run that had something to write: from the directory as it was
made or refused, those that did not stand were delivered. -/
structure Landed (output : Path) (directory : Place) (recipes : List Recipe)
    (before after : Workspace) : Prop where
  isName : ∀ recipe ∈ recipes, IsName recipe.outputName
  compatible : Compatible (recipes.map Recipe.delivery)
  prepares : Prepares output directory (prepared output before)
  delivered : Delivered output directory (prepared output before)
    (Planned.due (recipes.map (Planned.inWorkspace output before))) after

namespace Landed

variable {output : Path} {directory : Place} {recipes : List Recipe} {before after : Workspace}
  {recipe : Recipe}

theorem isIn (hname : ∀ recipe ∈ recipes, IsName recipe.outputName) (workspace : Workspace) :
    ∀ item ∈ recipes.map (Planned.inWorkspace output workspace), item.IsIn output := by
  intro item hitem
  obtain ⟨recipe, hrecipe, rfl⟩ := List.mem_map.1 hitem
  exact ⟨hname recipe hrecipe, rfl⟩

theorem due_subset (workspace : Workspace) : ∀ delivery ∈ Planned.due (recipes.map
    (Planned.inWorkspace output workspace)), delivery ∈ recipes.map Recipe.delivery := by
  intro delivery hdelivery
  rw [Planned.due_inWorkspace] at hdelivery
  exact (List.filter_sublist.map Recipe.delivery).subset hdelivery

theorem stands_iff (hlanded : Landed output directory recipes before after)
    (hrecipe : recipe ∈ recipes) :
    recipe.Stands output after ↔ recipe.Stands output (prepared output before) ∨
      ¬recipe.Stands output before ∧
        (verdict output directory (prepared output before) recipe.outputName).writes = true := by
  have hcompatible : Compatible (recipe.delivery :: Planned.due (recipes.map
      (Planned.inWorkspace output before))) := by
    refine hlanded.compatible.mono fun delivery hdelivery => ?_
    rcases List.mem_cons.1 hdelivery with rfl | hdelivery
    · exact List.mem_map_of_mem hrecipe
    · exact due_subset before delivery hdelivery
  have hafter := stands_iff_of_delivered hlanded.prepares (prepared_prepared output before)
    (hlanded.isName recipe hrecipe) hcompatible hlanded.delivered
  rwa [Bringing.mem_due_iff hrecipe] at hafter

/-- Nothing is lost. -/
theorem stands_of_stands (hlanded : Landed output directory recipes before after)
    (hrecipe : recipe ∈ recipes) (hstands : recipe.Stands output before) :
    recipe.Stands output after :=
  (hlanded.stands_iff hrecipe).2
    (Or.inl (stands_prepared (hlanded.isName recipe hrecipe) hstands))

/-- What can be written stands. -/
theorem stands_of_writes (hlanded : Landed output directory recipes before after)
    (hrecipe : recipe ∈ recipes)
    (hwrites : (verdict output directory (prepared output before) recipe.outputName).writes =
      true) : recipe.Stands output after := by
  by_cases hbefore : recipe.Stands output before
  · exact hlanded.stands_of_stands hrecipe hbefore
  · exact (hlanded.stands_iff hrecipe).2 (Or.inr ⟨hbefore, hwrites⟩)

/-- The second run changes nothing: all that it delivers was delivered. -/
theorem run_again (hlanded : Landed output directory recipes before after) :
    ((recipes.map (Planned.inWorkspace output after)).mapM (Planned.carryOut false)).run after =
      (recipes.map fun recipe => Planned.answerBy
        (verdict output directory (prepared output before))
        (Planned.inWorkspace output after recipe), after) := by
  have hsubset : ∀ delivery ∈ Planned.due (recipes.map (Planned.inWorkspace output after)),
      delivery ∈ Planned.due (recipes.map (Planned.inWorkspace output before)) := by
    intro delivery hdelivery
    rw [Planned.due_inWorkspace] at hdelivery
    obtain ⟨recipe, hstale, rfl⟩ := List.mem_map.1 hdelivery
    obtain ⟨hrecipe, hafter⟩ := List.mem_filter.1 hstale
    rw [Bringing.mem_due_iff hrecipe]
    intro hbefore
    exact isStale_iff.1 hafter (hlanded.stands_of_stands hrecipe hbefore)
  have hcompatible : Compatible (Planned.due (recipes.map (Planned.inWorkspace output after)) ++
      Planned.due (recipes.map (Planned.inWorkspace output before))) := by
    refine hlanded.compatible.mono fun delivery hdelivery => ?_
    rcases List.mem_append.1 hdelivery with hdelivery | hdelivery
    · exact due_subset after delivery hdelivery
    · exact due_subset before delivery hdelivery
  obtain ⟨hanswers, hagain⟩ := Planned.run_mapM_carryOut hlanded.prepares
    (isIn hlanded.isName after) hcompatible hlanded.delivered
  have hsame := hlanded.delivered.unique hagain fun delivery => by
    rw [List.mem_append]
    exact ⟨fun hdelivery => hdelivery.elim (hsubset delivery) id, Or.inr⟩
  rw [List.map_map] at hanswers
  exact Prod.ext hanswers hsame.symm

theorem runTwice (hlanded : Landed output directory recipes before after)
    {first : List (Except WriteFailure Artifact)}
    (hfirst : ((recipes.map (Planned.inWorkspace output before)).mapM
      (Planned.carryOut false)).run before = (first, after))
    (hsame : List.Forall₂ SameButReason first (recipes.map fun recipe => Planned.answerBy
      (verdict output directory (prepared output before))
      (Planned.inWorkspace output before recipe)))
    (hexact : Foreseen output before → first = recipes.map fun recipe => Planned.answerBy
      (verdict output directory (prepared output before))
      (Planned.inWorkspace output before recipe)) :
    ∃ second, RunTwice output recipes before after first second := by
  have hwritten (recipe : Recipe) (hrecipe : recipe ∈ recipes) :=
    hlanded.stands_of_writes hrecipe
  refine ⟨_, hfirst, hlanded.run_again, follows_of_sameButReason hsame ?_, ?_, ?_⟩
  · rw [List.forall₂_map_left_iff, List.forall₂_map_right_iff, List.forall₂_same]
    intro recipe hrecipe
    exact follows_answerBy (hlanded.stands_of_stands hrecipe) (hwritten recipe hrecipe)
  · constructor
    · intro hnone recipe hrecipe
      by_contra hnot
      obtain ⟨failure, hfailure⟩ := (exists_error_iff (hwritten recipe hrecipe)).2 hnot
      exact hnone failure (List.mem_map.2 ⟨recipe, hrecipe, hfailure⟩)
    · intro hall failure hmem
      obtain ⟨recipe, hrecipe, hfailure⟩ := List.mem_map.1 hmem
      exact (exists_error_iff (hwritten recipe hrecipe)).1 ⟨failure, hfailure⟩
        (hall recipe hrecipe)
  · intro hforeseen
    rw [hexact hforeseen, List.map_map]
    refine List.map_congr_left fun recipe hrecipe => answerBy_eq_map_settled ?_
    have hname := hlanded.isName recipe hrecipe
    constructor
    · intro hafter
      rcases (hlanded.stands_iff hrecipe).1 hafter with hstands | ⟨-, hwrites⟩
      · exact Or.inl (hforeseen.stands_of_prepared hname hstands)
      · exact Or.inr hwrites
    · intro hbefore
      rcases hbefore with hstands | hwrites
      · exact hlanded.stands_of_stands hrecipe hstands
      · exact hwritten recipe hrecipe hwrites

end Landed

section

variable {output : Path} {before : Workspace} {recipes : List Recipe}

/-- A run that has something to write lands, and its answers are those of a run from the directory
as it was made or refused. -/
theorem exists_landed (hname : ∀ recipe ∈ recipes, IsName recipe.outputName)
    (hcompatible : Compatible (recipes.map Recipe.delivery))
    (hstale : ∃ recipe ∈ recipes, ¬recipe.Stands output before) :
    ∃ directory,
      Landed output directory recipes before
        (((recipes.map (Planned.inWorkspace output before)).mapM
          (Planned.carryOut false)).run before).2 ∧
      List.Forall₂ SameButReason
        (((recipes.map (Planned.inWorkspace output before)).mapM
          (Planned.carryOut false)).run before).1
        (recipes.map fun recipe => Planned.answerBy
          (verdict output directory (prepared output before))
          (Planned.inWorkspace output before recipe)) ∧
      (Foreseen output before →
        (((recipes.map (Planned.inWorkspace output before)).mapM
          (Planned.carryOut false)).run before).1 =
          recipes.map fun recipe => Planned.answerBy
            (verdict output directory (prepared output before))
            (Planned.inWorkspace output before recipe)) := by
  have hsomething : ∃ item ∈ recipes.map (Planned.inWorkspace output before),
      item.status.isStale = true := by
    obtain ⟨recipe, hrecipe, hnot⟩ := hstale
    exact ⟨_, List.mem_map_of_mem hrecipe, isStale_iff.2 hnot⟩
  obtain ⟨hreached, hsame, hexact⟩ :=
    Planned.run_mapM_carryOut_prepared (Landed.isIn hname before) hsomething before
  obtain ⟨directory, hprepares⟩ := exists_prepares_prepared output before
  have hdue : Compatible (Planned.due (recipes.map (Planned.inWorkspace output before)) ++ []) := by
    rw [List.append_nil]
    exact hcompatible.mono (Landed.due_subset before)
  obtain ⟨hanswers, hdelivered⟩ := Planned.run_mapM_carryOut hprepares
    (Landed.isIn hname before) hdue .untouched
  rw [List.append_nil, ← hreached] at hdelivered
  rw [List.map_map] at hanswers
  rw [hanswers] at hsame hexact
  exact ⟨directory, ⟨hname, hcompatible, hprepares, hdelivered⟩, hsame,
    fun hforeseen => hexact hforeseen.prepare_eq⟩

end

theorem exists_runTwice {recipes : List Recipe}
    (hname : ∀ recipe ∈ recipes, IsName recipe.outputName)
    (hcompatible : Compatible (recipes.map Recipe.delivery)) (output : Path)
    (before : Workspace) :
    ∃ first second after, RunTwice output recipes before after first second := by
  by_cases hall : ∀ recipe ∈ recipes, recipe.Stands output before
  · obtain ⟨outcomes, htwice⟩ := runTwice_of_stands hall
    exact ⟨outcomes, outcomes, before, htwice⟩
  · have hstale : ∃ recipe ∈ recipes, ¬recipe.Stands output before := by
      by_contra hnone
      refine hall fun recipe hrecipe => ?_
      by_contra hnot
      exact hnone ⟨recipe, hrecipe, hnot⟩
    obtain ⟨directory, hlanded, hsame, hexact⟩ := exists_landed hname hcompatible hstale
    obtain ⟨second, htwice⟩ := hlanded.runTwice rfl hsame hexact
    exact ⟨_, second, _, htwice⟩

/-! ## Two runs of a generator -/

namespace Generator

variable {generator : Generator} {selection : Selection} {recipes : List Recipe} {output : Path}
  {workspace : Workspace}

/-- A check complains about every stale recipe, in their order, and changes nothing. -/
theorem outcome_check (hrecipes : generator.recipes selection = .ok recipes) :
    (generator.check selection output).outcome workspace =
      (if recipes.filter (Recipe.isStale output workspace) = [] then .ok ()
        else .error (.outOfDate ((recipes.filter (Recipe.isStale output workspace)).map
          fun recipe => (Planned.inWorkspace output workspace recipe).complaint)), workspace) := by
  rw [check, Attempt.outcome_bind, outcome_plan, hrecipes]
  simp only [Except.map, Planned.filter_inWorkspace, List.isEmpty_iff, List.map_eq_nil_iff,
    List.map_map]
  split <;> rfl

/-- A check succeeds where all recipes stand. -/
theorem check_eq_ok_iff (hrecipes : generator.recipes selection = .ok recipes) :
    ((generator.check selection output).outcome workspace).1 = .ok () ↔
      ∀ recipe ∈ recipes, recipe.Stands output workspace := by
  have hempty : recipes.filter (Recipe.isStale output workspace) = [] ↔
      ∀ recipe ∈ recipes, recipe.Stands output workspace := by
    rw [List.filter_eq_nil_iff]
    refine forall₂_congr fun recipe _ => ?_
    rw [isStale_iff, Classical.not_not]
  rw [outcome_check hrecipes, ← hempty]
  split
  next hnone => exact iff_of_true rfl hnone
  next hsome => exact iff_of_false nofun hsome

/-- What a run and another one after it have in common. -/
structure Repeated (generator : Generator) (selection : Selection) (output : Path)
    (before after : Workspace) (report again : Report) : Prop where
  first_run : (generator.generate selection output false).outcome before = (.ok report, after)
  /-- The second run changes nothing. -/
  second_run : (generator.generate selection output false).outcome after = (.ok again, after)
  /-- It finds all that it lists unchanged. -/
  unchanged : ∀ artifact ∈ again.artifacts, artifact.status = .unchanged
  /-- It lists again what the first run has listed, in its order. -/
  artifacts : (report.artifacts.map Artifact.settled).Sublist again.artifacts
  /-- Nothing fails that did not fail in the first run. -/
  failures : (again.failures.map WriteFailure.subject).Sublist
    (report.failures.map WriteFailure.subject)
  check_iff : ((generator.check selection output).outcome after).1 = .ok () ↔
    again.failures = []
  /-- Where the place of the directory is foreseen, it is the first run over again. -/
  exact : Foreseen output before →
    again.artifacts = report.artifacts.map Artifact.settled ∧ again.failures = report.failures ∧
      (((generator.check selection output).outcome after).1 = .ok () ↔ report.failures = [])

theorem renderer_of_ofCatalog (hbuiltin : ofCatalog generator.catalog = .ok generator) :
    generator.renderer = Recipe.builtin := by
  rw [ofCatalog_eq] at hbuiltin
  rw [← Except.ok.inj hbuiltin]

/-- With the built-in template a selection of known names can be rendered. -/
theorem exists_recipes {cells : List Cell}
    (hbuiltin : ofCatalog generator.catalog = .ok generator)
    (hcells : selection.cells generator.catalog = .ok cells) :
    ∃ recipes, generator.recipes selection = .ok recipes := by
  rw [recipes, renderer_of_ofCatalog hbuiltin]
  exact ⟨_, Recipe.ofSelection_builtin hcells⟩

theorem map_settled_artifacts (first : List (Except WriteFailure Artifact)) :
    (Report.ofOutcomes false (first.map (Except.map Artifact.settled))).artifacts =
        (Report.ofOutcomes false first).artifacts.map Artifact.settled ∧
      (Report.ofOutcomes false (first.map (Except.map Artifact.settled))).failures =
        (Report.ofOutcomes false first).failures := by
  induction first with
  | nil => exact ⟨rfl, rfl⟩
  | cons outcome first ih =>
    obtain ⟨hartifacts, hfailures⟩ := ih
    cases outcome with
    | ok artifact => exact ⟨congrArg (artifact.settled :: ·) hartifacts, hfailures⟩
    | error failure => exact ⟨hartifacts, congrArg (failure :: ·) hfailures⟩

theorem compatible_recipes {cells : List Cell} (haccepted : generator.catalog.Accepted)
    (hcells : selection.cells generator.catalog = .ok cells) (hapart : Catalog.Apart cells)
    (hrecipes : generator.recipes selection = .ok recipes) :
    Compatible (recipes.map Recipe.delivery) :=
  compatible_of_recipeOf haccepted (Catalog.mem_cells_of_selection hcells) hapart
    fun _ hrecipe => (mem_recipes_iff hcells hrecipes).1 hrecipe

/-- A recipe that comes to stand when the directory is made stands after the run, even where it
could not be written. -/
theorem stands_of_stands_prepared {cells : List Cell} {recipe : Recipe} {before : Workspace}
    (haccepted : generator.catalog.Accepted)
    (hcells : selection.cells generator.catalog = .ok cells) (hapart : Catalog.Apart cells)
    (hrecipes : generator.recipes selection = .ok recipes) (hrecipe : recipe ∈ recipes)
    (hstale : ¬recipe.Stands output before)
    (hstands : recipe.Stands output (prepared output before)) :
    recipe.Stands output ((generator.generate selection output false).outcome before).2 := by
  have hcompatible := compatible_recipes haccepted hcells hapart hrecipes
  obtain ⟨directory, hlanded, -⟩ := exists_landed (isName_of_mem_recipes haccepted hrecipes)
    hcompatible ⟨recipe, hrecipe, hstale⟩
  rw [outcome_generate hrecipes]
  exact (hlanded.stands_iff hrecipe).2 (Or.inl hstands)

/-- A small generator with the built-in template. -/
def smallBuiltin : Generator := ⟨Catalog.small "gcc" "clang", Recipe.builtin⟩

theorem ofCatalog_smallBuiltin : ofCatalog smallBuiltin.catalog = .ok smallBuiltin :=
  ofCatalog_eq smallBuiltin.catalog

/-- Any two runs, one after the other, have in common what `Repeated` says. -/
theorem exists_repeated {cells : List Cell} (haccepted : generator.catalog.Accepted)
    (hbuiltin : ofCatalog generator.catalog = .ok generator)
    (hcells : selection.cells generator.catalog = .ok cells) (hapart : Catalog.Apart cells)
    (output : Path) (before : Workspace) :
    ∃ report again after, Repeated generator selection output before after report again := by
  obtain ⟨recipes, hrecipes⟩ := exists_recipes hbuiltin hcells
  have hcompatible := compatible_recipes haccepted hcells hapart hrecipes
  obtain ⟨first, second, after, htwice⟩ :=
    exists_runTwice (isName_of_mem_recipes haccepted hrecipes) hcompatible output before
  have hcheck : ((generator.check selection output).outcome after).1 = .ok () ↔
      (Report.ofOutcomes false second).failures = [] := by
    rw [check_eq_ok_iff hrecipes, ← htwice.stands_iff, ← Report.isSuccess_ofOutcomes_iff,
      Report.isSuccess, List.isEmpty_iff]
  refine ⟨Report.ofOutcomes false first, Report.ofOutcomes false second, after,
    { first_run := by rw [outcome_generate hrecipes, htwice.run_first]
      second_run := by rw [outcome_generate hrecipes, htwice.run_second]
      unchanged := Report.unchanged_of_follows htwice.follows
      artifacts := Report.artifacts_sublist_of_follows htwice.follows
      failures := Report.failures_sublist_of_follows htwice.follows
      check_iff := hcheck
      exact := ?_ }⟩
  intro hforeseen
  obtain ⟨hartifacts, hfailures⟩ := map_settled_artifacts first
  rw [← htwice.exact hforeseen] at hartifacts hfailures
  refine ⟨hartifacts, hfailures, ?_⟩
  rw [hcheck, hfailures]

theorem exists_repeated_small : Catalog.Apart smallBuiltin.catalog.cells ∧
    ∃ report again after, Repeated smallBuiltin .all ⟨"out"⟩ (Workspace.fresh "work") after report
      again := by
  have hcells : Selection.all.cells smallBuiltin.catalog = .ok smallBuiltin.catalog.cells := by
    decide +kernel
  have hapart : Catalog.Apart smallBuiltin.catalog.cells := by decide +kernel
  exact ⟨hapart, exists_repeated Catalog.accepted_small ofCatalog_smallBuiltin hcells hapart _ _⟩

/-- The recipe of its first compiler. -/
def smallBuiltinRecipe : Recipe :=
  (Recipe.ofCell Recipe.builtin ⟨Platform.small, "gcc", "g++"⟩).toOption.getD
    (Recipe.small "gcc" "g++")

theorem cells_smallBuiltin : Selection.cells ⟨[], ["gcc"]⟩ smallBuiltin.catalog =
    .ok [⟨Platform.small, "gcc", "g++"⟩] := by
  decide +kernel

theorem recipes_smallBuiltin :
    smallBuiltin.recipes ⟨[], ["gcc"]⟩ = .ok [smallBuiltinRecipe] := by
  refine Recipe.ofSelection_eq_ok_iff.2 ⟨_, cells_smallBuiltin, ?_⟩
  simp [smallBuiltin, smallBuiltinRecipe, Recipe.ofCell_builtin, Except.toOption]

/-- A workspace in which a recipe is current, but a directory has its temporary name. -/
def obstructed : Workspace where
  files :=
    ((((Workspace.fresh "work").files.put "out" ["work"] .directory).put
      "Dockerfile.debian-gcc.tmp" ["out", "work"] .directory).put
      "Dockerfile.debian-gcc" ["out", "work"] (.file smallBuiltinRecipe.text.toUTF8))
  current := ["work"]

/-- Once the missing directory was made, the recipe is seen to stand. -/
theorem stands_obstructed :
    smallBuiltinRecipe.Stands ⟨"missing/../out"⟩ (prepared ⟨"missing/../out"⟩ obstructed) := by
  have houtput : smallBuiltinRecipe.outputName = "Dockerfile.debian-gcc" := by decide +kernel
  have hname : IsName "Dockerfile.debian-gcc" := by constructor <;> decide +kernel
  have hreach : (prepared ⟨"missing/../out"⟩ obstructed).reach ⟨"missing/../out"⟩ =
      .ok ["out", "work"] := by
    decide +kernel
  have hspells : Workspace.Spells ⟨"missing/../out"⟩ "Dockerfile.debian-gcc" := by
    constructor <;> decide +kernel
  have hfile : obstructed.files.get? ["Dockerfile.debian-gcc", "out", "work"] =
      some (.file smallBuiltinRecipe.text.toUTF8) := by
    unfold obstructed
    rw [FileSystem.get?_put (by decide +kernel), if_pos rfl]
  rw [stands_iff, houtput, Workspace.found?_join hname hreach, if_pos hspells]
  exact (prepared_adds ⟨"missing/../out"⟩ obstructed).file_iff.2 hfile

theorem not_stands_obstructed : ¬smallBuiltinRecipe.Stands ⟨"missing/../out"⟩ obstructed := by
  have hnone : obstructed.isFile (Path.join ⟨"missing/../out"⟩
      ⟨smallBuiltinRecipe.outputName⟩) = false := by
    decide +kernel
  intro hstands
  rw [Workspace.isFile_iff.2 ⟨_, stands_iff.1 hstands⟩] at hnone
  cases hnone

/-- A second run is not always the first one over again.  Seen through a missing directory, a
current recipe is taken for a missing one and cannot be written; the second run, after the
directory was made, finds it. -/
theorem not_forall_repeated :
    ¬∀ (generator : Generator) (selection : Selection) (cells : List Cell) (output : Path)
        (before after reached : Workspace) (report again : Report),
      generator.catalog.Accepted → ofCatalog generator.catalog = .ok generator →
      selection.cells generator.catalog = .ok cells → Catalog.Apart cells →
      (generator.generate selection output false).outcome before = (.ok report, after) →
      (generator.generate selection output false).outcome after = (.ok again, reached) →
      reached = after ∧ again.failures = report.failures ∧
        again.artifacts = report.artifacts.map Artifact.settled ∧
        (((generator.check selection output).outcome after).1 = .ok () ↔
          report.failures = []) := by
  intro hall
  have hfirst : ((smallBuiltin.generate ⟨[], ["gcc"]⟩ ⟨"missing/../out"⟩ false).outcome
      obstructed).1 = .ok ⟨[], [⟨"debian", "gcc", ⟨"missing/../out/Dockerfile.debian-gcc"⟩,
        "Failed to create temp file: missing/../out/Dockerfile.debian-gcc.tmp\n\n" ++
          "Check file permissions and that directory exists: Is a directory (os error 21)"⟩],
        false⟩ := by
    decide +kernel
  have hstands := stands_of_stands_prepared Catalog.accepted_small cells_smallBuiltin
    (by decide +kernel) recipes_smallBuiltin (List.mem_singleton_self _) not_stands_obstructed
    stands_obstructed
  -- From here on the runs themselves do not matter, and should not be computed again.
  generalize hrun : (smallBuiltin.generate ⟨[], ["gcc"]⟩ ⟨"missing/../out"⟩ false).outcome
    obstructed = result at hfirst hstands
  obtain ⟨answer, after⟩ := result
  obtain rfl := hfirst
  have hclaim := hall smallBuiltin ⟨[], ["gcc"]⟩ _ ⟨"missing/../out"⟩ obstructed after _ _ _
    Catalog.accepted_small ofCatalog_smallBuiltin cells_smallBuiltin (by decide +kernel) hrun
    (outcome_generate recipes_smallBuiltin _ false after)
  have hcheck : ((smallBuiltin.check ⟨[], ["gcc"]⟩ ⟨"missing/../out"⟩).outcome after).1 =
      .ok () := by
    refine (check_eq_ok_iff recipes_smallBuiltin).2 fun recipe hrecipe => ?_
    rw [List.mem_singleton.1 hrecipe]
    exact hstands
  have hnone := hclaim.2.2.2.1 hcheck
  cases hnone

end Generator

end RecipeMatrix
