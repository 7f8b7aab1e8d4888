import RecipeMatrix.Proofs.Catalog.Soundness
import RecipeMatrix.Proofs.Files.Alterations
import RecipeMatrix.Proofs.Generation.Selected

/-!
# Where a run can reach

Whatever the names in an accepted catalog are, and wherever the output directory is, a run touches
recipes in the output directory and makes the directories that lead to it.  Nothing is asked of
the path of the output directory, which may have `..` in it, and nothing of the files that are
there before.

There are three groups.

* Names.  The name of a recipe, and that of its temporary file, begins with `Dockerfile.` and has
  no other characters than the names in a catalog (`isRecipeName_of_mem_recipes`).
* Workspaces.  `Confined output before after` says what may be different between two workspaces.
  It can be followed along a run (`Confined.trans`), and each change that keeps to recipe names
  in the output directory is confined (`isChain_of_keepsTo`).
* Runs.  `pairwise_states_confined` compares the states of a run with its start and with each
  other, also where the run fails or is seen in the middle of a write.
-/

namespace RecipeMatrix

open Files Workspace RecipeMatrix.Path

/-! ## Names -/

/-- A name that a recipe or its temporary file can have. -/
def IsRecipeName (name : String) : Prop :=
  "Dockerfile.".toList <+: name.toList ∧ Entry.WellNamed name

theorem IsRecipeName.isName {name : String} (hname : IsRecipeName name) : IsName name := by
  obtain ⟨⟨rest, hrest⟩, -, hchars⟩ := hname
  refine ⟨?_, leadsNowhere_eq_false ?_ ?_, ?_⟩
  · intro hslash
    have hchar := hchars '/' hslash
    revert hchar
    decide
  all_goals
    intro h
    simp [h] at hrest

/-- Longer names are made of names by joining them. -/
theorem Entry.WellNamed.append {first second : String} (hfirst : Entry.WellNamed first)
    (hsecond : Entry.WellNamed second) : Entry.WellNamed (first ++ second) := by
  refine ⟨fun hempty => hfirst.1 ?_, fun c hc => ?_⟩
  · rw [String.append_eq_empty_iff] at hempty
    exact hempty.1
  · rw [String.toList_append, List.mem_append] at hc
    exact hc.elim (hfirst.2 c) (hsecond.2 c)

theorem IsRecipeName.temporary {name : String} (hname : IsRecipeName name) :
    IsRecipeName (temporaryName name) := by
  refine ⟨hname.1.trans ?_, hname.2.append ?_⟩
  · simp [temporaryName]
  · simp [Entry.WellNamed, temporaryEnding]

theorem Cell.isRecipeName {cell : Cell} (hplatform : Entry.WellNamed cell.platform.name)
    (hcompiler : Entry.WellNamed cell.compiler.name) : IsRecipeName cell.outputName := by
  have hstem : Entry.WellNamed Cell.outputStem := by simp [Entry.WellNamed, Cell.outputStem]
  have hhyphen : Entry.WellNamed "-" := by simp [Entry.WellNamed]
  refine ⟨?_, ((hstem.append hplatform).append hhyphen).append hcompiler⟩
  simp [Cell.outputName, Cell.outputStem]

namespace Generator

/-- No name that is let through makes another kind of name of a recipe. -/
theorem isRecipeName_of_mem_recipes {generator : Generator} {selection : Selection}
    {recipes : List Recipe} (haccepted : generator.catalog.Accepted)
    (hrecipes : generator.recipes selection = .ok recipes) :
    ∀ recipe ∈ recipes, IsRecipeName recipe.outputName := by
  intro recipe hrecipe
  obtain ⟨cells, hcells, -⟩ := Recipe.ofSelection_eq_ok_iff.1 hrecipes
  obtain ⟨cell, hcell, hof⟩ := (mem_recipes_iff hcells hrecipes).1 hrecipe
  obtain ⟨hplatform, hcompiler⟩ :=
    Catalog.mem_cellsOf.1 (Catalog.mem_cells_of_selection hcells cell hcell)
  rw [(Recipe.ofCell_eq_ok hof).2.2]
  exact Cell.isRecipeName (haccepted.sound_platform hplatform).name
    (haccepted.sound_compiler hcompiler).name

end Generator

/-! ## Workspaces -/

/-- What a run with an output directory may change in a workspace. -/
structure Confined (output : Path) (before after : Workspace) : Prop where
  /-- The current directory is the same. -/
  current_eq : after.current = before.current
  /-- Each place is as it was, or it is a new directory along the path of the output directory,
  which led nowhere before, or it is a file with the name of a recipe in the output directory. -/
  places : ∀ place, after.files.get? place = before.files.get? place ∨
    (before.files.get? place = none ∧ after.files.get? place = some .directory ∧
      (∀ reached, before.reach output ≠ .ok reached) ∧ after.Passes output place) ∨
    (∃ directory name, after.reach output = .ok directory ∧ IsRecipeName name ∧
      place = name :: directory ∧ before.files.get? place ≠ some .directory ∧
        after.files.get? place ≠ some .directory)

namespace Confined

variable {output : Path} {first second third : Workspace}

theorem refl (output : Path) (workspace : Workspace) : Confined output workspace workspace :=
  ⟨rfl, fun _ => .inl rfl⟩

/-- No directory is lost. -/
theorem directory (hconfined : Confined output first second) (place : Place)
    (hplace : first.files.get? place = some .directory) :
    second.files.get? place = some .directory := by
  rcases hconfined.places place with hsame | ⟨hnone, -⟩ | ⟨-, -, -, -, -, hnot, -⟩
  · rw [hsame, hplace]
  · simp [hplace] at hnone
  · exact absurd hplace hnot

/-- Where the output directory could be reached, it still is where it was. -/
theorem reach (hconfined : Confined output first second) {reached : Place}
    (hreach : first.reach output = .ok reached) : second.reach output = .ok reached :=
  reach_of_directories hconfined.current_eq hconfined.directory hreach

theorem passes (hconfined : Confined output first second) {place : Place}
    (hpasses : first.Passes output place) : second.Passes output place := by
  obtain ⟨steps, hsteps, hwalk⟩ := hpasses
  refine ⟨steps, hsteps, ?_⟩
  rw [start, hconfined.current_eq]
  exact walk_of_directories hconfined.directory hwalk

theorem trans (hfirst : Confined output first second) (hsecond : Confined output second third) :
    Confined output first third := by
  refine ⟨hsecond.current_eq.trans hfirst.current_eq, fun place => ?_⟩
  rcases hfirst.places place with hsame | ⟨hnone, hmade, hnowhere, hpasses⟩ |
    ⟨directory, name, hreach, hname, rfl, hbefore, hafter⟩
  · rw [← hsame]
    rcases hsecond.places place with hsame' | ⟨hnone, hmade, hnowhere, hpasses⟩ | hfile
    · exact .inl hsame'
    · exact .inr (.inl ⟨hnone, hmade, fun reached hreach => hnowhere _ (hfirst.reach hreach),
        hpasses⟩)
    · exact .inr (.inr hfile)
  · exact .inr (.inl ⟨hnone, hsecond.directory place hmade, hnowhere, hsecond.passes hpasses⟩)
  · -- The output directory can be reached by now, so no more directories are made.
    refine .inr (.inr ⟨directory, name, hsecond.reach hreach, hname, rfl, hbefore, ?_⟩)
    rcases hsecond.places (name :: directory) with hsame | ⟨-, -, hnowhere, -⟩ |
      ⟨-, -, -, -, -, -, hnot⟩
    · rw [hsame]
      exact hafter
    · exact absurd hreach (hnowhere directory)
    · exact hnot

instance : Trans (Confined output) (Confined output) (Confined output) := ⟨trans⟩

/-- Files in the output directory are altered, with the names of recipes. -/
theorem of_altersFiles (hcurrent : second.current = first.current)
    (halters : FileSystem.AltersFiles (first.Inside output IsRecipeName) first.files
      second.files) : Confined output first second := by
  refine ⟨hcurrent, fun place => ?_⟩
  rcases halters place with hsame | ⟨⟨directory, name, hreach, hname, hplace⟩, hbefore, hafter⟩
  · exact .inl hsame
  · have hreached : second.reach output = .ok directory :=
      reach_of_directories hcurrent (fun _ => halters.directory_iff.2) hreach
    exact .inr (.inr ⟨directory, name, hreached, hname, hplace, hbefore, hafter⟩)

/-- A directory is made outward of the output directory. -/
theorem perform_makeDirectory {path : Path} (houtward : OutwardOf output path)
    (workspace : Workspace) :
    Confined output workspace (workspace.perform (.makeDirectory path)).2 := by
  cases happly : workspace.apply (.makeDirectory path) with
  | error refusal =>
    rw [perform_of_error happly]
    exact refl output workspace
  | ok files =>
    rw [perform_of_ok happly]
    obtain ⟨made, hmissing, hfiles, hnowhere, hpasses⟩ := exists_made houtward happly
    refine ⟨rfl, fun place => ?_⟩
    rw [hfiles place]
    split
    next hsame =>
      rw [← hsame]
      exact .inr (.inl ⟨hmissing, rfl, hnowhere, hpasses⟩)
    next => exact .inl rfl

end Confined

/-- The states of one change that keeps to recipe names in the output directory. -/
theorem isChain_of_keepsTo {output : Path} {step : Change}
    (hstep : step.KeepsTo output IsRecipeName) (workspace : Workspace) :
    ((workspace :: workspace.during step) ++ [(workspace.perform step).2]).IsChain
      (Confined output) := by
  rcases hstep with ⟨path, houtward, rfl⟩ | hstep
  · exact List.isChain_pair.2 (.perform_makeDirectory houtward workspace)
  · have hall : ∀ state ∈ (workspace :: workspace.during step) ++ [(workspace.perform step).2],
        state.current = workspace.current ∧ FileSystem.AltersFiles
          (workspace.Inside output IsRecipeName) workspace.files state.files := by
      intro state hstate
      rcases List.mem_cons.1 hstate with rfl | hstate
      · exact ⟨rfl, .refl _⟩
      · exact hstep.altersFiles (fun _ hname => hname.isName) state hstate
    -- Any two of these states differ in such files only, so also two that follow each other.
    refine List.Pairwise.isChain ?_
    refine List.pairwise_of_forall_mem_list fun one hone other hother => ?_
    obtain ⟨hone, haltersOne⟩ := hall one hone
    obtain ⟨hother, haltersOther⟩ := hall other hother
    refine .of_altersFiles (hother.trans hone.symm) fun place => ?_
    rcases haltersOne.symm.trans haltersOther place with hsame |
      ⟨⟨directory, name, hreach, hname, hplace⟩, hkinds⟩
    · exact .inl hsame
    · exact .inr ⟨⟨directory, name, reach_of_directories hone
        (fun _ => haltersOne.directory_iff.2) hreach, hname, hplace⟩, hkinds⟩

/-! ## Runs -/

theorem Planned.makes_carryOut {output : Path} {planned : Planned} (dryRun : Bool)
    (hpath : planned.path = output.join ⟨planned.recipe.outputName⟩)
    (hname : IsRecipeName planned.recipe.outputName) :
    (planned.carryOut dryRun).Makes (Change.KeepsTo output IsRecipeName) := by
  unfold carryOut
  rw [hpath]
  split
  next =>
    refine (makes_replaceContent hname.isName hname hname.temporary _).bind fun answer => ?_
    cases answer <;> exact trivial
  next => exact trivial

namespace Generator

/-- Each state of a run is confined as seen from the one before it. -/
theorem isChain_states_generate {generator : Generator} (haccepted : generator.catalog.Accepted)
    (selection : Selection) (output : Path) (dryRun : Bool) (start : Workspace) :
    ((generator.generate selection output dryRun).states start).IsChain (Confined output) := by
  unfold generate
  refine Attempt.isChain_states_then ?_ fun planned reached hplan => ?_
  · exact (generator.makes_plan selection output).isChain (fun _ => False.elim) start
  · rw [outcome_plan] at hplan
    obtain ⟨hplanned, rfl⟩ := Prod.mk.inj hplan
    cases hrecipes : generator.recipes selection with
    | error error => simp [hrecipes, Except.map] at hplanned
    | ok recipes =>
      rw [hrecipes] at hplanned
      obtain rfl := Except.ok.inj hplanned
      refine Program.Makes.isChain ?_ (fun step hstep => isChain_of_keepsTo hstep) _
      refine Attempt.makes_then (Attempt.makes_always (Program.Makes.mapM fun item hitem => ?_))
        fun _ => trivial
      obtain ⟨recipe, hrecipe, rfl⟩ := List.mem_map.1 hitem
      exact Planned.makes_carryOut dryRun rfl (isRecipeName_of_mem_recipes haccepted hrecipes
        recipe hrecipe)

/-- Since the start of a run, and between any two moments of it, only recipes in the output
directory are touched, and only missing directories on the way to it are made. -/
theorem pairwise_states_confined {generator : Generator} (haccepted : generator.catalog.Accepted)
    (selection : Selection) (output : Path) (dryRun : Bool) (start : Workspace) :
    (∀ state ∈ (generator.generate selection output dryRun).states start,
      Confined output start state) ∧
    ((generator.generate selection output dryRun).states start).Pairwise (Confined output) := by
  have hpairwise := (isChain_states_generate haccepted selection output dryRun start).pairwise
  refine ⟨fun state hstate => ?_, hpairwise⟩
  obtain ⟨later, hlater⟩ :=
    Program.exists_states_eq (generator.generate selection output dryRun).run start
  rw [Attempt.states, hlater] at hstate hpairwise
  rcases List.mem_cons.1 hstate with rfl | hstate
  · exact .refl output state
  · exact (List.pairwise_cons.1 hpairwise).1 state hstate

/-- Names that are dots, and an output directory with `..` in its path. -/
theorem pairwise_states_confined_dots : (small "." "..").catalog.Accepted ∧
    (((small "." "..").generate .all ⟨"missing/../out"⟩ false).outcome
      (Workspace.fresh "work")).2.isFile ⟨"out/Dockerfile.debian-.."⟩ = true ∧
    Confined ⟨"missing/../out"⟩ (Workspace.fresh "work")
      (((small "." "..").generate .all ⟨"missing/../out"⟩ false).outcome
        (Workspace.fresh "work")).2 := by
  have haccepted : (small "." "..").catalog.Accepted := by decide +kernel
  obtain ⟨hstart, -⟩ := pairwise_states_confined haccepted .all ⟨"missing/../out"⟩ false
    (Workspace.fresh "work")
  exact ⟨haccepted, by decide +kernel, hstart _ (Attempt.outcome_mem_states _ _)⟩

end Generator

end RecipeMatrix
