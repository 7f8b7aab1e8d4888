import RecipeMatrix.Proofs.Generation.Selected

/-!
# Every moment of a run

A run can be stopped at any step, also in the middle of a write.  At each of them the file of a
selected cell holds what it held at the start, or its whole recipe
(`kept_or_written_of_mem_states`).

* `Intact` is the invariant: it says this of all cells at once.  One carried-out plan keeps it in
  all its states (`intact_carryOut`), since it touches no name but its own and the temporary one.
* Planning makes no change at all, so the invariant is carried along the list of plans from the
  start (`intact_generate`).
-/

namespace RecipeMatrix

open Files RecipeMatrix.Path

namespace Generator

variable {generator : Generator} {output : Path} {cells : List Cell}

/-- The file of each cell holds what it held at the start, or its whole recipe. -/
def Intact (generator : Generator) (output : Path) (cells : List Cell)
    (start state : Workspace) : Prop :=
  state.current = start.current ∧ ∀ cell ∈ cells,
    state.files.get? (cell.outputName :: start.place output) =
        start.files.get? (cell.outputName :: start.place output) ∨
      ∃ recipe, Recipe.ofCell generator.renderer cell = .ok recipe ∧
        state.files.get? (cell.outputName :: start.place output) =
          some (.file recipe.text.toUTF8)

/-- One plan of a recipe of the cells. -/
theorem intact_carryOut {start reached : Workspace} {planned : Planned}
    (haccepted : generator.catalog.Accepted) (hplain : output.IsPlain)
    (hsubset : ∀ cell ∈ cells, cell ∈ generator.catalog.cells) (hapart : Catalog.Apart cells)
    (hrecipe : generator.RecipeOf cells planned.recipe)
    (hpath : planned.path = output.join ⟨planned.recipe.outputName⟩)
    (hintact : generator.Intact output cells start reached) :
    ∀ state ∈ (Planned.carryOut false planned).states reached,
      generator.Intact output cells start state := by
  have hdone : ∀ state, state ∈ [reached] → generator.Intact output cells start state := by
    intro state hstate
    rw [List.mem_singleton.1 hstate]
    exact hintact
  cases hstale : planned.status.isStale with
  | false =>
    simp only [Planned.carryOut, hstale]
    exact hdone
  | true =>
    simp only [Planned.carryOut, hstale, Bool.not_false, Bool.and_self, if_true]
    have hreplace : ∀ state ∈ (replaceContent planned.path planned.recipe.text.toUTF8).states
        reached, generator.Intact output cells start state := by
      intro state hstate
      obtain ⟨own, hown, hof⟩ := hrecipe
      have hname := (Recipe.ofCell_eq_ok hof).2.2
      rw [hpath] at hstate
      obtain ⟨hcurrent, hbeside⟩ := replaceContent_frame hplain
        (RecipeOf.isName haccepted ⟨own, hsubset own hown, hof⟩) _ reached state hstate
      rw [Workspace.place_congr hintact.1] at hbeside
      refine ⟨hcurrent.trans hintact.1, fun cell hcell => ?_⟩
      rcases hbeside cell.outputName (hname ▸ hapart cell hcell own hown) with hsame |
        ⟨hsame, hwritten⟩
      · rw [hsame]
        exact hintact.2 cell hcell
      · have hcells := haccepted.eq_of_outputName_eq (hsubset cell hcell) (hsubset own hown)
          (hsame.trans hname)
        exact .inr ⟨planned.recipe, hcells ▸ hof, hwritten⟩
    refine Program.forall_states_bind.2 ⟨hreplace, fun state hstate => ?_⟩
    have hend := hreplace _ (Program.run_mem_states _ reached)
    revert hstate
    cases (Program.run (replaceContent planned.path planned.recipe.text.toUTF8).run reached).1
    all_goals
      intro hstate
      rw [List.mem_singleton.1 hstate]
      exact hend

theorem intact_generate {selection : Selection} (haccepted : generator.catalog.Accepted)
    (hcells : selection.cells generator.catalog = .ok cells) (hplain : output.IsPlain)
    (hapart : Catalog.Apart cells) (start : Workspace) :
    ∀ state ∈ (generator.generate selection output false).states start,
      generator.Intact output cells start state := by
  have hstart : generator.Intact output cells start start := ⟨rfl, fun _ _ => .inl rfl⟩
  have hsubset := Catalog.mem_cells_of_selection hcells
  refine forall_states_generate hstart fun recipes hrecipes recipe hrecipe reached hintact => ?_
  exact intact_carryOut haccepted hplain hsubset hapart
    ((mem_recipes_iff hcells hrecipes).1 hrecipe) rfl hintact

/-- At every moment of a run, the path of each selected cell holds what it held at the start, or
its whole recipe. -/
theorem kept_or_written_of_mem_states {selection : Selection}
    (haccepted : generator.catalog.Accepted)
    (hcells : selection.cells generator.catalog = .ok cells) (hplain : output.IsPlain)
    (hapart : Catalog.Apart cells) {start state : Workspace}
    (hstate : state ∈ (generator.generate selection output false).states start) {cell : Cell}
    (hcell : cell ∈ cells) :
    state.found? (output.join ⟨cell.outputName⟩) = start.found? (output.join ⟨cell.outputName⟩) ∨
      ∃ recipe, Recipe.ofCell generator.renderer cell = .ok recipe ∧
        state.found? (output.join ⟨cell.outputName⟩) = some (.file recipe.text.toUTF8) := by
  obtain ⟨hcurrent, hkept⟩ := intact_generate haccepted hcells hplain hapart start state hstate
  have hname := haccepted.isName_outputName (Catalog.mem_cells_of_selection hcells cell hcell)
  rw [Workspace.found?_join_of_isPlain hname hplain, Workspace.found?_join_of_isPlain hname hplain,
    Workspace.place_congr hcurrent]
  split
  next => exact hkept cell hcell
  next => exact .inl rfl

/-- A moment in the middle of the first write of a small run. -/
def smallMoment : Workspace :=
  (((small "gcc" "clang").generate .all ⟨"out"⟩ false).states (Workspace.fresh "work")).getD 12
    (Workspace.fresh "work")

theorem kept_or_written_of_mem_states_small :
    smallMoment.found? (Path.join ⟨"out"⟩ ⟨Cell.outputName ⟨Platform.small, "gcc", "g++"⟩⟩) =
        (Workspace.fresh "work").found?
          (Path.join ⟨"out"⟩ ⟨Cell.outputName ⟨Platform.small, "gcc", "g++"⟩⟩) ∨
      ∃ recipe, Recipe.ofCell (small "gcc" "clang").renderer ⟨Platform.small, "gcc", "g++"⟩ =
          .ok recipe ∧
        smallMoment.found? (Path.join ⟨"out"⟩ ⟨Cell.outputName ⟨Platform.small, "gcc", "g++"⟩⟩) =
          some (.file recipe.text.toUTF8) := by
  have hindex : 12 < (((small "gcc" "clang").generate .all ⟨"out"⟩ false).states
      (Workspace.fresh "work")).length := by decide +kernel
  have hmoment : smallMoment ∈ ((small "gcc" "clang").generate .all ⟨"out"⟩ false).states
      (Workspace.fresh "work") := by
    rw [smallMoment, List.getD_eq_getElem?_getD, List.getElem?_eq_getElem hindex]
    exact List.getElem_mem hindex
  have hcells : Selection.all.cells (small "gcc" "clang").catalog =
      .ok (small "gcc" "clang").catalog.cells := by decide +kernel
  have hcell : ⟨Platform.small, "gcc", "g++"⟩ ∈ (small "gcc" "clang").catalog.cells := by
    decide +kernel
  exact kept_or_written_of_mem_states Catalog.accepted_small hcells (by decide +kernel)
    (by decide +kernel) hmoment hcell

end Generator

end RecipeMatrix
