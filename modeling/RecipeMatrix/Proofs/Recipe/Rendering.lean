import RecipeMatrix.Recipe
import RecipeMatrix.Proofs.Catalog.Acceptance

/-!
# Rendered recipes

`ofCell_eq_ok` and `ofSelection_eq_ok_iff` say what a rendered recipe shares with its cell, whatever
the renderer is.

`builtin` gives the built-in template by its pieces, and `ofBuiltin` the recipe that it makes of a
cell.  It makes one of every cell (`ofCell_builtin`).
-/

namespace RecipeMatrix

namespace Recipe

/-! ## Templates as renderers -/

section

variable {template : Template} {values : RecipeValues} {platform compiler : String}

theorem fill_of_ok {text : String} (hrender : template.render values = .ok text) :
    fill template values platform compiler = .ok text := by
  simp only [fill, Template.renderer, hrender, Except.mapError]

theorem fill_of_error {fault : RenderFault} (hrender : template.render values = .error fault) :
    fill template values platform compiler =
      .error (.renderFailed platform compiler fault.message) := by
  simp only [fill, Template.renderer, hrender, Except.mapError]

end

/-! ## Recipes and cells -/

/-- What a recipe has from its cell. -/
theorem ofCell_eq_ok {renderer : Renderer} {cell : Cell} {recipe : Recipe}
    (hrecipe : ofCell renderer cell = .ok recipe) :
    recipe.platform = cell.platform.name ∧ recipe.compiler = cell.compiler.name ∧
      recipe.outputName = cell.outputName := by
  simp only [ofCell, bind_eq_ok_iff] at hrecipe
  obtain ⟨text, -, hrecipe⟩ := hrecipe
  rw [← Except.ok.inj hrecipe]
  exact ⟨rfl, rfl, rfl⟩

theorem dev_of_ofCell {renderer : Renderer} {cell : Cell} {recipe : Recipe}
    (hrecipe : ofCell renderer cell = .ok recipe) :
    recipe.dev = cell.platform.dev.appended cell.compiler.package := by
  simp only [ofCell, bind_eq_ok_iff] at hrecipe
  obtain ⟨text, -, hrecipe⟩ := hrecipe
  rw [← Except.ok.inj hrecipe]
  rfl

theorem ofSelection_eq_ok_iff {renderer : Renderer} {catalog : Catalog} {selection : Selection}
    {recipes : List Recipe} :
    ofSelection renderer catalog selection = .ok recipes ↔
      ∃ cells, selection.cells catalog = .ok cells ∧
        cells.map (ofCell renderer) = recipes.map .ok := by
  simp only [ofSelection, bind_eq_ok_iff, mapM_eq_ok_iff]

/-- The output names of rendered recipes are those of their cells, in the same order. -/
theorem map_outputName {renderer : Renderer} {cells : List Cell} {recipes : List Recipe}
    (hrecipes : cells.map (ofCell renderer) = recipes.map .ok) :
    recipes.map Recipe.outputName = cells.map Cell.outputName :=
  map_eq_of_map_ok (fun _ _ hrecipe => (ofCell_eq_ok hrecipe).2.2) hrecipes

/-! ## The built-in template -/

/-- The built-in template, by its pieces. -/
def builtin : Template where
  pieces :=
    [.text ("### Do not modify manually, generated by ".toList ++ generatorName.toList ++
        " ###\nFROM ".toList),
      .tag ⟨false, false⟩ (.name "image"),
      .text " AS builder\n\nRUN ".toList,
      .tag ⟨false, false⟩ (.name "install_dev"),
      .text ("\n\nWORKDIR /app\nCOPY CMakeLists.txt .\nCOPY src src\n\n".toList ++
        "WORKDIR /app/build\n".toList ++
        "RUN cmake -DCMAKE_BUILD_TYPE=Release .. && make -j\n\nFROM ".toList),
      .tag ⟨false, false⟩ (.name "image"),
      .text "\n\nRUN ".toList,
      .tag ⟨false, false⟩ (.name "install_runtime"),
      .text ("\n\n\nWORKDIR /app\nCOPY --from=builder /app/build/".toList ++ entrypoint.toList ++
        " .\n\nENTRYPOINT [ \"./".toList ++ entrypoint.toList ++ "\" ]\n".toList)]

theorem template_builtinTemplate : template builtinTemplate = .ok builtin := by
  have hread : Template.read? builtinTemplate = some builtin := by
    rw [Template.read?, ← String.length_toList]
    unfold builtinTemplate tagOf
    -- Text by text, since a long one is slow to take apart.
    simp only [String.toList_append]
    decide +kernel
  rw [template, hread]

/-- The built-in template with its values in place. -/
def builtinText (image installDev installRuntime : String) : String :=
  "### Do not modify manually, generated by " ++ generatorName ++ " ###\nFROM " ++ image ++
  " AS builder\n\nRUN " ++ installDev ++
  "\n\nWORKDIR /app\nCOPY CMakeLists.txt .\nCOPY src src\n\n" ++
  "WORKDIR /app/build\n" ++
  "RUN cmake -DCMAKE_BUILD_TYPE=Release .. && make -j\n\nFROM " ++ image ++
  "\n\nRUN " ++ installRuntime ++
  "\n\n\nWORKDIR /app\nCOPY --from=builder /app/build/" ++ entrypoint ++
  " .\n\nENTRYPOINT [ \"./" ++ entrypoint ++ "\" ]\n"

theorem render_builtin (values : RecipeValues) :
    builtin.render values =
      .ok (builtinText values.image values.installDev values.installRuntime) := by
  have hpieces : Template.renderPieces values false builtin.pieces =
      .ok (builtinText values.image values.installDev values.installRuntime).toList := by
    simp only [builtin, Template.renderPieces, Template.value, RecipeValues.get?,
      Template.trimmed, Template.trimsBefore, bind, Except.bind, Bool.false_eq_true, if_false]
    refine congrArg Except.ok ?_
    -- Rewriting with the equation of a text this long is slow.
    unfold builtinText
    simp only [String.toList_append, List.append_assoc, List.append_nil]
  rw [Template.render, hpieces]
  exact congrArg Except.ok String.ofList_toList

theorem ended_builtinText (image installDev installRuntime : String) :
    ended (builtinText image installDev installRuntime) =
      builtinText image installDev installRuntime := by
  have hlast : (builtinText image installDev installRuntime).toList.getLast? = some '\n' := by
    have hending : "\" ]\n".toList.getLast? = some '\n' := by decide +kernel
    unfold builtinText
    rw [String.toList_append, List.getLast?_append, hending]
    rfl
  rw [ended, if_pos hlast]

/-- The recipe that the built-in template makes of a cell. -/
def ofBuiltin (cell : Cell) : Recipe where
  platform := cell.platform.name
  compiler := cell.compiler.name
  dev := cell.effectiveDev
  outputName := cell.outputName
  text := builtinText cell.platform.image (cell.platform.install.render cell.effectiveDev)
    (cell.platform.install.render cell.platform.runtime)

theorem ofCell_builtin (cell : Cell) : ofCell builtin cell = .ok (ofBuiltin cell) := by
  rw [ofCell, fill_of_ok (render_builtin _)]
  simp only [values, bind, Except.bind, ended_builtinText]
  rfl

theorem ofSelection_builtin {catalog : Catalog} {selection : Selection} {cells : List Cell}
    (hcells : selection.cells catalog = .ok cells) :
    ofSelection builtin catalog selection = .ok (cells.map ofBuiltin) := by
  refine ofSelection_eq_ok_iff.2 ⟨cells, hcells, ?_⟩
  rw [List.map_map]
  exact List.map_congr_left fun cell _ => ofCell_builtin cell

end Recipe

end RecipeMatrix
