import RecipeMatrix.Proofs.Recipe.Packages

/-!
# Stages of a recipe

The built-in template has two lines that begin with `FROM `, one for each stage.  What is filled in
is taken as it is, so a value of several lines brings lines of its own, and a recipe has as many
stages more as there are such lines that begin a stage.

There are three groups.

* Lines.  `Text.lines` cuts a text at its line breaks, and `Text.laterStages` counts the lines of a
  value that begin a stage, without its first one.
* Layout.  `Recipe.lines_builtinText` has all lines of a recipe in their order.
* Manifests.  `Manifest.exists_stages` counts the stages of every recipe of an accepted manifest,
  and `Manifest.stages_writing` has one with more than two.
-/

namespace RecipeMatrix

/-! ## Lines -/

namespace Text

/-- The lines of a text.  What follows the last line break is a line if it is not empty. -/
def lines (text : List Char) : List (List Char) :=
  let pieces := text.splitOn '\n'
  if pieces.getLast? = some [] then pieces.dropLast else pieces

/-- A line that begins a stage. -/
def beginsStage (line : List Char) : Bool := "FROM ".toList.isPrefixOf line

/-- The number of lines of a value that begin a stage, its first line apart. -/
def laterStages (value : String) : Nat := (value.toList.splitOn '\n').tail.countP beginsStage

theorem lines_ended (text : List Char) : lines (text ++ ['\n']) = text.splitOn '\n' := by
  simp [lines, List.splitOn_append_cons_self]

/-- A text without line breaks before another one belongs to the first line of that. -/
theorem splitOn_append {lead : List Char} (hlead : '\n' ∉ lead) (value : List Char) :
    (lead ++ value).splitOn '\n' = (value.splitOn '\n').modifyHead (lead ++ ·) := by
  induction lead with
  | nil =>
    rw [List.nil_append]
    cases value.splitOn '\n' <;> rfl
  | cons c lead ih =>
    obtain ⟨hc, hlead⟩ : '\n' ≠ c ∧ '\n' ∉ lead := by simpa using hlead
    rw [List.cons_append, List.splitOn_cons_eq_if_modifyHead, if_neg (by simpa using hc.symm),
      ih hlead, List.modifyHead_modifyHead]
    rfl

theorem laterStages_of_not_mem {value : String} (hvalue : '\n' ∉ value.toList) :
    laterStages value = 0 := by
  rw [laterStages, List.splitOn_eq_singleton hvalue]
  rfl

/-- The stages of a value that stands in a line after another text. -/
theorem countP_splitOn_append {lead : List Char} (hlead : '\n' ∉ lead) (value : String) :
    ((lead ++ value.toList).splitOn '\n').countP beginsStage =
      (if beginsStage (lead ++ ((value.toList.splitOn '\n').headD [])) then 1 else 0) +
        laterStages value := by
  rw [splitOn_append hlead, laterStages]
  cases hpieces : value.toList.splitOn '\n' with
  | nil => exact absurd hpieces (List.splitOn_ne_nil _ _)
  | cons first rest => simp [List.countP_cons, Nat.add_comm]

end Text

open Text

/-! ## Layout -/

namespace Recipe

/-- The line that every recipe begins with. -/
def headerLine : String := "### Do not modify manually, generated by dockgen ###"

/-- The lines between the two stages. -/
def buildLines : List (List Char) :=
  ["", "WORKDIR /app", "COPY CMakeLists.txt .", "COPY src src", "", "WORKDIR /app/build",
    "RUN cmake -DCMAKE_BUILD_TYPE=Release .. && make -j", ""].map String.toList

/-- The line that every recipe ends with. -/
def entrypointLine : String := "ENTRYPOINT [ \"./asset-server\" ]"

/-- The lines after the run-time packages. -/
def runLines : List (List Char) :=
  ["", "", "WORKDIR /app", "COPY --from=builder /app/build/asset-server .", "",
    entrypointLine].map String.toList

/-- The text of a recipe, with its line breaks between the lines. -/
theorem toList_builtinText (image installDev installRuntime : String) :
    (builtinText image installDev installRuntime).toList =
      (headerLine.toList ++ '\n' :: ("FROM ".toList ++ (image ++ " AS builder").toList ++ '\n' ::
        ([] ++ '\n' :: ("RUN ".toList ++ installDev.toList ++ '\n' ::
          (['\n'].intercalate buildLines ++ '\n' :: ("FROM ".toList ++ image.toList ++ '\n' ::
            ([] ++ '\n' :: ("RUN ".toList ++ installRuntime.toList ++ '\n' ::
              ['\n'].intercalate runLines)))))))) ++ ['\n'] := by
  -- The texts between two values, each with the lines that it belongs to.
  have hheader : "### Do not modify manually, generated by ".toList ++ generatorName.toList ++
      " ###\nFROM ".toList = headerLine.toList ++ '\n' :: "FROM ".toList := by decide +kernel
  have hbuilder : " AS builder\n\nRUN ".toList =
      " AS builder".toList ++ '\n' :: '\n' :: "RUN ".toList := by decide +kernel
  have hbuild : "\n\nWORKDIR /app\nCOPY CMakeLists.txt .\nCOPY src src\n\n".toList ++
      "WORKDIR /app/build\n".toList ++
      "RUN cmake -DCMAKE_BUILD_TYPE=Release .. && make -j\n\nFROM ".toList =
        '\n' :: (['\n'].intercalate buildLines ++ '\n' :: "FROM ".toList) := by decide +kernel
  have hruntime : "\n\nRUN ".toList = '\n' :: '\n' :: "RUN ".toList := by decide +kernel
  have hrun : "\n\n\nWORKDIR /app\nCOPY --from=builder /app/build/".toList ++ entrypoint.toList ++
      " .\n\nENTRYPOINT [ \"./".toList ++ entrypoint.toList ++ "\" ]\n".toList =
        '\n' :: (['\n'].intercalate runLines ++ ['\n']) := by decide +kernel
  calc (builtinText image installDev installRuntime).toList
      = ("### Do not modify manually, generated by ".toList ++ generatorName.toList ++
            " ###\nFROM ".toList) ++ (image.toList ++ (" AS builder\n\nRUN ".toList ++
          (installDev.toList ++
          (("\n\nWORKDIR /app\nCOPY CMakeLists.txt .\nCOPY src src\n\n".toList ++
            "WORKDIR /app/build\n".toList ++
            "RUN cmake -DCMAKE_BUILD_TYPE=Release .. && make -j\n\nFROM ".toList) ++
          (image.toList ++ ("\n\nRUN ".toList ++ (installRuntime.toList ++
            ("\n\n\nWORKDIR /app\nCOPY --from=builder /app/build/".toList ++ entrypoint.toList ++
              " .\n\nENTRYPOINT [ \"./".toList ++ entrypoint.toList ++ "\" ]\n".toList)))))))) := by
        unfold builtinText
        simp only [String.toList_append, List.append_assoc]
    _ = _ := by
        rw [hheader, hbuilder, hbuild, hruntime, hrun]
        simp only [String.toList_append, List.append_assoc, List.cons_append, List.nil_append]

/-- A recipe, line by line; a value is cut where it has line breaks. -/
theorem lines_builtinText (image installDev installRuntime : String) :
    lines (builtinText image installDev installRuntime).toList =
      headerLine.toList ::
        (("FROM ".toList ++ (image ++ " AS builder").toList).splitOn '\n' ++ [] ::
          (("RUN ".toList ++ installDev.toList).splitOn '\n' ++ (buildLines ++
            (("FROM ".toList ++ image.toList).splitOn '\n' ++ [] ::
              (("RUN ".toList ++ installRuntime.toList).splitOn '\n' ++ runLines))))) := by
  have hheader : headerLine.toList.splitOn '\n' = [headerLine.toList] := by decide +kernel
  have hbuild : (['\n'].intercalate buildLines).splitOn '\n' = buildLines := by decide +kernel
  have hrun : (['\n'].intercalate runLines).splitOn '\n' = runLines := by decide +kernel
  have hempty : ([] : List Char).splitOn '\n' = [[]] := rfl
  rw [toList_builtinText, lines_ended]
  simp only [List.splitOn_append_cons_self, hheader, hbuild, hrun, hempty, List.singleton_append]

theorem head?_lines_builtinText (image installDev installRuntime : String) :
    (lines (builtinText image installDev installRuntime).toList).head? =
      some headerLine.toList := by
  rw [lines_builtinText]
  rfl

theorem getLast?_lines_builtinText (image installDev installRuntime : String) :
    (lines (builtinText image installDev installRuntime).toList).getLast? =
      some entrypointLine.toList := by
  rw [lines_builtinText]
  simp only [← List.cons_append, ← List.append_assoc]
  rw [List.getLast?_append]
  rfl

/-- The number of stages of a recipe. -/
theorem countP_lines_builtinText (image installDev installRuntime : String) :
    (lines (builtinText image installDev installRuntime).toList).countP beginsStage =
      2 + laterStages (image ++ " AS builder") + laterStages installDev + laterStages image +
        laterStages installRuntime := by
  have hfrom (value : List Char) : beginsStage ("FROM ".toList ++ value) = true := by
    simp [beginsStage]
  have hrun (value : List Char) : beginsStage ("RUN ".toList ++ value) = false := by
    simp [beginsStage, List.isPrefixOf]
  have hheader : beginsStage headerLine.toList = false := by decide +kernel
  have hempty : beginsStage [] = false := by decide +kernel
  have hbuildLines : buildLines.countP beginsStage = 0 := by decide +kernel
  have hrunLines : runLines.countP beginsStage = 0 := by decide +kernel
  have hfromLead : '\n' ∉ "FROM ".toList := by decide +kernel
  have hrunLead : '\n' ∉ "RUN ".toList := by decide +kernel
  simp only [lines_builtinText, List.countP_cons, List.countP_append,
    countP_splitOn_append hfromLead, countP_splitOn_append hrunLead, hfrom, hrun, hheader, hempty,
    hbuildLines, hrunLines, if_true, Bool.false_eq_true, if_false]
  omega

end Recipe

/-! ## Manifests -/

/-- A command has no line breaks but those of its own text. -/
theorem InstallCommand.not_mem_render {command : InstallCommand} {packages : Packages}
    (hwords : ∀ package ∈ packages, Entry.IsWord package)
    (hcommand : '\n' ∉ command.source.toList) : '\n' ∉ (command.render packages).toList := by
  have hjoined := packages.not_mem_joined hwords (c := '\n') (by decide) (by decide)
  simp only [source, render, String.toList_append, List.mem_append, not_or] at hcommand ⊢
  exact ⟨⟨hcommand.1.1, hjoined⟩, hcommand.2⟩

namespace Manifest

/-- Every recipe of an accepted manifest begins and ends with the lines of the template, and it has
two stages and those that its values bring with them; so it has two where they have no line
breaks. -/
theorem exists_stages {manifest : Manifest} {catalog : Catalog}
    (hcatalog : manifest.catalog = .ok catalog) {cell : Cell} (hcell : cell ∈ catalog.cells) :
    ∃ template recipe, Recipe.template Recipe.builtinTemplate = .ok template ∧
      Recipe.ofCell template cell = .ok recipe ∧
      (lines recipe.text.toList).head? =
        some "### Do not modify manually, generated by dockgen ###".toList ∧
      (lines recipe.text.toList).getLast? = some "ENTRYPOINT [ \"./asset-server\" ]".toList ∧
      (lines recipe.text.toList).countP beginsStage =
        2 + laterStages (cell.platform.image ++ " AS builder") +
          laterStages (cell.platform.installDev cell.compiler.package) +
          laterStages cell.platform.image + laterStages cell.platform.installRuntime ∧
      ('\n' ∉ cell.platform.image.toList → '\n' ∉ cell.platform.install.source.toList →
        (lines recipe.text.toList).countP beginsStage = 2) := by
  have haccepted : catalog.Accepted := ⟨_, _, hcatalog⟩
  obtain ⟨hplatform, hcompiler⟩ := Catalog.mem_cellsOf.1 hcell
  have hsound := haccepted.sound_platform hplatform
  have hcount := Recipe.countP_lines_builtinText cell.platform.image
    (cell.platform.installDev cell.compiler.package) cell.platform.installRuntime
  refine ⟨Recipe.builtin, Recipe.ofBuiltin cell, Recipe.template_builtinTemplate,
    Recipe.ofCell_builtin cell, Recipe.head?_lines_builtinText _ _ _,
    Recipe.getLast?_lines_builtinText _ _ _, hcount, fun himage hcommand => hcount.trans ?_⟩
  have hbuilder : '\n' ∉ (cell.platform.image ++ " AS builder").toList := by simpa using himage
  have hdev : ∀ package ∈ cell.effectiveDev, Entry.IsWord package := by
    intro package hpackage
    rcases List.mem_append.1 hpackage with hpackage | hpackage
    · exact hsound.dev package hpackage
    · rw [List.mem_singleton.1 hpackage]
      exact (haccepted.sound_compiler hcompiler).package
  have hbuild : laterStages (cell.platform.installDev cell.compiler.package) = 0 :=
    laterStages_of_not_mem (InstallCommand.not_mem_render hdev hcommand)
  have hrun : laterStages cell.platform.installRuntime = 0 :=
    laterStages_of_not_mem (InstallCommand.not_mem_render hsound.runtime hcommand)
  rw [laterStages_of_not_mem hbuilder, laterStages_of_not_mem himage, hbuild, hrun]

/-- The manifest of a catalog. -/
def ofCatalog (catalog : Catalog) : Manifest where
  generator := none
  platforms := catalog.platforms.map Platform.entry
  compilers := catalog.compilers.map Compiler.entry
  directory := none

theorem exists_stages_apt : ∃ template recipe,
    Recipe.template Recipe.builtinTemplate = .ok template ∧
      Recipe.ofCell template ⟨⟨"debian", "debian:12", .apt, ["make"], ["libvips"]⟩,
        ⟨"gcc", "g++"⟩⟩ = .ok recipe ∧
      (lines recipe.text.toList).countP beginsStage = 2 := by
  have hcatalog : (ofCatalog (.installing .apt ["make"])).catalog =
      .ok (.installing .apt ["make"]) := by decide +kernel
  obtain ⟨template, recipe, htemplate, hrecipe, -, -, -, hcount⟩ :=
    exists_stages hcatalog List.mem_cons_self
  exact ⟨template, recipe, htemplate, hrecipe, hcount (by decide +kernel) (by decide +kernel)⟩

/-- A command that writes a file, line by line. -/
def writing : InstallCommand :=
  ⟨"apt-get install -y ", " && cat > /etc/motd <<END\nFROM us\nEND"⟩

/-- A command of several lines can begin a stage in each of the two places where it stands. -/
theorem stages_writing :
    (ofCatalog (.installing writing ["make"])).catalog = .ok (.installing writing ["make"]) ∧
      Recipe.template Recipe.builtinTemplate = .ok Recipe.builtin ∧
      (Catalog.installing writing ["make"]).cells.map (fun cell =>
          (Recipe.ofCell Recipe.builtin cell).map fun recipe =>
            (lines recipe.text.toList).countP beginsStage) = [.ok 4, .ok 4] := by
  refine ⟨by decide +kernel, Recipe.template_builtinTemplate, ?_⟩
  simp only [Recipe.ofCell_builtin, Except.map, Recipe.ofBuiltin,
    Recipe.countP_lines_builtinText]
  decide +kernel

end Manifest

end RecipeMatrix
