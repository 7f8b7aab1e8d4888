import RecipeMatrix.Proofs.Catalog.Soundness
import RecipeMatrix.Proofs.Recipe.Rendering

/-!
# Filling in the built-in template

A recipe is made in two steps.  Packages are put into an install command at its placeholder, and
the commands are put into the template at its tags.  Each step takes what it puts in as it is, so
nothing in a package or in a command is ever read as a placeholder or as a tag.

`Recipe.FillsTags` says what it is to put texts in place of the tags of a template and to change
nothing else.  `Recipe.ofCell_fillsTags` has it for the recipe of every checked platform and
compiler.
-/

namespace RecipeMatrix

/-- A checked platform has the image and the packages of its entry, and its install command is
that of the entry, cut at the placeholder. -/
theorem PlatformEntry.fields_of_check {entry : PlatformEntry} {platform : Platform}
    (hcheck : entry.check = .ok platform) :
    InstallCommand.parse entry.name entry.install = .ok platform.install ∧
      platform.image = entry.image ∧ platform.dev = entry.dev ∧
      platform.runtime = entry.runtime := by
  unfold PlatformEntry.check at hcheck
  simp only [bind_eq_ok_iff] at hcheck
  obtain ⟨⟨⟩, -, ⟨⟩, -, ⟨⟩, -, install, hinstall, ⟨⟩, -, ⟨⟩, -, hplatform⟩ := hcheck
  obtain rfl := Except.ok.inj hplatform
  exact ⟨hinstall, rfl, rfl, rfl⟩

namespace Recipe

/-- The text is the source with an image in place of both image tags, with one command in place of
the tag of the build stage and another in place of that of the run-time stage.  The parts of the
source between the tags have no opening braces of their own and are not changed. -/
def FillsTags (source image installDev installRuntime text : String) : Prop :=
  ∃ header builder build runtime run : String,
    (∀ part ∈ [header, builder, build, runtime, run], ¬ ['{', '{'] <:+: part.toList) ∧
    source = header ++ tagOf "image" ++ builder ++ tagOf "install_dev" ++ build ++
      tagOf "image" ++ runtime ++ tagOf "install_runtime" ++ run ∧
    text = header ++ image ++ builder ++ installDev ++ build ++ image ++ runtime ++
      installRuntime ++ run

/-- The built-in template is what becomes of it when every tag is filled in with itself. -/
theorem builtinTemplate_eq : builtinTemplate =
    builtinText (tagOf "image") (tagOf "install_dev") (tagOf "install_runtime") := by
  have hheader : " ###\nFROM " = " ###\n" ++ "FROM " := by decide +kernel
  have hbuilder : " AS builder\n\nRUN " = " AS builder\n\n" ++ "RUN " := by decide +kernel
  have hbuild : "\n\nWORKDIR /app\nCOPY CMakeLists.txt .\nCOPY src src\n\n" =
      "\n\n" ++ "WORKDIR /app\n" ++ "COPY CMakeLists.txt .\n" ++ "COPY src src\n\n" := by
    decide +kernel
  have hmake : "RUN cmake -DCMAKE_BUILD_TYPE=Release .. && make -j\n\nFROM " =
      "RUN cmake -DCMAKE_BUILD_TYPE=Release .. && make -j\n\n" ++ "FROM " := by decide +kernel
  have hruntime : "\n\nRUN " = "\n\n" ++ "RUN " := by decide +kernel
  have hrun : "\n\n\nWORKDIR /app\nCOPY --from=builder /app/build/" =
      "\n\n\n" ++ "WORKDIR /app\n" ++ "COPY --from=builder /app/build/" := by decide +kernel
  have hentrypoint : " .\n\nENTRYPOINT [ \"./" = " .\n\n" ++ "ENTRYPOINT [ \"./" := by
    decide +kernel
  unfold builtinTemplate builtinText
  rw [hheader, hbuilder, hbuild, hmake, hruntime, hrun, hentrypoint]
  simp only [String.append_assoc]

theorem fillsTags_builtinText (image installDev installRuntime : String) :
    FillsTags builtinTemplate image installDev installRuntime
      (builtinText image installDev installRuntime) := by
  refine ⟨"### Do not modify manually, generated by " ++ generatorName ++ " ###\nFROM ",
    " AS builder\n\nRUN ",
    "\n\nWORKDIR /app\nCOPY CMakeLists.txt .\nCOPY src src\n\n" ++ "WORKDIR /app/build\n" ++
      "RUN cmake -DCMAKE_BUILD_TYPE=Release .. && make -j\n\nFROM ",
    "\n\nRUN ",
    "\n\n\nWORKDIR /app\nCOPY --from=builder /app/build/" ++ entrypoint ++
      " .\n\nENTRYPOINT [ \"./" ++ entrypoint ++ "\" ]\n",
    by decide +kernel, ?_, ?_⟩
  · rw [builtinTemplate_eq]
    unfold builtinText
    simp only [String.append_assoc]
  · unfold builtinText
    simp only [String.append_assoc]

/-- Every checked platform and compiler has a recipe.  It is the built-in template with the image in
place of both image tags and the two install commands in place of theirs; and these are the command
of the entry with the packages, joined by spaces, in place of its one placeholder. -/
theorem ofCell_fillsTags {entry : PlatformEntry} {platform : Platform}
    (hplatform : entry.check = .ok platform) {compilerEntry : CompilerEntry} {compiler : Compiler}
    (hcompiler : compilerEntry.check = .ok compiler) :
    ∃ before after template recipe,
      entry.install = before ++ InstallCommand.placeholder ++ after ∧
      (∀ position, InstallCommand.OccursAt entry.install.toList position ↔
        position = before.toList.length) ∧
      Recipe.template builtinTemplate = .ok template ∧
      ofCell template ⟨platform, compiler⟩ = .ok recipe ∧
      FillsTags builtinTemplate entry.image
        (before ++ " ".intercalate (entry.dev ++ [compilerEntry.package]) ++ after)
        (before ++ " ".intercalate entry.runtime ++ after) recipe.text := by
  obtain ⟨hparse, himage, hdev, hruntime⟩ := PlatformEntry.fields_of_check hplatform
  have hpackage : compiler.package = compilerEntry.package :=
    congrArg CompilerEntry.package (CompilerEntry.of_check hcompiler).2
  refine ⟨platform.install.before, platform.install.after, builtin,
    ofBuiltin ⟨platform, compiler⟩, (InstallCommand.source_of_parse hparse).symm,
    InstallCommand.occursAt_iff_of_parse hparse, template_builtinTemplate, ofCell_builtin _, ?_⟩
  rw [← himage, ← hdev, ← hruntime, ← hpackage]
  exact fillsTags_builtinText _ _ _

/-- Braces of all kinds, in the image, in the command and in the packages. -/
theorem ofCell_fillsTags_braces : ∃ platform compiler recipe,
    (⟨"debian", "\x7b\x7b image \x7d\x7d", "\x7b% \x7bdeps\x7d \x7b# <&'",
      ["\x7bdeps\x7d", "\x7b\x7b"], []⟩ : PlatformEntry).check = .ok platform ∧
    (⟨"gcc", "\x7b\x7bimage\x7d\x7d"⟩ : CompilerEntry).check = .ok compiler ∧
    ofCell builtin ⟨platform, compiler⟩ = .ok recipe ∧
    FillsTags builtinTemplate "\x7b\x7b image \x7d\x7d"
      "\x7b% \x7bdeps\x7d \x7b\x7b \x7b\x7bimage\x7d\x7d \x7b# <&'" "\x7b%  \x7b# <&'"
      recipe.text := by
  have hplatform : (⟨"debian", "\x7b\x7b image \x7d\x7d", "\x7b% \x7bdeps\x7d \x7b# <&'",
      ["\x7bdeps\x7d", "\x7b\x7b"], []⟩ : PlatformEntry).check =
        .ok ⟨"debian", "\x7b\x7b image \x7d\x7d", ⟨"\x7b% ", " \x7b# <&'"⟩,
          ["\x7bdeps\x7d", "\x7b\x7b"], []⟩ := by
    decide +kernel
  have hcompiler : (⟨"gcc", "\x7b\x7bimage\x7d\x7d"⟩ : CompilerEntry).check =
      .ok ⟨"gcc", "\x7b\x7bimage\x7d\x7d"⟩ := by
    decide +kernel
  obtain ⟨before, after, template, recipe, hinstall, hposition, htemplate, hrecipe, hfills⟩ :=
    ofCell_fillsTags hplatform hcompiler
  rw [template_builtinTemplate] at htemplate
  obtain rfl := Except.ok.inj htemplate
  have hlength : "\x7b% ".toList.length = before.toList.length :=
    (hposition 3).1 (by decide +kernel)
  have hparts : "\x7b% ".toList ++ (InstallCommand.placeholder.toList ++ " \x7b# <&'".toList) =
      before.toList ++ (InstallCommand.placeholder.toList ++ after.toList) := by
    have htext := congrArg String.toList hinstall
    rw [String.toList_append, String.toList_append, List.append_assoc] at htext
    rw [← htext]
    decide +kernel
  obtain ⟨hbefore, hrest⟩ := List.append_inj hparts hlength
  rw [← String.toList_injective hbefore,
    ← String.toList_injective (List.append_cancel_left hrest)] at hfills
  exact ⟨_, _, recipe, hplatform, hcompiler, hrecipe, hfills⟩

end Recipe

end RecipeMatrix
