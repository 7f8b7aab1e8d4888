import Mathlib.Data.Set.Operations
import RecipeMatrix.Proofs.Recipe.Filling
import RecipeMatrix.Proofs.Recipe.Packages

/-!
# Installing exactly the packages

An install command is made by joining packages and putting them into a text.  Here the packages are
read back from the command.

* From the words.  Where the placeholder of an entry is a word of its command, a command that is
  run has the words of the entry, and in place of the placeholder the packages, each as one word.
* From the text.  Whatever stands around the placeholder, different packages give different
  commands (`InstallCommand.render_injOn`).

`PlatformEntry.installs_of_check` has both for every checked entry.
-/

namespace RecipeMatrix

open Text

namespace InstallCommand

/-- There is only one way to cut a checked command at a placeholder. -/
theorem parts_of_parse {platform command : String} {install : InstallCommand}
    (hparse : parse platform command = .ok install) {before after : String}
    (hcommand : command = before ++ placeholder ++ after) :
    install.before = before ∧ install.after = after := by
  have htext : command.toList = before.toList ++ (placeholder.toList ++ after.toList) := by
    rw [hcommand, String.toList_append, String.toList_append, List.append_assoc]
  have hsource : command.toList =
      install.before.toList ++ (placeholder.toList ++ install.after.toList) := by
    rw [← source_of_parse hparse, source, String.toList_append, String.toList_append,
      List.append_assoc]
  have hoccurs : OccursAt command.toList before.toList.length := by
    rw [htext, OccursAt, List.drop_left]
    exact List.prefix_append _ _
  have hlength : install.before.toList.length = before.toList.length :=
    ((occursAt_iff_of_parse hparse _).1 hoccurs).symm
  obtain ⟨hbefore, hrest⟩ := List.append_inj (hsource.symm.trans htext) hlength
  exact ⟨String.toList_injective hbefore,
    String.toList_injective (List.append_cancel_left hrest)⟩

/-- A command shows which packages it installs, also where the placeholder does not stand apart. -/
theorem render_injOn (command : InstallCommand) :
    Set.InjOn command.render {packages | ∀ package ∈ packages, Entry.IsWord package} := by
  intro first hfirst second hsecond hsame
  have htext : command.before ++ first.joined ++ command.after =
      command.before ++ second.joined ++ command.after := hsame
  have hjoined : first.joined = second.joined :=
    (String.append_right_inj _).1 ((String.append_left_inj _).1 htext)
  have hwords : first.map String.toList = second.map String.toList := by
    rw [← Packages.words_joined hfirst, ← Packages.words_joined hsecond, hjoined]
  exact (List.map_inj_right fun _ _ => String.toList_injective).1 hwords

end InstallCommand

namespace PlatformEntry

/-- The command of a checked entry can be cut at its placeholder, and in one way only.  If it has
nothing or a blank on both sides of the placeholder, then the words of the build-stage command are
those before the placeholder, the packages of the entry in their order, the package of the compiler
and the words after the placeholder, and the run-time command has the run-time packages in the same
place.  If not, then packages that pass their check can still be told apart by the command. -/
theorem installs_of_check {entry : PlatformEntry} {platform : Platform}
    (hplatform : entry.check = .ok platform) :
    (∃! parts : String × String,
      entry.install = parts.1 ++ InstallCommand.placeholder ++ parts.2) ∧
    (∀ before after, entry.install = before ++ InstallCommand.placeholder ++ after →
      EndsBlank before.toList → BeginsBlank after.toList →
      (∀ compilerEntry compiler, CompilerEntry.check compilerEntry = .ok compiler →
        words (platform.installDev compiler.package).toList =
          words before.toList ++ entry.dev.map String.toList ++ [compilerEntry.package.toList] ++
            words after.toList) ∧
      words platform.installRuntime.toList =
        words before.toList ++ entry.runtime.map String.toList ++ words after.toList) ∧
    (∀ label, Set.InjOn platform.install.render
      {packages | Entry.checkPackages label packages = .ok ()}) := by
  obtain ⟨hparse, -, hdev, hruntime⟩ := fields_of_check hplatform
  have hsound : entry.Sound := (of_check hplatform).1
  have hsource : entry.install =
      platform.install.before ++ InstallCommand.placeholder ++ platform.install.after :=
    (InstallCommand.source_of_parse hparse).symm
  refine ⟨⟨(platform.install.before, platform.install.after), hsource, ?_⟩, ?_, fun label => ?_⟩
  · rintro ⟨before, after⟩ hparts
    obtain ⟨hbefore, hafter⟩ := InstallCommand.parts_of_parse hparse hparts
    rw [hbefore, hafter]
  · intro before after hparts hends hbegins
    obtain ⟨rfl, rfl⟩ := InstallCommand.parts_of_parse hparse hparts
    have hapart : platform.install.IsApart := ⟨hends, hbegins⟩
    constructor
    · intro compilerEntry compiler hcompiler
      obtain ⟨hcompilerSound, hsame⟩ := CompilerEntry.of_check hcompiler
      have hpackage : compiler.package = compilerEntry.package :=
        congrArg CompilerEntry.package hsame
      have hwords : ∀ package ∈ platform.dev.appended compiler.package, Entry.IsWord package := by
        intro package hmem
        rcases List.mem_append.1 hmem with hmem | hmem
        · exact hsound.dev package (hdev ▸ hmem)
        · rw [List.mem_singleton.1 hmem, hpackage]
          exact hcompilerSound.package
      rw [Platform.installDev, Platform.effectiveDev, InstallCommand.words_render hapart hwords,
        Packages.appended, List.map_append, hdev, hpackage, List.map_singleton]
      simp only [List.append_assoc]
    · have hwords : ∀ package ∈ platform.runtime, Entry.IsWord package := by
        rw [hruntime]
        exact hsound.runtime
      rw [Platform.installRuntime, InstallCommand.words_render hapart hwords, hruntime]
  · simp only [Entry.checkPackages_eq_ok_iff]
    exact platform.install.render_injOn

/-- An entry whose command has blanks of other kinds than spaces, and whose platform needs no
packages when it is run. -/
def tabbed : PlatformEntry :=
  ⟨"arch", "arch:1", "pacman -S\t\x7bdeps\x7d\u3000&& sync", ["make", "git"], []⟩

/-- The platform of this entry, with its check. -/
def tabbedPlatform : { platform : Platform // tabbed.check = .ok platform } :=
  ⟨⟨"arch", "arch:1", ⟨"pacman -S\t", "\u3000&& sync"⟩, ["make", "git"], []⟩, by decide +kernel⟩

theorem installs_of_check_tabs :
    words (tabbedPlatform.1.installDev "clang").toList =
      ["pacman", "-S", "make", "git", "clang", "&&", "sync"].map String.toList ∧
    words tabbedPlatform.1.installRuntime.toList =
      ["pacman", "-S", "&&", "sync"].map String.toList := by
  have hcompiler : (⟨"clang", "clang"⟩ : CompilerEntry).check = .ok ⟨"clang", "clang"⟩ := by
    decide +kernel
  obtain ⟨hdev, hruntime⟩ := (installs_of_check tabbedPlatform.2).2.1 "pacman -S\t" "\u3000&& sync"
    (by decide +kernel) (by decide +kernel) (by decide +kernel)
  exact ⟨(hdev _ _ hcompiler).trans (by decide +kernel), hruntime.trans (by decide +kernel)⟩

end PlatformEntry

end RecipeMatrix
