import RecipeMatrix.Proofs.Catalog.Soundness
import RecipeMatrix.Proofs.Recipe.Rendering

/-!
# Compilers among the packages

A catalog compares the packages that a platform installs at run time with the packages of the
compilers.  Here it is worked out what this says about the words of the command that is run, and
what is left open for the packages of the build stage.

There are four groups.

* Words.  `Text.words` reads a text word by word, and `Text.mem_words_iff` finds a word where it
  stands in the text, between blanks.  A text can be cut at a blank without cutting a word
  (`Text.words_append_of_endsBlank`, `Text.words_append_of_beginsBlank`).
* Commands.  The words of some packages are the packages (`words_joined`), so a command whose
  placeholder stands apart has the words of its own text and the packages (`words_render`).  In
  any command, a word that takes in no part of that text is a package (`mem_of_wordAt`).
* Run-time stages.  `Catalog.Accepted.compiler_words` says which words of a run-time command can
  be the package of a compiler.  `compiler_mem_words` has a command that names one by itself.
* Build stages.  `Catalog.compilers_of_recipe` says which packages of compilers a recipe has, and
  when it has no more than its own.  `compilers_of_dev` has an accepted catalog in which this
  fails.
-/

namespace RecipeMatrix

/-! ## Words -/

namespace Text

/-- The words of a text: its longest pieces without a blank. -/
def words (text : List Char) : List (List Char) :=
  (text.splitOnP isBlank).filter fun piece => !piece.isEmpty

/-- No text, or one with a blank at its end. -/
def EndsBlank (text : List Char) : Prop := ∀ c ∈ text.getLast?, isBlank c = true

/-- No text, or one with a blank at its beginning. -/
def BeginsBlank (text : List Char) : Prop := ∀ c ∈ text.head?, isBlank c = true

-- By name, since the search can find an instance that tries all characters.
instance (text : List Char) : Decidable (EndsBlank text) :=
  Option.decidableForallMem text.getLast?

instance (text : List Char) : Decidable (BeginsBlank text) :=
  Option.decidableForallMem text.head?

/-- A text with a word between two other texts. -/
structure WordAt (text word left right : List Char) : Prop where
  text_eq : text = left ++ word ++ right
  before : EndsBlank left
  after : BeginsBlank right

@[simp]
theorem words_nil : words [] = [] := rfl

/-- A blank ends a word. -/
theorem words_append_blank {c : Char} (hc : isBlank c = true) (first second : List Char) :
    words (first ++ c :: second) = words first ++ words second := by
  unfold words
  rw [List.splitOnP_append_cons first second hc, List.filter_append]

/-- A text without a blank is one word. -/
theorem words_of_clear {word : List Char} (hne : word ≠ [])
    (hclear : ∀ c ∈ word, isBlank c = false) : words word = [word] := by
  rw [words, List.splitOnP_eq_singleton hclear]
  simp [hne]

theorem words_append_of_endsBlank {first : List Char} (hfirst : EndsBlank first)
    (second : List Char) : words (first ++ second) = words first ++ words second := by
  cases hlast : first.getLast? with
  | none => rw [List.getLast?_eq_none_iff.1 hlast, List.nil_append, words_nil, List.nil_append]
  | some c =>
    obtain ⟨before, rfl⟩ := List.getLast?_eq_some_iff.1 hlast
    have hc := hfirst c (by simp)
    rw [List.append_assoc, List.singleton_append, words_append_blank hc, words_append_blank hc,
      words_nil, List.append_nil]

theorem words_append_of_beginsBlank {second : List Char} (hsecond : BeginsBlank second)
    (first : List Char) : words (first ++ second) = words first ++ words second := by
  cases second with
  | nil => rw [List.append_nil, words_nil, List.append_nil]
  | cons c after =>
    have hc := hsecond c (by simp)
    have hafter : words (c :: after) = words after := words_append_blank hc [] after
    rw [words_append_blank hc, hafter]

theorem EndsBlank.of_append {first second : List Char} (hboth : EndsBlank (first ++ second)) :
    EndsBlank second := by
  intro c hc
  refine hboth c ?_
  rw [Option.mem_def] at hc ⊢
  rw [List.getLast?_append, hc, Option.some_or]

theorem BeginsBlank.of_append {first second : List Char} (hboth : BeginsBlank (first ++ second)) :
    BeginsBlank first := by
  intro c hc
  refine hboth c ?_
  rw [Option.mem_def] at hc ⊢
  rw [List.head?_append, hc, Option.some_or]

/-- A word stands in the text between blanks or at an end. -/
theorem exists_wordAt {text word : List Char} (hne : word ≠ []) (hword : word ∈ words text) :
    ∃ left right, WordAt text word left right := by
  cases hfind : text.find? isBlank with
  | none =>
    have hclear : ∀ c ∈ text, isBlank c = false := by simpa using List.find?_eq_none.1 hfind
    rw [words, List.splitOnP_eq_singleton hclear] at hword
    obtain rfl := List.mem_singleton.1 (List.mem_filter.1 hword).1
    exact ⟨[], [], by simp, nofun, nofun⟩
  | some c =>
    obtain ⟨hc, first, second, rfl, hfirst⟩ := List.find?_eq_some_iff_append.1 hfind
    have hclear : ∀ c ∈ first, isBlank c = false := by simpa using hfirst
    have hsecond : BeginsBlank (c :: second) := by simpa [BeginsBlank] using hc
    -- The word is what stands before the first blank, or a word of what stands behind it.
    rw [words_append_blank hc, List.mem_append] at hword
    rcases hword with hword | hword
    · rw [words, List.splitOnP_eq_singleton hclear] at hword
      obtain rfl := List.mem_singleton.1 (List.mem_filter.1 hword).1
      exact ⟨[], c :: second, by simp, nofun, hsecond⟩
    · obtain ⟨left, right, htext, hbefore, hafter⟩ := exists_wordAt hne hword
      refine ⟨first ++ c :: left, right, by simp [htext], ?_, hafter⟩
      intro last hlast
      cases left with
      | nil => simp_all
      | cons other left => exact hbefore last (by simpa using hlast)
termination_by text.length

/-- A word of a text is a text without a blank that has blanks or nothing around it. -/
theorem mem_words_iff {text word : List Char} (hne : word ≠ [])
    (hclear : ∀ c ∈ word, isBlank c = false) :
    word ∈ words text ↔ ∃ left right, WordAt text word left right := by
  refine ⟨exists_wordAt hne, ?_⟩
  rintro ⟨left, right, rfl, hbefore, hafter⟩
  rw [words_append_of_beginsBlank hafter, words_append_of_endsBlank hbefore,
    words_of_clear hne hclear]
  simp

end Text

open Text

/-! ## Commands -/

theorem Entry.IsWord.toList_ne_nil {package : String} (hword : Entry.IsWord package) :
    package.toList ≠ [] := by simpa using hword.1

namespace Packages

theorem toList_joined_singleton (package : String) :
    (joined [package]).toList = package.toList := by
  rw [joined, String.toList_intercalate]
  exact List.intercalate_singleton

theorem toList_joined_cons (package other : String) (packages : Packages) :
    (joined (package :: other :: packages)).toList =
      package.toList ++ ' ' :: (joined (other :: packages)).toList := by
  rw [joined, joined, String.toList_intercalate, String.toList_intercalate, List.map_cons,
    List.map_cons, List.intercalate_cons_cons, List.append_assoc]
  rfl

variable {packages : Packages}

/-- Packages are joined so that each of them is a word. -/
theorem words_joined (hwords : ∀ package ∈ packages, Entry.IsWord package) :
    words packages.joined.toList = packages.map String.toList := by
  induction packages with
  | nil => rfl
  | cons package packages ih =>
    have hpackage := hwords package List.mem_cons_self
    have hclear := words_of_clear hpackage.toList_ne_nil hpackage.2
    cases packages with
    | nil => rw [toList_joined_singleton, hclear, List.map_singleton]
    | cons other packages =>
      rw [toList_joined_cons, words_append_blank (by decide), hclear,
        ih fun _ hmem => hwords _ (List.mem_cons_of_mem _ hmem)]
      rfl

/-- Spaces are the only blanks between packages. -/
theorem not_mem_joined (hwords : ∀ package ∈ packages, Entry.IsWord package) {c : Char}
    (hblank : isBlank c = true) (hspace : c ≠ ' ') : c ∉ packages.joined.toList := by
  induction packages with
  | nil => exact List.not_mem_nil
  | cons package packages ih =>
    have hpackage : c ∉ package.toList := by
      intro hc
      simp [(hwords package List.mem_cons_self).2 c hc] at hblank
    cases packages with
    | nil => rwa [toList_joined_singleton]
    | cons other packages =>
      have hrest := ih fun _ hmem => hwords _ (List.mem_cons_of_mem _ hmem)
      simp [toList_joined_cons, hpackage, hspace, hrest]

end Packages

namespace InstallCommand

/-- A command that ends with its packages. -/
def apt : InstallCommand := ⟨"apt-get install -y ", ""⟩

variable {command : InstallCommand} {packages : Packages}

/-- The placeholder is a word of the command. -/
def IsApart (command : InstallCommand) : Prop :=
  EndsBlank command.before.toList ∧ BeginsBlank command.after.toList

instance (command : InstallCommand) : Decidable command.IsApart :=
  inferInstanceAs (Decidable (EndsBlank command.before.toList ∧ BeginsBlank command.after.toList))

/-- A command is run with its own words and the packages. -/
theorem words_render (hapart : command.IsApart)
    (hwords : ∀ package ∈ packages, Entry.IsWord package) :
    words (command.render packages).toList =
      words command.before.toList ++ packages.map String.toList ++ words command.after.toList := by
  rw [render, String.toList_append, String.toList_append,
    words_append_of_beginsBlank hapart.2, words_append_of_endsBlank hapart.1,
    packages.words_joined hwords]

/-- A word of a command is a package, unless it takes in a part of the text before the placeholder
or of the text after it. -/
theorem mem_of_wordAt (hwords : ∀ package ∈ packages, Entry.IsWord package) {word : String}
    (hword : Entry.IsWord word) {left right : List Char}
    (hat : WordAt (command.render packages).toList word.toList left right)
    (hleft : command.before.toList.length ≤ left.length)
    (hright : command.after.toList.length ≤ right.length) : word ∈ packages := by
  obtain ⟨htext, hbefore, hafter⟩ := hat
  rw [render, String.toList_append, String.toList_append] at htext
  obtain ⟨inner, rfl⟩ : command.before.toList <+: left := by
    refine List.prefix_of_prefix_length_le ⟨packages.joined.toList ++ command.after.toList, ?_⟩
      ⟨word.toList ++ right, rfl⟩ hleft
    rw [← List.append_assoc, htext, List.append_assoc]
  obtain ⟨outer, rfl⟩ : command.after.toList <:+ right :=
    List.suffix_of_suffix_length_le ⟨_, htext⟩ ⟨_, rfl⟩ hright
  have hjoined : packages.joined.toList ++ command.after.toList =
      inner ++ word.toList ++ outer ++ command.after.toList := by
    simpa only [List.append_assoc, List.append_cancel_left_eq] using htext
  have hmem : word.toList ∈ words packages.joined.toList :=
    (mem_words_iff hword.toList_ne_nil hword.2).2
      ⟨inner, outer, List.append_cancel_right hjoined, hbefore.of_append, hafter.of_append⟩
  rw [packages.words_joined hwords, List.mem_map] at hmem
  obtain ⟨package, hpackage, hsame⟩ := hmem
  rwa [← String.toList_inj.1 hsame]

end InstallCommand

/-! ## Run-time stages -/

namespace Catalog

/-- Where the package of a compiler is a word of a run-time command, the word takes in a part of
the text of the command around the placeholder; and if the placeholder stands apart, that text
names the package by itself. -/
theorem Accepted.compiler_words {catalog : Catalog} (haccepted : catalog.Accepted)
    {platform : Platform} (hplatform : platform ∈ catalog.platforms)
    {compiler : Compiler} (hcompiler : compiler ∈ catalog.compilers) :
    (compiler.package.toList ∈ words platform.installRuntime.toList ↔
      ∃ left right,
        WordAt platform.installRuntime.toList compiler.package.toList left right) ∧
    (∀ left right, WordAt platform.installRuntime.toList compiler.package.toList left right →
      left.length < platform.install.before.toList.length ∨
        right.length < platform.install.after.toList.length) ∧
    (platform.install.IsApart →
      (compiler.package.toList ∈ words platform.installRuntime.toList ↔
        compiler.package.toList ∈ words platform.install.before.toList ∨
          compiler.package.toList ∈ words platform.install.after.toList)) := by
  have hpackage : Entry.IsWord compiler.package := (haccepted.sound_compiler hcompiler).package
  have hruntime : ∀ package ∈ platform.runtime, Entry.IsWord package :=
    (haccepted.sound_platform hplatform).runtime
  have hnew : compiler.package ∉ platform.runtime :=
    haccepted.coherent.runtime platform hplatform compiler hcompiler
  refine ⟨mem_words_iff hpackage.toList_ne_nil hpackage.2, fun left right hat => ?_,
    fun hapart => ?_⟩
  · by_contra hinside
    rw [not_or, Nat.not_lt, Nat.not_lt] at hinside
    exact hnew (InstallCommand.mem_of_wordAt hruntime hpackage hat hinside.1 hinside.2)
  · have hlisted : compiler.package.toList ∉ platform.runtime.map String.toList := by
      simpa [String.toList_inj] using hnew
    rw [Platform.installRuntime, InstallCommand.words_render hapart hruntime]
    simp [hlisted]

/-- A catalog with one platform and two compilers, by how the platform installs packages and which
it needs to build. -/
def installing (command : InstallCommand) (dev : Packages) : Catalog where
  platforms := [⟨"debian", "debian:12", command, dev, ["libvips"]⟩]
  compilers := [⟨"gcc", "g++"⟩, ⟨"clang", "clang"⟩]

theorem compiler_words_apt : (installing .apt ["make"]).Accepted ∧
    "clang".toList ∉ words "apt-get install -y libvips".toList := by
  have haccepted : (installing .apt ["make"]).Accepted := by decide +kernel
  have hclang : (⟨"clang", "clang"⟩ : Compiler) ∈ (installing .apt ["make"]).compilers := by decide
  have hwords := (haccepted.compiler_words List.mem_cons_self hclang).2.2 (by decide +kernel)
  exact ⟨haccepted, fun hmem => absurd (hwords.1 hmem) (by decide +kernel)⟩

/-- A command that names a package by itself. -/
def holding : InstallCommand := ⟨"apt-get install -y ", " && apt-mark hold g++"⟩

/-- A command can name the package of a compiler by itself. -/
theorem compiler_mem_words : (installing holding ["make"]).Accepted ∧
    ∃ platform ∈ (installing holding ["make"]).platforms,
      ∃ compiler ∈ (installing holding ["make"]).compilers,
        compiler.package.toList ∈ words platform.installRuntime.toList :=
  ⟨by decide +kernel, _, List.mem_cons_self, _, List.mem_cons_self, by decide +kernel⟩

/-! ## Build stages -/

/-- The packages among some that belong to compilers of a catalog. -/
def compilersAmong (catalog : Catalog) (packages : Packages) : Packages :=
  packages.filter fun package => catalog.compilers.any fun compiler => compiler.package == package

variable {catalog : Catalog} {packages : Packages}

theorem compilersAmong_eq_nil_iff : catalog.compilersAmong packages = [] ↔
    ∀ compiler ∈ catalog.compilers, compiler.package ∉ packages := by
  simp only [compilersAmong, List.filter_eq_nil_iff, List.any_eq_true, beq_iff_eq]
  constructor
  · intro hnone compiler hcompiler hpackage
    exact hnone compiler.package hpackage ⟨compiler, hcompiler, rfl⟩
  · rintro hnone package hpackage ⟨compiler, hcompiler, rfl⟩
    exact hnone compiler hcompiler hpackage

theorem compilersAmong_appended {compiler : Compiler} (hcompiler : compiler ∈ catalog.compilers) :
    catalog.compilersAmong (packages.appended compiler.package) =
      catalog.compilersAmong packages ++ [compiler.package] := by
  have hself : catalog.compilersAmong [compiler.package] = [compiler.package] := by
    simp only [compilersAmong, List.filter_eq_self, List.mem_singleton, List.any_eq_true,
      beq_iff_eq]
    rintro package rfl
    exact ⟨compiler, hcompiler, rfl⟩
  rw [compilersAmong, Packages.appended, List.filter_append]
  exact congrArg _ hself

/-- A recipe installs the package of its compiler last, after any packages of compilers that its
platform has among its own.  So a catalog has recipes with no compiler but their own exactly if
no platform has such packages. -/
theorem compilers_of_recipe (catalog : Catalog) :
    (∀ cell ∈ catalog.cells, ∀ renderer recipe, Recipe.ofCell renderer cell = .ok recipe →
      (Recipe.values cell).installDev = cell.platform.install.render recipe.dev ∧
      recipe.dev.getLast? = some cell.compiler.package ∧
      catalog.compilersAmong recipe.dev =
        catalog.compilersAmong cell.platform.dev ++ [cell.compiler.package]) ∧
    ((∀ cell ∈ catalog.cells, ∀ renderer recipe, Recipe.ofCell renderer cell = .ok recipe →
      catalog.compilersAmong recipe.dev = [cell.compiler.package]) ↔
        ∀ platform ∈ catalog.platforms, ∀ compiler ∈ catalog.compilers,
          compiler.package ∉ platform.dev) := by
  have hdev {cell : Cell} (hcell : cell ∈ catalog.cells) {renderer : Renderer} {recipe : Recipe}
      (hrecipe : Recipe.ofCell renderer cell = .ok recipe) :
      catalog.compilersAmong recipe.dev =
        catalog.compilersAmong cell.platform.dev ++ [cell.compiler.package] := by
    rw [Recipe.dev_of_ofCell hrecipe]
    exact compilersAmong_appended (mem_cellsOf.1 hcell).2
  refine ⟨fun cell hcell renderer recipe hrecipe => ?_, fun hown platform hplatform => ?_,
    fun hnone cell hcell renderer recipe hrecipe => ?_⟩
  · refine ⟨?_, ?_, hdev hcell hrecipe⟩
    · rw [Recipe.dev_of_ofCell hrecipe]
      rfl
    · rw [Recipe.dev_of_ofCell hrecipe, Packages.appended, List.getLast?_concat]
  · intro compiler hcompiler
    have hcell : (⟨platform, compiler⟩ : Cell) ∈ catalog.cells :=
      mem_cellsOf.2 ⟨hplatform, hcompiler⟩
    have hrecipe := Recipe.ofCell_builtin ⟨platform, compiler⟩
    have hsame := (hdev hcell hrecipe).symm.trans (hown _ hcell _ _ hrecipe)
    exact compilersAmong_eq_nil_iff.1 (by simpa using hsame) compiler hcompiler
  · rw [hdev hcell hrecipe, compilersAmong_eq_nil_iff.2 (hnone _ (mem_cellsOf.1 hcell).1),
      List.nil_append]

theorem compilers_of_recipe_apt :
    (installing .apt ["make"]).compilersAmong ["make", "g++"] = ["g++"] := by
  have hnone : ∀ platform ∈ (installing .apt ["make"]).platforms,
      ∀ compiler ∈ (installing .apt ["make"]).compilers,
        compiler.package ∉ platform.dev := by decide +kernel
  exact (compilers_of_recipe _).2.2 hnone _ List.mem_cons_self _ _ (Recipe.ofCell_builtin _)

/-- A platform can bring a compiler, which is then installed twice in one recipe and beside the
other compiler in the other one. -/
theorem compilers_of_dev : (installing .apt ["make", "g++"]).Accepted ∧
    (installing .apt ["make", "g++"]).cells.map (fun cell => cell.compiler.package) =
      ["g++", "clang"] ∧
    (installing .apt ["make", "g++"]).cells.map (fun cell =>
        (Recipe.ofCell Recipe.builtin cell).map fun recipe =>
          (installing .apt ["make", "g++"]).compilersAmong recipe.dev) =
      [.ok ["g++", "g++"], .ok ["g++", "clang"]] := by
  refine ⟨by decide +kernel, by decide +kernel, ?_⟩
  simp only [Recipe.ofCell_builtin, Except.map]
  decide +kernel

end Catalog

end RecipeMatrix
