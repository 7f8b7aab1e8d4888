import RecipeMatrix.Proofs.Generation.Outcome

/-!
# Successful runs

What a run without failures leaves at the paths of its recipes, whatever their names are.

A recipe goes through a file with its temporary name, and nothing keeps that name from being the
output name of another recipe.  Then the move takes the other's file away.

* Recipes in their order.  `Recipe.leaves` follows one name through recipes that are written, and
  `foldl_leaves_eq_iff` says when a recipe is left under it.
* Plans.  `run_mapM_carryOut_of_ok` is what a run of stale plans without a failure leaves.
* Runs.  `Recipe.Takes` says which recipes take another's file away, and `stands_iff_of_isSuccess`
  that all others stand where they belong.
-/

namespace RecipeMatrix

open Files RecipeMatrix.Path

/-! ## Recipes in their order -/

/-- What a recipe that is written leaves under a name. -/
def Recipe.leaves (name : String) (entry : Option Entry) (recipe : Recipe) : Option Entry :=
  if recipe.outputName = name then some (.file recipe.text.toUTF8)
  else if temporaryName recipe.outputName = name then none
  else entry

section

variable {name : String} {recipes : List Recipe} {recipe : Recipe}

/-- Under a name of no recipe nothing changes, unless it is a temporary name. -/
theorem foldl_leaves_of_ne (hne : ∀ other ∈ recipes, other.outputName ≠ name)
    (entry : Option Entry) :
    recipes.foldl (Recipe.leaves name) entry =
      if ∃ writer ∈ recipes, temporaryName writer.outputName = name then none else entry := by
  induction recipes generalizing entry with
  | nil => simp
  | cons recipe recipes ih =>
    have hrest := ih fun other hother => hne other (List.mem_cons_of_mem recipe hother)
    rw [List.foldl_cons, hrest, Recipe.leaves, if_neg (hne recipe List.mem_cons_self)]
    by_cases htemporary : temporaryName recipe.outputName = name
    · simp [htemporary]
    · simp [htemporary]

/-- What is written under a name stays, unless it is the temporary name of a later recipe. -/
theorem foldl_leaves_append {earlier later : List Recipe}
    (hne : ∀ other ∈ later, other.outputName ≠ recipe.outputName) (entry : Option Entry) :
    (earlier ++ recipe :: later).foldl (Recipe.leaves recipe.outputName) entry =
      if ∃ writer ∈ later, temporaryName writer.outputName = recipe.outputName then none
      else some (.file recipe.text.toUTF8) := by
  rw [List.foldl_append, List.foldl_cons, foldl_leaves_of_ne hne, Recipe.leaves, if_pos rfl]

/-- An item that does not come before a place in a list comes after it. -/
theorem mem_of_pair_sublist {α : Type} {first second : α} {earlier later : List α}
    (hnew : first ∉ earlier) (hsublist : [first, second].Sublist (earlier ++ first :: later)) :
    second ∈ later := by
  induction earlier with
  | nil =>
    cases hsublist with
    | cons _ hsublist => exact hsublist.subset (List.mem_cons_of_mem _ List.mem_cons_self)
    | cons_cons _ hsublist => exact hsublist.subset List.mem_cons_self
  | cons item earlier ih =>
    cases hsublist with
    | cons _ hsublist => exact ih (fun hmem => hnew (List.mem_cons_of_mem item hmem)) hsublist
    | cons_cons _ hsublist => exact absurd List.mem_cons_self hnew

theorem name_ne_of_nodup {earlier later : List Recipe}
    (hnodup : ((earlier ++ recipe :: later).map Recipe.outputName).Nodup) :
    recipe ∉ earlier ∧ ∀ other ∈ later, other.outputName ≠ recipe.outputName := by
  rw [List.map_append, List.map_cons, List.nodup_append, List.nodup_cons] at hnodup
  obtain ⟨-, ⟨hlater, -⟩, hdisjoint⟩ := hnodup
  constructor
  · intro hmem
    exact hdisjoint _ (List.mem_map_of_mem hmem) _ List.mem_cons_self rfl
  · intro other hother hsame
    exact hlater (hsame ▸ List.mem_map_of_mem hother)

/-- The stale recipes after a stale one, in the order of a run. -/
theorem mem_later_iff {earlier later : List Recipe}
    {stale : Recipe → Bool} (hnodup : (recipes.map Recipe.outputName).Nodup)
    (hsplit : recipes.filter stale = earlier ++ recipe :: later) {writer : Recipe} :
    writer ∈ later ↔ stale writer = true ∧ [recipe, writer].Sublist recipes := by
  have hfiltered : ∀ other ∈ earlier ++ recipe :: later, stale other = true := by
    rw [← hsplit]
    exact fun other hother => (List.mem_filter.1 hother).2
  have hsublist : (earlier ++ recipe :: later).Sublist recipes := hsplit ▸ List.filter_sublist
  have hstale := hfiltered recipe (List.mem_append_right _ List.mem_cons_self)
  constructor
  · intro hwriter
    have hpair : [recipe, writer].Sublist (recipe :: later) :=
      (List.singleton_sublist.2 hwriter).cons_cons recipe
    exact ⟨hfiltered writer (List.mem_append_right _ (List.mem_cons_of_mem _ hwriter)),
      (hpair.trans (List.sublist_append_right _ _)).trans hsublist⟩
  · rintro ⟨hwriter, hpair⟩
    have hboth := hpair.filter stale
    rw [hsplit, List.filter_cons_of_pos hstale, List.filter_cons_of_pos hwriter] at hboth
    have hnew := (name_ne_of_nodup (hnodup.sublist (hsublist.map Recipe.outputName))).1
    exact mem_of_pair_sublist hnew hboth

/-- What is left under the name of a recipe, once the stale recipes are written in turn. -/
theorem foldl_leaves_eq_iff {stale : Recipe → Bool}
    (hnodup : (recipes.map Recipe.outputName).Nodup) (hrecipe : recipe ∈ recipes)
    {entry : Option Entry}
    (hentry : stale recipe = false → entry = some (.file recipe.text.toUTF8)) :
    (recipes.filter stale).foldl (Recipe.leaves recipe.outputName) entry =
        some (.file recipe.text.toUTF8) ↔
      ∀ writer ∈ recipes, temporaryName writer.outputName = recipe.outputName →
        stale writer = true → ¬(stale recipe = false ∨ [recipe, writer].Sublist recipes) := by
  cases hstale : stale recipe with
  | false =>
    have hne : ∀ other ∈ recipes.filter stale, other.outputName ≠ recipe.outputName := by
      intro other hother hsame
      obtain ⟨hmem, hotherStale⟩ := List.mem_filter.1 hother
      rw [List.inj_on_of_nodup_map hnodup hmem hrecipe hsame, hstale] at hotherStale
      cases hotherStale
    rw [foldl_leaves_of_ne hne, hentry hstale, ite_eq_right_iff]
    constructor
    · intro hnone writer hwriter hname hwriterStale _
      cases hnone ⟨writer, List.mem_filter.2 ⟨hwriter, hwriterStale⟩, hname⟩
    · rintro hall ⟨writer, hwriter, hname⟩
      obtain ⟨hmem, hwriterStale⟩ := List.mem_filter.1 hwriter
      exact absurd (.inl rfl) (hall writer hmem hname hwriterStale)
  | true =>
    obtain ⟨earlier, later, hsplit⟩ := List.append_of_mem (List.mem_filter.2 ⟨hrecipe, hstale⟩)
    have hsublist : (earlier ++ recipe :: later).Sublist recipes := hsplit ▸ List.filter_sublist
    have hne := (name_ne_of_nodup (hnodup.sublist (hsublist.map Recipe.outputName))).2
    rw [hsplit, foldl_leaves_append hne, ite_eq_right_iff]
    constructor
    · rintro hnone writer - hname hwriterStale (hfalse | hpair)
      · cases hfalse
      · cases hnone ⟨writer, (mem_later_iff hnodup hsplit).2 ⟨hwriterStale, hpair⟩, hname⟩
    · rintro hall ⟨writer, hwriter, hname⟩
      obtain ⟨hwriterStale, hpair⟩ := (mem_later_iff hnodup hsplit).1 hwriter
      exact absurd (.inr hpair)
        (hall writer (hpair.subset (List.mem_cons_of_mem _ List.mem_cons_self)) hname hwriterStale)

end

/-! ## Plans -/

namespace Planned

variable {output : Path} {directory : Place} {start reached : Workspace} {planned : List Planned}

/-- Only the stale plans of a run count. -/
theorem run_mapM_carryOut_stale (planned : List Planned) (workspace : Workspace) :
    (((planned.filter fun item => item.status.isStale).mapM (carryOut false)).run workspace).2 =
        ((planned.mapM (carryOut false)).run workspace).2 ∧
      ∀ outcome ∈ (((planned.filter fun item => item.status.isStale).mapM
          (carryOut false)).run workspace).1,
        outcome ∈ ((planned.mapM (carryOut false)).run workspace).1 := by
  induction planned generalizing workspace with
  | nil => exact ⟨rfl, fun _ houtcome => houtcome⟩
  | cons item planned ih =>
    rw [Program.run_mapM_cons]
    cases hstale : item.status.isStale with
    | false =>
      rw [List.filter_cons_of_neg (by simp [hstale]), run_carryOut_of_not_isStale hstale]
      obtain ⟨hsame, houtcomes⟩ := ih workspace
      exact ⟨hsame, fun outcome houtcome => List.mem_cons_of_mem _ (houtcomes outcome houtcome)⟩
    | true =>
      have hfilter : (item :: planned).filter (fun item => item.status.isStale) =
          item :: planned.filter fun item => item.status.isStale :=
        List.filter_cons_of_pos hstale
      rw [hfilter, Program.run_mapM_cons]
      obtain ⟨hsame, houtcomes⟩ := ih ((carryOut false item).run workspace).2
      refine ⟨hsame, fun outcome houtcome => ?_⟩
      rcases List.mem_cons.1 houtcome with rfl | houtcome
      · exact List.mem_cons_self
      · exact List.mem_cons_of_mem _ (houtcomes outcome houtcome)

/-- A stale plan that does not fail has replaced its file. -/
theorem outcome_of_not_error {item : Planned} (hitem : item.IsIn output)
    (hstale : item.status.isStale = true)
    (hsuccess : ∀ failure, ((carryOut false item).run reached).1 ≠ .error failure) :
    (replaceContent (output.join ⟨item.recipe.outputName⟩) item.recipe.text.toUTF8).outcome
        reached = (.ok (), ((carryOut false item).run reached).2) := by
  rw [run_carryOut_of_isStale hstale, hitem.2] at hsuccess ⊢
  cases hanswer : ((replaceContent (output.join ⟨item.recipe.outputName⟩)
      item.recipe.text.toUTF8).outcome reached).1 with
  | ok =>
    rw [← hanswer]
  | error failure =>
    simp only [hanswer] at hsuccess
    exact absurd rfl (hsuccess _)

/-- A replacement that succeeds leaves what its recipe leaves. -/
theorem replaceContent_of_ok {recipe : Recipe} (hprepares : Prepares output directory start)
    (hok : ((prepare output).outcome start).1 = .ok ())
    (hkeeps : KeepsDirectories directory (prepared output start) reached)
    (hname : IsName recipe.outputName) {after : Workspace}
    (houtcome : (replaceContent (output.join ⟨recipe.outputName⟩) recipe.text.toUTF8).outcome
      reached = (.ok (), after)) :
    (verdict output directory start recipe.outputName).writes = true ∧
      KeepsDirectories directory (prepared output start) after ∧
      ∀ name, after.files.get? (name :: directory) =
        recipe.leaves name (reached.files.get? (name :: directory)) := by
  have hfits := (fits_verdict output directory start).mono hkeeps
  rw [outcome_replaceContent_of_keepsDirectories hprepares hok hkeeps hname] at houtcome
  obtain ⟨hanswer, rfl⟩ := Prod.mk.inj houtcome
  have hwrites := Verdict.writes_of_answer hanswer
  refine ⟨hwrites, hkeeps.trans (keepsDirectories_after hfits _ _), fun name => ?_⟩
  rw [get?_after hfits, Recipe.leaves]
  simp [hwrites, Verdict.clears_of_writes hwrites]

/-- Stale plans that do not fail leave what their recipes leave, one after another. -/
theorem run_mapM_carryOut_of_ok (hprepares : Prepares output directory start)
    (hok : ((prepare output).outcome start).1 = .ok ())
    (hkeeps : KeepsDirectories directory (prepared output start) reached)
    (hplanned : ∀ item ∈ planned, item.IsIn output ∧ item.status.isStale = true)
    (hsuccess : ∀ failure, .error failure ∉ ((planned.mapM (carryOut false)).run reached).1) :
    (∀ item ∈ planned, (verdict output directory start item.recipe.outputName).writes = true) ∧
      KeepsDirectories directory (prepared output start)
        ((planned.mapM (carryOut false)).run reached).2 ∧
      ∀ name, ((planned.mapM (carryOut false)).run reached).2.files.get? (name :: directory) =
        (planned.map Planned.recipe).foldl (Recipe.leaves name)
          (reached.files.get? (name :: directory)) := by
  induction planned generalizing reached with
  | nil => exact ⟨nofun, hkeeps, fun _ => rfl⟩
  | cons item planned ih =>
    obtain ⟨hitem, hstale⟩ := hplanned item List.mem_cons_self
    rw [Program.run_mapM_cons] at hsuccess ⊢
    have houtcome := outcome_of_not_error hitem hstale fun failure hfailure =>
      hsuccess failure (List.mem_cons.2 (.inl hfailure.symm))
    obtain ⟨hwrites, hkept, hget⟩ := replaceContent_of_ok hprepares hok hkeeps hitem.1 houtcome
    obtain ⟨hall, hfinal, hentries⟩ := ih hkept
      (fun other hother => hplanned other (List.mem_cons_of_mem item hother))
      (fun failure hfailure => hsuccess failure (List.mem_cons_of_mem _ hfailure))
    refine ⟨?_, hfinal, fun name => ?_⟩
    · intro other hother
      rcases List.mem_cons.1 hother with rfl | hother
      · exact hwrites
      · exact hall other hother
    · rw [hentries, hget, List.map_cons, List.foldl_cons]

/-- A run of stale plans starts by making the directory. -/
theorem prepare_of_not_error (hne : planned ≠ [])
    (hplanned : ∀ item ∈ planned, item.IsIn output ∧ item.status.isStale = true)
    (hsuccess : ∀ failure, .error failure ∉ ((planned.mapM (carryOut false)).run start).1) :
    ((prepare output).outcome start).1 = .ok () ∧
      (planned.mapM (carryOut false)).run start =
        (planned.mapM (carryOut false)).run (prepared output start) := by
  obtain ⟨item, planned, rfl⟩ := List.exists_cons_of_ne_nil hne
  obtain ⟨⟨hname, hpath⟩, hstale⟩ := hplanned item List.mem_cons_self
  rw [Program.run_mapM_cons] at hsuccess
  have houtcome := outcome_of_not_error ⟨hname, hpath⟩ hstale fun failure hfailure =>
    hsuccess failure (List.mem_cons.2 (.inl hfailure.symm))
  cases hanswer : ((prepare output).outcome start).1 with
  | error failure =>
    rw [replaceContent, Attempt.outcome_bind, requireParent_join hname, outcome_prepare_eq,
      hanswer] at houtcome
    cases (Prod.mk.inj houtcome).1
  | ok =>
    obtain ⟨directory, hprepares⟩ := exists_prepares_of_ok hanswer
    have hfirst : (carryOut false item).run start =
        (carryOut false item).run (prepared output start) := by
      rw [run_carryOut_of_isStale hstale, run_carryOut_of_isStale hstale, hpath,
        outcome_replaceContent_prepared hprepares hname]
    exact ⟨rfl, by rw [Program.run_mapM_cons, Program.run_mapM_cons, hfirst]⟩

end Planned

/-! ## Runs -/

/-- A recipe takes the file of another away: its temporary name is the name of the other, it is to
be written, and the other one is not written after it. -/
structure Recipe.Takes (writer recipe : Recipe) (output : Path) (recipes : List Recipe)
    (before : Workspace) : Prop where
  name_eq : temporaryName writer.outputName = recipe.outputName
  stale : ¬writer.Stands output before
  last : recipe.Stands output before ∨ [recipe, writer].Sublist recipes

section

variable {output : Path} {recipes : List Recipe} {recipe : Recipe} {before after : Workspace}

/-- A recipe that stands before the directory is made stands in the directory that is made. -/
theorem get?_of_stands {directory : Place} (hprepares : Prepares output directory before)
    (hok : ((prepare output).outcome before).1 = .ok ()) (hname : IsName recipe.outputName)
    (hstands : recipe.Stands output before) :
    Workspace.Spells output recipe.outputName ∧
      (prepared output before).files.get? (recipe.outputName :: directory) =
        some (.file recipe.text.toUTF8) := by
  obtain ⟨place, hreach, hspells, hfile⟩ :=
    Workspace.exists_reach_of_found? hname (stands_iff.1 hstands)
  have hsame := Workspace.reach_of_directories (prepared_current output before)
    (fun _ => (prepared_adds output before).directory) hreach
  rw [hprepares.reach_eq hok] at hsame
  rw [← Except.ok.inj hsame] at hfile
  exact ⟨hspells, (prepared_adds output before).file_iff.2 hfile⟩

/-- What a run of plans without a failure leaves at the path of a recipe: what the stale recipes
leave under its name, one after another. -/
theorem exists_found?_of_run (hname : ∀ other ∈ recipes, IsName other.outputName)
    (hsuccess : ∀ failure, .error failure ∉ (((recipes.map (Planned.inWorkspace output
      before)).mapM (Planned.carryOut false)).run before).1)
    (hrecipe : recipe ∈ recipes) :
    ∃ entry,
      (recipe.isStale output before = false → entry = some (.file recipe.text.toUTF8)) ∧
        (((recipes.map (Planned.inWorkspace output before)).mapM
            (Planned.carryOut false)).run before).2.found? (output.join ⟨recipe.outputName⟩) =
          (recipes.filter (Recipe.isStale output before)).foldl
            (Recipe.leaves recipe.outputName) entry := by
  obtain ⟨hsame, houtcomes⟩ :=
    Planned.run_mapM_carryOut_stale (recipes.map (Planned.inWorkspace output before)) before
  rw [Planned.filter_inWorkspace] at hsame houtcomes
  rw [← hsame]
  have hnoError := fun failure hfailure => hsuccess failure (houtcomes _ hfailure)
  have hplanned : ∀ item ∈ (recipes.filter (Recipe.isStale output before)).map
      (Planned.inWorkspace output before), item.IsIn output ∧ item.status.isStale = true := by
    intro item hitem
    obtain ⟨other, hother, rfl⟩ := List.mem_map.1 hitem
    obtain ⟨hmem, hstale⟩ := List.mem_filter.1 hother
    exact ⟨⟨hname other hmem, rfl⟩, hstale⟩
  by_cases hnone : recipes.filter (Recipe.isStale output before) = []
  · -- Nothing is written, and nothing was missing.
    rw [hnone]
    exact ⟨before.found? (output.join ⟨recipe.outputName⟩),
      fun hstale => stands_iff.1 (isStale_eq_false_iff.1 hstale), rfl⟩
  · obtain ⟨hok, hstart⟩ := Planned.prepare_of_not_error
      (fun h => hnone (List.map_eq_nil_iff.1 h)) hplanned hnoError
    obtain ⟨directory, hprepares⟩ := exists_prepares_of_ok hok
    rw [hstart] at hnoError ⊢
    obtain ⟨hwrites, hkeeps, hget⟩ := Planned.run_mapM_carryOut_of_ok hprepares hok
      (.refl directory _) hplanned hnoError
    have hreach := Workspace.reach_of_directories hkeeps.current_eq
      (fun place => (hkeeps.directory_iff place).2) (hprepares.reach_eq hok)
    have hspells : Workspace.Spells output recipe.outputName := by
      cases hstale : recipe.isStale output before with
      | true =>
        exact (spells_of_writes (hwrites _ (List.mem_map_of_mem
          (List.mem_filter.2 ⟨hrecipe, hstale⟩)))).2
      | false =>
        exact (get?_of_stands hprepares hok (hname recipe hrecipe)
          (isStale_eq_false_iff.1 hstale)).1
    refine ⟨(prepared output before).files.get? (recipe.outputName :: directory),
      fun hstale => (get?_of_stands hprepares hok (hname recipe hrecipe)
        (isStale_eq_false_iff.1 hstale)).2, ?_⟩
    rw [Workspace.found?_join (hname recipe hrecipe) hreach, if_pos hspells, hget, List.map_map]
    congr 1
    exact List.map_id _

end

namespace Generator

/-- After a run without a failure a recipe stands at its path, unless another one has taken its
file away. -/
theorem stands_iff_of_isSuccess {generator : Generator} {selection : Selection}
    {recipes : List Recipe} {output : Path} {before after : Workspace} {report : Report}
    (haccepted : generator.catalog.Accepted)
    (hrecipes : generator.recipes selection = .ok recipes)
    (houtcome : (generator.generate selection output false).outcome before = (.ok report, after))
    (hsuccess : report.isSuccess = true) :
    ∀ recipe ∈ recipes, recipe.Stands output after ↔
      ∀ writer ∈ recipes, ¬writer.Takes recipe output recipes before := by
  intro recipe hrecipe
  rw [outcome_generate hrecipes] at houtcome
  obtain ⟨hreport, rfl⟩ := Prod.mk.inj houtcome
  rw [← Except.ok.inj hreport, Report.isSuccess_ofOutcomes_iff] at hsuccess
  obtain ⟨entry, hentry, hafter⟩ :=
    exists_found?_of_run (isName_of_mem_recipes haccepted hrecipes) hsuccess hrecipe
  rw [stands_iff, hafter,
    foldl_leaves_eq_iff (nodup_outputNames haccepted hrecipes) hrecipe hentry]
  have htakes (writer : Recipe) : (temporaryName writer.outputName = recipe.outputName →
      writer.isStale output before = true →
        ¬(recipe.isStale output before = false ∨ [recipe, writer].Sublist recipes)) ↔
      ¬writer.Takes recipe output recipes before := by
    rw [isStale_eq_false_iff, isStale_iff]
    constructor
    · intro hnone htakes
      exact hnone htakes.name_eq htakes.stale htakes.last
    · intro hnone hname hstale hlast
      exact hnone ⟨hname, hstale, hlast⟩
  exact forall₂_congr fun writer _ => htakes writer

theorem stands_iff_of_isSuccess_small :
    (Recipe.small "gcc" "g++").Stands ⟨"out"⟩ (((small "gcc" "clang").generate .all ⟨"out"⟩
        false).outcome (Workspace.fresh "work")).2 ↔
      ∀ writer ∈ [Recipe.small "gcc" "g++", Recipe.small "clang" "clang"],
        ¬writer.Takes (Recipe.small "gcc" "g++") ⟨"out"⟩
          [Recipe.small "gcc" "g++", Recipe.small "clang" "clang"] (Workspace.fresh "work") := by
  have hreport : (((small "gcc" "clang").generate .all ⟨"out"⟩ false).outcome
      (Workspace.fresh "work")).1 =
      .ok ⟨[⟨"debian", "gcc", ⟨"out/Dockerfile.debian-gcc"⟩, .created⟩,
        ⟨"debian", "clang", ⟨"out/Dockerfile.debian-clang"⟩, .created⟩], [], false⟩ := by
    decide +kernel
  exact stands_iff_of_isSuccess Catalog.accepted_small recipes_small (Prod.ext hreport rfl) rfl _
    List.mem_cons_self

/-- A generator with the built-in template, in which one output name is the temporary name of the
other. -/
def overlapping : Generator := ⟨Catalog.small "gcc.tmp" "gcc", Recipe.builtin⟩

theorem accepted_overlapping : overlapping.catalog.Accepted :=
  ⟨[⟨"debian", "debian:12", "apt-get install -y \x7bdeps\x7d", ["make"], []⟩],
    [⟨"gcc.tmp", "g++"⟩, ⟨"gcc", "clang"⟩], by decide +kernel⟩

theorem ofCatalog_overlapping : ofCatalog overlapping.catalog = .ok overlapping :=
  ofCatalog_eq overlapping.catalog

theorem exists_recipes_overlapping : ∃ recipes, overlapping.recipes .all = .ok recipes ∧
    recipes.map Recipe.outputName = ["Dockerfile.debian-gcc.tmp", "Dockerfile.debian-gcc"] := by
  have hcells : Selection.all.cells overlapping.catalog = .ok overlapping.catalog.cells := by
    decide +kernel
  refine ⟨_, Recipe.ofSelection_builtin hcells, ?_⟩
  rw [List.map_map]
  decide +kernel

/-- A run may succeed and leave a recipe out: the recipe of `gcc.tmp` is written first, and then
the one of `gcc` goes through its file. -/
theorem not_forall_stands :
    ¬∀ (generator : Generator) (selection : Selection) (recipes : List Recipe) (output : Path)
        (before after : Workspace) (report : Report),
      generator.catalog.Accepted → ofCatalog generator.catalog = .ok generator →
      generator.recipes selection = .ok recipes →
      (generator.generate selection output false).outcome before = (.ok report, after) →
      report.isSuccess = true → ∀ recipe ∈ recipes, recipe.Stands output after := by
  intro hall
  obtain ⟨recipes, hrecipes, hnames⟩ := exists_recipes_overlapping
  have hreport : ((overlapping.generate .all ⟨"."⟩ false).outcome (Workspace.fresh "work")).1 =
      .ok ⟨[⟨"debian", "gcc.tmp", ⟨"./Dockerfile.debian-gcc.tmp"⟩, .created⟩,
        ⟨"debian", "gcc", ⟨"./Dockerfile.debian-gcc"⟩, .created⟩], [], false⟩ := by
    decide +kernel
  have hgone : ((overlapping.generate .all ⟨"."⟩ false).outcome (Workspace.fresh "work")).2.isFile
      (Path.join ⟨"."⟩ ⟨"Dockerfile.debian-gcc.tmp"⟩) = false := by
    decide +kernel
  generalize hrun : (overlapping.generate .all ⟨"."⟩ false).outcome (Workspace.fresh "work") =
    reached at hreport hgone
  obtain ⟨answer, after⟩ := reached
  cases hreport
  have hstands := hall overlapping .all recipes ⟨"."⟩ _ after _ accepted_overlapping
    ofCatalog_overlapping hrecipes hrun rfl
  have hmem : "Dockerfile.debian-gcc.tmp" ∈ recipes.map Recipe.outputName :=
    hnames ▸ List.mem_cons_self
  obtain ⟨recipe, hrecipe, hname⟩ := List.mem_map.1 hmem
  have hfile := Workspace.isFile_iff.2 ⟨_, stands_iff.1 (hstands recipe hrecipe)⟩
  rw [hname, hgone] at hfile
  cases hfile

end Generator

end RecipeMatrix
