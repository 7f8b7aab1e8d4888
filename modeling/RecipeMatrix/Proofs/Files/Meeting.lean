import RecipeMatrix.Proofs.Catalog.Acceptance
import RecipeMatrix.Proofs.Files.Deliveries
import RecipeMatrix.Proofs.Files.Spelling

/-!
# Paths that meet

Two paths meet if each leads to the same directory in its own way and both go on from there by the
same steps.  The directory has to be there; what follows may still be missing.  Such paths stand
for one place, now and after any number of directories were made, and a replacement does the same
by either of them, as long as neither is too long to be used where the other is not.

There are four groups.

* Directories stay.  `Retains` says that no directory is lost, and so it is along every run
  (`retains_run`).
* Meeting.  `Meet` is kept by more directories, by joining and by going outward, and where two
  paths meet they have one target (`Meet.target_eq`).
* Directories.  The recursion outwards takes the same course along both paths until it comes to the
  directory where they meet (`run_makeWithOuter_congr`).
* Replacements.  By paths that meet, a replacement leaves the same workspace, and it fails by both
  of them or by neither (`endAlike_replaceContent`).
-/

namespace RecipeMatrix

open RecipeMatrix.Path

/-! ## Directories stay -/

namespace FileSystem

variable {files : FileSystem} {place : Place}

theorem directory_put {name : String} {directory : Place} {entry : Entry}
    (hplace : files.get? place = some .directory) :
    (files.put name directory entry).get? place = some .directory := by
  by_cases hadmits : files.Admits name directory entry
  · rw [get?_put hadmits]
    split
    next hsame =>
      subst hsame
      rw [hadmits.2 hplace]
    next => exact hplace
  · rwa [put, dif_neg hadmits]

theorem directory_erase {other : Place} (hplace : files.get? place = some .directory) :
    (files.erase other).get? place = some .directory := by
  by_cases hother : files.get? other = some .directory
  · rwa [erase, dif_pos hother]
  · have hne : other ≠ place := by
      rintro rfl
      exact hother hplace
    rw [get?_erase hother, if_neg hne, hplace]

end FileSystem

namespace Workspace

/-- The same current directory, and no directory less. -/
structure Retains (first second : Workspace) : Prop where
  current_eq : second.current = first.current
  directory : ∀ place, first.files.get? place = some .directory →
    second.files.get? place = some .directory

theorem Retains.refl (workspace : Workspace) : Retains workspace workspace :=
  ⟨rfl, fun _ => id⟩

theorem Retains.trans {first second third : Workspace} (hfirst : Retains first second)
    (hsecond : Retains second third) : Retains first third :=
  ⟨hsecond.current_eq.trans hfirst.current_eq,
    fun place hplace => hsecond.directory place (hfirst.directory place hplace)⟩

/-- No change takes a directory away. -/
theorem directory_of_apply {workspace : Workspace} {step : Change} {files : FileSystem}
    (happly : workspace.apply step = .ok files) {place : Place}
    (hplace : workspace.files.get? place = some .directory) :
    files.get? place = some .directory := by
  cases step with
  | makeDirectory path =>
    simp only [apply, bind_eq_ok_iff] at happly
    obtain ⟨target, -, happly⟩ := happly
    split at happly
    next => cases happly
    next =>
      split at happly
      next => cases happly
      next => exact Except.ok.inj happly ▸ FileSystem.directory_put hplace
  | createFile path =>
    simp only [apply, bind_eq_ok_iff] at happly
    obtain ⟨target, -, happly⟩ := happly
    split at happly
    next => cases happly
    next =>
      split at happly
      next => cases happly
      next => exact Except.ok.inj happly ▸ FileSystem.directory_put hplace
  | writeFile path content =>
    simp only [apply, bind_eq_ok_iff] at happly
    obtain ⟨found, -, happly⟩ := happly
    split at happly
    next => exact Except.ok.inj happly ▸ FileSystem.directory_put hplace
    next => cases happly
  | moveFile source destination =>
    simp only [apply, bind_eq_ok_iff] at happly
    obtain ⟨fromTarget, -, toTarget, -, happly⟩ := happly
    split at happly
    next =>
      split at happly
      next => cases happly
      next => cases happly
      next =>
        split at happly
        next => cases happly
        next =>
          split at happly
          next => cases happly
          next =>
            exact Except.ok.inj happly ▸
              FileSystem.directory_put (FileSystem.directory_erase hplace)
    next => cases happly
  | removeFile path =>
    simp only [apply, bind_eq_ok_iff] at happly
    obtain ⟨found, -, happly⟩ := happly
    split at happly
    next => cases happly
    next => exact Except.ok.inj happly ▸ FileSystem.directory_erase hplace

theorem retains_perform (workspace : Workspace) (step : Change) :
    Retains workspace (workspace.perform step).2 := by
  cases happly : workspace.apply step with
  | error refusal =>
    rw [perform_of_error happly]
    exact .refl workspace
  | ok files =>
    rw [perform_of_ok happly]
    exact ⟨rfl, fun _ => directory_of_apply happly⟩

/-- So a path leads wherever it led before, whatever was done in between. -/
theorem retains_run {α : Type} (program : Program α) (workspace : Workspace) :
    Retains workspace (program.run workspace).2 := by
  induction program generalizing workspace with
  | done result => exact .refl workspace
  | ask question next ih => exact ih _ _
  | change step next ih => exact (retains_perform workspace step).trans (ih _ _)

/-! ## Meeting -/

/-- A path that leads to a directory, and goes on from there by some steps. -/
def Leads (workspace : Workspace) (directory : Place) (rest : List (List Char))
    (path : Path) : Prop :=
  ∃ way, path.route = way ++ rest ∧
    walk workspace.files (workspace.start path) way = .ok directory ∧ IsClear way

namespace Leads

variable {workspace : Workspace} {directory : Place} {rest : List (List Char)} {path : Path}

theorem self (workspace : Workspace) (path : Path) :
    Leads workspace (workspace.start path) path.route path :=
  ⟨[], rfl, rfl, nofun⟩

theorem mono {reached : Workspace} (hretains : Retains workspace reached)
    (hleads : Leads workspace directory rest path) : Leads reached directory rest path := by
  obtain ⟨way, hroute, hwalk, hclear⟩ := hleads
  refine ⟨way, hroute, ?_, hclear⟩
  have hstart : reached.start path = workspace.start path := by
    rw [start, start, hretains.current_eq]
  rw [hstart]
  exact walk_of_directories hretains.directory hwalk

theorem reach_eq (hleads : Leads workspace directory rest path) :
    workspace.reach path = walk workspace.files directory rest := by
  obtain ⟨way, hroute, hwalk, -⟩ := hleads
  rw [reach, hroute, walk_append, hwalk]
  rfl

/-- Only the steps that are left can hold a null character. -/
theorem isClear_iff (hleads : Leads workspace directory rest path) :
    IsClear path.route ↔ IsClear rest := by
  obtain ⟨way, hroute, -, hclear⟩ := hleads
  rw [hroute, isClear_append, and_iff_right hclear]

theorem join {inner : Path} (hrelative : inner.isAbsolute = false)
    (hleads : Leads workspace directory rest path) :
    Leads workspace directory (rest ++ inner.route) (path.join inner) := by
  obtain ⟨way, hroute, hwalk, hclear⟩ := hleads
  refine ⟨way, ?_, ?_, hclear⟩
  · rw [route_join_of_relative hrelative, hroute, List.append_assoc]
  · rwa [start, isAbsolute_join_of_relative hrelative]

/-- The way to a directory can be followed further. -/
theorem advance {steps : List (List Char)} {reached : Place}
    (hleads : Leads workspace directory (steps ++ rest) path)
    (hwalk : walk workspace.files directory steps = .ok reached) (hclear : IsClear steps) :
    Leads workspace reached rest path := by
  obtain ⟨way, hroute, hway, hwayClear⟩ := hleads
  refine ⟨way ++ steps, by rw [hroute, List.append_assoc], ?_, isClear_append.2 ⟨hwayClear, hclear⟩⟩
  rw [walk_append, hway]
  exact hwalk

theorem holder (hleads : Leads workspace directory rest path) :
    Leads workspace directory rest path.holder := by
  obtain ⟨way, hroute, hwalk, hclear⟩ := hleads
  refine ⟨way, by rw [route_holder, hroute], ?_, hclear⟩
  rwa [start, isAbsolute_holder]

theorem outward {nearest : Path} {part other : List Char}
    (hleads : Leads workspace directory (rest ++ [part]) path)
    (hroute : path.route = nearest.route ++ [other])
    (habsolute : path.isAbsolute = nearest.isAbsolute) :
    Leads workspace directory rest nearest := by
  obtain ⟨way, hpath, hwalk, hclear⟩ := hleads
  rw [hroute, ← List.append_assoc] at hpath
  refine ⟨way, (List.append_inj' hpath rfl).1, ?_, hclear⟩
  rwa [start, ← habsolute]

theorem route_ne_nil (hleads : Leads workspace directory rest path) (hrest : rest ≠ []) :
    path.route ≠ [] := by
  obtain ⟨way, hroute, -, -⟩ := hleads
  simp [hroute, hrest]

/-- The directory itself is there, unless nothing is left of the path to look it up by. -/
theorem isDirectory (hleads : Leads workspace directory [] path) (hshort : path.IsShort) :
    path.isEmpty = true ∨ workspace.isDirectory path = true := by
  cases hempty : path.isEmpty with
  | true => exact .inl rfl
  | false =>
    have hnull := contains_null_eq_false_iff.2 (hleads.isClear_iff.2 nofun)
    refine .inr (isDirectory_iff.2 ⟨?_, directory, hleads.reach_eq⟩)
    rw [refusal?_eq hempty, hnull, if_pos hshort]
    rfl

theorem target_eq {part : List Char} (hleads : Leads workspace directory (rest ++ [part]) path)
    (htrim : path.IsTrim) (hrefusal : path.refusal? = none) :
    workspace.target path = (walk workspace.files directory rest).bind fun reached =>
      stepIn workspace.files reached part := by
  obtain ⟨way, hroute, hwalk, -⟩ := hleads
  rw [← List.append_assoc] at hroute
  rw [target_of_isTrim htrim hrefusal hroute, walk_append, hwalk]
  rfl

end Leads

/-- Two paths that lead to one directory, and go on alike from there. -/
def Meet (workspace : Workspace) (rest : List (List Char)) (first second : Path) : Prop :=
  ∃ directory, Leads workspace directory rest first ∧ Leads workspace directory rest second

/-- Both paths are too long to be used, or neither is. -/
def LengthsAgree (first second : Path) : Prop := first.IsShort ↔ second.IsShort

instance (first second : Path) : Decidable (LengthsAgree first second) :=
  inferInstanceAs (Decidable (_ ↔ _))

namespace Meet

variable {workspace : Workspace} {rest : List (List Char)} {first second : Path}

theorem self (workspace : Workspace) (path : Path) : Meet workspace path.route path path :=
  ⟨_, .self workspace path, .self workspace path⟩

theorem mono {reached : Workspace} (hretains : Retains workspace reached)
    (hmeet : Meet workspace rest first second) : Meet reached rest first second := by
  obtain ⟨directory, hfirst, hsecond⟩ := hmeet
  exact ⟨directory, hfirst.mono hretains, hsecond.mono hretains⟩

theorem reach_eq (hmeet : Meet workspace rest first second) :
    workspace.reach first = workspace.reach second := by
  obtain ⟨directory, hfirst, hsecond⟩ := hmeet
  rw [hfirst.reach_eq, hsecond.reach_eq]

theorem join {inner : Path} (hrelative : inner.isAbsolute = false)
    (hmeet : Meet workspace rest first second) :
    Meet workspace (rest ++ inner.route) (first.join inner) (second.join inner) := by
  obtain ⟨directory, hfirst, hsecond⟩ := hmeet
  exact ⟨directory, hfirst.join hrelative, hsecond.join hrelative⟩

theorem holder (hmeet : Meet workspace rest first second) :
    Meet workspace rest first.holder second.holder := by
  obtain ⟨directory, hfirst, hsecond⟩ := hmeet
  exact ⟨directory, hfirst.holder, hsecond.holder⟩

/-- Paths with steps behind the directory are refused for the same reason. -/
theorem refusal?_eq (hmeet : Meet workspace rest first second) (hrest : rest ≠ [])
    (hlengths : LengthsAgree first second) : first.refusal? = second.refusal? := by
  obtain ⟨directory, hfirst, hsecond⟩ := hmeet
  exact refusal?_congr (isEmpty_eq_false_of_route (hfirst.route_ne_nil hrest))
    (isEmpty_eq_false_of_route (hsecond.route_ne_nil hrest))
    (hfirst.isClear_iff.trans hsecond.isClear_iff.symm) hlengths

theorem refusal?_join {name : String} (hmeet : Meet workspace rest first second)
    (hname : IsName name) (hlengths : LengthsAgree (first.join ⟨name⟩) (second.join ⟨name⟩)) :
    (first.join ⟨name⟩).refusal? = (second.join ⟨name⟩).refusal? :=
  (hmeet.join hname.not_isAbsolute).refusal?_eq (by simp [route_of_isName hname]) hlengths

/-- Paths with steps behind the directory stand for the same, if they end with their last step. -/
theorem target_eq (hmeet : Meet workspace rest first second) (hrest : rest ≠ [])
    (hlengths : LengthsAgree first second) (hfirst : first.IsTrim) (hsecond : second.IsTrim) :
    workspace.target first = workspace.target second := by
  have hsame := hmeet.refusal?_eq hrest hlengths
  obtain ⟨directory, hfirstLeads, hsecondLeads⟩ := hmeet
  cases hrefusal : first.refusal? with
  | some refusal =>
    rw [target_of_refusal hrefusal, target_of_refusal (hsame ▸ hrefusal)]
  | none =>
    obtain ⟨before, part, rfl⟩ := (List.eq_nil_or_concat' rest).resolve_left hrest
    rw [hfirstLeads.target_eq hfirst hrefusal, hsecondLeads.target_eq hsecond (hsame ▸ hrefusal)]

/-- The same entry is found under a name. -/
theorem found?_eq {name : String} (hmeet : Meet workspace rest first second)
    (hname : IsName name) (hlengths : LengthsAgree (first.join ⟨name⟩) (second.join ⟨name⟩)) :
    workspace.found? (first.join ⟨name⟩) = workspace.found? (second.join ⟨name⟩) := by
  have hreach := hmeet.reach_eq
  have hrefusal := hmeet.refusal?_join hname hlengths
  cases hsecond : workspace.reach second with
  | error refusal =>
    rw [found?_join_of_error hname (hreach.trans hsecond), found?_join_of_error hname hsecond]
  | ok directory =>
    have hspells : Spells first name ↔ Spells second name := by rw [Spells, Spells, hrefusal]
    rw [found?_join hname (hreach.trans hsecond), found?_join hname hsecond]
    exact if_congr hspells rfl rfl

/-- The same entry is found under a name, at the same place. -/
theorem find_eq {name : String}    (hmeet : Meet workspace [] first second) (hname : IsName name)
    (hlengths : LengthsAgree (first.join ⟨name⟩) (second.join ⟨name⟩)) :
    workspace.find (first.join ⟨name⟩) = workspace.find (second.join ⟨name⟩) := by
  have hrefusal := hmeet.refusal?_join hname hlengths
  obtain ⟨directory, hfirst, hsecond⟩ := hmeet
  rw [find_of_target, find_of_target, Files.target_eq_of_reach hname hfirst.reach_eq,
    Files.target_eq_of_reach hname hsecond.reach_eq, Files.lookupRefusal?, Files.lookupRefusal?,
    hrefusal]

end Meet

end Workspace

namespace Files

open Workspace Program

variable {workspace : Workspace} {rest : List (List Char)} {first second : Path}

/-! ## Directories -/

/-- What is made where a path leads depends on its target only. -/
theorem apply_makeDirectory_congr (htarget : workspace.target first = workspace.target second) :
    workspace.apply (.makeDirectory first) = workspace.apply (.makeDirectory second) := by
  simp only [apply, htarget]

theorem isDirectory_congr (htarget : workspace.target first = workspace.target second) :
    workspace.isDirectory first = workspace.isDirectory second := by
  simp only [isDirectory, find_of_target, htarget]

theorem present_congr (htarget : workspace.target first = workspace.target second) :
    workspace.present first = workspace.present second := by
  simp only [present, find_of_target, htarget]

theorem run_makeWithOuter_of_leads {directory : Place} {path : Path}
    (hleads : Leads workspace directory [] path) (hshort : path.IsShort) (outer : List Path) :
    (makeWithOuter path outer).run workspace = (.ok (), workspace) := by
  rcases hleads.isDirectory hshort with hempty | hdirectory
  · exact run_makeWithOuter_of_isEmpty hempty workspace
  · exact run_makeWithOuter_of_isDirectory hdirectory

/-- The recursion outwards, along paths that meet.  The induction is on the steps behind the
directory where they do, the last one first: without any, both paths are that directory. -/
theorem run_makeWithOuter_congr {outer other : List Path}
    (hmeet : Meet workspace rest first second) (houtward : Outward first outer)
    (hotherward : Outward second other)
    (hfirst : ∀ path ∈ first :: outer, path.IsTrim ∧ path.IsShort)
    (hsecond : ∀ path ∈ second :: other, path.IsTrim ∧ path.IsShort) :
    (makeWithOuter first outer).run workspace = (makeWithOuter second other).run workspace := by
  induction rest using List.reverseRecOn generalizing first second outer other with
  | nil =>
    obtain ⟨directory, hfirstLeads, hsecondLeads⟩ := hmeet
    rw [run_makeWithOuter_of_leads hfirstLeads (hfirst first List.mem_cons_self).2,
      run_makeWithOuter_of_leads hsecondLeads (hsecond second List.mem_cons_self).2]
  | append_singleton rest part ih =>
    have hrest : rest ++ [part] ≠ [] := by simp
    obtain ⟨htrim, hshort⟩ := hfirst first List.mem_cons_self
    obtain ⟨hotherTrim, hotherShort⟩ := hsecond second List.mem_cons_self
    have htarget {reached : Workspace} (hretains : Retains workspace reached) :
        reached.target first = reached.target second :=
      (hmeet.mono hretains).target_eq hrest (iff_of_true hshort hotherShort) htrim hotherTrim
    have hmade := apply_makeDirectory_congr (htarget (.refl workspace))
    have hthere := isDirectory_congr (htarget (.refl workspace))
    obtain ⟨directory, hfirstLeads, hsecondLeads⟩ := hmeet
    have hfirstRoute := hfirstLeads.route_ne_nil hrest
    have hsecondRoute := hsecondLeads.route_ne_nil hrest
    have hfirstEmpty := isEmpty_eq_false_of_route hfirstRoute
    have hsecondEmpty := isEmpty_eq_false_of_route hsecondRoute
    cases houtward with
    | root hroute _ => exact absurd hroute hfirstRoute
    | @step _ nearest further _ hroute habsolute houtward =>
      cases hotherward with
      | root hroute _ => exact absurd hroute hsecondRoute
      | @step _ otherNearest otherFurther _ hotherRoute hotherAbsolute hotherward =>
        have hnearest := ih ⟨directory, hfirstLeads.outward hroute habsolute,
            hsecondLeads.outward hotherRoute hotherAbsolute⟩ houtward hotherward
          (fun path hpath => hfirst path (List.mem_cons_of_mem first hpath))
          (fun path hpath => hsecond path (List.mem_cons_of_mem second hpath))
        have hretains := retains_run (makeWithOuter otherNearest otherFurther) workspace
        rw [run_makeWithOuter_cons hfirstEmpty, run_makeWithOuter_cons hsecondEmpty, hmade,
          hnearest, hthere]
        cases hreached : (makeWithOuter otherNearest otherFurther).run workspace with
        | mk answer reached =>
          rw [hreached] at hretains
          change Retains workspace reached at hretains
          cases answer with
          | error refusal => rfl
          | ok =>
            dsimp only
            rw [apply_makeDirectory_congr (htarget hretains),
              isDirectory_congr (htarget hretains)]

/-- A path that is refused as it is written cannot be made. -/
theorem run_makeWithOuter_of_refusal {path : Path} {refusal : SystemError}
    (hempty : path.isEmpty = false) (hrefusal : path.refusal? = some refusal)
    (outer : List Path) (workspace : Workspace) :
    (makeWithOuter path outer).run workspace = (.error refusal, workspace) := by
  have htarget : workspace.target path = .error refusal := target_of_refusal hrefusal
  have happly := apply_makeDirectory_of_target_error htarget
  have hdirectory := isDirectory_of_target_error htarget
  have hknown : refusal ≠ .notFound := by
    rintro rfl
    rw [refusal?_eq_none_of_notFound hempty happly] at hrefusal
    cases hrefusal
  cases outer with
  | nil =>
    rw [run_makeWithOuter_nil hempty, happly]
    cases refusal <;> simp_all
  | cons nearest further =>
    rw [run_makeWithOuter_cons hempty, happly]
    cases refusal <;> simp_all

/-! ## Replacements -/

theorem outcome_prepare_of_refusal {base : Path} {refusal : SystemError}
    (hempty : base.holder.isEmpty = false) (hrefusal : base.holder.refusal? = some refusal)
    (workspace : Workspace) :
    ∃ failure, (prepare base).outcome workspace = (.error failure, workspace) := by
  have htarget : workspace.target base.holder = .error refusal := target_of_refusal hrefusal
  have hpresent : workspace.present base.holder = false := by
    simp [present, find_of_target, htarget, Except.bind]
  rw [prepare, if_neg (by simp [hempty]), outcome_requireDirectory, if_neg (by simp [hpresent]),
    makeDirectories, run_makeWithOuter_of_refusal hempty hrefusal]
  exact ⟨_, rfl⟩

theorem endAlike_prepare_of_refusal {refusal other : SystemError}
    (hfirst : first.holder.isEmpty = false) (hsecond : second.holder.isEmpty = false)
    (hrefusal : first.holder.refusal? = some refusal)
    (hother : second.holder.refusal? = some other) (workspace : Workspace) :
    EndAlike (ResultsAlike Eq) ((prepare first).outcome workspace)
      ((prepare second).outcome workspace) := by
  obtain ⟨failure, houtcome⟩ := outcome_prepare_of_refusal hfirst hrefusal workspace
  obtain ⟨otherFailure, hotherOutcome⟩ := outcome_prepare_of_refusal hsecond hother workspace
  rw [houtcome, hotherOutcome]
  exact ⟨.error, rfl⟩

/-- Where the paths lead to the directory itself, nothing is made: it is there. -/
theorem endAlike_prepare_of_leads {directory : Place} (hfirst : Leads workspace directory [] first)
    (hsecond : Leads workspace directory [] second)
    (hlengths : LengthsAgree first.holder second.holder) :
    EndAlike (ResultsAlike Eq) ((prepare first).outcome workspace)
      ((prepare second).outcome workspace) := by
  by_cases hshort : first.holder.IsShort
  · rw [outcome_prepare_of_ready (hfirst.holder.isDirectory hshort),
      outcome_prepare_of_ready (hsecond.holder.isDirectory (hlengths.1 hshort))]
    exact ⟨.ok rfl, rfl⟩
  · obtain ⟨hempty, refusal, hrefusal⟩ := exists_refusal?_of_not_isShort hshort
    obtain ⟨hotherEmpty, other, hother⟩ :=
      exists_refusal?_of_not_isShort (fun h => hshort (hlengths.2 h))
    exact endAlike_prepare_of_refusal hempty hotherEmpty hrefusal hother workspace

theorem forall_mem_outerPaths_holder (hrefusal : first.holder.refusal? = none) :
    ∀ path ∈ first.holder :: first.holder.outerPaths, path.IsTrim ∧ path.IsShort := by
  have hshort := isShort_of_refusal? hrefusal
  exact List.forall_mem_cons.2 ⟨⟨isTrim_holder first, hshort⟩,
    fun path hpath => ⟨isTrim_of_mem_outerPaths hpath, hshort.of_mem_outerPaths hpath⟩⟩

/-- The directory of a name is made alike by paths that meet. -/
theorem endAlike_prepare (hmeet : Meet workspace rest first second)
    (hlengths : LengthsAgree first.holder second.holder) :
    EndAlike (ResultsAlike Eq) ((prepare first).outcome workspace)
      ((prepare second).outcome workspace) := by
  obtain ⟨directory, hfirst, hsecond⟩ := hmeet
  by_cases hrest : rest = []
  · subst hrest
    exact endAlike_prepare_of_leads hfirst hsecond hlengths
  · have hholder : Meet workspace rest first.holder second.holder :=
      ⟨directory, hfirst.holder, hsecond.holder⟩
    have hsame := hholder.refusal?_eq hrest hlengths
    have htarget := hholder.target_eq hrest hlengths (isTrim_holder first) (isTrim_holder second)
    have hempty := isEmpty_eq_false_of_route (hfirst.holder.route_ne_nil hrest)
    have hotherEmpty := isEmpty_eq_false_of_route (hsecond.holder.route_ne_nil hrest)
    cases hrefusal : first.holder.refusal? with
    | some refusal =>
      exact endAlike_prepare_of_refusal hempty hotherEmpty hrefusal (hsame ▸ hrefusal) workspace
    | none =>
      have hrun := run_makeWithOuter_congr hholder (outward_outerPaths first.holder)
        (outward_outerPaths second.holder) (forall_mem_outerPaths_holder hrefusal)
        (forall_mem_outerPaths_holder (hsame ▸ hrefusal))
      rw [prepare, prepare, if_neg (by simp [hempty]), if_neg (by simp [hotherEmpty]),
        outcome_requireDirectory, outcome_requireDirectory, present_congr htarget,
        isDirectory_congr htarget, makeDirectories, makeDirectories, hrun]
      split
      next =>
        cases workspace.isDirectory second.holder with
        | true => exact ⟨.ok rfl, rfl⟩
        | false => exact ⟨.error, rfl⟩
      next =>
        refine ⟨?_, rfl⟩
        cases ((makeWithOuter second.holder second.holder.outerPaths).run workspace).1 with
        | ok => exact .ok rfl
        | error refusal => exact .error

/-- Why a name cannot be written depends on its path only by why the path is refused. -/
theorem writeRefusal?_of_refusal? (hrefusal : first.refusal? = second.refusal?)
    (files : FileSystem) (directory : Place) (name : String) :
    writeRefusal? files directory first name = writeRefusal? files directory second name := by
  simp only [writeRefusal?, lookupRefusal?, hrefusal]

theorem Verdict.after_congr {verdict other : Verdict} (hclears : verdict.clears = other.clears)
    (hwrites : verdict.writes = other.writes) (workspace : Workspace) (directory : Place)
    (name : String) (content : ByteArray) :
    verdict.after workspace directory name content =
      other.after workspace directory name content := by
  cases verdict <;> cases other <;> first | rfl | simp_all [clears, writes]

theorem Verdict.answer_alike {verdict other : Verdict} (hwrites : verdict.writes = other.writes) :
    ResultsAlike Eq verdict.answer other.answer := by
  cases hone : verdict.writes with
  | true =>
    rw [answer_of_writes hone, answer_of_writes (hwrites ▸ hone)]
    exact .ok rfl
  | false =>
    obtain ⟨failure, hfailure⟩ := answer_of_not_writes hone
    obtain ⟨otherFailure, hotherFailure⟩ := answer_of_not_writes (hwrites ▸ hone)
    rw [hfailure, hotherFailure]
    exact .error

/-- The lengths of all paths agree that a replacement of a name uses, seen from two
directories. -/
structure AgreeFor (name : String) (first second : Path) : Prop where
  path : LengthsAgree (first.join ⟨name⟩) (second.join ⟨name⟩)
  holder : LengthsAgree first.holder second.holder
  temporary : LengthsAgree (temporaryPath (first.join ⟨name⟩)) (temporaryPath (second.join ⟨name⟩))

instance (name : String) (first second : Path) : Decidable (AgreeFor name first second) :=
  decidable_of_iff _ ⟨fun ⟨hpath, hholder, htemporary⟩ => ⟨hpath, hholder, htemporary⟩,
    fun hagree => And.intro hagree.path (And.intro hagree.holder hagree.temporary)⟩

variable {name : String}

theorem refusal?_temporary (hmeet : Meet workspace rest first second) (hname : IsName name)
    (hagree : AgreeFor name first second) :
    (first.holder.join ⟨temporaryName name⟩).refusal? =
      (second.holder.join ⟨temporaryName name⟩).refusal? := by
  have htemporary := hagree.temporary
  rw [temporaryPath_join hname, temporaryPath_join hname] at htemporary
  exact hmeet.holder.refusal?_join hname.temporary htemporary

theorem verdictIn_congr (hmeet : Meet workspace rest first second) (hname : IsName name)
    (hagree : AgreeFor name first second) (reached : Workspace) (directory : Place) :
    (verdictIn reached.files directory first name).clears =
        (verdictIn reached.files directory second name).clears ∧
      (verdictIn reached.files directory first name).writes =
        (verdictIn reached.files directory second name).writes := by
  have hopens : Opens reached first directory name ↔ Opens reached second directory name := by
    rw [Opens, Opens, writeRefusal?_of_refusal? (refusal?_temporary hmeet hname hagree)]
  have hwrite := writeRefusal?_of_refusal? (hmeet.refusal?_join hname hagree.path) reached.files
    directory name
  refine ⟨Bool.eq_iff_iff.2 ?_, Bool.eq_iff_iff.2 ?_⟩
  · rw [clears_verdictIn_iff, clears_verdictIn_iff, hopens]
  · rw [Verdict.writes_iff, Verdict.writes_iff, verdictIn_eq_written_iff,
      verdictIn_eq_written_iff, hopens, hwrite]

/-- A name is replaced alike by paths that meet. -/
theorem endAlike_replaceContent (hmeet : Meet workspace rest first second)
    (hname : IsName name) (hagree : AgreeFor name first second) (content : ByteArray) :
    EndAlike (ResultsAlike Eq) ((replaceContent (first.join ⟨name⟩) content).outcome workspace)
      ((replaceContent (second.join ⟨name⟩) content).outcome workspace) := by
  have hprepare := endAlike_prepare hmeet hagree.holder
  have hprepared : prepared first workspace = prepared second workspace := hprepare.workspace_eq
  have hresult := hprepare.result
  cases hfirst : ((prepare first).outcome workspace).1 with
  | error failure =>
    cases hsecond : ((prepare second).outcome workspace).1 with
    | ok =>
      rw [hfirst, hsecond] at hresult
      cases hresult
    | error other =>
      rw [outcome_replaceContent_of_error hfirst hname,
        outcome_replaceContent_of_error hsecond hname, hprepared]
      exact ⟨.error, rfl⟩
  | ok =>
    cases hsecond : ((prepare second).outcome workspace).1 with
    | error other =>
      rw [hfirst, hsecond] at hresult
      cases hresult
    | ok =>
      obtain ⟨directory, hprepares⟩ := exists_prepares_of_ok hfirst
      obtain ⟨other, hotherPrepares⟩ := exists_prepares_of_ok hsecond
      have hreach : (prepared first workspace).reach first =
          (prepared first workspace).reach second :=
        (hmeet.mono (retains_run (prepare first).run workspace)).reach_eq
      rw [hprepares.reach_eq hfirst, hprepared, hotherPrepares.reach_eq hsecond] at hreach
      obtain rfl : directory = other := Except.ok.inj hreach
      obtain ⟨hclears, hwrites⟩ :=
        verdictIn_congr hmeet hname hagree (prepared second workspace) directory
      rw [outcome_replaceContent_prepared hprepares hname,
        outcome_replaceContent_of_keepsDirectories hprepares hfirst (.refl _ _) hname,
        outcome_replaceContent_prepared hotherPrepares hname,
        outcome_replaceContent_of_keepsDirectories hotherPrepares hsecond (.refl _ _) hname,
        verdict_of_ok hfirst, verdict_of_ok hsecond, hprepared]
      exact ⟨Verdict.answer_alike hwrites, Verdict.after_congr hclears hwrites _ _ _ _⟩

end Files

end RecipeMatrix
