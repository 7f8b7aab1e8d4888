import RecipeMatrix.Proofs.Files.Directories

/-!
# Preparing a directory

Before a file is replaced, the directory that holds it is made.  For all names in one directory
this is the same attempt, `prepare`, so what it comes to is settled by the first of them.

* `Ready base workspace`: the names in `base` have a directory to lie in.  A successful attempt
  leaves a ready workspace (`ready_of_outcome_prepare`), nothing is done to a ready one
  (`outcome_prepare_of_ready`), and it stays ready while directories stay (`Ready.mono`).
* A failure is final: a second attempt fails for the same reason and changes nothing
  (`outcome_prepare_again`).
* All that ever happens is that directories are made, without `..` on the way to the place of the
  directory (`prepare_adds`, `prepare_adds_onTheWay`).
-/

namespace RecipeMatrix.Files

open Workspace RecipeMatrix.Path

/-- Makes the directory that all names in `base` lie in. -/
def prepare (base : Path) : Attempt Failure Unit :=
  if base.holder.isEmpty then pure () else requireDirectory base.holder

theorem requireParent_join {base : Path} {name : String} (hname : IsName name) :
    requireParent (base.join ⟨name⟩) = prepare base := by
  rw [requireParent, parent?_join hname]
  rfl

/-- The names in a directory have something to lie in, or need nothing made for them. -/
def Ready (base : Path) (workspace : Workspace) : Prop :=
  base.holder.isEmpty = true ∨ workspace.isDirectory base.holder = true

instance (base : Path) (workspace : Workspace) : Decidable (Ready base workspace) :=
  inferInstanceAs (Decidable (_ ∨ _))

theorem Ready.mono {base : Path} {first second : Workspace}
    (hcurrent : second.current = first.current)
    (hkept : ∀ place, first.files.get? place = some .directory →
      second.files.get? place = some .directory)
    (hready : Ready base first) : Ready base second := by
  rcases hready with hempty | hdirectory
  · exact .inl hempty
  · exact .inr (isDirectory_of_directories hcurrent hkept hdirectory)

/-- A ready directory can be reached. -/
theorem Ready.reach {base : Path} {workspace : Workspace} (hready : Ready base workspace) :
    ∃ directory, workspace.reach base = .ok directory := by
  have hsame : workspace.reach base = workspace.reach base.holder := by
    rw [Workspace.reach, Workspace.reach, start, start, route_holder, isAbsolute_holder]
  rw [hsame]
  rcases hready with hempty | hdirectory
  · have hroute : base.holder.route = [] := by
      rw [route, parts, Path.isEmpty_iff.1 hempty]
      rfl
    rw [Workspace.reach, hroute]
    exact ⟨_, rfl⟩
  · exact (isDirectory_iff.1 hdirectory).2

/-! ## Outcomes -/

/-- What requiring a directory comes to, by what is there. -/
theorem outcome_requireDirectory (path : Path) (workspace : Workspace) :
    (requireDirectory path).outcome workspace =
      if workspace.present path then
        (if workspace.isDirectory path then .ok ()
          else .error (.ofMessage ("Path exists but is not a directory: " ++ path.text)), workspace)
      else
        (((makeDirectories path).run workspace).1.mapError (Failure.ofSystem
            ("Failed to create directory: " ++ path.text ++
              "\n\nCheck directory permissions and path validity")),
          ((makeDirectories path).run workspace).2) := by
  unfold requireDirectory
  rw [Attempt.outcome_if (Program.run_present path workspace),
    Attempt.outcome_if (Program.run_isDirectory path workspace), Attempt.outcome_during]
  cases workspace.isDirectory path <;> rfl

theorem outcome_requireDirectory_of_isDirectory {path : Path} {workspace : Workspace}
    (hdirectory : workspace.isDirectory path = true) :
    (requireDirectory path).outcome workspace = (.ok (), workspace) := by
  rw [outcome_requireDirectory, if_pos (present_of_isDirectory hdirectory), if_pos hdirectory]

theorem outcome_requireDirectory_of_isEmpty {path : Path} (hempty : path.isEmpty = true)
    (workspace : Workspace) : (requireDirectory path).outcome workspace = (.ok (), workspace) := by
  have habsent : workspace.present path = false := by
    simp [present, find_of_target, target, hempty, Except.bind]
  rw [outcome_requireDirectory, if_neg (by simp [habsent]), makeDirectories,
    run_makeWithOuter_of_isEmpty hempty]
  rfl

/-- A directory that was required is there, unless its path is empty. -/
theorem isDirectory_of_outcome_requireDirectory {path : Path} {workspace reached : Workspace}
    (houtcome : (requireDirectory path).outcome workspace = (.ok (), reached)) :
    path.isEmpty = true ∨ reached.isDirectory path = true := by
  rw [outcome_requireDirectory] at houtcome
  split at houtcome
  next =>
    obtain ⟨hanswer, rfl⟩ := Prod.mk.inj houtcome
    refine .inr ?_
    cases hdirectory : workspace.isDirectory path with
    | true => rfl
    | false => simp [hdirectory] at hanswer
  next =>
    cases hrun : (makeDirectories path).run workspace with
    | mk answer after =>
      rw [hrun] at houtcome
      obtain ⟨hanswer, rfl⟩ := Prod.mk.inj houtcome
      cases answer with
      | ok => exact isDirectory_of_run_makeWithOuter hrun
      | error refusal => simp [mapError_error] at hanswer

/-- While directories stay, a directory that was required needs nothing more. -/
theorem outcome_requireDirectory_again {path : Path} {workspace reached later : Workspace}
    (houtcome : (requireDirectory path).outcome workspace = (.ok (), reached))
    (hcurrent : later.current = reached.current)
    (hkept : ∀ place, reached.files.get? place = some .directory →
      later.files.get? place = some .directory) :
    (requireDirectory path).outcome later = (.ok (), later) := by
  rcases isDirectory_of_outcome_requireDirectory houtcome with hempty | hdirectory
  · exact outcome_requireDirectory_of_isEmpty hempty later
  · exact outcome_requireDirectory_of_isDirectory
      (isDirectory_of_directories hcurrent hkept hdirectory)

theorem outcome_prepare_of_ready {base : Path} {workspace : Workspace}
    (hready : Ready base workspace) : (prepare base).outcome workspace = (.ok (), workspace) := by
  unfold prepare
  split
  next => rfl
  next hempty => exact outcome_requireDirectory_of_isDirectory (hready.resolve_left hempty)

theorem ready_of_outcome_prepare {base : Path} {workspace reached : Workspace}
    (houtcome : (prepare base).outcome workspace = (.ok (), reached)) : Ready base reached := by
  unfold prepare at houtcome
  split at houtcome
  next hempty => exact .inl hempty
  next => exact isDirectory_of_outcome_requireDirectory houtcome

/-- A directory that could not be made cannot be made the next time either. -/
theorem outcome_prepare_again {base : Path} (hplain : base.IsPlain)
    {workspace reached : Workspace} {failure : Failure}
    (houtcome : (prepare base).outcome workspace = (.error failure, reached)) :
    (prepare base).outcome reached = (.error failure, reached) := by
  have hholder := hplain.holder
  unfold prepare at houtcome ⊢
  split at houtcome
  next => cases (Prod.mk.inj houtcome).1
  next hempty =>
    rw [if_neg hempty]
    have hsteps := houtcome
    rw [outcome_requireDirectory] at hsteps
    split at hsteps
    next =>
      obtain ⟨-, rfl⟩ := Prod.mk.inj hsteps
      exact houtcome
    next hpresent =>
      obtain ⟨hanswer, hreached⟩ := Prod.mk.inj hsteps
      cases hrun : (makeDirectories base.holder).run workspace with
      | mk answer after =>
        rw [hrun] at hanswer hreached
        subst hreached
        cases answer with
        | ok => simp [mapError_ok] at hanswer
        | error refusal =>
          obtain ⟨hstuck, hagain⟩ :=
            run_makeWithOuter_again (outward_outerPaths base.holder) hholder hrun
          rcases hstuck with rfl | ⟨-, htarget⟩
          · exact houtcome
          · have habsent : after.present base.holder = false := by
              simp [present, find_of_target, htarget, Except.bind]
            rw [outcome_requireDirectory, if_neg (by simp [habsent])]
            change (((makeWithOuter base.holder base.holder.outerPaths).run after).1.mapError _,
              ((makeWithOuter base.holder base.holder.outerPaths).run after).2) = _
            rw [hagain, hanswer]

/-- With `..` too, a directory that could not be made is settled: it cannot be made the next time
either, and nothing changes. -/
theorem outcome_prepare_refused {base : Path} {workspace reached : Workspace} {failure : Failure}
    (houtcome : (prepare base).outcome workspace = (.error failure, reached)) :
    ∃ second, (prepare base).outcome reached = (.error second, reached) := by
  unfold prepare at houtcome ⊢
  split at houtcome
  next => cases (Prod.mk.inj houtcome).1
  next hempty =>
    rw [if_neg hempty]
    have hsteps := houtcome
    rw [outcome_requireDirectory] at hsteps
    split at hsteps
    next =>
      obtain ⟨-, rfl⟩ := Prod.mk.inj hsteps
      exact ⟨failure, houtcome⟩
    next hpresent =>
      obtain ⟨hanswer, hreached⟩ := Prod.mk.inj hsteps
      cases hrun : (makeDirectories base.holder).run workspace with
      | mk answer after =>
        rw [hrun] at hanswer hreached
        subst hreached
        cases answer with
        | ok => simp [mapError_ok] at hanswer
        | error refusal =>
          obtain ⟨-, second, hagain⟩ :=
            run_makeWithOuter_barred (outward_outerPaths base.holder) hrun
          have hdirectory : after.isDirectory base.holder = false := by
            cases hdirectory : after.isDirectory base.holder with
            | false => rfl
            | true =>
              rw [run_makeWithOuter_of_isDirectory hdirectory] at hagain
              cases (Prod.mk.inj hagain).1
          rw [outcome_requireDirectory]
          split
          next => exact ⟨_, by rw [hdirectory]; rfl⟩
          next =>
            rw [makeDirectories, hagain]
            exact ⟨_, rfl⟩

/-! ## States -/

/-- The states of the attempt are those of making directories, if there is anything to make. -/
theorem forall_states_prepare {base : Path} {workspace : Workspace}
    {holds : Workspace → Prop} (hstart : holds workspace)
    (hmake : ¬Ready base workspace →
      ∀ state ∈ (makeDirectories base.holder).states workspace, holds state) :
    ∀ state ∈ (prepare base).states workspace, holds state := by
  have hdone {attempt : Attempt Failure Unit} (h : attempt.states workspace = [workspace]) :
      ∀ state ∈ attempt.states workspace, holds state := by
    intro state hstate
    rw [h] at hstate
    rw [List.mem_singleton.1 hstate]
    exact hstart
  have hasked (q : Question) : ∀ state ∈ (Program.question q).states workspace, holds state := by
    intro state hstate
    rw [List.mem_singleton.1 hstate]
    exact hstart
  unfold prepare
  split
  next => exact hdone rfl
  next hempty =>
    unfold requireDirectory
    refine Attempt.forall_states_then.2 ⟨(Attempt.forall_states_always _ _).2 (hasked _), ?_⟩
    rintro present reached hpresent
    obtain ⟨hanswer, rfl⟩ : Except.ok (workspace.present base.holder) = Except.ok present ∧
      workspace = reached := Prod.mk.inj hpresent
    cases present with
    | true =>
      refine Attempt.forall_states_then.2 ⟨(Attempt.forall_states_always _ _).2 (hasked _), ?_⟩
      rintro directory reached hdirectory
      obtain rfl : workspace = reached := (Prod.mk.inj hdirectory).2
      cases directory with
      | true => exact hdone rfl
      | false => exact hdone rfl
    | false =>
      refine (Attempt.forall_states_during _ _ _).2 (hmake fun hready => ?_)
      have hpresent := present_of_isDirectory (hready.resolve_left hempty)
      rw [Except.ok.inj hanswer] at hpresent
      cases hpresent

theorem prepare_states_of_ready {base : Path} {workspace : Workspace}
    (hready : Ready base workspace) :
    ∀ state ∈ (prepare base).states workspace, state = workspace :=
  forall_states_prepare rfl fun hnot => absurd hready hnot

/-- Only directories are made. -/
theorem prepare_adds (base : Path) (workspace : Workspace) :
    ∀ state ∈ (prepare base).states workspace, state.current = workspace.current ∧
      FileSystem.AddsDirectories (fun _ => True) workspace.files state.files :=
  forall_states_prepare ⟨rfl, .refl _⟩ fun _ => makeWithOuter_adds _ _ workspace

/-- Without `..`, the directories are on the way to the place of the path. -/
theorem prepare_adds_onTheWay {base : Path} (hplain : base.IsPlain) (workspace : Workspace) :
    ∀ state ∈ (prepare base).states workspace, state.current = workspace.current ∧
      FileSystem.AddsDirectories (workspace.onTheWay base) workspace.files state.files := by
  have hholder := hplain.holder
  have hway : workspace.onTheWay base.holder = workspace.onTheWay base := by
    funext place
    simp only [onTheWay, place_holder]
  refine forall_states_prepare ⟨rfl, .refl _⟩ fun _ => ?_
  rw [← hway]
  exact makeDirectories_adds_onTheWay hholder workspace

/-- No name in the directory is touched. -/
theorem prepare_beside {base : Path} (hplain : base.IsPlain) (workspace : Workspace)
    {state : Workspace} (hstate : state ∈ (prepare base).states workspace) (other : String) :
    state.files.get? (other :: workspace.place base) =
      workspace.files.get? (other :: workspace.place base) :=
  get?_of_adds_onTheWay (prepare_adds_onTheWay hplain workspace state hstate).2 other

end RecipeMatrix.Files
