import RecipeMatrix.Command.Run
import RecipeMatrix.Proofs.Generation.Selected

/-!
# What commands leave alone

A command that only looks leaves every file alone, and so does a run of `generate` that fails
before it starts to write.  This holds of all states of a run, not only of the last one.

There are three groups.

* Failing attempts.  `FailsUntouched attempt` says that an attempt that fails has touched nothing.
  It is enough that all that comes before the first change only asks (`FailsUntouched.andThen`).
* Looking.  Finding a manifest only asks, whatever the answers are (`makes_find`), as checks and
  dry runs do; and all that can fail in a run comes before its first change
  (`generate_failsUntouched`).
* Commands.  `keeps_files` puts both together for all commands, and for runs of any generator, also
  of one that renders some recipes before it fails.
-/

namespace RecipeMatrix

/-! ## Failing attempts -/

namespace Attempt

variable {ε α β : Type}

/-- Where the attempt fails, it has touched nothing. -/
def FailsUntouched (attempt : Attempt ε α) : Prop :=
  ∀ workspace error, (attempt.outcome workspace).1 = .error error →
    ∀ state ∈ attempt.states workspace, state = workspace

namespace FailsUntouched

theorem of_makes {attempt : Attempt ε α} (hattempt : attempt.run.Makes fun _ => False) :
    attempt.FailsUntouched :=
  fun workspace _ _ => hattempt.states_eq workspace

theorem of_succeeds {attempt : Attempt ε α}
    (hattempt : ∀ workspace, ∃ result, (attempt.outcome workspace).1 = .ok result) :
    attempt.FailsUntouched := by
  intro workspace error herror
  obtain ⟨result, hresult⟩ := hattempt workspace
  rw [hresult] at herror
  cases herror

/-- What comes first may ask whatever it likes. -/
theorem andThen {attempt : Attempt ε α} {after : α → Attempt ε β}
    (hattempt : attempt.run.Makes fun _ => False)
    (hafter : ∀ result, (after result).FailsUntouched) :
    (attempt >>= after).FailsUntouched := by
  intro workspace error herror
  refine forall_states_then.2 ⟨hattempt.states_eq workspace, fun result reached hreached => ?_⟩
  have houtcome := outcome_of_makes hattempt workspace
  rw [hreached] at houtcome
  obtain rfl : reached = workspace := (Prod.mk.inj houtcome).2
  rw [outcome_bind, hreached] at herror
  exact hafter result reached error herror

theorem ofExcept {first : Except ε α} {after : α → Attempt ε β}
    (hafter : ∀ result, (after result).FailsUntouched) :
    (Attempt.ofExcept first >>= after).FailsUntouched :=
  andThen trivial hafter

/-- A last step that cannot fail changes nothing about it. -/
theorem map {attempt : Attempt ε α} (hattempt : attempt.FailsUntouched) (f : α → β) :
    (attempt >>= fun result => pure (f result)).FailsUntouched := by
  intro workspace error herror
  rw [outcome_bind] at herror
  rcases houtcome : attempt.outcome workspace with ⟨_ | result, reached⟩
  · refine forall_states_then.2 ⟨hattempt workspace _ (congrArg Prod.fst houtcome), ?_⟩
    intro result last hlast
    rw [houtcome] at hlast
    cases hlast
  · rw [houtcome] at herror
    cases herror

theorem mapError {δ : Type} {attempt : Attempt ε α} (hattempt : attempt.FailsUntouched)
    (convert : ε → δ) : (Attempt.mapError convert attempt).FailsUntouched := by
  intro workspace error herror
  rw [outcome_mapError] at herror
  rw [forall_states_mapError]
  cases hanswer : (attempt.outcome workspace).1 with
  | ok result =>
    rw [hanswer] at herror
    cases herror
  | error first => exact hattempt workspace first hanswer

end FailsUntouched

end Attempt

/-! ## Looking -/

section

variable {allowed : Workspace.Change → Prop}

namespace Manifest

theorem makes_firstPresent (paths : List Path) : (firstPresent paths).Makes allowed := by
  induction paths with
  | nil => exact trivial
  | cons path paths ih =>
    refine (Program.makes_question _).bind fun found => ?_
    cases found with
    | true => exact trivial
    | false => exact ih

theorem makes_nearest? : nearest?.run.Makes allowed :=
  Attempt.makes_then (Attempt.makes_during _ (Program.makes_question _)) fun _ =>
    Attempt.makes_always (makes_firstPresent _)

theorem makes_given (path : Path) : (given path).run.Makes allowed := by
  refine Attempt.makes_then (Attempt.makes_always (Program.makes_question _)) fun found => ?_
  cases found <;> exact trivial

theorem makes_load (path : Path) : (load path).run.Makes allowed := by
  have hread : (textOf <$> Program.question (.content path)).Makes allowed := fun _ => trivial
  exact Attempt.makes_then (Attempt.makes_during _ hread) fun _ =>
    Attempt.makes_ofExcept_then fun _ => trivial

end Manifest

namespace LoadedManifest

theorem makes_ofFile (path : Path) : (ofFile path).run.Makes allowed :=
  Attempt.makes_then (Manifest.makes_load path) fun _ => trivial

/-- Looking for a manifest only asks. -/
theorem makes_find (manifest : Option Path) : (find manifest).run.Makes allowed := by
  cases manifest with
  | some path => exact Attempt.makes_then (Manifest.makes_given path) fun path => makes_ofFile path
  | none =>
    refine Attempt.makes_then Manifest.makes_nearest? fun found => ?_
    cases found with
    | none => exact trivial
    | some path => exact makes_ofFile path

end LoadedManifest

theorem Listing.makes_find (manifest : Option Path) : (Listing.find manifest).run.Makes allowed :=
  Attempt.makes_then (LoadedManifest.makes_find manifest) fun _ =>
    Attempt.makes_ofExcept_then fun _ => trivial

theorem Validation.makes_find (manifest : Option Path) :
    (Validation.find manifest).Makes allowed := by
  refine (LoadedManifest.makes_find manifest).bind fun answer => ?_
  cases answer <;> exact trivial

/-- All that can fail in a run comes before its first change. -/
theorem Generator.generate_failsUntouched (generator : Generator) (selection : Selection)
    (output : Path) (dryRun : Bool) :
    (generator.generate selection output dryRun).FailsUntouched := by
  refine Attempt.FailsUntouched.andThen (generator.makes_plan selection output) fun planned => ?_
  refine Attempt.FailsUntouched.of_succeeds fun workspace => ?_
  rw [Attempt.outcome_bind, Attempt.outcome_always]
  exact ⟨_, rfl⟩

end

/-! ## Commands -/

/-- Only a run that came to write can still fail after it. -/
theorem GenerateResult.error_of_conclusion {result : GenerateResult} {failure : Failure}
    (hfailure : result.conclusion = .error failure) :
    ∃ failed total details, failure = .ofError (.generationFailed failed total details) := by
  cases result with
  | upToDate output => cases hfailure
  | reported output report =>
    simp only [conclusion, Report.ensureSuccess] at hfailure
    split at hfailure
    next => cases hfailure
    next => exact ⟨_, _, _, (Except.error.inj hfailure).symm⟩

namespace GenerateOptions

variable (options : GenerateOptions) (manifest : Option Path) (display : Display)

/-- The options ask for no more than a look. -/
def Looks : Prop := options.check = true ∨ options.dryRun = true

theorem makes_work (hlooks : options.Looks) :
    (options.work manifest).run.Makes fun _ => False := by
  refine Attempt.makes_then (LoadedManifest.makes_find manifest) fun loaded => ?_
  refine Attempt.makes_mapError _ ?_
  refine Attempt.makes_ofExcept_then fun catalog => ?_
  -- Which generator it is does not matter, so the built-in template need not be read here.
  generalize Generator.ofCatalog catalog = built
  refine Attempt.makes_ofExcept_then fun generator => ?_
  split
  next => exact Attempt.makes_then (generator.makes_check _ _) fun _ => trivial
  next hcheck =>
    have hdry : options.dryRun = true := hlooks.resolve_left hcheck
    rw [hdry]
    exact Attempt.makes_then (generator.makes_generate_dry _ _) fun _ => trivial

theorem work_failsUntouched : (options.work manifest).FailsUntouched := by
  refine Attempt.FailsUntouched.andThen (LoadedManifest.makes_find manifest) fun loaded => ?_
  refine Attempt.FailsUntouched.mapError ?_ _
  refine Attempt.FailsUntouched.ofExcept fun catalog => ?_
  refine Attempt.FailsUntouched.ofExcept fun generator => ?_
  split
  next => exact .of_makes (Attempt.makes_then (generator.makes_check _ _) fun _ => trivial)
  next => exact (generator.generate_failsUntouched _ _ _).map _

theorem forall_states_run {workspace : Workspace} {holds : Workspace → Prop} :
    (∀ state ∈ (options.run manifest display).states workspace, holds state) ↔
      ∀ state ∈ (options.work manifest).states workspace, holds state := by
  refine Program.forall_states_conclude fun answer => ?_
  cases answer <;> exact ⟨_, rfl⟩

/-- A failure other than that of single recipes leaves every file alone. -/
theorem run_states_of_error {workspace : Workspace} {failure : Failure}
    (hfailure : ((options.run manifest display).run workspace).1.result = .error failure)
    (hearly : ∀ failed total details,
      failure ≠ .ofError (.generationFailed failed total details)) :
    ∀ state ∈ (options.run manifest display).states workspace, state = workspace := by
  rw [forall_states_run]
  simp only [run, Program.run_bind, Attempt.run_eq_outcome] at hfailure
  cases hanswer : ((options.work manifest).outcome workspace).1 with
  | error first => exact options.work_failsUntouched manifest workspace first hanswer
  | ok result =>
    rw [hanswer] at hfailure
    obtain ⟨failed, total, details, hlate⟩ := GenerateResult.error_of_conclusion hfailure
    exact absurd hlate (hearly failed total details)

end GenerateOptions

/-- The commands that only look: all but `init`, and `generate` if it is to check or to say what
it would do. -/
def Command.Looks : Command → Prop
  | .generate options => options.Looks
  | .list _ => True
  | .validate _ => True
  | .init _ => False

instance (command : Command) : Decidable command.Looks :=
  match command with
  | .generate options =>
      inferInstanceAs (Decidable (options.check = true ∨ options.dryRun = true))
  | .list _ => isTrue trivial
  | .validate _ => isTrue trivial
  | .init _ => isFalse nofun

theorem Command.makes_run (command : Command) (hlooks : command.Looks) (manifest : Option Path)
    (display : Display) : (command.run manifest display).Makes fun _ => False := by
  cases command with
  | generate options =>
    refine (options.makes_work manifest hlooks).bind fun answer => ?_
    cases answer <;> exact trivial
  | list format =>
    refine (Listing.makes_find manifest).bind fun answer => ?_
    cases answer <;> exact trivial
  | validate format => exact (Validation.makes_find manifest).bind fun _ => trivial
  | init options => exact hlooks.elim

/-- Every file is left alone by commands that only look, by a command `generate` that fails before
it writes, and by a run of a generator that fails or is dry.  The generator can be any, and fail at
any of its recipes. -/
theorem keeps_files (invocation : Invocation) (colors : Bool) (generator : Generator)
    (selection : Selection) (output : Path) (workspace : Workspace) :
    (invocation.command.Looks →
      ∀ state ∈ (invocation.run colors).states workspace, state = workspace) ∧
    (∀ options failure, invocation.command = .generate options →
      ((invocation.run colors).run workspace).1.result = .error failure →
      (∀ failed total details, failure ≠ .ofError (.generationFailed failed total details)) →
        ∀ state ∈ (invocation.run colors).states workspace, state = workspace) ∧
    (∀ state ∈ (generator.check selection output).states workspace, state = workspace) ∧
    (∀ state ∈ (generator.generate selection output true).states workspace, state = workspace) ∧
    ∀ dryRun error,
      ((generator.generate selection output dryRun).outcome workspace).1 = .error error →
        ∀ state ∈ (generator.generate selection output dryRun).states workspace,
          state = workspace := by
  refine ⟨fun hlooks => ?_, fun options failure hcommand hfailure hearly => ?_,
    (generator.makes_check selection output).states_eq workspace,
    (generator.makes_generate_dry selection output).states_eq workspace,
    fun dryRun => generator.generate_failsUntouched selection output dryRun workspace⟩
  · exact (invocation.command.makes_run hlooks _ _).states_eq workspace
  · rw [Invocation.run, hcommand] at hfailure ⊢
    exact options.run_states_of_error _ _ hfailure hearly

/-- A run of `generate` for a manifest that is not there. -/
def astray : Invocation where
  command := .generate .standard
  settings := ⟨false, false, some ⟨"missing.toml"⟩, false⟩

theorem keeps_files_fresh :
    (∀ state ∈ (Invocation.run ⟨.list .text, astray.settings⟩ false).states
        (Workspace.fresh "work"), state = Workspace.fresh "work") ∧
      (∀ state ∈ (astray.run false).states (Workspace.fresh "work"),
        state = Workspace.fresh "work") ∧
      ∀ state ∈ (Generator.reluctant.generate .all ⟨"out"⟩ false).states (Workspace.fresh "work"),
        state = Workspace.fresh "work" := by
  have hastray : ((astray.run false).run (Workspace.fresh "work")).1.result =
      .error (.ofError .manifestNotFound) := by
    decide +kernel
  have hlast : ((Generator.reluctant.generate .all ⟨"out"⟩ false).outcome
      (Workspace.fresh "work")).1 = .error (.renderFailed "debian" "clang" "refused") := by
    decide +kernel
  obtain ⟨-, hfailing, -, -, hgenerator⟩ :=
    keeps_files astray false .reluctant .all ⟨"out"⟩ (Workspace.fresh "work")
  obtain ⟨hlooking, -⟩ := keeps_files ⟨.list .text, astray.settings⟩ false .reluctant .all
    ⟨"out"⟩ (Workspace.fresh "work")
  exact ⟨hlooking (by decide), hfailing _ _ rfl hastray nofun, hgenerator _ _ hlast⟩

end RecipeMatrix
