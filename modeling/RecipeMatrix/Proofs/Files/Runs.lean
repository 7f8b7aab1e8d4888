import Mathlib.Data.List.Chain
import RecipeMatrix.Files.Replacement

/-!
# Runs of programs

What holds along a run follows from what single changes keep.

There are four groups.

* States.  `forall_states_bind` looks at all states of a sequence by way of those of its parts,
  `self_mem_states` and `run_mem_states` say that a run begins and ends among its states.
* Changes.  `Makes allowed program` says that a program makes no other changes than allowed ones,
  whatever the answers are.  `Makes.invariant` carries an invariant of the allowed changes to
  every state of a run, and `Makes.isChain` what each of them does to the states one after the
  other.
* Two runs.  `EndAlike related` says that two runs leave one workspace and related results; it is
  closed under sequences (`EndAlike.bind`, `endAlike_then`) and under lists (`EndAlike.mapM`).
* Attempts.  `outcome_during` sees through an added context, and `forall_states_then` and
  `isChain_states_then` are the rules for a sequence that stops at the first error.
-/

namespace RecipeMatrix

namespace Program

variable {α β : Type}

/-! ## States -/

theorem self_mem_states (program : Program α) (workspace : Workspace) :
    workspace ∈ program.states workspace := by
  induction program generalizing workspace with
  | done result => exact List.mem_singleton.2 rfl
  | ask question next ih => exact ih _ _
  | change step next ih => exact List.mem_append_left _ List.mem_cons_self

theorem run_mem_states (program : Program α) (workspace : Workspace) :
    (program.run workspace).2 ∈ program.states workspace := by
  induction program generalizing workspace with
  | done result => exact List.mem_singleton.2 rfl
  | ask question next ih => exact ih _ _
  | change step next ih => exact List.mem_append_right _ (ih _ _)

/-- The states of a sequence are the states of its parts. -/
theorem forall_states_bind {program : Program α} {after : α → Program β}
    {workspace : Workspace} {holds : Workspace → Prop} :
    (∀ state ∈ (program >>= after).states workspace, holds state) ↔
      (∀ state ∈ program.states workspace, holds state) ∧
        ∀ state ∈ (after (program.run workspace).1).states (program.run workspace).2,
          holds state := by
  obtain ⟨before, hfirst, hboth⟩ := states_bind program after workspace
  have hjoint := self_mem_states (after (program.run workspace).1) (program.run workspace).2
  rw [hfirst, hboth]
  constructor
  · intro h
    refine ⟨fun state hstate => ?_, fun state hstate => h state (List.mem_append_right _ hstate)⟩
    rcases List.mem_append.1 hstate with hstate | hstate
    · exact h state (List.mem_append_left _ hstate)
    · rw [List.mem_singleton.1 hstate]
      exact h _ (List.mem_append_right _ hjoint)
  · rintro ⟨hbefore, hafter⟩ state hstate
    rcases List.mem_append.1 hstate with hstate | hstate
    · exact hbefore state (List.mem_append_left _ hstate)
    · exact hafter state hstate

/-- A run begins with the workspace it is given. -/
theorem exists_states_eq (program : Program α) (workspace : Workspace) :
    ∃ later, program.states workspace = workspace :: later := by
  induction program generalizing workspace with
  | done result => exact ⟨[], rfl⟩
  | ask question next ih => exact ih _ _
  | change step next ih => exact ⟨_, rfl⟩

/-- The states of a sequence follow each other as those of its parts do. -/
theorem isChain_states_bind {program : Program α} {after : α → Program β} {workspace : Workspace}
    {follows : Workspace → Workspace → Prop}
    (hprogram : (program.states workspace).IsChain follows)
    (hafter : ((after (program.run workspace).1).states
      (program.run workspace).2).IsChain follows) :
    ((program >>= after).states workspace).IsChain follows := by
  obtain ⟨before, hfirst, hboth⟩ := states_bind program after workspace
  obtain ⟨later, hlater⟩ := exists_states_eq (after (program.run workspace).1)
    (program.run workspace).2
  rw [hfirst] at hprogram
  rw [hlater] at hafter
  rw [hboth, hlater]
  exact List.isChain_split.2 ⟨hprogram, hafter⟩

@[simp]
theorem states_pure (result : α) (workspace : Workspace) :
    (pure result : Program α).states workspace = [workspace] := rfl

/-- What is made of a result afterwards has no part in the states before it. -/
@[simp]
theorem states_map (f : α → β) (program : Program α) (workspace : Workspace) :
    (f <$> program).states workspace = program.states workspace := by
  rw [← bind_pure_comp]
  change (program.bind fun result => done (f result)).states workspace = _
  induction program generalizing workspace with
  | done result => rfl
  | ask question next ih => exact ih _ _
  | change step next ih => exact congrArg _ (ih _ _)

/-- A program that goes on without a step passes through no other states. -/
theorem forall_states_conclude {program : Program α} {after : α → Program β}
    {workspace : Workspace} {holds : Workspace → Prop}
    (hafter : ∀ answer, ∃ result, after answer = pure result) :
    (∀ state ∈ (program >>= after).states workspace, holds state) ↔
      ∀ state ∈ program.states workspace, holds state := by
  rw [forall_states_bind]
  obtain ⟨result, hresult⟩ := hafter (program.run workspace).1
  rw [hresult, states_pure]
  refine and_iff_left_of_imp fun hall state hstate => ?_
  rw [List.mem_singleton.1 hstate]
  exact hall _ (run_mem_states program workspace)

/-! The answers of single questions. -/

@[simp]
theorem run_present (path : Path) (workspace : Workspace) :
    run (α := Bool) (question (.present path)) workspace =
      (workspace.present path, workspace) := rfl

@[simp]
theorem run_isFile (path : Path) (workspace : Workspace) :
    run (α := Bool) (question (.isFile path)) workspace = (workspace.isFile path, workspace) :=
  rfl

@[simp]
theorem run_isDirectory (path : Path) (workspace : Workspace) :
    run (α := Bool) (question (.isDirectory path)) workspace =
      (workspace.isDirectory path, workspace) := rfl

@[simp]
theorem run_content (path : Path) (workspace : Workspace) :
    run (α := Except SystemError ByteArray) (question (.content path)) workspace =
      (workspace.content path, workspace) := rfl

/-- A question with two answers, and what follows each. -/
theorem run_if {program : Program Bool} {answer : Bool} {workspace : Workspace}
    (hanswer : program.run workspace = (answer, workspace)) (yes no : Program α) :
    run (do if ← program then yes else no) workspace =
      if answer then yes.run workspace else no.run workspace := by
  rw [run_bind, hanswer]
  cases answer <;> rfl

/-- The states of one change: before it, in the middle, and after it. -/
theorem forall_states_perform {step : Workspace.Change} {workspace : Workspace}
    {holds : Workspace → Prop} :
    (∀ state ∈ (perform step).states workspace, holds state) ↔
      holds workspace ∧ (∀ state ∈ workspace.during step, holds state) ∧
        holds (workspace.perform step).2 := by
  have hstates : (perform step).states workspace =
      workspace :: workspace.during step ++ [(workspace.perform step).2] := rfl
  simp [hstates, or_imp, forall_and]

theorem run_mapM_nil {γ : Type} (f : γ → Program α) (workspace : Workspace) :
    (([] : List γ).mapM f).run workspace = ([], workspace) := rfl

theorem run_mapM_cons {γ : Type} (f : γ → Program α) (item : γ) (items : List γ)
    (workspace : Workspace) :
    ((item :: items).mapM f).run workspace =
      (((f item).run workspace).1 :: ((items.mapM f).run ((f item).run workspace).2).1,
        ((items.mapM f).run ((f item).run workspace).2).2) := by
  rw [List.mapM_cons, run_bind, run_bind, run_pure]

/-- Each result of a list is that of one of its items, run from some workspace. -/
theorem exists_of_mem_run_mapM {γ : Type} {f : γ → Program α} {items : List γ}
    {workspace : Workspace} {result : α} (hresult : result ∈ ((items.mapM f).run workspace).1) :
    ∃ item ∈ items, ∃ reached, ((f item).run reached).1 = result := by
  induction items generalizing workspace with
  | nil => exact absurd hresult List.not_mem_nil
  | cons item items ih =>
    rw [run_mapM_cons] at hresult
    rcases List.mem_cons.1 hresult with rfl | hresult
    · exact ⟨item, List.mem_cons_self, workspace, rfl⟩
    · obtain ⟨other, hother, hfound⟩ := ih hresult
      exact ⟨other, List.mem_cons_of_mem item hother, hfound⟩

/-- What each item of a list keeps, in all its states, holds in all states of the list. -/
theorem forall_states_mapM {γ : Type} {f : γ → Program α} {items : List γ}
    {holds : Workspace → Prop}
    (hitem : ∀ item ∈ items, ∀ workspace, holds workspace →
      ∀ state ∈ (f item).states workspace, holds state)
    {workspace : Workspace} (hstart : holds workspace) :
    ∀ state ∈ (items.mapM f).states workspace, holds state := by
  induction items generalizing workspace with
  | nil =>
    intro state hstate
    rw [List.mem_singleton.1 hstate]
    exact hstart
  | cons item items ih =>
    have hfirst := hitem item List.mem_cons_self workspace hstart
    have hend := hfirst _ (run_mem_states _ _)
    have hrest := ih (fun other hother => hitem other (List.mem_cons_of_mem item hother)) hend
    rw [List.mapM_cons]
    refine forall_states_bind.2 ⟨hfirst, forall_states_bind.2 ⟨hrest, fun state hstate => ?_⟩⟩
    rw [List.mem_singleton.1 hstate]
    exact hrest _ (run_mem_states _ _)

/-! ## Changes -/

/-- Whatever the answers are, only allowed changes are made. -/
def Makes (allowed : Workspace.Change → Prop) : Program α → Prop
  | done _ => True
  | ask _ next => ∀ answer, (next answer).Makes allowed
  | change step next => allowed step ∧ ∀ answer, (next answer).Makes allowed

theorem makes_question {allowed : Workspace.Change → Prop} (q : Question) :
    (question q).Makes allowed := fun _ => trivial

theorem makes_perform {allowed : Workspace.Change → Prop} {step : Workspace.Change}
    (hstep : allowed step) : (perform step).Makes allowed :=
  ⟨hstep, fun _ => trivial⟩

theorem Makes.bind {allowed : Workspace.Change → Prop} {program : Program α}
    {after : α → Program β} (hprogram : program.Makes allowed)
    (hafter : ∀ result, (after result).Makes allowed) : (program >>= after).Makes allowed := by
  change (program.bind after).Makes allowed
  induction program with
  | done result => exact hafter result
  | ask question next ih => exact fun answer => ih answer (hprogram answer)
  | change step next ih => exact ⟨hprogram.1, fun answer => ih answer (hprogram.2 answer)⟩

theorem Makes.mono {first second : Workspace.Change → Prop} {program : Program α}
    (hprogram : program.Makes first) (himp : ∀ step, first step → second step) :
    program.Makes second := by
  induction program with
  | done result => trivial
  | ask question next ih => exact fun answer => ih answer (hprogram answer)
  | change step next ih =>
    exact ⟨himp step hprogram.1, fun answer => ih answer (hprogram.2 answer)⟩

theorem Makes.mapM {γ : Type} {allowed : Workspace.Change → Prop} {f : γ → Program α}
    {items : List γ} (hitem : ∀ item ∈ items, (f item).Makes allowed) :
    (items.mapM f).Makes allowed := by
  induction items with
  | nil => exact trivial
  | cons item items ih =>
    rw [List.mapM_cons]
    exact (hitem item List.mem_cons_self).bind fun _ =>
      (ih fun other hother => hitem other (List.mem_cons_of_mem item hother)).bind
        fun _ => trivial

/-- A program that only asks stays where it is. -/
theorem Makes.states_eq {program : Program α} (hprogram : program.Makes fun _ => False)
    (workspace : Workspace) : ∀ state ∈ program.states workspace, state = workspace := by
  induction program with
  | done result => exact fun state hstate => List.mem_singleton.1 hstate
  | ask question next ih => exact ih _ (hprogram _)
  | change step next ih => exact hprogram.1.elim

/-- What every allowed change keeps, in the middle and at its end, holds in all states. -/
theorem Makes.invariant {allowed : Workspace.Change → Prop} {holds : Workspace → Prop}
    {program : Program α} (hprogram : program.Makes allowed)
    (hkeep : ∀ step, allowed step → ∀ workspace, holds workspace →
      (∀ state ∈ workspace.during step, holds state) ∧ holds (workspace.perform step).2)
    {workspace : Workspace} (hstart : holds workspace) :
    ∀ state ∈ program.states workspace, holds state := by
  induction program generalizing workspace with
  | done result =>
    intro state hstate
    rw [List.mem_singleton.1 hstate]
    exact hstart
  | ask question next ih => exact ih _ (hprogram _) hstart
  | change step next ih =>
    obtain ⟨hduring, hend⟩ := hkeep step hprogram.1 workspace hstart
    intro state hstate
    rcases List.mem_append.1 hstate with hstate | hstate
    · rcases List.mem_cons.1 hstate with rfl | hstate
      · exact hstart
      · exact hduring state hstate
    · exact ih _ (hprogram.2 _) hend state hstate

/-- Where each allowed change brings its states one after the other, so does a whole run. -/
theorem Makes.isChain {allowed : Workspace.Change → Prop}
    {follows : Workspace → Workspace → Prop} {program : Program α}
    (hprogram : program.Makes allowed)
    (hstep : ∀ step, allowed step → ∀ workspace : Workspace,
      ((workspace :: workspace.during step) ++ [(workspace.perform step).2]).IsChain follows)
    (workspace : Workspace) : (program.states workspace).IsChain follows := by
  induction program generalizing workspace with
  | done result => exact List.isChain_singleton workspace
  | ask question next ih => exact ih _ (hprogram _) _
  | change step next ih =>
    have hnext := ih (workspace.perform step).1 (hprogram.2 _) (workspace.perform step).2
    obtain ⟨later, hlater⟩ := exists_states_eq (next (workspace.perform step).1)
      (workspace.perform step).2
    rw [hlater] at hnext
    simp only [states, hlater]
    exact List.isChain_split.2 ⟨hstep step hprogram.1 workspace, hnext⟩

/-! ## Two runs -/

/-- Two runs that leave one workspace, and related results. -/
structure EndAlike (related : α → β → Prop) (first : α × Workspace) (second : β × Workspace) :
    Prop where
  result : related first.1 second.1
  workspace_eq : first.2 = second.2

namespace EndAlike

variable {γ δ : Type} {related : α → β → Prop} {workspace : Workspace}

theorem bind {later : γ → δ → Prop} {first : Program α} {second : Program β}
    {after : α → Program γ} {afterOther : β → Program δ}
    (hfirst : EndAlike related (first.run workspace) (second.run workspace))
    (hafter : ∀ one other, related one other → EndAlike later
      ((after one).run (first.run workspace).2) ((afterOther other).run (first.run workspace).2)) :
    EndAlike later ((first >>= after).run workspace) ((second >>= afterOther).run workspace) := by
  rw [run_bind, run_bind, ← hfirst.workspace_eq]
  exact hafter _ _ hfirst.result

/-- Two lists that are gone through side by side.  What a pair of items needs of the workspace is
kept by the pairs before it. -/
theorem mapM {matched : γ → δ → Prop} {invariant : Workspace → Prop} {f : γ → Program α}
    {g : δ → Program β} {items : List γ} {others : List δ}
    (hitems : List.Forall₂ matched items others)
    (hstep : ∀ item other, matched item other → ∀ workspace, invariant workspace →
      EndAlike related ((f item).run workspace) ((g other).run workspace) ∧
        invariant ((f item).run workspace).2)
    (hstart : invariant workspace) :
    EndAlike (List.Forall₂ related) ((items.mapM f).run workspace)
        ((others.mapM g).run workspace) ∧
      invariant ((items.mapM f).run workspace).2 := by
  induction hitems generalizing workspace with
  | nil => exact ⟨⟨.nil, rfl⟩, hstart⟩
  | @cons item other items others hmatched _ ih =>
    obtain ⟨hfirst, hkept⟩ := hstep item other hmatched workspace hstart
    obtain ⟨hrest, hend⟩ := ih hkept
    rw [run_mapM_cons, run_mapM_cons, ← hfirst.workspace_eq]
    exact ⟨⟨.cons hfirst.result hrest.result, hrest.workspace_eq⟩, hend⟩

end EndAlike

end Program

/-- Two results that are both failures, or both values that are related. -/
inductive ResultsAlike {ε δ α β : Type} (related : α → β → Prop) :
    Except ε α → Except δ β → Prop
  | error {first : ε} {second : δ} : ResultsAlike related (.error first) (.error second)
  | ok {first : α} {second : β} (hrelated : related first second) :
      ResultsAlike related (.ok first) (.ok second)

theorem ResultsAlike.self {ε α : Type} (result : Except ε α) : ResultsAlike Eq result result := by
  cases result with
  | error error => exact .error
  | ok value => exact .ok rfl

theorem ResultsAlike.mapError {ε δ κ ι α β : Type} {related : α → β → Prop}
    {first : Except ε α} {second : Except δ β} (hresults : ResultsAlike related first second)
    (convert : ε → κ) (other : δ → ι) :
    ResultsAlike related (first.mapError convert) (second.mapError other) := by
  cases hresults with
  | error => exact .error
  | ok hrelated => exact .ok hrelated

/-! ## Attempts -/

theorem mapError_ok {α ε δ : Type} (convert : ε → δ) (result : α) :
    (Except.ok result : Except ε α).mapError convert = .ok result := rfl

theorem mapError_error {α ε δ : Type} (convert : ε → δ) (error : ε) :
    (Except.error error : Except ε α).mapError convert = .error (convert error) := rfl

namespace Attempt

variable {ε α β : Type}

theorem makes_mapError {δ : Type} {allowed : Workspace.Change → Prop} {attempt : Attempt ε α}
    (convert : ε → δ) (hattempt : Program.Makes allowed (ExceptT.run attempt)) :
    Program.Makes allowed (ExceptT.run (mapError convert attempt)) := by
  simp only [mapError, ExceptT.run, ExceptT.mk]
  refine hattempt.bind fun answer => ?_
  cases answer <;> exact trivial

/-- An error told in other terms is the same error. -/
theorem outcome_mapError {δ : Type} (convert : ε → δ) (attempt : Attempt ε α)
    (workspace : Workspace) :
    outcome (mapError convert attempt) workspace =
      ((outcome attempt workspace).1.mapError convert, (outcome attempt workspace).2) := by
  simp only [outcome, mapError, ExceptT.run, ExceptT.mk, Program.run_bind]
  cases (Program.run attempt workspace).1 <;> rfl

theorem forall_states_mapError {δ : Type} (convert : ε → δ) (attempt : Attempt ε α)
    (workspace : Workspace) {holds : Workspace → Prop} :
    (∀ state ∈ states (mapError convert attempt) workspace, holds state) ↔
      ∀ state ∈ states attempt workspace, holds state := by
  simp only [states, mapError, ExceptT.run, ExceptT.mk]
  refine Program.forall_states_conclude fun answer => ?_
  cases answer <;> exact ⟨_, rfl⟩

theorem makes_during {allowed : Workspace.Change → Prop} (context : String)
    {program : Program (Except SystemError α)} (hprogram : program.Makes allowed) :
    Program.Makes allowed (ExceptT.run (during context program)) :=
  makes_mapError _ hprogram

theorem outcome_during (context : String) (program : Program (Except SystemError α))
    (workspace : Workspace) :
    outcome (during context program) workspace =
      ((program.run workspace).1.mapError (Failure.ofSystem context),
        (program.run workspace).2) :=
  outcome_mapError _ _ workspace

theorem forall_states_during (context : String) (program : Program (Except SystemError α))
    (workspace : Workspace) {holds : Workspace → Prop} :
    (∀ state ∈ states (during context program) workspace, holds state) ↔
      ∀ state ∈ program.states workspace, holds state :=
  forall_states_mapError _ _ workspace

/-- A question with two answers, and what follows each. -/
theorem outcome_if {program : Program Bool} {answer : Bool} {workspace : Workspace}
    (hanswer : program.run workspace = (answer, workspace)) (yes no : Attempt ε α) :
    outcome (do if ← always program then yes else no) workspace =
      if answer then outcome yes workspace else outcome no workspace := by
  rw [outcome_bind, outcome_always, hanswer]
  cases answer <;> rfl

theorem forall_states_then {attempt : Attempt ε α} {after : α → Attempt ε β}
    {workspace : Workspace} {holds : Workspace → Prop} :
    (∀ state ∈ states (attempt >>= after) workspace, holds state) ↔
      (∀ state ∈ states attempt workspace, holds state) ∧
        ∀ result reached, outcome attempt workspace = (.ok result, reached) →
          ∀ state ∈ states (after result) reached, holds state := by
  have hlast := Program.run_mem_states (ExceptT.run attempt) workspace
  simp only [states, outcome, ExceptT.run_bind, Program.forall_states_bind]
  constructor
  · rintro ⟨hfirst, hsecond⟩
    refine ⟨hfirst, fun result reached hreached => ?_⟩
    simpa only [hreached] using hsecond
  · rintro ⟨hfirst, hsecond⟩
    refine ⟨hfirst, ?_⟩
    rcases hrun : Program.run (ExceptT.run attempt) workspace with ⟨_ | result, reached⟩
    · rw [hrun] at hlast
      simpa using hfirst reached hlast
    · exact hsecond result reached hrun

/-- The states of a sequence follow each other as those of its parts do. -/
theorem isChain_states_then {attempt : Attempt ε α} {after : α → Attempt ε β}
    {workspace : Workspace} {follows : Workspace → Workspace → Prop}
    (hattempt : (states attempt workspace).IsChain follows)
    (hafter : ∀ result reached, outcome attempt workspace = (.ok result, reached) →
      (states (after result) reached).IsChain follows) :
    (states (attempt >>= after) workspace).IsChain follows := by
  unfold states at hattempt ⊢
  rw [ExceptT.run_bind]
  refine Program.isChain_states_bind hattempt ?_
  rcases hrun : Program.run (ExceptT.run attempt) workspace with ⟨_ | result, reached⟩
  · exact List.isChain_singleton reached
  · exact hafter result reached hrun

theorem outcome_mem_states (attempt : Attempt ε α) (workspace : Workspace) :
    (outcome attempt workspace).2 ∈ states attempt workspace :=
  Program.run_mem_states (ExceptT.run attempt) workspace

/-- An attempt that only asks leaves the workspace it was given. -/
theorem outcome_of_makes {attempt : Attempt ε α}
    (hattempt : Program.Makes (fun _ => False) (ExceptT.run attempt)) (workspace : Workspace) :
    outcome attempt workspace = ((outcome attempt workspace).1, workspace) :=
  Prod.ext rfl (hattempt.states_eq workspace _ (outcome_mem_states attempt workspace))

@[simp]
theorem states_pure (result : α) (workspace : Workspace) :
    states (pure result : Attempt ε α) workspace = [workspace] := rfl

@[simp]
theorem states_throw (error : ε) (workspace : Workspace) :
    states (throw error : Attempt ε α) workspace = [workspace] := rfl

theorem forall_states_always (program : Program α) (workspace : Workspace)
    {holds : Workspace → Prop} :
    (∀ state ∈ states (always program : Attempt ε α) workspace, holds state) ↔
      ∀ state ∈ program.states workspace, holds state := by
  have hlast := program.run_mem_states workspace
  simp only [states, always, ExceptT.lift, ExceptT.run, ExceptT.mk, ← bind_pure_comp,
    Program.forall_states_bind, Program.states_pure, List.mem_singleton]
  exact ⟨fun h => h.1, fun h => ⟨h, fun state hstate => hstate ▸ h _ hlast⟩⟩

theorem makes_then {allowed : Workspace.Change → Prop} {attempt : Attempt ε α}
    {after : α → Attempt ε β} (hattempt : Program.Makes allowed (ExceptT.run attempt))
    (hafter : ∀ result, Program.Makes allowed (ExceptT.run (after result))) :
    Program.Makes allowed (ExceptT.run (attempt >>= after)) := by
  rw [ExceptT.run_bind]
  refine Program.Makes.bind hattempt fun answer => ?_
  cases answer with
  | error error => exact trivial
  | ok result => exact hafter result

theorem makes_ofExcept_then {allowed : Workspace.Change → Prop} {first : Except ε α}
    {after : α → Attempt ε β}
    (hafter : ∀ result, Program.Makes allowed (ExceptT.run (after result))) :
    Program.Makes allowed (ExceptT.run (ofExcept first >>= after)) :=
  makes_then trivial hafter

theorem makes_always {allowed : Workspace.Change → Prop} {program : Program α}
    (hprogram : program.Makes allowed) :
    Program.Makes allowed (ExceptT.run (always program : Attempt ε α)) := by
  simp only [always, ExceptT.lift, ExceptT.run, ExceptT.mk, ← bind_pure_comp]
  exact hprogram.bind fun _ => trivial

/-- The program of an attempt, with its result as a value. -/
@[simp]
theorem run_eq_outcome (attempt : Attempt ε α) (workspace : Workspace) :
    Program.run (ExceptT.run attempt) workspace = outcome attempt workspace := rfl

theorem ofExcept_error_then (error : ε) (after : α → Attempt ε β) :
    (ofExcept (.error error) >>= after) = throw error := rfl

theorem ofExcept_ok_then (value : α) (after : α → Attempt ε β) :
    (ofExcept (.ok value) >>= after) = after value := rfl

/-! Two attempts. -/

section

variable {γ δ κ : Type} {related : α → β → Prop} {workspace : Workspace}

/-- A failure ends both attempts. -/
theorem endAlike_then {later : γ → δ → Prop} {first : Attempt ε α} {second : Attempt κ β}
    {after : α → Attempt ε γ} {afterOther : β → Attempt κ δ}
    (hfirst : Program.EndAlike (ResultsAlike related) (first.outcome workspace)
      (second.outcome workspace))
    (hafter : ∀ one other, related one other → Program.EndAlike (ResultsAlike later)
      ((after one).outcome (first.outcome workspace).2)
      ((afterOther other).outcome (first.outcome workspace).2)) :
    Program.EndAlike (ResultsAlike later) ((first >>= after).outcome workspace)
      ((second >>= afterOther).outcome workspace) := by
  obtain ⟨hresult, hworkspace⟩ := hfirst
  rw [outcome_bind, outcome_bind]
  rcases hone : first.outcome workspace with ⟨result, reached⟩
  rcases hother : second.outcome workspace with ⟨other, otherReached⟩
  rw [hone, hother] at hresult hworkspace
  rw [hone] at hafter
  obtain rfl : reached = otherReached := hworkspace
  cases hresult with
  | error => exact ⟨.error, rfl⟩
  | ok hrelated => exact hafter _ _ hrelated

theorem endAlike_mapError {first : Attempt ε α} {second : Attempt κ β} (convert : ε → γ)
    (other : κ → δ)
    (hfirst : Program.EndAlike (ResultsAlike related) (first.outcome workspace)
      (second.outcome workspace)) :
    Program.EndAlike (ResultsAlike related) ((mapError convert first).outcome workspace)
      ((mapError other second).outcome workspace) := by
  rw [outcome_mapError, outcome_mapError]
  exact ⟨hfirst.result.mapError convert other, hfirst.workspace_eq⟩

end

end Attempt

end RecipeMatrix
