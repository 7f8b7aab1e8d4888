import RecipeMatrix.Files.Workspace

/-!
# Programs on files

A program asks about files and changes them, one primitive step after the other, and goes on with
the answers.  It is a value, so that the same program can be run on a workspace, be watched step
by step, or be carried out on a disk.

`run_bind` says that running a sequence is running its parts in turn, and `states_bind` that the
workspaces it passes through are those of its parts.
-/

namespace RecipeMatrix

/-- The questions a program can ask. -/
inductive Question
  | present (path : Path)
  | isFile (path : Path)
  | isDirectory (path : Path)
  | content (path : Path)
  | currentPath

namespace Question

/-- What an answer to a question is. -/
abbrev Answer : Question → Type
  | present _ => Bool
  | isFile _ => Bool
  | isDirectory _ => Bool
  | content _ => Except SystemError ByteArray
  | currentPath => Except SystemError Path

/-- The answer that a workspace gives. -/
def answer (workspace : Workspace) : (question : Question) → question.Answer
  | present path => workspace.present path
  | isFile path => workspace.isFile path
  | isDirectory path => workspace.isDirectory path
  | content path => workspace.content path
  | currentPath => workspace.currentPath

end Question

/-- A sequence of questions and changes that ends in a result. -/
inductive Program (α : Type) : Type
  | done (result : α)
  | ask (question : Question) (next : question.Answer → Program α)
  | change (change : Workspace.Change) (next : Except SystemError Unit → Program α)

namespace Program

variable {α β : Type}

/-- A program followed by another that depends on its result. -/
def bind : Program α → (α → Program β) → Program β
  | done result, after => after result
  | ask question next, after => ask question fun answer => (next answer).bind after
  | change step next, after => change step fun answer => (next answer).bind after

instance : Monad Program where
  pure := done
  bind := bind

/-- The result of a program and the workspace it leaves. -/
def run : Program α → Workspace → α × Workspace
  | done result, workspace => (result, workspace)
  | ask question next, workspace => (next (question.answer workspace)).run workspace
  | change step next, workspace =>
      let (answer, after) := workspace.perform step
      (next answer).run after

/-- Every workspace that a program passes through, from the first to the last, those in the
middle of a write included. -/
def states : Program α → Workspace → List Workspace
  | done _, workspace => [workspace]
  | ask question next, workspace => (next (question.answer workspace)).states workspace
  | change step next, workspace =>
      let (answer, after) := workspace.perform step
      workspace :: workspace.during step ++ (next answer).states after

/-- The program that asks one question. -/
def question (question : Question) : Program question.Answer := ask question done

/-- The program that makes one change. -/
def perform (step : Workspace.Change) : Program (Except SystemError Unit) := change step done

@[simp]
theorem run_pure (result : α) (workspace : Workspace) :
    (pure result : Program α).run workspace = (result, workspace) := rfl

@[simp]
theorem run_question (q : Question) (workspace : Workspace) :
    (question q).run workspace = (q.answer workspace, workspace) := rfl

@[simp]
theorem run_perform (step : Workspace.Change) (workspace : Workspace) :
    (perform step).run workspace = workspace.perform step := rfl

@[simp]
theorem run_bind (program : Program α) (after : α → Program β) (workspace : Workspace) :
    (program >>= after).run workspace =
      (after (program.run workspace).1).run (program.run workspace).2 := by
  change (program.bind after).run workspace = _
  induction program generalizing workspace with
  | done result => rfl
  | ask question next ih => exact ih _ _
  | change step next ih => exact ih _ _

theorem bind_done (program : Program α) : program.bind done = program := by
  induction program with
  | done result => rfl
  | ask question next ih => simp [bind, ih]
  | change step next ih => simp [bind, ih]

theorem bind_bind {γ : Type} (program : Program α) (first : α → Program β)
    (second : β → Program γ) :
    (program.bind first).bind second = program.bind fun result => (first result).bind second := by
  induction program with
  | done result => rfl
  | ask question next ih => simp [bind, ih]
  | change step next ih => simp [bind, ih]

instance : LawfulMonad Program :=
  LawfulMonad.mk' Program (fun program => program.bind_done) (fun _ _ => rfl)
    (fun program first second => program.bind_bind first second)

@[simp]
theorem run_map (f : α → β) (program : Program α) (workspace : Workspace) :
    (f <$> program).run workspace =
      (f (program.run workspace).1, (program.run workspace).2) := by
  rw [← bind_pure_comp, run_bind, run_pure]

/-- The workspaces of a sequence are those of its parts; the one between them is seen twice. -/
theorem states_bind (program : Program α) (after : α → Program β) (workspace : Workspace) :
    ∃ before, program.states workspace = before ++ [(program.run workspace).2] ∧
      (program >>= after).states workspace =
        before ++ (after (program.run workspace).1).states (program.run workspace).2 := by
  change ∃ before, _ ∧ (program.bind after).states workspace = _
  induction program generalizing workspace with
  | done result => exact ⟨[], rfl, rfl⟩
  | ask question next ih => exact ih _ _
  | change step next ih =>
    obtain ⟨before, hfirst, hsecond⟩ :=
      ih (workspace.perform step).1 (workspace.perform step).2
    refine ⟨workspace :: workspace.during step ++ before, ?_, ?_⟩
    · simp only [states, run, hfirst, List.append_assoc, List.cons_append]
    · simp only [bind, states, run, hsecond, List.append_assoc, List.cons_append]

end Program

end RecipeMatrix
