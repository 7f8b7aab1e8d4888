import RecipeMatrix.Error.Failure

/-!
# What a reader is told about a failure

A failure is put before a reader as an explanation.  Which one depends on how the failure began.

* With an error of this library.  The error itself is explained, whatever contexts were added to
  it (`explanation_known`); from the contexts comes at most the details, where the error has none
  of its own.
* With a refusal for want of permission.  The outermost link is told, with what to do about it.
* In any other way.  All links are told, from the outermost to the innermost, the causes with their
  numbers (`report_eq`).  An error from elsewhere with a chain of causes is a failure that is told:
  its links before the last one stand as contexts.

`explains` puts the three together for every failure.  What it takes from the error itself is said
before: which errors have details (`isSome_details_iff`) and what these list (`inOrder_details`),
and which have a suggestion (`suggestion_eq_none_iff`).
-/

namespace RecipeMatrix

/-! ## Texts in order -/

/-- Texts that stand in a text one after the other. -/
inductive InOrder : List String → List Char → Prop
  | none (text : List Char) : InOrder [] text
  | next (before : List Char) (piece : String) {pieces : List String} {rest : List Char}
      (hrest : InOrder pieces rest) : InOrder (piece :: pieces) (before ++ (piece.toList ++ rest))

theorem InOrder.behind {pieces : List String} {text : List Char} (hpieces : InOrder pieces text)
    (before : List Char) : InOrder pieces (before ++ text) := by
  cases hpieces with
  | none text => exact .none _
  | next first piece hrest =>
    rw [← List.append_assoc]
    exact .next (before ++ first) piece hrest

theorem inOrder_intercalate (separator : String) (pieces : List String) :
    InOrder pieces (separator.intercalate pieces).toList := by
  induction pieces with
  | nil => exact .none _
  | cons piece pieces ih =>
    cases pieces with
    | nil =>
      rw [String.intercalate_singleton, ← List.append_nil piece.toList]
      exact .next [] piece (.none [])
    | cons next pieces =>
      rw [String.intercalate_cons_cons, String.append_assoc, String.toList_append]
      refine .next [] piece ?_
      rw [String.toList_append]
      exact ih.behind _

/-! ## Errors -/

namespace Error

/-- The errors that have details of their own. -/
inductive HasDetails : Error → Prop
  | duplicatePlatform (name : String) : HasDetails (.duplicatePlatform name)
  | duplicateCompiler (name : String) : HasDetails (.duplicateCompiler name)
  | outputCollision (output first second : String) :
      HasDetails (.outputCollision output first second)
  | manifestMalformed (file reason : String) : HasDetails (.manifestMalformed file reason)
  | templateMalformed (reason : String) : HasDetails (.templateMalformed reason)
  | renderFailed (platform compiler reason : String) :
      HasDetails (.renderFailed platform compiler reason)
  | generationFailed (failed total : Nat) (details : List String) :
      HasDetails (.generationFailed failed total details)
  | outOfDate (stale : List String) : HasDetails (.outOfDate stale)

theorem isSome_details_iff {error : Error} : error.details.isSome = true ↔ error.HasDetails := by
  constructor
  · intro hdetails
    cases error <;> first | constructor | cases hdetails
  · intro hdetails
    cases hdetails <;> rfl

/-- What an error holds beyond its message, apart from names to try instead. -/
def unsaid : Error → List String
  | manifestMalformed _ reason => [reason]
  | generationFailed _ _ failures => failures
  | outOfDate stale => stale
  | _ => []

/-- The details make up for it. -/
theorem inOrder_details {error : Error} {details : String}
    (hdetails : error.details = some details) : InOrder error.unsaid details.toList := by
  cases error with
  | manifestMalformed file reason =>
    obtain rfl := Option.some.inj hdetails
    exact inOrder_intercalate "" [reason]
  | generationFailed failed total failures =>
    rw [← Option.some.inj hdetails, String.toList_append]
    exact (inOrder_intercalate _ failures).behind _
  | outOfDate stale =>
    rw [← Option.some.inj hdetails]
    exact inOrder_intercalate _ stale
  | _ => exact .none _

/-- Nothing is suggested about a template, nor about what went wrong elsewhere. -/
theorem suggestion_eq_none_iff {error : Error} :
    error.suggestion = none ↔
      (∃ reason, error = .templateMalformed reason) ∨
      (∃ platform compiler reason, error = .renderFailed platform compiler reason) ∨
      (∃ reason, error = .notSerializable reason) ∨ ∃ message, error = .other message := by
  cases error <;> simp [suggestion]

/-- Whoever wrote a catalog is always told what to do about a defect of it. -/
theorem isSome_suggestion_of_isConfiguration {error : Error}
    (hconfiguration : error.isConfiguration = true) : error.suggestion.isSome = true := by
  rw [Option.isSome_iff_ne_none, ne_eq, suggestion_eq_none_iff]
  rintro (⟨_, rfl⟩ | ⟨_, _, _, rfl⟩ | ⟨_, rfl⟩ | ⟨_, rfl⟩) <;> cases hconfiguration

end Error

namespace Failure

/-! ## Numbered causes -/

/-- The line of a cause with its number. -/
def causeLine (item : String × Nat) : String :=
  "\n  " ++ toString item.2 ++ ": " ++ item.1

theorem numbered_eq (number : Nat) (causes : List String) :
    numbered number causes = String.join ((causes.zipIdx number).map causeLine) := by
  induction causes generalizing number with
  | nil => rw [numbered, List.zipIdx_nil, List.map_nil, String.join_nil]
  | cons cause causes ih =>
    rw [numbered, ih, List.zipIdx_cons, List.map_cons, String.join_cons, causeLine]

theorem inOrder_numbered (number : Nat) (causes : List String) :
    InOrder causes (numbered number causes).toList := by
  induction causes generalizing number with
  | nil => exact .none _
  | cons cause causes ih =>
    have hline := InOrder.next ("\n  " ++ toString number ++ ": ").toList cause (ih (number + 1))
    rwa [← String.toList_append, ← String.toList_append, ← String.append_assoc] at hline

/-! ## Reports -/

theorem exists_links (failure : Failure) :
    ∃ outermost causes, failure.links = outermost :: causes := by
  have hcause := failure.cause.links_ne_nil
  exact List.exists_cons_of_ne_nil (by simp [links, hcause])

/-- On one line each cause stands behind a colon. -/
theorem summary_eq {failure : Failure} {outermost : String} {causes : List String}
    (hlinks : failure.links = outermost :: causes) :
    failure.summary = outermost ++ String.join (causes.map fun cause => ": " ++ cause) := by
  rw [summary, hlinks]
  clear hlinks
  induction causes generalizing outermost with
  | nil => simp
  | cons cause causes ih =>
    rw [String.intercalate_cons_cons, ih, List.map_cons, String.join_cons]
    simp only [String.append_assoc]

theorem inOrder_summary (failure : Failure) : InOrder failure.links failure.summary.toList :=
  inOrder_intercalate _ _

theorem report_eq {failure : Failure} {outermost : String} {causes : List String}
    (hlinks : failure.links = outermost :: causes) :
    failure.report = outermost ++ (if causes = [] then "" else "\n\nCaused by:") ++
      String.join ((causes.zipIdx 1).map causeLine) := by
  have hmessage : failure.message = outermost := by rw [message, hlinks, List.headD_cons]
  rw [← numbered_eq, report, hlinks, hmessage, List.tail_cons]
  cases causes with
  | nil => simp [numbered]
  | cons cause causes => simp

theorem inOrder_report (failure : Failure) : InOrder failure.links failure.report.toList := by
  obtain ⟨outermost, causes, hlinks⟩ := exists_links failure
  have hcauses := (inOrder_numbered 1 causes).behind
    (if causes = [] then "" else "\n\nCaused by:").toList
  rw [report_eq hlinks, ← numbered_eq, hlinks, String.toList_append, String.toList_append,
    List.append_assoc]
  exact .next [] outermost hcauses

/-! ## Explanations -/

/-- An error of this library is explained as on its own, but for the details. -/
theorem explanation_known (contexts : List String) (error : Error) :
    (⟨contexts, .known error⟩ : Failure).explanation =
      ⟨error.shown,
        error.details.or (if 1 < (links ⟨contexts, .known error⟩).length then
          some (message ⟨contexts, .known error⟩) else none),
        error.suggestion⟩ := by
  rcases Option.eq_none_or_eq_some error.details with hdetails | ⟨details, hdetails⟩
  · by_cases hlong : 1 < (links ⟨contexts, .known error⟩).length
    · simp [explanation, Error.explanation, Explanation.withDetails, hdetails, hlong]
    · simp [explanation, Error.explanation, hdetails, hlong]
  · simp [explanation, Error.explanation, hdetails]

/-- What is told about a failure that began with an error of this library. -/
structure TellsError (failure : Failure) (error : Error) : Prop where
  message_eq : failure.explanation.error.message = error.message
  isConfiguration_eq : failure.explanation.error.isConfiguration = error.isConfiguration
  /-- It is the same error.  Only of a serialization error no more than the message is kept. -/
  error_eq : failure.explanation.error = error ∨
    ∃ reason, error = .notSerializable reason ∧ failure.explanation.error = .other error.message
  /-- What to do does not depend on the contexts. -/
  suggestion_eq : failure.explanation.suggestion = error.suggestion
  /-- Details of the error itself come first. -/
  ownDetails : ∀ details, error.details = some details →
    failure.explanation.details = some details
  /-- Without any, the outermost link stands in for them if there are more links than one. -/
  outermostDetails : error.details = none → ∀ outermost cause causes,
    failure.links = outermost :: cause :: causes → failure.explanation.details = some outermost
  noDetails : error.details = none → ∀ only, failure.links = [only] →
    failure.explanation.details = none

theorem tellsError {failure : Failure} {error : Error} (hcause : failure.cause = .known error) :
    TellsError failure error := by
  obtain ⟨contexts, cause⟩ := failure
  obtain rfl : cause = .known error := hcause
  have hexplanation := explanation_known contexts error
  exact
    { message_eq := by rw [hexplanation, error.message_shown]
      isConfiguration_eq := by rw [hexplanation, error.isConfiguration_shown]
      error_eq := by
        rw [hexplanation]
        cases error with
        | notSerializable reason => exact .inr ⟨reason, rfl, rfl⟩
        | _ => exact .inl rfl
      suggestion_eq := by rw [hexplanation]
      ownDetails := fun details hdetails => by rw [hexplanation, hdetails, Option.some_or]
      outermostDetails := fun hdetails outermost cause causes hlinks => by
        rw [hexplanation, hdetails, Option.none_or, message, hlinks]
        simp
      noDetails := fun hdetails only hlinks => by
        rw [hexplanation, hdetails, Option.none_or, hlinks]
        simp }

/-- What is told about a failure, by how it began. -/
structure Explains (failure : Failure) : Prop where
  known : ∀ error, failure.cause = .known error → TellsError failure error
  /-- A refusal for want of permission, under any contexts. -/
  forbidden : ∀ refusal, failure.cause = .system refusal → refusal.isForbidden = true →
    failure.explanation.error.message = failure.contexts.headD refusal.message ∧
      failure.explanation.suggestion = some "Check write permissions on the output directory" ∧
      failure.explanation.details = none
  /-- Anything else is told with all links in order, and with numbers for the causes. -/
  told : (∀ error, failure.cause ≠ .known error) →
    (∀ refusal, failure.cause = .system refusal → refusal.isForbidden = false) →
    failure.explanation.suggestion = none ∧ failure.explanation.details = none ∧
      InOrder failure.links failure.explanation.error.message.toList ∧
      ∃ outermost causes, failure.links = outermost :: causes ∧
        failure.explanation.error.message =
          outermost ++ (if causes = [] then "" else "\n\nCaused by:") ++
            String.join ((causes.zipIdx 1).map causeLine)

/-- A failure that is neither an error of this library nor a want of permission is told as its
report. -/
theorem explanation_told {failure : Failure} (hknown : ∀ error, failure.cause ≠ .known error)
    (hsystem : ∀ refusal, failure.cause = .system refusal → refusal.isForbidden = false) :
    failure.explanation = .bare (.other failure.report) := by
  unfold explanation
  split
  next error hcause => exact absurd hcause (hknown error)
  next refusal hcause => rw [hsystem refusal hcause, if_neg Bool.false_ne_true]
  next => rfl

theorem explanation_forbidden {failure : Failure} {refusal : SystemError}
    (hcause : failure.cause = .system refusal) (hforbidden : refusal.isForbidden = true) :
    failure.explanation = ⟨.other (failure.contexts.headD refusal.message), none,
      some "Check write permissions on the output directory"⟩ := by
  obtain ⟨contexts, cause⟩ := failure
  obtain rfl : cause = .system refusal := hcause
  have hmessage : message ⟨contexts, .system refusal⟩ = contexts.headD refusal.message := by
    cases contexts <;> rfl
  simp only [explanation, hforbidden, if_true, hmessage]
  rfl

/-- Every failure is explained by how it began. -/
theorem explains (failure : Failure) : Explains failure where
  known := fun _ => tellsError
  forbidden := fun refusal hcause hforbidden => by
    rw [explanation_forbidden hcause hforbidden]
    exact ⟨rfl, rfl, rfl⟩
  told := fun hknown hsystem => by
    obtain ⟨outermost, causes, hlinks⟩ := exists_links failure
    rw [explanation_told hknown hsystem]
    exact ⟨rfl, rfl, inOrder_report failure, outermost, causes, hlinks, report_eq hlinks⟩

/-- A context gives way to the details of an error, and a told cause gets a number. -/
example : (explanation ⟨["outer"], .known (.outOfDate ["a", "b"])⟩).details = some "a, b" ∧
    (explanation ⟨["outer"], .known .manifestNotFound⟩).details = some "outer" ∧
    (explanation ⟨["outer", "inner"], .told "root"⟩).error.message =
      "outer\n\nCaused by:\n  1: inner\n  2: root" := by
  decide +kernel

end Failure

end RecipeMatrix
