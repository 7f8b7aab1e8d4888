import RecipeMatrix.Proofs.Files.Series

/-!
# Deliveries into a directory

A series of replacements from the workspace it starts in, the making of the directory included.

There are four groups.

* The directory.  `verdict` takes in whether the directory itself can be made.  Then a replacement
  in any settled workspace follows the table (`outcome_replaceContent_of_settled`).
* Along a replacement no name beside it is touched (`replaceContent_frame`).
* `Delivered` says what deliveries leave of the workspace they start in.  A replacement makes one
  more of them (`Delivered.deliver`), and their order does not matter (`Delivered.unique`).
* A single replacement, with `..` in its path too: what it does to the entries that were there
  (`exists_wrote`, `get?_of_replaceContent_error`), and that it can be repeated
  (`outcome_replaceContent_again`).
-/

namespace RecipeMatrix.Files

open Workspace RecipeMatrix.Path

/-! ## The directory -/

/-- The workspace after the directory of some names was made, or was found to be refused. -/
def prepared (base : Path) (workspace : Workspace) : Workspace :=
  ((prepare base).outcome workspace).2

theorem prepared_mem_states (base : Path) (workspace : Workspace) :
    prepared base workspace ∈ (prepare base).states workspace := by
  rw [prepared, Attempt.outcome, Attempt.states]
  exact Program.run_mem_states _ workspace

theorem outcome_prepare_eq (base : Path) (workspace : Workspace) :
    (prepare base).outcome workspace =
      (((prepare base).outcome workspace).1, prepared base workspace) := by
  rw [prepared]

theorem prepared_current (base : Path) (workspace : Workspace) :
    (prepared base workspace).current = workspace.current :=
  (prepare_adds base workspace _ (prepared_mem_states base workspace)).1

theorem prepared_adds (base : Path) (workspace : Workspace) :
    FileSystem.AddsDirectories (fun _ => True) workspace.files (prepared base workspace).files :=
  (prepare_adds base workspace _ (prepared_mem_states base workspace)).2

/-- The verdict on a name, from before its directory is made. -/
def verdict (base : Path) (directory : Place) (workspace : Workspace) (name : String) : Verdict :=
  match ((prepare base).outcome workspace).1 with
  | .error failure => .refused failure
  | .ok () => verdictIn (prepared base workspace).files directory base name

/-- Making the directory settles whether it can be made and which place it is. -/
structure Prepares (base : Path) (directory : Place) (workspace : Workspace) : Prop where
  again : (prepare base).outcome (prepared base workspace) =
    (((prepare base).outcome workspace).1, prepared base workspace)
  reach_eq : ((prepare base).outcome workspace).1 = .ok () →
    (prepared base workspace).reach base = .ok directory

theorem ready_prepared {base : Path} {workspace : Workspace}
    (hok : ((prepare base).outcome workspace).1 = .ok ()) :
    Ready base (prepared base workspace) := by
  have houtcome := outcome_prepare_eq base workspace
  rw [hok] at houtcome
  exact ready_of_outcome_prepare houtcome

/-- Where the directory can be made, it is settled. -/
theorem exists_prepares_of_ok {base : Path} {workspace : Workspace}
    (hok : ((prepare base).outcome workspace).1 = .ok ()) :
    ∃ directory, Prepares base directory workspace := by
  have hready := ready_prepared hok
  obtain ⟨directory, hreach⟩ := hready.reach
  exact ⟨directory, by rw [outcome_prepare_of_ready hready, hok], fun _ => hreach⟩

/-- Once the directory was made or refused, it is settled. -/
theorem prepared_prepared (base : Path) (workspace : Workspace) :
    prepared base (prepared base workspace) = prepared base workspace := by
  cases hanswer : ((prepare base).outcome workspace).1 with
  | ok =>
    have hagain := outcome_prepare_of_ready (ready_prepared hanswer)
    rw [prepared, hagain]
  | error failure =>
    have houtcome := outcome_prepare_eq base workspace
    rw [hanswer] at houtcome
    obtain ⟨second, hagain⟩ := outcome_prepare_refused houtcome
    rw [prepared, hagain]

theorem exists_prepares_prepared (base : Path) (workspace : Workspace) :
    ∃ directory, Prepares base directory (prepared base workspace) := by
  have hkept := prepared_prepared base workspace
  cases hanswer : ((prepare base).outcome (prepared base workspace)).1 with
  | ok => exact exists_prepares_of_ok hanswer
  | error failure =>
    refine ⟨[], ?_, ?_⟩
    · rw [hkept, outcome_prepare_eq base (prepared base workspace), hkept]
    · intro hok
      rw [hanswer] at hok
      cases hok

/-- Without `..` it is always settled. -/
theorem prepares_of_isPlain {base : Path} (hplain : base.IsPlain) (workspace : Workspace) :
    Prepares base (workspace.place base) workspace := by
  cases hanswer : ((prepare base).outcome workspace).1 with
  | ok =>
    obtain ⟨directory, hprepares⟩ := exists_prepares_of_ok hanswer
    refine ⟨hprepares.again, fun hok => ?_⟩
    rw [hprepares.reach_eq hok, place_of_reach hplain (hprepares.reach_eq hok),
      place_congr (prepared_current base workspace)]
  | error failure =>
    refine ⟨?_, fun hok => ?_⟩
    · have houtcome := outcome_prepare_eq base workspace
      rw [hanswer] at houtcome ⊢
      exact outcome_prepare_again hplain houtcome
    · rw [hanswer] at hok
      cases hok

section

variable {base : Path} {directory : Place} {workspace reached : Workspace}

theorem verdict_of_error {failure : Failure}
    (herror : ((prepare base).outcome workspace).1 = .error failure) (name : String) :
    verdict base directory workspace name = .refused failure := by
  simp only [verdict, herror]

theorem verdict_of_ok (hok : ((prepare base).outcome workspace).1 = .ok ()) (name : String) :
    verdict base directory workspace name =
      verdictIn (prepared base workspace).files directory base name := by
  simp only [verdict, hok]

/-- The table of verdicts suits the workspace it is made for. -/
theorem fits_verdict (base : Path) (directory : Place) (workspace : Workspace) :
    Fits (verdict base directory workspace) directory (prepared base workspace).files := by
  cases hanswer : ((prepare base).outcome workspace).1 with
  | error failure =>
    constructor
    · intro name hclears
      simp [verdict_of_error hanswer, Verdict.clears] at hclears
    · intro name hwrites
      simp [verdict_of_error hanswer, Verdict.writes] at hwrites
  | ok =>
    constructor
    · intro name hclears
      rw [verdict_of_ok hanswer] at hclears
      exact (writeRefusal?_eq_none_iff.1 (clears_verdictIn_iff.1 hclears)).2
    · intro name hwrites
      rw [verdict_of_ok hanswer, Verdict.writes_iff, verdictIn_eq_written_iff] at hwrites
      have hwrite := writeRefusal?_eq_none_iff.1 hwrites.2
      exact ⟨directory_of_lookupRefusal? hwrite.1, hwrite.2⟩

/-- The directory is made once. -/
theorem outcome_replaceContent_prepared (hprepares : Prepares base directory workspace)
    {name : String} (hname : IsName name) (content : ByteArray) :
    (replaceContent (base.join ⟨name⟩) content).outcome workspace =
      (replaceContent (base.join ⟨name⟩) content).outcome (prepared base workspace) := by
  simp only [replaceContent, Attempt.outcome_bind, requireParent_join hname, hprepares.again]
  rfl

/-- A directory that cannot be made ends a replacement. -/
theorem outcome_replaceContent_of_error {failure : Failure}
    (herror : ((prepare base).outcome workspace).1 = .error failure) {name : String}
    (hname : IsName name) (content : ByteArray) :
    (replaceContent (base.join ⟨name⟩) content).outcome workspace =
      (.error failure, prepared base workspace) := by
  rw [replaceContent, Attempt.outcome_bind, requireParent_join hname, outcome_prepare_eq, herror]

/-- The directories of a ready workspace decide all verdicts in it. -/
theorem verdictIn_of_keepsDirectories
    (hkeeps : KeepsDirectories directory workspace reached) (name : String) :
    verdictIn reached.files directory base name =
      verdictIn workspace.files directory base name := by
  simp only [verdictIn, writeRefusal?_congr hkeeps.place_eq (hkeeps.directory_iff _)]

/-- Where the directory could be made, a replacement follows the table of verdicts as long as no
directory has changed. -/
theorem outcome_replaceContent_of_keepsDirectories (hprepares : Prepares base directory workspace)
    (hok : ((prepare base).outcome workspace).1 = .ok ())
    (hkeeps : KeepsDirectories directory (prepared base workspace) reached) {name : String}
    (hname : IsName name) (content : ByteArray) :
    (replaceContent (base.join ⟨name⟩) content).outcome reached =
      ((verdict base directory workspace name).answer,
        (verdict base directory workspace name).after reached directory name content) := by
  have hkept := fun place => (hkeeps.directory_iff place).2
  have hready := (ready_prepared hok).mono hkeeps.current_eq hkept
  have hreach := reach_of_directories hkeeps.current_eq hkept (hprepares.reach_eq hok)
  rw [outcome_replaceContent_of_ready hready hreach hname, verdict_of_ok hok,
    verdictIn_of_keepsDirectories hkeeps]

/-- A replacement after others follows the table of verdicts. -/
theorem outcome_replaceContent_of_settled {deliveries : List Delivery}
    (hprepares : Prepares base directory workspace)
    (hsettled : Settled (verdict base directory workspace) directory deliveries
      (prepared base workspace) reached)
    {name : String} (hname : IsName name) (content : ByteArray) :
    (replaceContent (base.join ⟨name⟩) content).outcome reached =
      ((verdict base directory workspace name).answer,
        (verdict base directory workspace name).after reached directory name content) := by
  cases hanswer : ((prepare base).outcome workspace).1 with
  | error failure =>
    have hreached : reached = prepared base workspace :=
      hsettled.eq_start fun delivery _ => by simp [verdict_of_error hanswer, Verdict.clears]
    rw [hreached, replaceContent, Attempt.outcome_bind, requireParent_join hname,
      hprepares.again, hanswer, verdict_of_error hanswer]
    rfl
  | ok =>
    exact outcome_replaceContent_of_keepsDirectories hprepares hanswer
      (hsettled.keepsDirectories (fits_verdict base directory workspace)) hname content

/-! ## The names beside a replacement -/

/-- Along a replacement no name in the directory is touched but the temporary one and the name
itself, which holds what it held or all of its new content. -/
theorem replaceContent_frame (hplain : base.IsPlain) {name : String} (hname : IsName name)
    (content : ByteArray) (workspace : Workspace) :
    ∀ state ∈ (replaceContent (base.join ⟨name⟩) content).states workspace,
      state.current = workspace.current ∧ ∀ other, other ≠ temporaryName name →
        state.files.get? (other :: workspace.place base) =
            workspace.files.get? (other :: workspace.place base) ∨
          other = name ∧
            state.files.get? (other :: workspace.place base) = some (.file content) := by
  have hprepares := prepares_of_isPlain hplain workspace
  have hcurrent := prepared_current base workspace
  have hkept := prepare_beside hplain workspace (prepared_mem_states base workspace)
  -- What the replacement does once the directory is there.
  have hthen (hok : ((prepare base).outcome workspace).1 = .ok ()) :
      ∀ state ∈ (replaceContent (base.join ⟨name⟩) content).states (prepared base workspace),
        state.current = workspace.current ∧ ∀ other, other ≠ temporaryName name →
          state.files.get? (other :: workspace.place base) =
              workspace.files.get? (other :: workspace.place base) ∨
            other = name ∧
              state.files.get? (other :: workspace.place base) = some (.file content) := by
    intro state hstate
    obtain ⟨hsame, hbeside⟩ := (replaceContent_states (ready_prepared hok)
      (hprepares.reach_eq hok) hname content state hstate).beside
    refine ⟨hsame.trans hcurrent, fun other hother => ?_⟩
    rw [← hkept other]
    exact hbeside other hother
  unfold replaceContent at hthen ⊢
  rw [requireParent_join hname] at hthen ⊢
  refine Attempt.forall_states_then.2 ⟨fun state hstate => ?_, fun result reached hreached => ?_⟩
  · exact ⟨(prepare_adds base workspace state hstate).1,
      fun other _ => .inl (prepare_beside hplain workspace hstate other)⟩
  · rw [outcome_prepare_eq] at hreached
    obtain ⟨hok, hprepared⟩ := Prod.mk.inj hreached
    have hagain := hprepares.again
    rw [hok, hprepared] at hagain
    have hstates := hthen hok
    rw [hprepared] at hstates
    exact (Attempt.forall_states_then.1 hstates).2 _ _ hagain

/-! ## Deliveries from the start -/

/-- What deliveries leave of the workspace they start in: without any, the workspace itself. -/
inductive Delivered (base : Path) (directory : Place) (start : Workspace) :
    List Delivery → Workspace → Prop
  /-- Nothing was delivered, and the directory was not made either. -/
  | untouched : Delivered base directory start [] start
  /-- The directory was made, or refused, and the rest follows its verdicts. -/
  | settled {deliveries : List Delivery} {reached : Workspace} (hne : deliveries ≠ [])
      (hsettled : Settled (verdict base directory start) directory deliveries
        (prepared base start) reached) : Delivered base directory start deliveries reached

namespace Delivered

variable {start other : Workspace} {first second : List Delivery}

theorem congr (hdelivered : Delivered base directory start first reached)
    (hmem : ∀ delivery, delivery ∈ second ↔ delivery ∈ first) :
    Delivered base directory start second reached := by
  cases hdelivered with
  | untouched =>
    have hnil : second = [] := List.eq_nil_iff_forall_not_mem.2 fun delivery hdelivery =>
      absurd ((hmem delivery).1 hdelivery) List.not_mem_nil
    rw [hnil]
    exact .untouched
  | settled hne hsettled =>
    refine .settled ?_ (hsettled.congr hmem)
    rintro rfl
    exact hne (List.eq_nil_iff_forall_not_mem.2 fun delivery hdelivery =>
      absurd ((hmem delivery).2 hdelivery) List.not_mem_nil)

/-- The same deliveries from the same start leave the same workspace. -/
theorem unique (hreached : Delivered base directory start first reached)
    (hother : Delivered base directory start second other)
    (hmem : ∀ delivery, delivery ∈ second ↔ delivery ∈ first) : reached = other := by
  have hsame := hother.congr fun delivery => (hmem delivery).symm
  cases hreached with
  | untouched =>
    cases hsame with
    | untouched => rfl
    | settled hne _ => exact absurd rfl hne
  | settled hne hsettled =>
    cases hsame with
    | untouched => exact absurd rfl hne
    | settled _ hother => exact hsettled.unique hother fun _ => Iff.rfl

/-- One more delivery, as a replacement makes it. -/
theorem deliver {delivery : Delivery} (hprepares : Prepares base directory start)
    (hname : IsName delivery.name) (hcompatible : Compatible (delivery :: first))
    (hdelivered : Delivered base directory start first reached) :
    ((replaceContent (base.join ⟨delivery.name⟩) delivery.content).outcome reached).1 =
        (verdict base directory start delivery.name).answer ∧
      Delivered base directory start (delivery :: first)
        ((replaceContent (base.join ⟨delivery.name⟩) delivery.content).outcome reached).2 := by
  have hfrom {middle : Workspace} (hsettled : Settled (verdict base directory start) directory
      first (prepared base start) middle)
      (hsame : (replaceContent (base.join ⟨delivery.name⟩) delivery.content).outcome reached =
        (replaceContent (base.join ⟨delivery.name⟩) delivery.content).outcome middle) :
      ((replaceContent (base.join ⟨delivery.name⟩) delivery.content).outcome reached).1 =
          (verdict base directory start delivery.name).answer ∧
        Delivered base directory start (delivery :: first)
          ((replaceContent (base.join ⟨delivery.name⟩) delivery.content).outcome reached).2 := by
    rw [hsame, outcome_replaceContent_of_settled hprepares hsettled hname]
    exact ⟨rfl, .settled (List.cons_ne_nil _ _)
      (hsettled.deliver (fits_verdict base directory start) hcompatible)⟩
  cases hdelivered with
  | untouched => exact hfrom (.nil _) (outcome_replaceContent_prepared hprepares hname _)
  | settled hne hsettled => exact hfrom hsettled rfl

theorem current_eq (hdelivered : Delivered base directory start first reached) :
    reached.current = start.current := by
  cases hdelivered with
  | untouched => rfl
  | settled hne hsettled =>
    rw [hsettled.current_eq]
    exact prepared_current base start

/-- What stands under a name in the end. -/
theorem get?_name (hplain : base.IsPlain) {delivery : Delivery}
    (hcompatible : Compatible (delivery :: first))
    (hdelivered : Delivered base (start.place base) start first reached) :
    (delivery ∈ first → (verdict base (start.place base) start delivery.name).writes = true →
        reached.files.get? (delivery.name :: start.place base) = some (.file delivery.content)) ∧
      ((delivery ∈ first → (verdict base (start.place base) start delivery.name).writes = false) →
        reached.files.get? (delivery.name :: start.place base) =
          start.files.get? (delivery.name :: start.place base)) := by
  cases hdelivered with
  | untouched => exact ⟨fun hmem _ => absurd hmem List.not_mem_nil, fun _ => rfl⟩
  | settled hne hsettled =>
    refine ⟨hsettled.written delivery, fun hnot => ?_⟩
    rw [hsettled.kept_name hcompatible]
    · exact prepare_beside hplain start (prepared_mem_states base start) delivery.name
    · intro item hitem hwrites hsame
      obtain rfl := hcompatible.eq_of_name_eq hitem hsame
      rw [hnot hitem] at hwrites
      cases hwrites

end Delivered

/-- What is written has a path that can be written down. -/
theorem spells_of_writes {name : String}
    (hwrites : (verdict base directory workspace name).writes = true) :
    ((prepare base).outcome workspace).1 = .ok () ∧ Spells base name := by
  cases hanswer : ((prepare base).outcome workspace).1 with
  | error failure =>
    rw [verdict_of_error hanswer] at hwrites
    cases hwrites
  | ok =>
    rw [verdict_of_ok hanswer, Verdict.writes_iff, verdictIn_eq_written_iff] at hwrites
    exact ⟨rfl, spells_of_lookupRefusal? (writeRefusal?_eq_none_iff.1 hwrites.2).1⟩

/-- A directory that could be made has a path of short names. -/
theorem areShort_of_ok (hplain : base.IsPlain)
    (hok : ((prepare base).outcome workspace).1 = .ok ()) : AreShort base.route :=
  ((reach_eq_ok_iff hplain).1 ((prepares_of_isPlain hplain workspace).reach_eq hok)).2.1

/-- Where a temporary file stands, it can be opened. -/
theorem clears_of_file (hplain : base.IsPlain) {name : String} {content : ByteArray}
    (hspells : Spells base.holder (temporaryName name)) (hshort : AreShort base.route)
    (hname : IsName name)
    (hfile : (prepared base workspace).files.get? (temporaryName name :: workspace.place base) =
      some (.file content)) :
    (verdict base (workspace.place base) workspace name).clears = true := by
  have hdirectory := FileSystem.get?_parent_of_eq hfile
  have hprepares := prepares_of_isPlain hplain workspace
  cases hanswer : ((prepare base).outcome workspace).1 with
  | ok =>
    have hopens : Opens (prepared base workspace) base (workspace.place base) name := by
      rw [Opens, writeRefusal?_eq_none_iff, lookupRefusal?, hspells.1,
        nameIn_eq_ok_iff.2 ⟨hdirectory, hspells.2, rfl⟩]
      exact ⟨rfl, by simp [hfile]⟩
    rw [verdict_of_ok hanswer]
    exact clears_verdictIn_iff.2 hopens
  | error failure =>
    -- The directory is there, so it cannot have been refused.
    have hready : Ready base (prepared base workspace) := by
      cases hempty : base.holder.isEmpty with
      | true => exact .inl hempty
      | false =>
        refine .inr (isDirectory_iff.2 ⟨refusal?_of_join hname.temporary hempty hspells.1, _,
          (reach_eq_ok_iff hplain.holder).2 ⟨rfl, by rwa [route_holder], .inr ?_⟩⟩)
        rw [place_holder, place_congr (prepared_current base workspace), hdirectory]
    have hagain := hprepares.again
    rw [outcome_prepare_of_ready hready, hanswer] at hagain
    cases (Prod.mk.inj hagain).1

/-- No temporary file stays behind. -/
theorem Delivered.isFile_temporary {start : Workspace} {deliveries : List Delivery}
    (hplain : base.IsPlain) (hcompatible : Compatible deliveries)
    (hdelivered : Delivered base (start.place base) start deliveries reached)
    {delivery : Delivery} (hmem : delivery ∈ deliveries) (hname : IsName delivery.name) :
    reached.isFile (temporaryPath (base.join ⟨delivery.name⟩)) = false := by
  cases hfile : reached.isFile (temporaryPath (base.join ⟨delivery.name⟩)) with
  | false => rfl
  | true =>
    obtain ⟨content, hentry⟩ := isFile_iff.1 hfile
    rw [temporaryPath_join hname, found?_join_of_isPlain hname.temporary hplain.holder,
      place_holder, place_congr hdelivered.current_eq, route_holder] at hentry
    split at hentry
    next hwritten =>
      cases hdelivered with
      | untouched => exact absurd hmem List.not_mem_nil
      | settled hne hsettled =>
        cases hclears : (verdict base (start.place base) start delivery.name).clears with
        | true =>
          rw [hsettled.cleared delivery hmem hclears] at hentry
          cases hentry
        | false =>
          rw [hsettled.kept] at hentry
          · rw [clears_of_file hplain hwritten.1 hwritten.2 hname hentry] at hclears
            cases hclears
          · intro item hitem _ hsame
            exact hcompatible.apart item hitem delivery hmem (List.cons.inj hsame).1
          · intro item hitem hitemClears hsame
            rw [temporaryName_inj.1 (List.cons.inj hsame).1, hclears] at hitemClears
            cases hitemClears
    next => cases hentry

/-! ## A single replacement -/

section

variable {start : Workspace} {name : String}

/-- Where the directory is refused a replacement ends, and otherwise it follows its verdict. -/
theorem outcome_replaceContent_cases (base : Path) (start : Workspace) (hname : IsName name)
    (content : ByteArray) :
    (∃ failure, (replaceContent (base.join ⟨name⟩) content).outcome start =
        (.error failure, prepared base start)) ∨
      ∃ directory, Prepares base directory start ∧
        ((prepare base).outcome start).1 = .ok () ∧
        (replaceContent (base.join ⟨name⟩) content).outcome start =
          ((verdict base directory start name).answer,
            (verdict base directory start name).after (prepared base start) directory name
              content) := by
  cases hanswer : ((prepare base).outcome start).1 with
  | error failure => exact .inl ⟨failure, outcome_replaceContent_of_error hanswer hname content⟩
  | ok =>
    obtain ⟨directory, hprepares⟩ := exists_prepares_of_ok hanswer
    refine .inr ⟨directory, hprepares, rfl, ?_⟩
    rw [outcome_replaceContent_prepared hprepares hname]
    exact outcome_replaceContent_of_keepsDirectories hprepares hanswer (.refl _ _) hname content

/-- Of the entries that were there, a verdict touches no more than the file itself and the
temporary one. -/
theorem get?_after_of_ne {content : ByteArray} {place : Place} {entry : Entry}
    (hentry : start.files.get? place = some entry)
    (hwritten : (verdict base directory start name).writes = true → place ≠ name :: directory)
    (hcleared : place ≠ temporaryName name :: directory) :
    ((verdict base directory start name).after (prepared base start) directory name
      content).files.get? place = some entry := by
  rw [get?_after (fits_verdict base directory start), if_neg fun h => hwritten h.1 h.2.symm,
    if_neg fun h => hcleared h.2.symm,
    (prepared_adds base start).get?_of_ne_none (by simp [hentry]), hentry]

theorem get?_of_replaceContent_error {content : ByteArray} {failure : Failure}
    (hname : IsName name)
    (houtcome : (replaceContent (base.join ⟨name⟩) content).outcome start =
      (.error failure, reached))
    {place : Place} {entry : Entry} (hentry : start.files.get? place = some entry)
    (htemporary : place.head? ≠ some (temporaryName name)) :
    reached.files.get? place = some entry := by
  rcases outcome_replaceContent_cases base start hname content with ⟨other, hrefused⟩ |
    ⟨directory, -, -, hverdict⟩
  · obtain rfl := (Prod.mk.inj (houtcome.symm.trans hrefused)).2
    rw [(prepared_adds base start).get?_of_ne_none (by simp [hentry]), hentry]
  · obtain ⟨hanswer, rfl⟩ := Prod.mk.inj (houtcome.symm.trans hverdict)
    refine get?_after_of_ne hentry (fun hwrites => ?_) fun hplace => htemporary (by simp [hplace])
    rw [Verdict.answer_of_writes hwrites] at hanswer
    cases hanswer

/-- What a replacement that succeeds leaves: the file is written in the directory that the path now
leads to, and no other entry that was there is touched. -/
structure Wrote (base : Path) (name : String) (content : ByteArray) (start : Workspace)
    (directory : Place) (reached : Workspace) : Prop where
  reach_eq : reached.reach base = .ok directory
  spells : Spells base name
  written : reached.files.get? (name :: directory) = some (.file content)
  current_eq : reached.current = start.current
  directories : ∀ place, start.files.get? place = some .directory →
    reached.files.get? place = some .directory
  kept : ∀ place entry, start.files.get? place = some entry → place ≠ name :: directory →
    place.head? ≠ some (temporaryName name) → reached.files.get? place = some entry

theorem exists_wrote {content : ByteArray} (hname : IsName name)
    (houtcome : (replaceContent (base.join ⟨name⟩) content).outcome start = (.ok (), reached)) :
    ∃ directory, Wrote base name content start directory reached := by
  rcases outcome_replaceContent_cases base start hname content with ⟨other, hrefused⟩ |
    ⟨directory, hprepares, hok, hverdict⟩
  · cases (Prod.mk.inj (houtcome.symm.trans hrefused)).1
  · obtain ⟨hanswer, rfl⟩ := Prod.mk.inj (houtcome.symm.trans hverdict)
    have hwrites := Verdict.writes_of_answer hanswer.symm
    have hfits := fits_verdict base directory start
    have hkeeps := keepsDirectories_after hfits name content
    exact ⟨directory,
      { reach_eq := reach_of_directories hkeeps.current_eq
          (fun place => (hkeeps.directory_iff place).2) (hprepares.reach_eq hok)
        spells := (spells_of_writes hwrites).2
        written := by rw [get?_after hfits, if_pos ⟨hwrites, rfl⟩]
        current_eq := hkeeps.current_eq.trans (prepared_current base start)
        directories := fun place hplace =>
          (hkeeps.directory_iff place).2 ((prepared_adds base start).directory hplace)
        kept := fun place entry hentry hne htemporary =>
          get?_after_of_ne hentry (fun _ => hne) fun hplace => htemporary (by simp [hplace]) }⟩

/-- A replacement that succeeded succeeds again, and changes nothing. -/
theorem outcome_replaceContent_again {content : ByteArray} (hname : IsName name)
    (houtcome : (replaceContent (base.join ⟨name⟩) content).outcome start = (.ok (), reached)) :
    (replaceContent (base.join ⟨name⟩) content).outcome reached = (.ok (), reached) := by
  rcases outcome_replaceContent_cases base start hname content with ⟨other, hrefused⟩ |
    ⟨directory, hprepares, hok, hverdict⟩
  · cases (Prod.mk.inj (houtcome.symm.trans hrefused)).1
  · obtain ⟨hanswer, rfl⟩ := Prod.mk.inj (houtcome.symm.trans hverdict)
    have hfits := fits_verdict base directory start
    have hkeeps := keepsDirectories_after hfits name content
    rw [outcome_replaceContent_of_keepsDirectories hprepares hok hkeeps hname, ← hanswer]
    refine Prod.ext rfl (Workspace.ext_get? (after_current name content) fun place => ?_)
    rw [get?_after (hfits.mono hkeeps), get?_after hfits]
    split
    · rfl
    · split <;> rfl

end

end

end RecipeMatrix.Files
