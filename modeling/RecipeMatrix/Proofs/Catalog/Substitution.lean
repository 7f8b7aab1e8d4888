import Mathlib.Data.Set.Card
import RecipeMatrix.Proofs.Catalog.Placeholder

/-!
# Commands by their placeholders

What `parse` makes of a text is settled by the positions at which the placeholder stands in it:
none, one, or more (`parse_cases`).  With one position the text is cut there, and rendering puts
the packages in place of that one placeholder and of nothing else (`toList_render_of_parse`).

`Settles` has all of it, with the number of positions in the error where there are several, and
`settles` that every text is settled so.
-/

namespace RecipeMatrix.InstallCommand

/-- `positions` lists each position at which the placeholder stands once. -/
theorem ncard_occursAt (text : List Char) :
    {position | OccursAt text position}.ncard = (positions text).length := by
  have hpositions :
      {position | OccursAt text position} = ((positions text).toFinset : Set Nat) := by
    ext position
    rw [Set.mem_ofPred_eq, Finset.mem_coe, List.mem_toFinset, mem_positions]
  rw [hpositions, Set.ncard_coe_finset, List.toFinset_card_of_nodup (nodup_positions text)]

section

variable {platform command : String}

/-- The three ways in which a command is read, by the number of its placeholders. -/
theorem parse_cases (platform command : String) :
    (positions command.toList = [] ∧
        parse platform command = .error (.missingPlaceholder platform command)) ∨
      (∃ install, (positions command.toList).length = 1 ∧
        parse platform command = .ok install) ∨
      2 ≤ (positions command.toList).length ∧
        parse platform command =
          .error (.multiplePlaceholders platform (positions command.toList).length) := by
  have hlength := length_pieces command.toList
  unfold parse
  rcases hpieces : pieces command.toList with _ | ⟨before, _ | ⟨after, _ | ⟨third, others⟩⟩⟩
  · exact absurd hpieces (pieces_ne_nil _)
  · rw [hpieces] at hlength
    exact .inl ⟨List.length_eq_zero_iff.1 (Nat.succ.inj hlength).symm, rfl⟩
  · rw [hpieces] at hlength
    exact .inr (.inl ⟨_, (Nat.succ.inj hlength).symm, rfl⟩)
  · rw [hpieces] at hlength
    have hcount : (before :: after :: third :: others).length - 1 =
        (positions command.toList).length := by
      rw [hlength, Nat.add_sub_cancel]
    refine .inr (.inr ⟨?_, ?_⟩)
    · rw [← hcount]
      simp
    · rw [← hcount]

theorem parse_eq_missing_iff :
    parse platform command = .error (.missingPlaceholder platform command) ↔
      ∀ position, ¬OccursAt command.toList position := by
  have hnone : (∀ position, ¬OccursAt command.toList position) ↔
      positions command.toList = [] := by
    rw [List.eq_nil_iff_forall_not_mem]
    exact forall_congr' fun position => not_congr mem_positions.symm
  rw [hnone]
  rcases parse_cases platform command with ⟨hnil, hparse⟩ | ⟨install, hone, hparse⟩ |
    ⟨hmany, hparse⟩
  · exact iff_of_true hparse hnil
  · refine iff_of_false (by simp [hparse]) fun hnil => ?_
    simp [hnil] at hone
  · refine iff_of_false (by simp [hparse]) fun hnil => ?_
    simp [hnil] at hmany

theorem parse_eq_multiple_iff {count : Nat} :
    parse platform command = .error (.multiplePlaceholders platform count) ↔
      2 ≤ count ∧ {position | OccursAt command.toList position}.ncard = count := by
  rw [ncard_occursAt]
  rcases parse_cases platform command with ⟨hnil, hparse⟩ | ⟨install, hone, hparse⟩ |
    ⟨hmany, hparse⟩
  · refine iff_of_false (by simp [hparse]) fun ⟨hmany, hcount⟩ => ?_
    rw [← hcount, hnil] at hmany
    simp at hmany
  · refine iff_of_false (by simp [hparse]) fun ⟨hmany, hcount⟩ => ?_
    omega
  · rw [hparse]
    constructor
    · intro hsame
      obtain ⟨-, rfl⟩ := Error.multiplePlaceholders.inj (Except.error.inj hsame)
      exact ⟨hmany, rfl⟩
    · rintro ⟨-, rfl⟩
      rfl

/-- A command is only ever refused for the number of its placeholders. -/
theorem parse_eq_error {error : Error} (hparse : parse platform command = .error error) :
    error = .missingPlaceholder platform command ∨
      ∃ count, error = .multiplePlaceholders platform count := by
  rcases parse_cases platform command with ⟨-, hcase⟩ | ⟨install, -, hcase⟩ | ⟨-, hcase⟩
  · exact .inl (Except.error.inj (hparse.symm.trans hcase))
  · rw [hcase] at hparse
    cases hparse
  · exact .inr ⟨_, Except.error.inj (hparse.symm.trans hcase)⟩

/-- An accepted command is rendered by putting the packages where its placeholder stands.  What is
put in is not looked at again. -/
theorem toList_render_of_parse {install : InstallCommand}
    (hparse : parse platform command = .ok install) {position : Nat}
    (hoccurs : OccursAt command.toList position) (packages : Packages) :
    (install.render packages).toList =
      command.toList.take position ++ packages.joined.toList ++
        command.toList.drop (position + placeholder.toList.length) := by
  obtain rfl := (occursAt_iff_of_parse hparse position).1 hoccurs
  have hcommand : command.toList =
      install.before.toList ++ (placeholder.toList ++ install.after.toList) := by
    rw [← source_of_parse hparse, source, String.toList_append, String.toList_append,
      List.append_assoc]
  rw [hcommand, List.take_left, ← List.drop_drop, List.drop_left, List.drop_left]
  simp [render]

end

/-- What becomes of a text that is declared as an install command. -/
structure Settles (platform command : String) : Prop where
  accepted_iff : (∃ install, parse platform command = .ok install) ↔
    ∃! position, OccursAt command.toList position
  missing_iff : parse platform command = .error (.missingPlaceholder platform command) ↔
    ∀ position, ¬OccursAt command.toList position
  multiple_iff : ∀ count, parse platform command = .error (.multiplePlaceholders platform count) ↔
    2 ≤ count ∧ {position | OccursAt command.toList position}.ncard = count
  /-- There is no other refusal. -/
  refused : ∀ error, parse platform command = .error error →
    error = .missingPlaceholder platform command ∨
      ∃ count, error = .multiplePlaceholders platform count
  /-- An accepted command is the two texts with the placeholder between them, and it can be had
  back. -/
  split : ∀ install, parse platform command = .ok install →
    command = install.before ++ placeholder ++ install.after ∧ install.source = command
  /-- The packages are put, with single spaces between them, where the placeholder stands. -/
  rendered : ∀ install, parse platform command = .ok install →
    ∀ position, OccursAt command.toList position → ∀ packages : Packages,
      (install.render packages).toList =
        command.toList.take position ++ (" ".intercalate packages).toList ++
          command.toList.drop (position + placeholder.toList.length)

/-- Every text is settled by the positions of the placeholder in it. -/
theorem settles (platform command : String) : Settles platform command where
  accepted_iff := exists_parse_iff
  missing_iff := parse_eq_missing_iff
  multiple_iff := fun _ => parse_eq_multiple_iff
  refused := fun _ => parse_eq_error
  split := fun _ hparse => ⟨(source_of_parse hparse).symm, source_of_parse hparse⟩
  rendered := fun _ hparse _ => toList_render_of_parse hparse

/-- Between other braces, inside a part of another placeholder, and twice without a gap. -/
example : parse "p" "\x7b\x7bdeps\x7d\x7d" = .ok ⟨"\x7b", "\x7d"⟩ ∧
    parse "p" "\x7bdep\x7bdeps\x7ds\x7d" = .ok ⟨"\x7bdep", "s\x7d"⟩ ∧
    parse "p" "\x7bdeps\x7d\x7bdeps\x7d" = .error (.multiplePlaceholders "p" 2) := by
  decide +kernel

end RecipeMatrix.InstallCommand
