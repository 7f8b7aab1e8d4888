import Mathlib.Data.List.Nodup
import Mathlib.Logic.ExistsUnique
import RecipeMatrix.Catalog.InstallCommand

/-!
# Placeholders in install commands

`parse` cuts a command at its placeholders.  Two facts about the pieces say what that means for
the command itself.

* Put together again with a placeholder between each two, the pieces are the command
  (`intercalate_pieces`).
* There is one piece more than there are positions at which the placeholder stands
  (`length_pieces`).  No two of these overlap, since a placeholder starts with a character that
  does not come again in it.

So a command is accepted where the placeholder stands at exactly one position
(`exists_parse_iff`), and `source` gives the command back (`source_of_parse`).
-/

namespace RecipeMatrix.InstallCommand

/-- The placeholder stands in a text at a position. -/
def OccursAt (text : List Char) (position : Nat) : Prop :=
  placeholder.toList <+: text.drop position

instance (text : List Char) (position : Nat) : Decidable (OccursAt text position) :=
  inferInstanceAs (Decidable (placeholder.toList <+: text.drop position))

/-- The positions of the placeholder in a text, from left to right. -/
def positions (text : List Char) : List Nat :=
  (List.range text.length).filter fun position => OccursAt text position

theorem mem_positions {text : List Char} {position : Nat} :
    position ∈ positions text ↔ OccursAt text position := by
  unfold positions
  rw [List.mem_filter, List.mem_range, decide_eq_true_eq, and_iff_right_iff_imp]
  intro hoccurs
  have hlength : placeholder.toList.length ≤ (text.drop position).length := hoccurs.length_le
  have hplaceholder : placeholder.toList.length = 6 := by decide
  rw [hplaceholder, List.length_drop] at hlength
  omega

theorem nodup_positions (text : List Char) : (positions text).Nodup :=
  List.nodup_range.filter _

theorem positions_cons (c : Char) (text : List Char) :
    positions (c :: text) =
      if OccursAt (c :: text) 0 then 0 :: (positions text).map (· + 1)
      else (positions text).map (· + 1) := by
  have hrest : ((List.range text.length).map Nat.succ).filter
        (fun position => OccursAt (c :: text) position) = (positions text).map (· + 1) := by
    rw [List.filter_map]
    rfl
  unfold positions at hrest ⊢
  rw [List.length_cons, List.range_succ_eq_map, List.filter_cons, hrest]
  simp only [decide_eq_true_eq]

/-- A placeholder does not come again in itself. -/
theorem positions_placeholder (text : List Char) :
    positions (placeholder.toList ++ text) = 0 :: (positions text).map (· + 6) := by
  have htext : placeholder.toList = ['{', 'd', 'e', 'p', 's', '}'] := by decide
  have hnext (c : Char) (rest : List Char) (hc : c ≠ '{') : ¬ OccursAt (c :: rest) 0 := by
    intro hoccurs
    unfold OccursAt at hoccurs
    rw [htext, List.drop_zero, List.cons_prefix_cons] at hoccurs
    exact hc hoccurs.1.symm
  have hfirst : OccursAt (placeholder.toList ++ text) 0 := List.prefix_append _ _
  rw [htext] at hfirst ⊢
  simp only [List.cons_append, List.nil_append] at hfirst ⊢
  rw [positions_cons, if_pos hfirst, positions_cons, if_neg (hnext _ _ (by decide)),
    positions_cons, if_neg (hnext _ _ (by decide)), positions_cons,
    if_neg (hnext _ _ (by decide)), positions_cons, if_neg (hnext _ _ (by decide)),
    positions_cons, if_neg (hnext _ _ (by decide))]
  simp only [List.map_map]
  rfl

theorem pieces_placeholder (text : List Char) :
    pieces (placeholder.toList ++ text) = [] :: pieces text := by
  have htext : placeholder.toList = ['{', 'd', 'e', 'p', 's', '}'] := by decide
  rw [htext]
  rfl

theorem pieces_ne_nil (text : List Char) : pieces text ≠ [] := by
  unfold pieces
  split
  next => simp
  next => simp
  next =>
    split
    next => simp
    next => simp

/-- Away from a placeholder a character joins the first piece. -/
theorem pieces_cons {c : Char} {text piece : List Char} {others : List (List Char)}
    (hc : ¬ OccursAt (c :: text) 0) (htext : pieces text = piece :: others) :
    pieces (c :: text) = (c :: piece) :: others := by
  have hplaceholder : placeholder.toList = ['{', 'd', 'e', 'p', 's', '}'] := by decide
  rw [pieces, htext]
  intro rest hbrace hrest
  apply hc
  rw [hbrace, hrest]
  unfold OccursAt
  rw [hplaceholder]
  exact List.prefix_append ['{', 'd', 'e', 'p', 's', '}'] rest

/-- Every text ends, or starts with a placeholder, or with a character that joins the first
piece of the rest. -/
theorem pieces_induction {motive : List Char → Prop} (nil : motive [])
    (placed : ∀ text, motive text → motive (placeholder.toList ++ text))
    (joined : ∀ c text, ¬ OccursAt (c :: text) 0 → motive text → motive (c :: text))
    (text : List Char) : motive text := by
  induction hlength : text.length using Nat.strongRecOn generalizing text with
  | _ length ih =>
    cases text with
    | nil => exact nil
    | cons c rest =>
      by_cases hoccurs : OccursAt (c :: rest) 0
      · obtain ⟨text, htext⟩ := hoccurs
        rw [List.drop_zero] at htext
        have hplaceholder : placeholder.toList.length = 6 := by decide
        have hshorter : text.length < length := by
          rw [← hlength, ← htext, List.length_append, hplaceholder]
          omega
        rw [← htext]
        exact placed text (ih text.length hshorter text rfl)
      · have hshorter : rest.length < length := by
          rw [← hlength, List.length_cons]
          omega
        exact joined c rest hoccurs (ih rest.length hshorter rest rfl)

theorem length_pieces (text : List Char) :
    (pieces text).length = (positions text).length + 1 := by
  induction text using pieces_induction with
  | nil => rfl
  | placed text ih =>
    rw [pieces_placeholder, positions_placeholder, List.length_cons, List.length_cons, ih,
      List.length_map]
  | joined c text hc ih =>
    obtain ⟨piece, others, htext⟩ := List.exists_cons_of_ne_nil (pieces_ne_nil text)
    rw [pieces_cons hc htext, positions_cons, if_neg hc, List.length_map, ← ih, htext,
      List.length_cons, List.length_cons]

theorem intercalate_pieces (text : List Char) :
    placeholder.toList.intercalate (pieces text) = text := by
  induction text using pieces_induction with
  | nil => rfl
  | placed text ih =>
    obtain ⟨piece, others, htext⟩ := List.exists_cons_of_ne_nil (pieces_ne_nil text)
    rw [htext] at ih
    rw [pieces_placeholder, htext, List.intercalate_cons_cons, ih, List.nil_append]
  | joined c text hc ih =>
    obtain ⟨piece, others, htext⟩ := List.exists_cons_of_ne_nil (pieces_ne_nil text)
    rw [htext] at ih
    rw [pieces_cons hc htext]
    cases others with
    | nil => simpa using ih
    | cons other others =>
      rw [List.intercalate_cons_cons] at ih ⊢
      rw [List.cons_append, List.cons_append, ih]

/-! ## Accepted commands -/

theorem parse_eq_ok_iff {platform command : String} {install : InstallCommand} :
    parse platform command = .ok install ↔
      pieces command.toList = [install.before.toList, install.after.toList] := by
  unfold parse
  constructor
  · intro hparse
    split at hparse
    next before after hpieces =>
      rw [hpieces, ← Except.ok.inj hparse, String.toList_ofList, String.toList_ofList]
    all_goals cases hparse
  · intro hpieces
    rw [hpieces]
    simp only [String.ofList_toList]

theorem source_of_parse {platform command : String} {install : InstallCommand}
    (hparse : parse platform command = .ok install) : install.source = command := by
  have htext := intercalate_pieces command.toList
  rw [parse_eq_ok_iff.1 hparse] at htext
  rw [← String.toList_inj, ← htext]
  simp [source]

/-- A command is accepted where the placeholder stands at exactly one position. -/
theorem exists_parse_iff {platform command : String} :
    (∃ install, parse platform command = .ok install) ↔
      ∃! position, OccursAt command.toList position := by
  have hlength := length_pieces command.toList
  constructor
  · intro ⟨install, hparse⟩
    rw [parse_eq_ok_iff.1 hparse] at hlength
    have hone : (positions command.toList).length = 1 := by simpa using hlength.symm
    obtain ⟨position, hposition⟩ := List.length_eq_one_iff.1 hone
    refine ⟨position, mem_positions.1 (by simp [hposition]), fun other hother => ?_⟩
    simpa [hposition] using mem_positions.2 hother
  · intro ⟨position, hoccurs, honly⟩
    have hmem (other : Nat) : other ∈ positions command.toList ↔ other ∈ [position] := by
      rw [mem_positions, List.mem_singleton]
      exact ⟨honly other, fun hother => hother ▸ hoccurs⟩
    have hperm : (positions command.toList).Perm [position] :=
      (List.perm_ext_iff_of_nodup (nodup_positions _) (List.nodup_singleton position)).2 hmem
    rw [List.perm_singleton.1 hperm] at hlength
    obtain ⟨before, after, hpieces⟩ := List.length_eq_two.1 hlength
    refine ⟨⟨String.ofList before, String.ofList after⟩, parse_eq_ok_iff.2 ?_⟩
    rw [hpieces, String.toList_ofList, String.toList_ofList]

/-- The placeholder stands between the two texts of an accepted command, and nowhere else. -/
theorem occursAt_iff_of_parse {platform command : String} {install : InstallCommand}
    (hparse : parse platform command = .ok install) (position : Nat) :
    OccursAt command.toList position ↔ position = install.before.toList.length := by
  have hsource : install.source.toList = install.before.toList ++
      (placeholder.toList ++ install.after.toList) := by
    simp [source]
  have hoccurs : OccursAt command.toList install.before.toList.length := by
    rw [← source_of_parse hparse, hsource, OccursAt, List.drop_left]
    exact List.prefix_append _ _
  obtain ⟨only, -, hunique⟩ := exists_parse_iff.1 ⟨install, hparse⟩
  constructor
  · exact fun hposition => (hunique _ hposition).trans (hunique _ hoccurs).symm
  · rintro rfl
    exact hoccurs

end RecipeMatrix.InstallCommand
