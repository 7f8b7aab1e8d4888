import Mathlib.Data.List.Infix
import Mathlib.Data.List.TakeWhile
import RecipeMatrix.Proofs.Template.Parts

/-!
# Reading templates part by part

The reader of templates against their grammar, in both directions.  For each construct one lemma
says that what is written of it is read back, whatever follows, and one that all that is read was
written so.

* Marks, blanks and names.
* Tags, comments, verbatim blocks and texts, each after its opening.  Where a content ends is found
  by a search, which stops at the right place because no end stands in the content
  (`eq_nil_of_closing`, `readVerbatimEnd_eq_none`).
* Pieces.  A template is read as the pieces of its parts (`readPieces_of_spells`), and whatever can
  be read is spelled by parts (`exists_spells_of_readPieces`).
-/

namespace RecipeMatrix.Template

theorem getLast?_ne_of_cons {c d : Char} {text : List Char}
    (hlast : (c :: text).getLast? ≠ some d) : text.getLast? ≠ some d := by
  cases text with
  | nil => exact nofun
  | cons e text => rwa [List.getLast?_cons_cons] at hlast

/-! ## Marks and blanks -/

theorem readMark_dash {mark : Bool} {rest : List Char}
    (hrest : mark = false → rest.head? ≠ some '-') :
    readMark (dash mark ++ rest) = (mark, rest) := by
  cases mark with
  | true => rfl
  | false =>
    unfold readMark dash
    split
    next tail hdash => exact absurd (congrArg List.head? hdash) (hrest rfl)
    next => rfl

theorem eq_dash_append (text : List Char) :
    text = dash (readMark text).1 ++ (readMark text).2 ∧
      ((readMark text).1 = false → (readMark text).2.head? ≠ some '-') := by
  unfold readMark
  split
  next tail => exact ⟨rfl, nofun⟩
  next hdash =>
    refine ⟨rfl, fun _ hhead => ?_⟩
    obtain ⟨tail, rfl⟩ := List.head?_eq_some_iff.1 hhead
    exact hdash tail rfl

theorem skipBlanks_append {blanks rest : List Char} (hblanks : AreBlanks blanks)
    (hrest : ∀ c ∈ rest.head?, isTagBlank c = false) : skipBlanks (blanks ++ rest) = rest := by
  unfold skipBlanks
  rw [List.dropWhile_append_of_pos hblanks]
  cases rest with
  | nil => rfl
  | cons c rest => rw [List.dropWhile_cons_of_neg (by simp [hrest c rfl])]

theorem exists_blanks (text : List Char) :
    ∃ blanks, AreBlanks blanks ∧ text = blanks ++ skipBlanks text :=
  ⟨text.takeWhile isTagBlank, fun _ hc => List.mem_takeWhile_imp hc,
    List.takeWhile_append_dropWhile.symm⟩

/-- A trim mark and blanks are skipped up to a character that a name can start with. -/
theorem skip_toName (mark : Bool) {blanks : List Char} (hblanks : AreBlanks blanks) {c : Char}
    (hstart : isNameStart c = true) (rest : List Char) :
    readMark (dash mark ++ (blanks ++ c :: rest)) = (mark, blanks ++ c :: rest) ∧
      skipBlanks (blanks ++ c :: rest) = c :: rest := by
  have hblank : isTagBlank c = false := by
    by_contra hblank
    simp only [isTagBlank, Bool.not_eq_false, Bool.or_eq_true, beq_iff_eq] at hblank
    rcases hblank with ((rfl | rfl) | rfl) | rfl <;> exact absurd hstart (by decide)
  refine ⟨readMark_dash fun _ hdash => ?_, skipBlanks_append hblanks (by simpa using hblank)⟩
  cases blanks with
  | nil =>
    obtain rfl := Option.some.inj hdash
    exact absurd hstart (by decide)
  | cons blank blanks =>
    obtain rfl := Option.some.inj hdash
    exact absurd (hblanks _ List.mem_cons_self) (by decide)

/-! ## Names -/

theorem nameRest_append {name rest : List Char} (hname : NameTail name)
    (hrest : nameRest rest = ([], rest)) : nameRest (name ++ rest) = (name, rest) := by
  induction hname with
  | nil => exact hrest
  | @part c name hpart _ ih =>
    rw [List.cons_append]
    unfold nameRest
    split
    next d tail heq =>
      obtain ⟨rfl, -⟩ := List.cons.inj heq
      exact absurd hpart (by decide)
    next d tail _ heq =>
      obtain ⟨rfl, rfl⟩ := List.cons.inj heq
      simp [hpart, ih]
    next heq => cases heq
  | @dot c name hpart _ ih =>
    simp [nameRest, hpart, ih]

theorem eq_of_nameRest {text name rest : List Char} (hread : nameRest text = (name, rest)) :
    NameTail name ∧ text = name ++ rest := by
  fun_induction nameRest text generalizing name rest with
  | case1 c tail hpart found after hfound ih =>
    cases hread
    obtain ⟨htail, rfl⟩ := ih hfound
    exact ⟨.dot hpart htail, rfl⟩
  | case2 c tail hpart =>
    cases hread
    exact ⟨.nil, rfl⟩
  | case3 c tail _ hpart found after hfound ih =>
    cases hread
    obtain ⟨htail, rfl⟩ := ih hfound
    exact ⟨.part hpart htail, rfl⟩
  | case4 c tail _ hpart =>
    cases hread
    exact ⟨.nil, rfl⟩
  | case5 =>
    cases hread
    exact ⟨.nil, rfl⟩

theorem readName_append {name rest : List Char} (hname : IsName name)
    (hrest : nameRest rest = ([], rest)) :
    readName (name ++ rest) = some (String.ofList name, rest) := by
  obtain ⟨hstart, htail⟩ := hname
  simp [readName, hstart, nameRest_append htail hrest]

theorem eq_of_readName {text rest : List Char} {name : String}
    (hread : readName text = some (name, rest)) :
    ∃ chars, IsName chars ∧ name = String.ofList chars ∧ text = chars ++ rest := by
  unfold readName at hread
  split at hread
  next c tail =>
    split at hread
    next hstart =>
      cases hrest : nameRest tail with
      | mk found after =>
        obtain ⟨htail, rfl⟩ := eq_of_nameRest hrest
        rw [hrest] at hread
        cases hread
        exact ⟨_, .intro hstart htail, rfl, rfl⟩
    next => cases hread
  next => cases hread

/-! ## Words that are no names -/

theorem not_isTagBlank_of_isNamePart {c : Char} (hpart : isNamePart c = true) :
    isTagBlank c = false := by
  by_contra hblank
  simp only [isTagBlank, Bool.not_eq_false, Bool.or_eq_true, beq_iff_eq] at hblank
  rcases hblank with ((rfl | rfl) | rfl) | rfl <;> exact absurd hpart (by decide)

theorem not_isTagBlank_of_mem_nameTail {chars : List Char} (hchars : NameTail chars) :
    ∀ c ∈ chars, isTagBlank c = false := by
  induction hchars with
  | nil => exact nofun
  | part hpart _ ih => exact List.forall_mem_cons.2 ⟨not_isTagBlank_of_isNamePart hpart, ih⟩
  | dot hpart _ ih =>
    exact List.forall_mem_cons.2 ⟨rfl,
      List.forall_mem_cons.2 ⟨not_isTagBlank_of_isNamePart hpart, ih⟩⟩

theorem not_isTagBlank_of_mem_name {chars : List Char} (hchars : IsName chars) :
    ∀ c ∈ chars, isTagBlank c = false := by
  obtain ⟨hstart, htail⟩ := hchars
  refine List.forall_mem_cons.2 ⟨not_isTagBlank_of_isNamePart ?_,
    not_isTagBlank_of_mem_nameTail htail⟩
  simp only [isNameStart, isNamePart, Char.isAlphanum, Bool.or_eq_true] at hstart ⊢
  exact hstart.imp_left .inl

/-- A word does not reach over the end of the name that the text starts with. -/
theorem prefix_name_of_prefix {word chars rest : List Char}
    (hword : word.all isNamePart = true) (hrest : nameRest rest = ([], rest))
    (hstart : word <+: chars ++ rest) : word <+: chars := by
  rcases List.prefix_or_prefix_of_prefix hstart (List.prefix_append chars rest) with
    hwithin | ⟨remainder, rfl⟩
  · exact hwithin
  · rw [List.prefix_append_right_inj] at hstart
    cases remainder with
    | nil => simp
    | cons c remainder =>
      obtain ⟨tail, rfl⟩ := hstart
      have hpart := List.all_eq_true.1 hword c (List.mem_append_right _ List.mem_cons_self)
      have hnotDot : c ≠ '.' := fun hdot => absurd (hdot ▸ hpart) (by decide)
      simp [nameRest, hpart, hnotDot] at hrest

theorem readTruth_eq_none_iff {text : List Char} : readTruth text = none ↔ ¬ StartsTruth text := by
  constructor
  · rintro hnone ⟨word, hword, rest, rfl⟩
    simp only [truthWords, List.mem_cons, List.not_mem_nil, or_false] at hword
    rcases hword with rfl | rfl | rfl | rfl <;> cases hnone
  · intro hnone
    unfold readTruth
    split
    next rest => exact hnone.elim ⟨['t', 'r', 'u', 'e'], by simp [truthWords], rest, rfl⟩
    next rest => exact hnone.elim ⟨['T', 'r', 'u', 'e'], by simp [truthWords], rest, rfl⟩
    next rest => exact hnone.elim ⟨['f', 'a', 'l', 's', 'e'], by simp [truthWords], rest, rfl⟩
    next rest => exact hnone.elim ⟨['F', 'a', 'l', 's', 'e'], by simp [truthWords], rest, rfl⟩
    next => rfl

theorem startsNegation_iff {text : List Char} :
    startsNegation text = true ↔
      ∃ c rest, isTagBlank c = true ∧ text = negationWord ++ c :: rest := by
  unfold startsNegation
  split
  next c rest =>
    constructor
    · exact fun hblank => ⟨c, rest, hblank, rfl⟩
    · rintro ⟨d, tail, hblank, heq⟩
      cases heq
      exact hblank
  next hnone =>
    refine iff_of_false Bool.false_ne_true ?_
    rintro ⟨c, rest, -, rfl⟩
    exact hnone c rest rfl

/-! ## Tags -/

theorem readTagEnd_dash (mark : Bool) (rest : List Char) :
    readTagEnd (dash mark ++ '}' :: '}' :: rest) = some (mark, rest) := by
  cases mark <;> rfl

theorem eq_of_readTagEnd {text rest : List Char} {mark : Bool}
    (hread : readTagEnd text = some (mark, rest)) : text = dash mark ++ '}' :: '}' :: rest := by
  unfold readTagEnd at hread
  split at hread <;> cases hread <;> rfl

theorem readSubtrahends_append (fuel : Nat) {blanks : List Char} (hblanks : AreBlanks blanks)
    (mark : Bool) (rest : List Char) :
    readSubtrahends fuel (blanks ++ (dash mark ++ '}' :: '}' :: rest)) = some ([], mark, rest) := by
  have hskip : skipBlanks (blanks ++ (dash mark ++ '}' :: '}' :: rest)) =
      dash mark ++ '}' :: '}' :: rest :=
    skipBlanks_append hblanks (by cases mark <;> simp [dash, isTagBlank])
  unfold readSubtrahends
  simp only [hskip, readTagEnd_dash]

theorem eq_of_readSubtrahends {fuel : Nat} {text rest : List Char} {mark : Bool}
    (hread : readSubtrahends fuel text = some ([], mark, rest)) :
    ∃ blanks, AreBlanks blanks ∧ text = blanks ++ (dash mark ++ '}' :: '}' :: rest) := by
  unfold readSubtrahends at hread
  obtain ⟨blanks, hblanks, htext⟩ := exists_blanks text
  dsimp only at hread
  split at hread
  next hend =>
    cases hread
    exact ⟨blanks, hblanks, by rw [← eq_of_readTagEnd hend]; exact htext⟩
  next =>
    split at hread
    next => simp [Option.bind_eq_some_iff] at hread
    next => cases hread

/-- What follows the name in a tag is not part of it. -/
theorem nameRest_tagEnd {blanks : List Char} (hblanks : AreBlanks blanks) (mark : Bool)
    (rest : List Char) :
    nameRest (blanks ++ (dash mark ++ '}' :: '}' :: rest)) =
      ([], blanks ++ (dash mark ++ '}' :: '}' :: rest)) := by
  cases blanks with
  | nil => cases mark <;> rfl
  | cons c blanks =>
    have hblank : isTagBlank c = true := hblanks c List.mem_cons_self
    simp only [isTagBlank, Bool.or_eq_true, beq_iff_eq] at hblank
    rcases hblank with ((rfl | rfl) | rfl) | rfl <;> rfl

theorem IsVariable.reads {name after : List Char} (hname : IsVariable name after)
    (hafter : AreBlanks after) (mark : Bool) (rest : List Char) :
    readTruth (name ++ (after ++ (dash mark ++ '}' :: '}' :: rest))) = none ∧
      startsNegation (name ++ (after ++ (dash mark ++ '}' :: '}' :: rest))) = false := by
  have hrest := nameRest_tagEnd hafter mark rest
  constructor
  · rw [readTruth_eq_none_iff]
    rintro ⟨word, hword, hstart⟩
    have hparts : truthWords.all (fun word => word.all isNamePart) = true := rfl
    exact hname.truth ⟨word, hword,
      prefix_name_of_prefix (List.all_eq_true.1 hparts word hword) hrest hstart⟩
  · rw [Bool.eq_false_iff, ne_eq, startsNegation_iff]
    rintro ⟨c, tail, hblank, htext⟩
    have hstart : negationWord <+: name := prefix_name_of_prefix rfl hrest
      ⟨c :: tail, htext.symm⟩
    obtain ⟨others, rfl⟩ := hstart
    rw [List.append_assoc] at htext
    have hothers := List.append_cancel_left htext
    cases others with
    | nil =>
      -- After the bare word comes the end of the tag, since there are no blanks.
      rw [hname.negation (List.append_nil _)] at hothers
      cases mark <;> (obtain ⟨rfl, -⟩ := List.cons.inj hothers; cases hblank)
    | cons d others =>
      obtain ⟨rfl, -⟩ := List.cons.inj hothers
      rw [not_isTagBlank_of_mem_name hname.isName d
        (List.mem_append_right _ List.mem_cons_self)] at hblank
      cases hblank

theorem readTag_append {marks : TrimMarks} {before name after : List Char}
    (hpart : (Part.tag marks before name after).WellFormed) (rest : List Char) :
    readTag (dash marks.before ++ (before ++ (name ++ (after ++
        (dash marks.after ++ '}' :: '}' :: rest))))) =
      some (.tag marks (.name (String.ofList name)), rest) := by
  obtain ⟨hbefore, hname, hafter⟩ := hpart
  obtain ⟨htruth, hnegation⟩ := hname.reads hafter marks.after rest
  have hread := readName_append hname.isName (nameRest_tagEnd hafter marks.after rest)
  obtain @⟨c, tail, hstart, -⟩ := hname.isName
  rw [List.cons_append] at htruth hnegation hread ⊢
  obtain ⟨hmark, hskip⟩ := skip_toName marks.before hbefore hstart
    (tail ++ (after ++ (dash marks.after ++ '}' :: '}' :: rest)))
  simp only [readTag, readExpression, hmark, hskip, htruth, hnegation, hread,
    readSubtrahends_append _ hafter, Bool.false_eq_true, if_false, Option.bind_eq_bind,
    Option.bind_some, List.isEmpty_nil, if_true]

theorem exists_of_readExpression {text rest : List Char} {name : String} {mark : Bool}
    (hread : readExpression text = some (.name name, mark, rest)) :
    ∃ chars after, IsVariable chars after ∧ AreBlanks after ∧ name = String.ofList chars ∧
      text = chars ++ (after ++ (dash mark ++ '}' :: '}' :: rest)) := by
  unfold readExpression at hread
  split at hread
  next => simp [Option.bind_eq_some_iff] at hread
  next htruth =>
    split at hread
    next => cases hread
    next hnegation =>
      simp only [Option.bind_eq_bind, Option.bind_eq_some_iff, Option.some.injEq, Prod.mk.injEq,
        Prod.exists] at hread
      obtain ⟨first, tail, hname, others, mark, rest, hothers, hexpression, rfl, rfl⟩ := hread
      split at hexpression
      next hnone =>
        obtain rfl := Expression.name.inj hexpression
        rw [List.isEmpty_iff.1 hnone] at hothers
        obtain ⟨after, hafter, rfl⟩ := eq_of_readSubtrahends hothers
        obtain ⟨chars, hchars, rfl, rfl⟩ := eq_of_readName hname
        refine ⟨chars, after, ⟨hchars, ?_, ?_⟩, hafter, rfl, rfl⟩
        · rintro ⟨word, hword, hstart⟩
          exact readTruth_eq_none_iff.1 htruth
            ⟨word, hword, hstart.trans (List.prefix_append _ _)⟩
        · rintro rfl
          cases after with
          | nil => rfl
          | cons c after =>
            exact absurd (startsNegation_iff.2 ⟨c, _, hafter c List.mem_cons_self, rfl⟩) hnegation
      next => cases hexpression

theorem exists_part_of_readTag {text rest : List Char} {piece : Piece} (hplain : piece.IsPlain)
    (hread : readTag text = some (piece, rest)) : StartsPart ('{' :: '{' :: text) rest := by
  unfold readTag at hread
  simp only [Option.bind_eq_bind, Option.bind_eq_some_iff, Option.some.injEq, Prod.mk.injEq,
    Prod.exists] at hread
  obtain ⟨expression, mark, rest, hexpression, rfl, rfl⟩ := hread
  obtain ⟨name, rfl⟩ := hplain _ _ rfl
  obtain ⟨chars, after, hchars, hafter, rfl, hskip⟩ := exists_of_readExpression hexpression
  obtain ⟨before, hbefore, hmark⟩ := exists_blanks (readMark text).2
  refine ⟨.tag ⟨(readMark text).1, mark⟩ before chars after, ⟨hbefore, hchars, hafter⟩, trivial,
    ?_⟩
  have htext : text = dash (readMark text).1 ++ (before ++ (chars ++ (after ++
      (dash mark ++ '}' :: '}' :: rest)))) := by
    rw [← hskip, ← hmark]
    exact (eq_dash_append text).1
  simpa [Part.written] using htext

/-! ## Comments -/

/-- Where no comment ends in a content, the closing behind it is not found any earlier. -/
theorem eq_nil_of_closing {content rest tail : List Char} {mark : Bool}
    (hclosed : ¬ ['#', '}'] <:+: content)
    (hclosing : content ++ (dash mark ++ '#' :: '}' :: rest) = '#' :: '}' :: tail) :
    content = [] ∧ mark = false := by
  rcases content with _ | ⟨c, _ | ⟨d, content⟩⟩
  · cases mark with
    | true => cases hclosing
    | false => exact ⟨rfl, rfl⟩
  · cases mark <;> cases hclosing
  · simp only [List.cons_append, List.cons.injEq] at hclosing
    obtain ⟨rfl, rfl, -⟩ := hclosing
    exact absurd (List.prefix_append ['#', '}'] content).isInfix hclosed

theorem readCommentEnd_append {content : List Char} {mark : Bool}
    (hlast : mark = false → content.getLast? ≠ some '-') (hclosed : ¬ ['#', '}'] <:+: content)
    (rest : List Char) :
    readCommentEnd (content ++ (dash mark ++ '#' :: '}' :: rest)) = some (mark, rest) := by
  induction content with
  | nil => cases mark <;> rfl
  | cons c content ih =>
    have hclosedTail : ¬ ['#', '}'] <:+: content := fun hwithin =>
      hclosed (List.infix_cons hwithin)
    rw [List.cons_append]
    unfold readCommentEnd
    split
    next tail heq =>
      obtain ⟨rfl, htail⟩ := List.cons.inj heq
      obtain ⟨rfl, rfl⟩ := eq_nil_of_closing hclosedTail htail
      exact absurd rfl (hlast rfl)
    next tail heq => exact absurd (eq_nil_of_closing hclosed heq).1 nofun
    next d tail _ _ heq =>
      obtain ⟨rfl, rfl⟩ := List.cons.inj heq
      exact ih (fun hmark => getLast?_ne_of_cons (hlast hmark)) hclosedTail
    next heq => cases heq

theorem eq_of_readCommentEnd {text rest : List Char} {mark : Bool}
    (hread : readCommentEnd text = some (mark, rest)) :
    ∃ content, text = content ++ (dash mark ++ '#' :: '}' :: rest) ∧
      (mark = false → content.getLast? ≠ some '-') ∧ ¬ ['#', '}'] <:+: content := by
  fun_induction readCommentEnd text with
  | case1 tail =>
    cases hread
    exact ⟨[], rfl, nofun, by simp⟩
  | case2 tail =>
    cases hread
    exact ⟨[], rfl, by simp, by simp⟩
  | case3 c tail hmarked hclosing ih =>
    obtain ⟨content, rfl, hlast, hclosed⟩ := ih hread
    refine ⟨c :: content, rfl, fun hmark hdash => ?_, fun hwithin => ?_⟩
    · subst hmark
      cases content with
      | nil =>
        obtain rfl := Option.some.inj hdash
        exact hmarked rest rfl rfl
      | cons d content => exact hlast rfl (by rwa [List.getLast?_cons_cons] at hdash)
    · rcases List.infix_cons_iff.1 hwithin with ⟨found, hfound⟩ | hwithin
      · obtain ⟨rfl, rfl⟩ := List.cons.inj hfound
        exact hclosing _ rfl rfl
      · exact hclosed hwithin
  | case4 => cases hread

theorem readComment_append {marks : TrimMarks} {content : List Char}
    (hpart : (Part.comment marks content).WellFormed) (rest : List Char) :
    readComment (dash marks.before ++ (content ++ (dash marks.after ++ '#' :: '}' :: rest))) =
      some (.comment marks, rest) := by
  obtain ⟨hfirst, hlast, hclosed⟩ := hpart
  have hhead : marks.before = false →
      (content ++ (dash marks.after ++ '#' :: '}' :: rest)).head? ≠ some '-' := by
    intro hmark
    have hdash := hfirst hmark
    cases content with
    | nil => cases hafter : marks.after <;> simp_all [dash]
    | cons c content => simpa using hdash
  simp only [readComment, readMark_dash hhead, readCommentEnd_append hlast hclosed,
    Option.bind_eq_bind, Option.bind_some]

theorem exists_part_of_readComment {text rest : List Char} {piece : Piece}
    (hread : readComment text = some (piece, rest)) :
    StartsPart ('{' :: '#' :: text) rest := by
  unfold readComment at hread
  simp only [Option.bind_eq_bind, Option.bind_eq_some_iff, Option.some.injEq, Prod.mk.injEq,
    Prod.exists] at hread
  obtain ⟨mark, rest, hend, -, rfl⟩ := hread
  obtain ⟨content, htext, hlast, hclosed⟩ := eq_of_readCommentEnd hend
  obtain ⟨hdash, hfirst⟩ := eq_dash_append text
  refine ⟨.comment ⟨(readMark text).1, mark⟩ content, ⟨fun hmark hhead => ?_, hlast, hclosed⟩,
    trivial, ?_⟩
  · refine hfirst hmark ?_
    rw [htext, ← List.append_assoc, List.head?_append, hhead]
    rfl
  · rw [htext] at hdash
    simpa [Part.written] using hdash

/-! ## Verbatim blocks -/

theorem readBlockTagEnd_dash (mark : Bool) (rest : List Char) :
    readBlockTagEnd (dash mark ++ '%' :: '}' :: rest) = some (mark, rest) := by
  cases mark <;> rfl

theorem eq_of_readBlockTagEnd {text rest : List Char} {mark : Bool}
    (hread : readBlockTagEnd text = some (mark, rest)) :
    text = dash mark ++ '%' :: '}' :: rest := by
  unfold readBlockTagEnd at hread
  split at hread <;> cases hread <;> rfl

theorem readBlockTag_append {tag : BlockTag} (htag : tag.WellFormed) {c : Char}
    (hstart : isNameStart c = true) (tail rest : List Char) :
    readBlockTag (c :: tail) (dash tag.marks.before ++ (tag.before ++ (c :: tail ++ (tag.after ++
      (dash tag.marks.after ++ '%' :: '}' :: rest))))) = some (tag.marks, rest) := by
  obtain ⟨hmark, hskip⟩ := skip_toName tag.marks.before htag.before hstart
    (tail ++ (tag.after ++ (dash tag.marks.after ++ '%' :: '}' :: rest)))
  have hend : skipBlanks (tag.after ++ (dash tag.marks.after ++ '%' :: '}' :: rest)) =
      dash tag.marks.after ++ '%' :: '}' :: rest :=
    skipBlanks_append htag.after (by cases tag.marks.after <;> simp [dash, isTagBlank])
  have hstartsWith : (c :: tail).isPrefixOf (c :: tail ++ (tag.after ++
      (dash tag.marks.after ++ '%' :: '}' :: rest))) = true :=
    List.isPrefixOf_iff_prefix.2 (List.prefix_append _ _)
  rw [List.cons_append] at hstartsWith
  simp only [readBlockTag, List.cons_append, hmark, hskip, hstartsWith, if_true]
  rw [← List.cons_append, List.drop_left, hend, readBlockTagEnd_dash]
  rfl

theorem exists_of_readBlockTag {word text rest : List Char} {marks : TrimMarks}
    (hread : readBlockTag word text = some (marks, rest)) :
    ∃ tag : BlockTag, tag.WellFormed ∧ tag.marks = marks ∧
      '{' :: '%' :: text = tag.written word ++ rest := by
  unfold readBlockTag at hread
  simp only [Option.bind_eq_bind, Option.ite_none_right_eq_some, Option.bind_eq_some_iff,
    Option.some.injEq, Prod.mk.injEq, Prod.exists] at hread
  obtain ⟨hstartsWith, mark, rest, hend, rfl, rfl⟩ := hread
  obtain ⟨afterWord, hafterWord⟩ := List.isPrefixOf_iff_prefix.1 hstartsWith
  obtain ⟨before, hbefore, hmark⟩ := exists_blanks (readMark text).2
  rw [← hafterWord, List.drop_left] at hend
  obtain ⟨after, hafter, hrest⟩ := exists_blanks afterWord
  refine ⟨⟨⟨(readMark text).1, mark⟩, before, after⟩, ⟨hbefore, hafter⟩, rfl, ?_⟩
  have htext : text = dash (readMark text).1 ++ (before ++ (word ++ (after ++
      (dash mark ++ '%' :: '}' :: rest)))) := by
    rw [← eq_of_readBlockTagEnd hend, ← hrest, hafterWord, ← hmark]
    exact (eq_dash_append text).1
  simpa [BlockTag.written] using htext

theorem readVerbatimEnd_append {closing : BlockTag} (hclosing : closing.WellFormed)
    (rest : List Char) :
    readVerbatimEnd (closing.written endrawWord ++ rest) = some (closing.marks, rest) := by
  have hstart : isNameStart 'e' = true := by decide
  have hread := readBlockTag_append hclosing hstart ['n', 'd', 'r', 'a', 'w'] rest
  simpa [BlockTag.written, readVerbatimEnd, endrawWord] using hread

theorem exists_of_readVerbatimEnd {text rest : List Char} {marks : TrimMarks}
    (hread : readVerbatimEnd text = some (marks, rest)) :
    ∃ closing : BlockTag, closing.WellFormed ∧ closing.marks = marks ∧
      text = closing.written endrawWord ++ rest := by
  unfold readVerbatimEnd at hread
  split at hread
  next tail => exact exists_of_readBlockTag hread
  next => cases hread

/-- The only brace of a block tag is the one that opens it. -/
theorem brace_notMem_written {tag : BlockTag} (htag : tag.WellFormed) :
    '{' ∉ (tag.written endrawWord).tail := by
  have hbefore : '{' ∉ tag.before := fun hmem => absurd (htag.before _ hmem) (by decide)
  have hafter : '{' ∉ tag.after := fun hmem => absurd (htag.after _ hmem) (by decide)
  have hdash (mark : Bool) : '{' ∉ dash mark := by cases mark <;> simp [dash]
  simp [BlockTag.written, endrawWord, hbefore, hafter, hdash]

/-- No block ends in a content, nor in what begins there and goes on behind it. -/
theorem readVerbatimEnd_eq_none {content : List Char} (hcontent : content ≠ [])
    (hend : ¬ HasBlockEnd content) (rest : List Char) :
    readVerbatimEnd (content ++ '{' :: rest) = none := by
  by_contra hsome
  obtain ⟨⟨marks, after⟩, hread⟩ := Option.ne_none_iff_exists'.1 hsome
  obtain ⟨tag, htag, -, htext⟩ := exists_of_readVerbatimEnd hread
  rcases List.append_eq_append_iff.1 htext with ⟨excess, hwritten, hrest⟩ | ⟨excess, rfl, -⟩
  · cases excess with
    | nil => exact hend ⟨tag, htag, by rw [hwritten, List.append_nil]⟩
    | cons c excess =>
      obtain ⟨rfl, -⟩ := List.cons.inj hrest
      refine brace_notMem_written htag ?_
      rw [hwritten, List.tail_append_of_ne_nil hcontent]
      exact List.mem_append_right _ List.mem_cons_self
  · exact hend ⟨tag, htag, (List.prefix_append _ _).isInfix⟩

theorem readVerbatim_of_end {text rest : List Char} {marks : TrimMarks}
    (hend : readVerbatimEnd text = some (marks, rest)) :
    readVerbatim text = some ([], marks, rest) := by
  cases text with
  | nil => cases hend
  | cons c text => rw [readVerbatim, hend]

theorem readVerbatim_cons {c : Char} {text : List Char}
    (hnone : readVerbatimEnd (c :: text) = none) :
    readVerbatim (c :: text) =
      (readVerbatim text).map fun found => (c :: found.1, found.2) := by
  rw [readVerbatim, hnone]
  cases readVerbatim text <;> rfl

theorem readVerbatim_append {content : List Char} {closing : BlockTag}
    (hend : ¬ HasBlockEnd content) (hclosing : closing.WellFormed) (rest : List Char) :
    readVerbatim (content ++ (closing.written endrawWord ++ rest)) =
      some (content, closing.marks, rest) := by
  induction content with
  | nil => exact readVerbatim_of_end (readVerbatimEnd_append hclosing rest)
  | cons c content ih =>
    have htail : ¬ HasBlockEnd content := fun ⟨tag, htag, hwithin⟩ =>
      hend ⟨tag, htag, List.infix_cons hwithin⟩
    have hnone : readVerbatimEnd (c :: content ++ (closing.written endrawWord ++ rest)) = none :=
      readVerbatimEnd_eq_none (List.cons_ne_nil c content) hend _
    rw [List.cons_append] at hnone ⊢
    rw [readVerbatim_cons hnone, ih htail, Option.map_some]

theorem exists_of_readVerbatim {text content rest : List Char} {marks : TrimMarks}
    (hread : readVerbatim text = some (content, marks, rest)) :
    ∃ closing : BlockTag, closing.WellFormed ∧ closing.marks = marks ∧
      ¬ HasBlockEnd content ∧ text = content ++ (closing.written endrawWord ++ rest) := by
  induction text generalizing content with
  | nil => cases hread
  | cons c text ih =>
    cases hend : readVerbatimEnd (c :: text) with
    | some found =>
      rw [readVerbatim_of_end hend] at hread
      cases hread
      obtain ⟨closing, hclosing, hmarks, htext⟩ := exists_of_readVerbatimEnd hend
      refine ⟨closing, hclosing, hmarks, ?_, htext⟩
      rintro ⟨tag, -, hwithin⟩
      exact absurd (List.eq_nil_of_infix_nil hwithin) nofun
    | none =>
      rw [readVerbatim_cons hend, Option.map_eq_some_iff] at hread
      obtain ⟨⟨found, _⟩, hfound, heq⟩ := hread
      cases heq
      obtain ⟨closing, hclosing, hmarks, hcontent, rfl⟩ := ih hfound
      refine ⟨closing, hclosing, hmarks, ?_, rfl⟩
      rintro ⟨tag, htag, hwithin⟩
      rcases List.infix_cons_iff.1 hwithin with ⟨excess, hexcess⟩ | hwithin
      · rw [← List.cons_append, ← hexcess, List.append_assoc, readVerbatimEnd_append htag] at hend
        cases hend
      · exact hcontent ⟨tag, htag, hwithin⟩

theorem readBlock_append {opening closing : BlockTag} {content : List Char}
    (hpart : (Part.verbatim opening content closing).WellFormed) (rest : List Char) :
    readBlock (dash opening.marks.before ++ (opening.before ++ (rawWord ++ (opening.after ++
      (dash opening.marks.after ++ '%' :: '}' :: (content ++
        (closing.written endrawWord ++ rest))))))) =
      some ((Part.verbatim opening content closing).piece, rest) := by
  obtain ⟨hopening, hend, hclosing⟩ := hpart
  have hstart : isNameStart 'r' = true := by decide
  have hread := readBlockTag_append hopening hstart ['a', 'w']
    (content ++ (closing.written endrawWord ++ rest))
  rw [readBlock, rawWord, hread, Option.bind_eq_bind, Option.bind_some]
  simp only [readVerbatim_append hend hclosing, Option.bind_eq_bind, Option.bind_some, Part.piece]

theorem exists_part_of_readBlock {text rest : List Char} {piece : Piece}
    (hread : readBlock text = some (piece, rest)) : StartsPart ('{' :: '%' :: text) rest := by
  unfold readBlock at hread
  simp only [Option.bind_eq_bind, Option.bind_eq_some_iff, Option.some.injEq, Prod.mk.injEq,
    Prod.exists] at hread
  obtain ⟨marks, inner, hopen, content, marks', rest, hclose, rfl, rfl⟩ := hread
  obtain ⟨opening, hopening, rfl, htext⟩ := exists_of_readBlockTag hopen
  obtain ⟨closing, hclosing, rfl, hend, rfl⟩ := exists_of_readVerbatim hclose
  refine ⟨.verbatim opening content closing, ⟨hopening, hend, hclosing⟩, trivial, ?_⟩
  simpa [Part.written, rawWord] using htext

/-! ## Texts -/

theorem readText_of_opening {text : List Char} (hopening : StartsOpening text) :
    readText text = ([], text) := by
  rcases startsOpening_iff.1 hopening with ⟨rest, rfl⟩ | ⟨rest, rfl⟩ | ⟨rest, rfl⟩ <;> rfl

theorem readText_cons {c : Char} {text : List Char} (hopening : ¬ StartsOpening (c :: text)) :
    readText (c :: text) = (c :: (readText text).1, (readText text).2) := by
  conv_lhs => unfold readText
  split
  next heq => cases heq
  next d rest heq =>
    obtain ⟨rfl, rfl⟩ := List.cons.inj heq
    split
    next hopens =>
      refine absurd ⟨d, ?_, rest, rfl⟩ hopening
      simpa [openers, or_assoc] using hopens
    next => rfl
  next d rest _ heq =>
    obtain ⟨rfl, rfl⟩ := List.cons.inj heq
    rfl

theorem not_hasOpening_nil : ¬ HasOpening [] := by simp [HasOpening, openers]

theorem not_hasOpening_tail {c : Char} {text : List Char} (hopening : ¬ HasOpening (c :: text)) :
    ¬ HasOpening text := fun ⟨d, hd, hwithin⟩ => hopening ⟨d, hd, List.infix_cons hwithin⟩

theorem readText_append {content rest : List Char} (hopening : ¬ HasOpening content)
    (hstops : (Part.text content).StopsAt rest) :
    readText (content ++ rest) = (content, rest) := by
  induction content with
  | nil =>
    rcases hstops with rfl | ⟨hstarts, -⟩
    · rfl
    · exact readText_of_opening hstarts
  | cons c content ih =>
    have hstopsTail : (Part.text content).StopsAt rest :=
      hstops.imp_right fun ⟨hstarts, hlast⟩ => ⟨hstarts, getLast?_ne_of_cons hlast⟩
    have hnot : ¬ StartsOpening (c :: (content ++ rest)) := by
      rintro ⟨d, hd, hstartsWith⟩
      obtain ⟨rfl, hnext⟩ := List.cons_prefix_cons.1 hstartsWith
      cases content with
      | nil =>
        rcases hstops with rfl | ⟨-, hlast⟩
        · exact absurd (List.prefix_nil.1 hnext) nofun
        · exact hlast rfl
      | cons e content =>
        obtain ⟨rfl, -⟩ := List.cons_prefix_cons.1 hnext
        exact hopening ⟨d, hd, (List.prefix_append ['{', d] content).isInfix⟩
    rw [List.cons_append, readText_cons hnot, ih (not_hasOpening_tail hopening) hstopsTail]

theorem eq_readText_append (text : List Char) :
    text = (readText text).1 ++ (readText text).2 ∧ ¬ HasOpening (readText text).1 ∧
      (Part.text (readText text).1).StopsAt (readText text).2 := by
  induction text with
  | nil => exact ⟨rfl, not_hasOpening_nil, .inl rfl⟩
  | cons c text ih =>
    by_cases hopening : StartsOpening (c :: text)
    · rw [readText_of_opening hopening]
      exact ⟨rfl, not_hasOpening_nil, .inr ⟨hopening, nofun⟩⟩
    · rw [readText_cons hopening]
      obtain ⟨htext, hnone, hstops⟩ := ih
      generalize (readText text).1 = content, (readText text).2 = rest at htext hnone hstops ⊢
      subst htext
      refine ⟨rfl, ?_, hstops.imp_right fun ⟨hstarts, hlast⟩ => ⟨hstarts, fun hbrace => ?_⟩⟩
      · rintro ⟨d, hd, hwithin⟩
        rcases List.infix_cons_iff.1 hwithin with hstartsWith | hwithin
        · exact hopening ⟨d, hd, hstartsWith.trans (List.prefix_append (c :: content) rest)⟩
        · exact hnone ⟨d, hd, hwithin⟩
      · cases content with
        | nil =>
          -- A brace before an opening is one itself.
          obtain rfl := Option.some.inj hbrace
          obtain ⟨d, -, tail, rfl⟩ := hstarts
          exact hopening ⟨'{', by decide, _, rfl⟩
        | cons d content => exact hlast (by rwa [List.getLast?_cons_cons] at hbrace)

/-! ## Pieces -/

theorem readPiece_of_not_startsOpening {text : List Char} (hnot : ¬ StartsOpening text) :
    readPiece text = some (.text (readText text).1, (readText text).2) := by
  unfold readPiece
  split
  next rest => exact absurd ⟨'{', by decide, rest, rfl⟩ hnot
  next rest => exact absurd ⟨'#', by decide, rest, rfl⟩ hnot
  next rest => exact absurd ⟨'%', by decide, rest, rfl⟩ hnot
  next => rfl

/-- A part is read as its piece, and what follows it is left. -/
theorem readPiece_append {part : Part} {rest : List Char} (hpart : part.WellFormed)
    (hstops : part.StopsAt rest) : readPiece (part.written ++ rest) = some (part.piece, rest) := by
  cases part with
  | text content =>
    obtain ⟨hne, hopening⟩ := hpart
    have hread := readText_append hopening hstops
    have hnot : ¬ StartsOpening (content ++ rest) := by
      intro hstarts
      rw [readText_of_opening hstarts] at hread
      exact hne (congrArg Prod.fst hread).symm
    rw [Part.written, readPiece_of_not_startsOpening hnot, hread, Part.piece]
  | tag marks before name after =>
    have htext : (Part.tag marks before name after).written ++ rest =
        '{' :: '{' :: (dash marks.before ++ (before ++ (name ++ (after ++
          (dash marks.after ++ '}' :: '}' :: rest))))) := by
      simp [Part.written]
    rw [htext, readPiece, readTag_append hpart, Part.piece]
  | comment marks content =>
    have htext : (Part.comment marks content).written ++ rest =
        '{' :: '#' :: (dash marks.before ++ (content ++
          (dash marks.after ++ '#' :: '}' :: rest))) := by
      simp [Part.written]
    rw [htext, readPiece, readComment_append hpart, Part.piece]
  | verbatim opening content closing =>
    have htext : (Part.verbatim opening content closing).written ++ rest =
        '{' :: '%' :: (dash opening.marks.before ++ (opening.before ++ (rawWord ++
          (opening.after ++ (dash opening.marks.after ++ '%' :: '}' :: (content ++
            (closing.written endrawWord ++ rest))))))) := by
      simp [Part.written, BlockTag.written]
    rw [htext, readPiece, readBlock_append hpart]

theorem exists_part_of_readPiece {text rest : List Char} {piece : Piece} (htext : text ≠ [])
    (hplain : piece.IsPlain) (hread : readPiece text = some (piece, rest)) :
    StartsPart text rest := by
  by_cases hopening : StartsOpening text
  · rcases startsOpening_iff.1 hopening with ⟨tail, rfl⟩ | ⟨tail, rfl⟩ | ⟨tail, rfl⟩
    · exact exists_part_of_readTag hplain hread
    · exact exists_part_of_readBlock hread
    · exact exists_part_of_readComment hread
  · rw [readPiece_of_not_startsOpening hopening] at hread
    cases hread
    obtain ⟨heq, hnone, hstops⟩ := eq_readText_append text
    refine ⟨.text (readText text).1, ⟨?_, hnone⟩, hstops, heq⟩
    cases text with
    | nil => exact absurd rfl htext
    | cons c text =>
      rw [readText_cons hopening]
      exact List.cons_ne_nil _ _

theorem Part.written_ne_nil {part : Part} (hpart : part.WellFormed) : part.written ≠ [] := by
  cases part with
  | text content => exact hpart.1
  | _ => exact List.cons_ne_nil _ _

theorem readPieces_succ {fuel : Nat} {text : List Char} (htext : text ≠ []) :
    readPieces (fuel + 1) text = (readPiece text).bind fun found =>
      (readPieces fuel found.2).map (found.1 :: ·) := by
  cases text with
  | nil => exact absurd rfl htext
  | cons c text =>
    rw [readPieces]
    · simp only [Option.bind_eq_bind, Option.map_eq_bind]
      rfl
    · exact htext

/-- A template is read as the pieces of its parts. -/
theorem readPieces_of_spells {parts : List Part} {text : List Char} (hspells : Spells parts text)
    {fuel : Nat} (hfuel : text.length ≤ fuel) :
    readPieces fuel text = some (parts.map Part.piece) := by
  induction hspells generalizing fuel with
  | nil => cases fuel <;> rfl
  | @cons part parts rest hpart hstops _ ih =>
    have hwritten : part.written ≠ [] := Part.written_ne_nil hpart
    have hlength : 0 < part.written.length := List.length_pos_of_ne_nil hwritten
    rw [List.length_append] at hfuel
    cases fuel with
    | zero => omega
    | succ fuel =>
      rw [readPieces_succ (List.append_ne_nil_of_left_ne_nil hwritten rest),
        readPiece_append hpart hstops, Option.bind_some, ih (by omega)]
      rfl

/-- What can be read is a template of parts, if no tag in it asks for a difference. -/
theorem exists_spells_of_readPieces {fuel : Nat} {text : List Char} {pieces : List Piece}
    (hread : readPieces fuel text = some pieces) (hplain : ∀ piece ∈ pieces, piece.IsPlain) :
    ∃ parts, Spells parts text := by
  induction fuel generalizing text pieces with
  | zero =>
    cases text with
    | nil => exact ⟨[], .nil⟩
    | cons c text => cases hread
  | succ fuel ih =>
    cases text with
    | nil => exact ⟨[], .nil⟩
    | cons c text =>
      have hne : c :: text ≠ [] := List.cons_ne_nil c text
      rw [readPieces_succ hne, Option.bind_eq_some_iff] at hread
      obtain ⟨⟨piece, rest⟩, hpiece, hread⟩ := hread
      obtain ⟨others, hothers, rfl⟩ := Option.map_eq_some_iff.1 hread
      rw [List.forall_mem_cons] at hplain
      obtain ⟨part, hpart, hstops, htext⟩ := exists_part_of_readPiece hne hplain.1 hpiece
      obtain ⟨parts, hparts⟩ := ih hothers hplain.2
      exact ⟨part :: parts, htext ▸ .cons hpart hstops hparts⟩

end RecipeMatrix.Template
