import RecipeMatrix.Proofs.Catalog.Selections
import RecipeMatrix.Proofs.Recipe.Rendering
import RecipeMatrix.Proofs.Template.Reading

/-!
# What a template shows

`shown` says what the parts of a template show: each its own text or value, one after the other,
where a text lacks the blanks that the parts next to it take off.  Rendering gives just that as
long as every tag has a value (`renderPieces_map_of_known`), and fails at the first tag that has
none (`renderPieces_map_of_unknown`).  Both come from the rendering of a single part
(`renderPieces_of_known`, `renderPieces_of_unknown`).

`Recipe.template_shows` puts the reading and the rendering of templates together.  Two things are
not as they look (`Recipe.not_forall_fill_shown`): comments at the start of a template are dropped
together with their marks, and one name that is no value of a recipe can be filled in.
-/

namespace RecipeMatrix

namespace Template

/-! ## Names with a value -/

/-- The names of the values that a recipe is made from. -/
def recipeNames : List String := ["image", "install_dev", "install_runtime"]

/-- The names that have a value: those of the recipe, and the name of all its values at once. -/
def valueNames : List String := recipeNames ++ ["__tera_context"]

theorem exists_get?_iff (values : RecipeValues) {name : String} :
    (∃ text, values.get? name = some text) ↔ name ∈ valueNames := by
  unfold RecipeValues.get? valueNames recipeNames
  split <;> simp_all

/-! ## What is shown -/

namespace Part

/-- The part is a comment. -/
def isComment : Part → Bool
  | comment .. => true
  | _ => false

/-- The part takes the blanks off the end of a text before it. -/
def trimsBefore : Part → Bool
  | text _ => false
  | tag marks _ _ _ => marks.before
  | comment marks _ => marks.before
  | verbatim opening _ _ => opening.marks.before

/-- The part takes the blanks off the start of a text after it. -/
def trimsAfter : Part → Bool
  | text _ => false
  | tag marks _ _ _ => marks.after
  | comment marks _ => marks.after
  | verbatim _ _ closing => closing.marks.after

/-- The name that a tag stands for. -/
def tagName? : Part → Option String
  | tag _ _ name _ => some (String.ofList name)
  | _ => none

/-- What a part shows between its neighbours, which may take blanks off its ends. -/
def shown (values : RecipeValues) (atStart atEnd : Bool) : Part → List Char
  | text content => trimmed atStart atEnd content
  | tag _ _ name _ => ((values.get? (String.ofList name)).getD "").toList
  | comment _ _ => []
  | verbatim opening content closing =>
      trimmed opening.marks.after closing.marks.before content

end Part

/-- What parts show, one after the other, behind another part or at the start of the template. -/
def shown (values : RecipeValues) : Option Part → List Part → List Char
  | _, [] => []
  | before, part :: rest =>
      part.shown values (before.any Part.trimsAfter) (rest.head?.any Part.trimsBefore) ++
        shown values (some part) rest

/-- The template that parts spell.  The comments it starts with are dropped, trim marks and all. -/
def ofParts (parts : List Part) : Template :=
  ⟨(parts.dropWhile Part.isComment).map Part.piece⟩

/-- The names of the tags, in their order. -/
def tagNames (parts : List Part) : List String := parts.filterMap Part.tagName?

/-! ## Rendering -/

theorem trimsBefore_map_piece (parts : List Part) :
    trimsBefore (parts.map Part.piece) = parts.head?.any Part.trimsBefore := by
  cases parts with
  | nil => rfl
  | cons part parts => cases part <;> rfl

theorem withoutLeadingComments_map_piece (parts : List Part) :
    withoutLeadingComments (parts.map Part.piece) =
      (parts.dropWhile Part.isComment).map Part.piece := by
  induction parts with
  | nil => rfl
  | cons part parts ih =>
    cases part with
    | comment marks content => exact ih
    | _ => rfl

theorem isPlain_of_withoutLeadingComments {pieces : List Piece}
    (hplain : ∀ piece ∈ withoutLeadingComments pieces, piece.IsPlain) :
    ∀ piece ∈ pieces, piece.IsPlain := by
  induction pieces with
  | nil => exact nofun
  | cons piece pieces ih =>
    cases piece with
    | comment marks => exact List.forall_mem_cons.2 ⟨nofun, ih hplain⟩
    | _ => exact hplain

theorem tagNames_dropWhile (parts : List Part) :
    tagNames (parts.dropWhile Part.isComment) = tagNames parts := by
  induction parts with
  | nil => rfl
  | cons part parts ih =>
    cases part with
    | comment marks content => exact ih
    | _ => rfl

variable {values : RecipeValues} {part : Part} {name : String}

/-- A part whose name has a value shows its text, and then the rest is rendered. -/
theorem renderPieces_of_known (hknown : ∀ name ∈ part.tagName?, name ∈ valueNames)
    (trimming : Bool) (rest : List Piece) :
    renderPieces values trimming (part.piece :: rest) =
      (renderPieces values part.trimsAfter rest).map
        (part.shown values trimming (trimsBefore rest) ++ ·) := by
  cases part with
  | text content =>
    simp only [Part.piece, renderPieces, Part.trimsAfter]
    cases renderPieces values false rest <;> rfl
  | tag marks blanks name blanks' =>
    obtain ⟨text, htext⟩ := (exists_get?_iff values).2 (hknown _ rfl)
    simp only [Part.piece, renderPieces, value, htext, Part.trimsAfter, Part.shown]
    cases renderPieces values marks.after rest <;> rfl
  | comment marks content =>
    simp only [Part.piece, renderPieces, Part.trimsAfter]
    cases renderPieces values marks.after rest <;> rfl
  | verbatim opening content closing =>
    simp only [Part.piece, renderPieces, Part.trimsAfter]
    cases renderPieces values closing.marks.after rest <;> rfl

/-- Rendering fails at a part whose name has no value. -/
theorem renderPieces_of_unknown (hname : part.tagName? = some name) (hunknown : name ∉ valueNames)
    (trimming : Bool) (rest : List Piece) :
    renderPieces values trimming (part.piece :: rest) = .error (.unknownName name) := by
  cases part with
  | tag marks blanks chars blanks' =>
    obtain rfl := Option.some.inj hname
    have hnone : values.get? (String.ofList chars) = none := by
      rw [Option.eq_none_iff_forall_ne_some]
      exact fun text htext => hunknown ((exists_get?_iff values).1 ⟨text, htext⟩)
    rw [Part.piece, renderPieces, value, hnone]
    rfl
  | _ => cases hname

theorem forall_tagNames_cons_iff {names : List String} {parts : List Part} :
    (∀ name ∈ tagNames (part :: parts), name ∈ names) ↔
      (∀ name ∈ part.tagName?, name ∈ names) ∧ ∀ name ∈ tagNames parts, name ∈ names := by
  unfold tagNames
  cases hname : part.tagName? <;> simp [hname]

/-- When every tag has a value, the parts show their texts in order. -/
theorem renderPieces_map_of_known {parts : List Part}
    (hknown : ∀ name ∈ tagNames parts, name ∈ valueNames) (before : Option Part) :
    renderPieces values (before.any Part.trimsAfter) (parts.map Part.piece) =
      .ok (shown values before parts) := by
  -- Each part decides what is trimmed of the next, so the part before is left general.
  induction parts generalizing before with
  | nil => rfl
  | cons part parts ih =>
    rw [forall_tagNames_cons_iff] at hknown
    have hrest := ih hknown.2 (some part)
    rw [Option.any_some] at hrest
    rw [List.map_cons, renderPieces_of_known hknown.1, hrest, trimsBefore_map_piece]
    rfl

/-- Rendering fails at the first tag that has no value. -/
theorem renderPieces_map_of_unknown {parts : List Part}
    (hfirst : Selection.FirstUnknown valueNames (tagNames parts) name) (trimming : Bool) :
    renderPieces values trimming (parts.map Part.piece) = .error (.unknownName name) := by
  obtain ⟨before, after, hnames, hbefore, hunknown⟩ := hfirst
  induction parts generalizing before trimming with
  | nil => exact absurd (congrArg List.length hnames) (by simp [tagNames])
  | cons part parts ih =>
    rw [List.map_cons]
    cases hname : part.tagName? with
    | none =>
      rw [tagNames, List.filterMap_cons_none hname] at hnames
      rw [renderPieces_of_known (by simp [hname]), ih _ _ hnames hbefore]
      rfl
    | some found =>
      rw [tagNames, List.filterMap_cons_some hname] at hnames
      cases before with
      | nil =>
        obtain ⟨rfl, -⟩ := List.cons.inj hnames
        exact renderPieces_of_unknown hname hunknown trimming _
      | cons earlier before =>
        obtain ⟨rfl, hrest⟩ := List.cons.inj hnames
        rw [List.forall_mem_cons] at hbefore
        rw [renderPieces_of_known (by simpa [hname] using hbefore.1), ih _ _ hrest hbefore.2]
        rfl

end Template

/-! ## Recipes -/

namespace Recipe

open Template

theorem template_of_spells {parts : List Part} {source : String}
    (hspells : Spells parts source.toList) : template source = .ok (ofParts parts) := by
  have hread : readPieces source.length source.toList = some (parts.map Part.piece) :=
    readPieces_of_spells hspells (String.length_toList ▸ Nat.le_refl _)
  unfold template read?
  simp only [hread, Option.bind_eq_bind, Option.bind_some, withoutLeadingComments_map_piece,
    ofParts]

theorem exists_spells_of_template {source : String} {found : Template}
    (hfound : template source = .ok found) (hplain : ∀ piece ∈ found.pieces, piece.IsPlain) :
    ∃ parts, Spells parts source.toList := by
  unfold template at hfound
  split at hfound
  next other hread =>
    obtain rfl := Except.ok.inj hfound
    simp only [read?, Option.bind_eq_bind, Option.bind_eq_some_iff, Option.some.injEq] at hread
    obtain ⟨pieces, hpieces, rfl⟩ := hread
    exact exists_spells_of_readPieces hpieces (isPlain_of_withoutLeadingComments hplain)
  next => cases hfound

variable {parts : List Part} {values : RecipeValues} {platform compiler : String}

theorem fill_of_known (hknown : ∀ name ∈ tagNames parts, name ∈ valueNames) :
    fill (ofParts parts) values platform compiler =
      .ok (String.ofList (shown values none (parts.dropWhile Part.isComment))) := by
  rw [← tagNames_dropWhile] at hknown
  have hrender : renderPieces values false ((parts.dropWhile Part.isComment).map Part.piece) =
      .ok (shown values none (parts.dropWhile Part.isComment)) :=
    renderPieces_map_of_known hknown none
  refine fill_of_ok ?_
  rw [render, ofParts, hrender]
  rfl

theorem fill_of_unknown {name : String}
    (hfirst : Selection.FirstUnknown valueNames (tagNames parts) name) :
    fill (ofParts parts) values platform compiler =
      .error (.renderFailed platform compiler (RenderFault.unknownName name).message) := by
  rw [← tagNames_dropWhile] at hfirst
  refine fill_of_error ?_
  rw [render, ofParts, renderPieces_map_of_unknown hfirst]
  rfl

theorem fill_eq_ok_iff {text : String} :
    fill (ofParts parts) values platform compiler = .ok text ↔
      (∀ name ∈ tagNames parts, name ∈ valueNames) ∧
        text = String.ofList (shown values none (parts.dropWhile Part.isComment)) := by
  constructor
  · intro hok
    have hknown : ∀ name ∈ tagNames parts, name ∈ valueNames := by
      by_contra hunknown
      push Not at hunknown
      obtain ⟨name, hfirst⟩ := Selection.exists_firstUnknown hunknown
      rw [fill_of_unknown hfirst] at hok
      cases hok
    rw [fill_of_known hknown] at hok
    exact ⟨hknown, (Except.ok.inj hok).symm⟩
  · rintro ⟨hknown, rfl⟩
    exact fill_of_known hknown

theorem fill_eq_error_iff {error : Error} :
    fill (ofParts parts) values platform compiler = .error error ↔
      ∃ name, Selection.FirstUnknown valueNames (tagNames parts) name ∧
        error = .renderFailed platform compiler (RenderFault.unknownName name).message := by
  constructor
  · intro herror
    have hunknown : ∃ name ∈ tagNames parts, name ∉ valueNames := by
      by_contra hknown
      push Not at hknown
      rw [fill_of_known hknown] at herror
      cases herror
    obtain ⟨name, hfirst⟩ := Selection.exists_firstUnknown hunknown
    rw [fill_of_unknown hfirst] at herror
    exact ⟨name, hfirst, (Except.error.inj herror).symm⟩
  · rintro ⟨name, hfirst, rfl⟩
    exact fill_of_unknown hfirst

/-- A text without openings is a template of one part, or of none. -/
theorem exists_spells_of_not_hasOpening {text : List Char} (hopening : ¬ HasOpening text) :
    ∃ parts, Spells parts text ∧ tagNames parts = [] ∧
      ∀ values, shown values none (parts.dropWhile Part.isComment) = text := by
  by_cases hempty : text = []
  · exact ⟨[], hempty ▸ .nil, rfl, fun _ => hempty.symm⟩
  · refine ⟨[.text text], ?_, rfl, fun values => List.append_nil text⟩
    have hpart : (Part.text text).WellFormed := ⟨hempty, hopening⟩
    simpa [Part.written] using Spells.cons hpart (.inl rfl) .nil

/-- A recipe is what its template makes of the cell, with a line break if there is none. -/
theorem exists_ofCell_of_fill {found : Template} {cell : Cell} {text : String}
    (hfill : fill found (Recipe.values cell) cell.platform.name cell.compiler.name = .ok text) :
    ∃ recipe, ofCell found cell = .ok recipe ∧
      (text.toList.getLast? = some '\n' → recipe.text = text) ∧
      (text.toList.getLast? ≠ some '\n' → recipe.text = text ++ "\n") := by
  refine ⟨_, by rw [ofCell, hfill]; rfl, fun hended => ?_, fun hopen => ?_⟩
  · exact if_pos hended
  · exact if_neg hopen

/-- A template whose tags all stand for names is spelled by parts, and whatever parts spell is a
template.  It can be filled in exactly when each name is one of those that have a value, and then
its text is what the parts show, apart from the comments at the start.  Otherwise the first other
name is reported.  A text without openings is filled in as it stands, and its recipe has one
line break more if the text does not end in one. -/
theorem template_shows :
    (∀ source found, template source = .ok found → (∀ piece ∈ found.pieces, piece.IsPlain) →
      ∃ parts, Spells parts source.toList) ∧
    (∀ parts source, Spells parts source.toList → ∃ found, template source = .ok found ∧
      ∀ values platform compiler,
        (∀ text, fill found values platform compiler = .ok text ↔
          (∀ name ∈ tagNames parts, name ∈ valueNames) ∧
            text = String.ofList (shown values none (parts.dropWhile Part.isComment))) ∧
        ∀ error, fill found values platform compiler = .error error ↔
          ∃ name, Selection.FirstUnknown valueNames (tagNames parts) name ∧
            error = .renderFailed platform compiler (RenderFault.unknownName name).message) ∧
    ∀ source, ¬ HasOpening source.toList → ∃ found, template source = .ok found ∧
      (∀ values platform compiler, fill found values platform compiler = .ok source) ∧
      ∀ cell, ∃ recipe, ofCell found cell = .ok recipe ∧
        (source.toList.getLast? = some '\n' → recipe.text = source) ∧
        (source.toList.getLast? ≠ some '\n' → recipe.text = source ++ "\n") := by
  refine ⟨fun source found => exists_spells_of_template, fun parts source hspells => ?_,
    fun source hopening => ?_⟩
  · exact ⟨_, template_of_spells hspells, fun values platform compiler =>
      ⟨fun text => fill_eq_ok_iff, fun error => fill_eq_error_iff⟩⟩
  · obtain ⟨parts, hspells, hnames, hshown⟩ := exists_spells_of_not_hasOpening hopening
    have hfill (values : RecipeValues) (platform compiler : String) :
        fill (ofParts parts) values platform compiler = .ok source :=
      fill_eq_ok_iff.2 ⟨by simp [hnames], by rw [hshown, String.ofList_toList]⟩
    exact ⟨_, template_of_spells hspells, hfill, fun cell => exists_ofCell_of_fill (hfill _ _ _)⟩

theorem nameTail_of_all {rest : List Char} (hrest : rest.all isNamePart = true) :
    NameTail rest := by
  induction rest with
  | nil => exact .nil
  | cons c rest ih =>
    obtain ⟨hpart, htail⟩ := Bool.and_eq_true_iff.1 hrest
    exact .part hpart (ih htail)

/-- A word without dots can be the name of a tag, unless it is one of the engine's own words. -/
theorem isVariable_of_all {c : Char} {rest : List Char} (hstart : isNameStart c = true)
    (hrest : rest.all isNamePart = true) (htruth : readTruth (c :: rest) = none)
    (hnegation : c :: rest ≠ negationWord) (after : List Char) : IsVariable (c :: rest) after where
  isName := .intro hstart (nameTail_of_all hrest)
  truth := readTruth_eq_none_iff.1 htruth
  negation := fun heq => absurd heq hnegation

/-- Every kind of part, with trim marks and lone braces. -/
def mixedParts : List Part :=
  [.comment ⟨false, true⟩ [' ', 'c', ' '], .text [' ', 'a', ' ', '{', ' '],
    .tag ⟨true, true⟩ [' '] ['i', 'm', 'a', 'g', 'e'] [' '], .text [' ', ' '],
    .verbatim ⟨⟨false, true⟩, [' '], [' ']⟩ [' ', '{', '{', ' ', 'x', ' ', '}', '}', ' ']
      ⟨⟨true, false⟩, [' '], [' ']⟩,
    .text ['\n']]

theorem template_shows_mixed : ∃ found,
    template ("\x7b# c -#\x7d a \x7b \x7b\x7b- image -\x7d\x7d  " ++
      "\x7b% raw -%\x7d \x7b\x7b x \x7d\x7d \x7b%- endraw %\x7d\n") = .ok found ∧
    ∀ platform compiler, fill found ⟨"debian:12", "apt", "apk"⟩ platform compiler =
      .ok " a \x7bdebian:12\x7b\x7b x \x7d\x7d\n" := by
  have hend : ¬ HasBlockEnd [' ', '{', '{', ' ', 'x', ' ', '}', '}', ' '] :=
    fun ⟨tag, _, hwithin⟩ => absurd (hwithin.subset
      (show '%' ∈ tag.written endrawWord by simp [BlockTag.written])) (by decide)
  have hspells : Spells mixedParts (mixedParts.flatMap Part.written) := by
    simp only [mixedParts, List.flatMap_cons, List.flatMap_nil]
    exact .cons ⟨by decide, by decide, by decide⟩ trivial <|
      .cons ⟨by decide, mt hasOpening_iff.1 (by decide)⟩
        (.inr ⟨startsOpening_iff.2 (by decide), by decide⟩) <|
      .cons ⟨by decide, isVariable_of_all rfl rfl rfl (by decide) _, by decide⟩ trivial <|
      .cons ⟨by decide, mt hasOpening_iff.1 (by decide)⟩
        (.inr ⟨startsOpening_iff.2 (by decide), by decide⟩) <|
      .cons ⟨⟨by decide, by decide⟩, hend, ⟨by decide, by decide⟩⟩ trivial <|
      .cons ⟨by decide, mt hasOpening_iff.1 (by decide)⟩ (.inl rfl) .nil
  have hsource : mixedParts.flatMap Part.written =
      ("\x7b# c -#\x7d a \x7b \x7b\x7b- image -\x7d\x7d  " ++
        "\x7b% raw -%\x7d \x7b\x7b x \x7d\x7d \x7b%- endraw %\x7d\n").toList := by
    decide +kernel
  rw [hsource] at hspells
  obtain ⟨found, hfound, hfill⟩ := template_shows.2.1 _ _ hspells
  exact ⟨found, hfound, fun platform compiler =>
    ((hfill _ platform compiler).1 _).2 ⟨by decide +kernel, by decide +kernel⟩⟩

/-- Blanks behind a comment with a trim mark. -/
def commentedParts : List Part :=
  [.comment ⟨true, true⟩ [' ', 'c', ' '], .text [' ', ' ', '\n', ' ', '{', ' ', '}', '}', '}', '}'],
    .tag ⟨false, false⟩ [' '] ['i', 'm', 'a', 'g', 'e'] [' ']]

/-- The engine's own name in a tag. -/
def contextParts : List Part :=
  [.tag ⟨false, false⟩ [' '] "__tera_context".toList [' ']]

/-- The trim marks of a comment that a template starts with take nothing off, and the names of a
recipe are not the only ones that have a value. -/
theorem not_forall_fill_shown :
    (¬ ∀ parts source found values platform compiler,
      Spells parts source.toList → template source = .ok found →
        (∀ name ∈ tagNames parts, name ∈ recipeNames) →
        fill found values platform compiler = .ok (String.ofList (shown values none parts))) ∧
    ¬ ∀ parts source found values platform compiler text,
      Spells parts source.toList → template source = .ok found →
        fill found values platform compiler = .ok text →
        ∀ name ∈ tagNames parts, name ∈ recipeNames := by
  constructor
  · intro hall
    have hspells : Spells commentedParts (commentedParts.flatMap Part.written) := by
      simp only [commentedParts, List.flatMap_cons, List.flatMap_nil]
      exact .cons ⟨by decide, by decide, by decide⟩ trivial <|
        .cons ⟨by decide, mt hasOpening_iff.1 (by decide)⟩
          (.inr ⟨startsOpening_iff.2 (by decide), by decide⟩) <|
        .cons ⟨by decide, isVariable_of_all rfl rfl rfl (by decide) _, by decide⟩ trivial .nil
    have hsource : commentedParts.flatMap Part.written =
        "\x7b#- c -#\x7d  \n \x7b \x7d\x7d\x7d\x7d\x7b\x7b image \x7d\x7d".toList := by
      decide +kernel
    rw [hsource] at hspells
    have hshown := hall _ _ _ ⟨"IMG", " dev ", "\nrun\n"⟩ "p" "c" hspells
      (template_of_spells hspells) (by decide +kernel)
    revert hshown
    decide +kernel
  · intro hall
    have hspells : Spells contextParts (contextParts.flatMap Part.written) := by
      simp only [contextParts, List.flatMap_cons, List.flatMap_nil]
      exact .cons ⟨by decide, isVariable_of_all rfl rfl rfl (by decide) _, by decide⟩ trivial .nil
    have hsource : contextParts.flatMap Part.written =
        "\x7b\x7b __tera_context \x7d\x7d".toList := by
      decide +kernel
    rw [hsource] at hspells
    have hknown : ∀ name ∈ tagNames contextParts, name ∈ valueNames := by decide +kernel
    have hnames := hall _ _ _ ⟨"IMG", " dev ", "\nrun\n"⟩ "p" "c" _ hspells
      (template_of_spells hspells) (fill_of_known hknown)
    revert hnames
    decide +kernel

end Recipe

end RecipeMatrix
