import RecipeMatrix.Toml.Lexeme
import RecipeMatrix.Toml.Layout

/-!
# Quoted texts are read back as they were written

`readQuoted_written`: whatever style a text gets, reading its quoted form gives the text back and
stops right after it, if no further quote follows.

In a basic text every character has a spelling that no reader can take for a quote (`Spelled`), so
one step of the reader takes one character of the text.  On several lines this fails for the first
two quotes in a row, which are written as they are.  There the count of `multilineBody` carries the
argument: a third quote is always escaped, so three in a row are the closing ones, with at most two
quotes of the text right before them.
-/

namespace RecipeMatrix.Toml

/-! ## Controls and their numbers -/

theorem isPlain_of_not_isControl {c : Char} (hcontrol : isControl c = false) (hbreak : c ≠ '\n') :
    isPlain c = true := by
  simp only [isControl, Bool.or_eq_false_iff, Bool.and_eq_false_iff, decide_eq_false_iff_not,
    bne_eq_false_iff_eq, beq_eq_false_iff_ne] at hcontrol
  simp only [isPlain, Bool.or_eq_true, Bool.and_eq_true, decide_eq_true_eq, beq_iff_eq, bne_iff_ne]
  grind

theorem hexDigit?_upperHexDigit :
    ∀ digit < 16, hexDigit? (upperHexDigit digit) = some digit := by
  decide

theorem hexNumber?_fourHexDigits {number : Nat} (hnumber : number < 65536) :
    hexNumber? (fourHexDigits number) = some number := by
  have hdigit := fun place => hexDigit?_upperHexDigit (place % 16) (Nat.mod_lt _ (by decide))
  simp only [hexNumber?, fourHexDigits, List.foldlM_cons, List.foldlM_nil, hdigit,
    Option.map_some, Option.bind_eq_bind, Option.bind_some, Option.pure_def, Option.some.injEq]
  omega

theorem toNat_lt_of_isControl {c : Char} (hcontrol : isControl c = true) : c.toNat < 128 := by
  simp only [isControl, Bool.or_eq_true, Bool.and_eq_true, decide_eq_true_eq, beq_iff_eq]
    at hcontrol
  omega

theorem hexChar?_fourHexDigits {c : Char} (hcontrol : isControl c = true) :
    hexChar? (fourHexDigits c.toNat) = some c := by
  have hlt := toNat_lt_of_isControl hcontrol
  have hvalid : c.toNat.isValidChar := c.valid
  simp [hexChar?, hexNumber?_fourHexDigits (show c.toNat < 65536 by omega), scalar?, hvalid]

/-! ## Characters of a basic text -/

/-- How a character may stand in a basic text so that it cannot be taken for a closing quote: as it
is, or behind a backslash. -/
inductive Spelled (onLines : Bool) (c : Char) : List Char → Prop
  | plain (hquote : c ≠ '"') (hbackslash : c ≠ '\\') (hplain : isPlain c = true) :
      Spelled onLines c [c]
  | lineBreak (honLines : onLines = true) (hbreak : c = '\n') : Spelled onLines c [c]
  | escape (code : List Char) (hread : ∀ rest, readEscape (code ++ rest) = some (c, rest)) :
      Spelled onLines c ('\\' :: code)

theorem spelled_quote (onLines : Bool) : Spelled onLines '"' ['\\', '"'] :=
  .escape ['"'] fun _ => rfl

theorem spelled_escaped (onLines : Bool) {c : Char} (hquote : c ≠ '"') :
    Spelled onLines c (escaped onLines c) := by
  by_cases hspecial : c = '\x08' ∨ c = '\t' ∨ c = '\x0c' ∨ c = '\r' ∨ c = '\\'
  · obtain rfl | rfl | rfl | rfl | rfl := hspecial <;> exact .escape [_] fun _ => rfl
  by_cases hbreak : c = '\n'
  · subst hbreak
    cases onLines with
    | true => exact .lineBreak rfl rfl
    | false => exact .escape ['n'] fun _ => rfl
  simp only [not_or] at hspecial
  obtain ⟨h8, ht, hc, hr, hb⟩ := hspecial
  simp only [escaped, h8, ht, hbreak, hc, hr, hb, ↓reduceIte]
  split
  next hcontrol =>
    refine .escape _ ?_
    intro rest
    have hread := hexChar?_fourHexDigits hcontrol
    simp only [fourHexDigits] at hread
    simp [fourHexDigits, readEscape, hread]
  next hcontrol =>
    exact .plain hquote hb (isPlain_of_not_isControl (by simpa using hcontrol) hbreak)

namespace Spelled

variable {onLines : Bool} {c : Char} {spelling : List Char}

theorem length_pos (h : Spelled onLines c spelling) : 0 < spelling.length := by
  cases h <;> simp

theorem head?_ne_quote (h : Spelled onLines c spelling) (rest : List Char) :
    (spelling ++ rest).head? ≠ some '"' := by
  cases h <;> simp_all

theorem isPlain_head? (h : Spelled onLines c spelling) (hbreak : c ≠ '\n') (rest : List Char) :
    ∀ d ∈ (spelling ++ rest).head?, isPlain d = true := by
  intro d hd
  cases h with
  | plain _ _ hplain =>
    cases hd
    exact hplain
  | lineBreak _ hline => exact absurd hline hbreak
  | escape code =>
    cases hd
    rfl

theorem readBasic (h : Spelled false c spelling) (fuel : Nat) (rest : List Char) :
    readBasic (fuel + 1) (spelling ++ rest) = prepend c (readBasic fuel rest) := by
  cases h with
  | plain hquote hbackslash hplain =>
    rw [List.singleton_append, Toml.readBasic, if_pos hplain] <;> simp_all
  | lineBreak honLines => cases honLines
  | escape code hread => simp [Toml.readBasic, hread]

theorem readMultilineBasic (h : Spelled true c spelling) (fuel : Nat) (rest : List Char) :
    readMultilineBasic (fuel + 1) (spelling ++ rest) =
      prepend c (readMultilineBasic fuel rest) := by
  cases h with
  | plain hquote hbackslash hplain =>
    have hreturn : c ≠ '\r' := by
      intro hc
      subst hc
      cases hplain
    rw [List.singleton_append, Toml.readMultilineBasic, if_pos (by simp [hplain])] <;> simp_all
  | lineBreak _ hbreak =>
    subst hbreak
    rfl
  | escape code hread => simp [Toml.readMultilineBasic, hread]

end Spelled

/-! ## Basic texts on one line -/

theorem exists_spelled_basicBody (c : Char) (text : List Char) :
    ∃ spelling, Spelled false c spelling ∧ basicBody (c :: text) = spelling ++ basicBody text := by
  by_cases hquote : c = '"'
  · subst hquote
    exact ⟨_, spelled_quote false, rfl⟩
  · exact ⟨_, spelled_escaped false hquote, by simp [basicBody, hquote]⟩

theorem readBasic_basicBody (text rest : List Char) {fuel : Nat}
    (hfuel : (basicBody text).length < fuel) :
    readBasic fuel (basicBody text ++ '"' :: rest) = some (text, rest) := by
  induction text generalizing fuel with
  | nil =>
    cases fuel with
    | zero => simp [basicBody] at hfuel
    | succ fuel => rfl
  | cons c text ih =>
    cases fuel with
    | zero => omega
    | succ fuel =>
      obtain ⟨spelling, hspelled, hbody⟩ := exists_spelled_basicBody c text
      have hpos := hspelled.length_pos
      rw [hbody, List.length_append] at hfuel
      rw [hbody, List.append_assoc, hspelled.readBasic, ih (by omega)]
      rfl

/-! ## Basic texts on several lines -/

theorem multilineBody_quote {count : Nat} (hcount : count ≠ 2) (text : List Char) :
    multilineBody count ('"' :: text) = '"' :: multilineBody (count + 1) text := by
  simp [multilineBody, hcount]

/-- A character that is not the first or second quote in a row. -/
theorem exists_spelled_multilineBody {count : Nat} {c : Char} (hcount : c = '"' → count = 2)
    (text : List Char) : ∃ spelling, Spelled true c spelling ∧
      multilineBody count (c :: text) = spelling ++ multilineBody 0 text := by
  by_cases hquote : c = '"'
  · subst hquote
    exact ⟨_, spelled_quote true, by simp [multilineBody, hcount rfl]⟩
  · exact ⟨_, spelled_escaped true hquote, by simp [multilineBody, hquote]⟩

theorem head?_multilineBody {count : Nat} {c : Char} (hcount : c = '"' → count = 2)
    (text rest : List Char) : (multilineBody count (c :: text) ++ rest).head? ≠ some '"' := by
  obtain ⟨spelling, hspelled, hbody⟩ := exists_spelled_multilineBody hcount text
  rw [hbody, List.append_assoc]
  exact hspelled.head?_ne_quote _

/-- A body has three quotes in a row only where its closing quotes come in, so a quote of its text
that is not among the last two is not taken for them. -/
theorem multilineBody_ne_quotes {count : Nat} (hcount : count < 2) {c : Char} {text : List Char}
    (hlong : c = '"' → count = 0 → text ≠ []) (rest more : List Char) :
    multilineBody (count + 1) (c :: text) ++ rest ≠ '"' :: '"' :: more := by
  intro heq
  by_cases hquote : c = '"' ∧ count = 0
  · obtain ⟨hc, hzero⟩ := hquote
    subst hc hzero
    cases text with
    | nil => exact hlong rfl rfl rfl
    | cons d text =>
      rw [multilineBody_quote (by decide), List.cons_append, List.cons.injEq] at heq
      exact head?_multilineBody (fun _ => rfl) text rest (congrArg List.head? heq.2)
  · refine head?_multilineBody ?_ text rest (congrArg List.head? heq)
    intro hc
    have hone : count ≠ 0 := fun hzero => hquote ⟨hc, hzero⟩
    omega

theorem readMultilineBasic_quote (fuel : Nat) {rest : List Char}
    (hrest : ∀ more, rest ≠ '"' :: '"' :: more) :
    readMultilineBasic (fuel + 1) ('"' :: rest) = prepend '"' (readMultilineBasic fuel rest) := by
  rw [readMultilineBasic, if_pos (by decide)] <;> simp_all

theorem readMultilineBasic_closing (fuel : Nat) {rest : List Char} (hrest : rest.head? ≠ some '"') :
    readMultilineBasic (fuel + 1) ('"' :: '"' :: '"' :: rest) = some ([], rest) := by
  rw [readMultilineBasic] <;> grind

theorem readMultilineBasic_quote_closing (fuel : Nat) {rest : List Char}
    (hrest : rest.head? ≠ some '"') :
    readMultilineBasic (fuel + 1) ('"' :: '"' :: '"' :: '"' :: rest) = some (['"'], rest) := by
  rw [readMultilineBasic]
  grind

theorem readMultilineBasic_multilineBody (text : List Char) {count : Nat} (hcount : count ≤ 2)
    {rest : List Char} (hrest : rest.head? ≠ some '"') {fuel : Nat}
    (hfuel : (multilineBody count text).length < fuel) :
    readMultilineBasic fuel (multilineBody count text ++ '"' :: '"' :: '"' :: rest) =
      some (text, rest) := by
  induction text generalizing count fuel with
  | nil =>
    cases fuel with
    | zero => omega
    | succ fuel => exact readMultilineBasic_closing fuel hrest
  | cons c text ih =>
    cases fuel with
    | zero => omega
    | succ fuel =>
      by_cases hthird : c = '"' → count = 2
      · obtain ⟨spelling, hspelled, hbody⟩ := exists_spelled_multilineBody hthird text
        have hpos := hspelled.length_pos
        rw [hbody, List.length_append] at hfuel
        rw [hbody, List.append_assoc, hspelled.readMultilineBasic, ih (by omega) (by omega)]
        rfl
      · obtain ⟨hc, htwo⟩ := Classical.not_imp.mp hthird
        subst hc
        rw [multilineBody_quote htwo] at hfuel ⊢
        simp only [List.length_cons] at hfuel
        -- The last two quotes of a text stand right before the closing ones and are read with them.
        by_cases hlast : text = []
        · subst hlast
          exact readMultilineBasic_quote_closing fuel hrest
        by_cases hlastTwo : text = ['"'] ∧ count = 0
        · obtain ⟨htext, hzero⟩ := hlastTwo
          subst htext hzero
          rfl
        rw [List.cons_append, readMultilineBasic_quote fuel, ih (by omega) (by omega)]
        · rfl
        intro more
        cases text with
        | nil => exact absurd rfl hlast
        | cons d text =>
          refine multilineBody_ne_quotes (by omega) ?_ _ _
          intro hd hzero htext
          exact hlastTwo ⟨by rw [hd, htext], hzero⟩

/-! ## Literal texts on one line -/

theorem readLiteral_append (text rest : List Char) (hplain : ∀ c ∈ text, isPlain c = true)
    (hquote : '\'' ∉ text) : readLiteral (text ++ '\'' :: rest) = some (text, rest) := by
  induction text with
  | nil => rfl
  | cons c text ih =>
    simp only [List.mem_cons, not_or] at hquote
    have hread := ih (fun d hd => hplain d (List.mem_cons_of_mem c hd)) hquote.2
    rw [List.cons_append, readLiteral, if_pos (hplain c List.mem_cons_self), hread]
    · rfl
    · exact fun hc => hquote.1 hc.symm

/-! ## Literal texts on several lines -/

theorem readMultilineLiteral_plain {c : Char} {rest : List Char}
    (hplain : isPlain c = true ∨ c = '\n')
    (hquote : c = '\'' → ∀ more, rest ≠ '\'' :: '\'' :: more) :
    readMultilineLiteral (c :: rest) = prepend c (readMultilineLiteral rest) := by
  have hreturn : c ≠ '\r' := by
    intro hc
    subst hc
    revert hplain
    decide
  rw [readMultilineLiteral, if_pos (by simpa using hplain)] <;> simp_all

theorem readMultilineLiteral_append (text : List Char) {rest : List Char}
    (hplain : ∀ c ∈ text, isPlain c = true ∨ c = '\n') (hthree : hasThreeInARow '\'' text = false)
    (hrest : rest.head? ≠ some '\'') :
    readMultilineLiteral (text ++ '\'' :: '\'' :: '\'' :: rest) = some (text, rest) := by
  induction text with
  | nil => rw [List.nil_append, readMultilineLiteral] <;> grind
  | cons c text ih =>
    have htail : hasThreeInARow '\'' text = false := by
      cases text with
      | nil => rfl
      | cons d text => cases text <;> simp_all [hasThreeInARow]
    have hread := ih (fun d hd => hplain d (List.mem_cons_of_mem c hd)) htail
    by_cases hlast : c = '\'' ∧ text = []
    · obtain ⟨hc, htext⟩ := hlast
      subst hc htext
      rw [List.cons_append, List.nil_append, readMultilineLiteral]
      grind
    by_cases hlastTwo : c = '\'' ∧ text = ['\'']
    · obtain ⟨hc, htext⟩ := hlastTwo
      subst hc htext
      rfl
    rw [List.cons_append, readMultilineLiteral_plain (hplain c List.mem_cons_self), hread]
    · rfl
    intro hc more
    subst hc
    cases text with
    | nil => exact absurd ⟨rfl, rfl⟩ hlast
    | cons d text =>
      cases text <;> simp_all [hasThreeInARow]

/-! ## Texts in a style -/

theorem plain_of_any_isControl {text : List Char} (hcontrols : text.any isControl = false) :
    ∀ c ∈ text, isPlain c = true ∨ c = '\n' := by
  intro c hc
  have hcontrol := List.any_eq_false.mp hcontrols c hc
  by_cases hbreak : c = '\n'
  · exact .inr hbreak
  · exact .inl (isPlain_of_not_isControl (by simpa using hcontrol) hbreak)

theorem of_styleOf_eq_literal {text : List Char} (hstyle : styleOf text = .literal) :
    (∀ c ∈ text, isPlain c = true) ∧ '\'' ∉ text := by
  have hneeds : (!text.any isControl && !text.contains '\'' && !text.contains '\n') = true := by
    unfold styleOf at hstyle
    grind
  simp only [Bool.and_eq_true, Bool.not_eq_true', List.contains_eq_mem, decide_eq_false_iff_not]
    at hneeds
  obtain ⟨⟨hcontrols, hquote⟩, hbreak⟩ := hneeds
  refine ⟨?_, hquote⟩
  intro c hc
  obtain hplain | hline := plain_of_any_isControl hcontrols c hc
  · exact hplain
  · exact absurd (hline ▸ hc) hbreak

theorem of_styleOf_eq_multilineLiteral {text : List Char}
    (hstyle : styleOf text = .multilineLiteral) :
    (∀ c ∈ text, isPlain c = true ∨ c = '\n') ∧ hasThreeInARow '\'' text = false := by
  have hneeds : (!text.any isControl && !hasThreeInARow '\'' text) = true := by
    unfold styleOf at hstyle
    grind
  simp only [Bool.and_eq_true, Bool.not_eq_true'] at hneeds
  exact ⟨plain_of_any_isControl hneeds.1, hneeds.2⟩

theorem dropNewline_openingBreak {text body : List Char}
    (hplain : '\n' ∉ text → ∀ c ∈ body.head?, isPlain c = true) :
    dropNewline (openingBreak text ++ body) = body := by
  by_cases hbreak : '\n' ∈ text
  · simp [openingBreak, hbreak, dropNewline, readNewline]
  · have hhead := hplain hbreak
    simp only [openingBreak, List.contains_eq_mem, hbreak, decide_false, Bool.false_eq_true,
      ↓reduceIte, List.nil_append, dropNewline]
    unfold readNewline
    split <;> simp_all [isPlain]

theorem isPlain_head?_multilineBody (count : Nat) {text : List Char} (hbreak : '\n' ∉ text)
    (rest : List Char) :
    ∀ c ∈ (multilineBody count text ++ '"' :: rest).head?, isPlain c = true := by
  cases text with
  | nil =>
    intro c hc
    cases hc
    rfl
  | cons c text =>
    by_cases hthird : c = '"' → count = 2
    · obtain ⟨spelling, hspelled, hbody⟩ := exists_spelled_multilineBody hthird text
      rw [hbody, List.append_assoc]
      exact hspelled.isPlain_head? (List.ne_of_not_mem_cons hbreak).symm _
    · obtain ⟨hc, htwo⟩ := Classical.not_imp.mp hthird
      subst hc
      rw [multilineBody_quote htwo]
      intro d hd
      cases hd
      rfl

theorem readQuoted_of_ne {mark : Char} {text : List Char}
    (htext : ∀ more, text ≠ mark :: mark :: more) :
    readQuoted (mark :: text) = readQuotedKey (mark :: text) := by
  rw [readQuoted] <;> grind

theorem readQuoted_basic (text : List Char) {rest : List Char} (hrest : rest.head? ≠ some '"') :
    readQuoted (written .basic text ++ rest) = some (text, rest) := by
  have hread := readBasic_basicBody text rest
    (show (basicBody text).length < (basicBody text ++ '"' :: rest).length + 1 by
      simp only [List.length_append]
      omega)
  simp only [written, List.cons_append, List.nil_append, List.append_assoc]
  rw [readQuoted_of_ne]
  · exact hread
  intro more heq
  cases text with
  | nil => exact hrest (congrArg List.head? (List.cons.inj heq).2)
  | cons c text =>
    obtain ⟨spelling, hspelled, hbody⟩ := exists_spelled_basicBody c text
    rw [hbody, List.append_assoc] at heq
    exact hspelled.head?_ne_quote _ (congrArg List.head? heq)

theorem readQuoted_literal {text rest : List Char} (hstyle : styleOf text = .literal)
    (hrest : rest.head? ≠ some '\'') :
    readQuoted (written .literal text ++ rest) = some (text, rest) := by
  obtain ⟨hplain, hquote⟩ := of_styleOf_eq_literal hstyle
  simp only [written, List.cons_append, List.nil_append, List.append_assoc]
  rw [readQuoted_of_ne]
  · exact readLiteral_append text rest hplain hquote
  intro more heq
  cases text with
  | nil => exact hrest (congrArg List.head? (List.cons.inj heq).2)
  | cons c text =>
    have hc := (List.cons.inj heq).1
    exact hquote (hc ▸ List.mem_cons_self)

theorem readQuoted_multilineBasic (text : List Char) {rest : List Char}
    (hrest : rest.head? ≠ some '"') :
    readQuoted (written .multilineBasic text ++ rest) = some (text, rest) := by
  simp only [written, List.cons_append, List.nil_append, List.append_assoc, readQuoted]
  rw [dropNewline_openingBreak fun hbreak => isPlain_head?_multilineBody 0 hbreak _]
  refine readMultilineBasic_multilineBody text (by omega) hrest ?_
  simp only [List.length_append]
  omega

theorem readQuoted_multilineLiteral {text rest : List Char}
    (hstyle : styleOf text = .multilineLiteral) (hrest : rest.head? ≠ some '\'') :
    readQuoted (written .multilineLiteral text ++ rest) = some (text, rest) := by
  obtain ⟨hplain, hthree⟩ := of_styleOf_eq_multilineLiteral hstyle
  simp only [written, List.cons_append, List.nil_append, List.append_assoc, readQuoted]
  rw [dropNewline_openingBreak]
  · exact readMultilineLiteral_append text hplain hthree hrest
  intro hbreak c hc
  cases text with
  | nil =>
    cases hc
    rfl
  | cons d text =>
    cases hc
    obtain h | h := hplain c List.mem_cons_self
    · exact h
    · exact absurd (h ▸ List.mem_cons_self) hbreak

/-- A text is read back from the style that is chosen for it. -/
theorem readQuoted_written (text : List Char) {rest : List Char} (hbasic : rest.head? ≠ some '"')
    (hliteral : rest.head? ≠ some '\'') :
    readQuoted (written (styleOf text) text ++ rest) = some (text, rest) := by
  cases hstyle : styleOf text with
  | basic => exact readQuoted_basic text hbasic
  | literal => exact readQuoted_literal hstyle hliteral
  | multilineBasic => exact readQuoted_multilineBasic text hbasic
  | multilineLiteral => exact readQuoted_multilineLiteral hstyle hliteral

end RecipeMatrix.Toml
