import RecipeMatrix.Proofs.Toml.Quotes
import RecipeMatrix.Toml.Document
import RecipeMatrix.Toml.Layout

/-!
# Documents are read back as the statements of their lines

`read?_renderAll`: a document of lines with unquoted keys is read as the table that the statements
of its lines describe.  The lemmas before it follow the reader from the inside out: texts and lists
of texts, unquoted keys, one line, all lines.  `read?_append_renderAll` adds that comments and empty
lines may stand in front.

The readers with fuel are given the length of the text that is left.  Each theorem about one of
them therefore asks for fuel beyond the length of what was written, and every item or line that is
taken off makes what is left shorter.
-/

namespace RecipeMatrix.Toml

/-! ## Lists of texts -/

/-- A written text starts with one of the two marks, which is no blank. -/
theorem exists_toList_quotedText (text : String) :
    ∃ mark body, (mark = '"' ∨ mark = '\'') ∧ (quotedText text).toList = mark :: body := by
  rw [quotedText, String.toList_ofList]
  cases styleOf text.toList with
  | basic => exact ⟨'"', _, .inl rfl, rfl⟩
  | literal => exact ⟨'\'', _, .inr rfl, rfl⟩
  | multilineBasic => exact ⟨'"', _, .inl rfl, rfl⟩
  | multilineLiteral => exact ⟨'\'', _, .inr rfl, rfl⟩

theorem readValue_quotedText (depth : Nat) (text : String) {rest : List Char}
    (hbasic : rest.head? ≠ some '"') (hliteral : rest.head? ≠ some '\'') :
    readValue depth ((quotedText text).toList ++ rest) = some (.text text, rest) := by
  have hread : readQuoted ((quotedText text).toList ++ rest) = some (text.toList, rest) := by
    rw [quotedText, String.toList_ofList]
    exact readQuoted_written text.toList hbasic hliteral
  obtain ⟨mark, body, hmark, hwritten⟩ := exists_toList_quotedText text
  rw [hwritten, List.cons_append] at hread ⊢
  obtain hmark | hmark := hmark
  · subst hmark
    simp [readValue, hread]
  · subst hmark
    simp [readValue, hread]

theorem skipTrivia_mark {mark : Char} (hmark : mark = '"' ∨ mark = '\'') (rest : List Char) :
    skipTrivia false (mark :: rest) = some (mark :: rest) := by
  obtain hmark | hmark := hmark
  · subst hmark
    rfl
  · subst hmark
    rfl

theorem readItems_newline {α : Type} (readItem : Reader α) (closing : Char) (fuel : Nat)
    (text : List Char) :
    readItems readItem closing fuel ('\n' :: text) = readItems readItem closing fuel text := by
  cases fuel <;> rfl

theorem readItems_indent {α : Type} (readItem : Reader α) (closing : Char) (fuel : Nat)
    (text : List Char) :
    readItems readItem closing fuel (' ' :: ' ' :: ' ' :: ' ' :: text) =
      readItems readItem closing fuel text := by
  cases fuel <;> rfl

theorem readItems_quotedText (depth fuel : Nat) (text : String) {c : Char}
    (hnext : c = ',' ∨ c = ']') (rest : List Char) :
    readItems (readValue depth) ']' (fuel + 1) ((quotedText text).toList ++ c :: rest) =
      if c = ']' then some ([.text text], rest)
      else (readItems (readValue depth) ']' fuel rest).map
        fun (items, rest) => (.text text :: items, rest) := by
  have hbasic : (c :: rest).head? ≠ some '"' := by
    obtain hnext | hnext := hnext <;> simp [hnext]
  have hliteral : (c :: rest).head? ≠ some '\'' := by
    obtain hnext | hnext := hnext <;> simp [hnext]
  have hread := readValue_quotedText depth text hbasic hliteral
  obtain ⟨mark, body, hmark, hwritten⟩ := exists_toList_quotedText text
  have hclosing : mark ≠ ']' := by
    obtain hmark | hmark := hmark <;> rw [hmark] <;> decide
  have hskip : skipTrivia false (c :: rest) = some (c :: rest) := by
    obtain hnext | hnext := hnext <;> rw [hnext] <;> rfl
  rw [hwritten, List.cons_append] at hread ⊢
  rw [readItems, skipTrivia_mark hmark]
  simp only [Option.bind_eq_bind, Option.bind_some, if_neg hclosing, hread, hskip]
  obtain hnext | hnext := hnext
  · subst hnext
    cases readItems (readValue depth) ']' fuel rest <;> simp
  · subst hnext
    rfl

/-- The lines of a list that has one for each of its texts. -/
def itemLines (items : List String) : List Char :=
  items.flatMap fun item => [' ', ' ', ' ', ' '] ++ (quotedText item).toList ++ [',', '\n']

theorem readItems_itemLines (depth : Nat) (items : List String) (rest : List Char) {fuel : Nat}
    (hfuel : (itemLines items).length < fuel) :
    readItems (readValue depth) ']' fuel (itemLines items ++ ']' :: rest) =
      some (items.map .text, rest) := by
  induction items generalizing fuel with
  | nil =>
    cases fuel with
    | zero => simp [itemLines] at hfuel
    | succ fuel => rfl
  | cons item items ih =>
    cases fuel with
    | zero => omega
    | succ fuel =>
      have hlines : itemLines (item :: items) ++ ']' :: rest = ' ' :: ' ' :: ' ' :: ' ' ::
          ((quotedText item).toList ++ ',' :: '\n' :: (itemLines items ++ ']' :: rest)) := by
        simp [itemLines]
      have hlength : (itemLines items).length < fuel := by
        simp only [itemLines, List.flatMap_cons, List.length_append, List.length_cons] at hfuel ⊢
        omega
      rw [hlines, readItems_indent, readItems_quotedText _ _ _ (.inl rfl), if_neg (by decide),
        readItems_newline, ih hlength]
      rfl

theorem toList_render_texts {items : List String} (hmany : 2 ≤ items.length) :
    (Field.texts items).render.toList = '[' :: '\n' :: (itemLines items ++ [']']) := by
  match items with
  | first :: second :: items => simp [Field.render, itemLines, List.flatMap_map]

theorem readValue_render (depth : Nat) (content : Field) {rest : List Char}
    (hbasic : rest.head? ≠ some '"') (hliteral : rest.head? ≠ some '\'') :
    readValue (depth + 1) (content.render.toList ++ rest) = some (content.value, rest) := by
  match content with
  | .text content => exact readValue_quotedText (depth + 1) content hbasic hliteral
  | .texts [] => rfl
  | .texts [item] =>
    have hlast := fun fuel => readItems_quotedText depth fuel item (.inr rfl) rest
    simp [Field.render, readValue, hlast, Field.value]
  | .texts (first :: second :: items) =>
    rw [toList_render_texts (by simp)]
    simp only [List.cons_append, List.append_assoc, List.nil_append, readValue, readItems_newline]
    rw [readItems_itemLines]
    · rfl
    · simp only [List.length_cons, List.length_append]
      omega

/-! ## Unquoted keys -/

/-- A key that needs no quotes. -/
def isBare (key : String) : Bool := !key.toList.isEmpty && key.toList.all isBareKeyChar

theorem isBareKeyChar_ne {c d : Char} (hc : isBareKeyChar c = true) (hd : isBareKeyChar d = false) :
    c ≠ d := by
  intro heq
  subst heq
  rw [hc] at hd
  cases hd

theorem exists_toList_of_isBare {key : String} (hkey : isBare key = true) :
    ∃ c name, isBareKeyChar c = true ∧ key.toList = c :: name := by
  simp only [isBare, Bool.and_eq_true, Bool.not_eq_true', List.all_eq_true] at hkey
  cases hname : key.toList with
  | nil => simp [hname] at hkey
  | cons c name => exact ⟨c, name, hkey.2 c (by simp [hname]), rfl⟩

theorem readStep_bare {key : String} (hkey : isBare key = true) {rest : List Char}
    (hrest : ∀ c ∈ rest.head?, isBareKeyChar c = false) :
    readStep (key.toList ++ rest) = some (key, rest) := by
  obtain ⟨c, name, hc, hname⟩ := exists_toList_of_isBare hkey
  have hquoted : readQuotedKey (key.toList ++ rest) = none := by
    rw [hname, List.cons_append, readQuotedKey]
    · exact fun _ heq => isBareKeyChar_ne hc (by decide) (List.cons.inj heq).1
    · exact fun _ heq => isBareKeyChar_ne hc (by decide) (List.cons.inj heq).1
  have hall : ∀ c ∈ key.toList, isBareKeyChar c = true := by
    simp only [isBare, Bool.and_eq_true, List.all_eq_true] at hkey
    exact hkey.2
  have htake : (key.toList ++ rest).takeWhile isBareKeyChar = key.toList := by
    rw [List.takeWhile_append_of_pos hall]
    cases rest <;> simp_all
  have hdrop : (key.toList ++ rest).dropWhile isBareKeyChar = rest := by
    rw [List.dropWhile_append_of_pos hall]
    cases rest <;> simp_all
  have hsome : key.toList.isEmpty = false := by
    rw [hname]
    rfl
  simp only [readStep, hquoted, htake, hdrop, hsome]
  simp

theorem skipSpaces_bare {key : String} (hkey : isBare key = true) (rest : List Char) :
    skipSpaces (key.toList ++ rest) = key.toList ++ rest := by
  obtain ⟨c, name, hc, hname⟩ := exists_toList_of_isBare hkey
  have hspace : isSpace c = false := by
    simp [isSpace, isBareKeyChar_ne hc (show isBareKeyChar ' ' = false by decide),
      isBareKeyChar_ne hc (show isBareKeyChar '\t' = false by decide)]
  simp [hname, skipSpaces, hspace]

theorem readKey_bare {key : String} (hkey : isBare key = true) {rest : List Char}
    (hrest : ∀ c ∈ rest.head?, isBareKeyChar c = false)
    (hdot : (skipSpaces rest).head? ≠ some '.') :
    readKey (key.toList ++ rest) = some ([key], skipSpaces rest) := by
  rw [readKey, maxDepth, readSteps, skipSpaces_bare hkey, readStep_bare hkey hrest]
  simp only [Option.bind_eq_bind, Option.bind_some]
  split
  next heq => exact absurd (congrArg List.head? heq) hdot
  next => rfl

/-! ## Lines -/

namespace Line

/-- The key that a line is about. -/
def key : Line → String
  | field key _ => key
  | table key => key
  | element key => key

end Line

theorem skipSpaces_render (content : Field) (rest : List Char) :
    skipSpaces (content.render.toList ++ rest) = content.render.toList ++ rest := by
  have hmark : ∀ text : String, skipSpaces ((quotedText text).toList ++ rest) =
      (quotedText text).toList ++ rest := by
    intro text
    obtain ⟨mark, body, hmark, hwritten⟩ := exists_toList_quotedText text
    obtain hmark | hmark := hmark
    · subst hmark
      rw [hwritten]
      rfl
    · subst hmark
      rw [hwritten]
      rfl
  match content with
  | .text content => exact hmark content
  | .texts [] => rfl
  | .texts [item] => simp [Field.render, skipSpaces, isSpace]
  | .texts (first :: second :: items) => simp [Field.render, skipSpaces, isSpace]

theorem readPair_field (depth : Nat) {key : String} (hkey : isBare key = true) (content : Field)
    (rest : List Char) :
    readPair (readValue (depth + 1))
        (key.toList ++ ' ' :: '=' :: ' ' :: (content.render.toList ++ '\n' :: rest)) =
      some (([key], content.value), '\n' :: rest) := by
  have hvalue := readValue_render depth content
    (show ('\n' :: rest).head? ≠ some '"' by simp) (by simp)
  have hspaces : skipSpaces (' ' :: (content.render.toList ++ '\n' :: rest)) =
      content.render.toList ++ '\n' :: rest := skipSpaces_render content _
  rw [readPair, readKey_bare hkey]
  · simp only [Option.bind_eq_bind, Option.bind_some]
    rw [show ∀ text, skipSpaces (' ' :: '=' :: text) = '=' :: text from fun _ => rfl]
    simp only [hspaces, hvalue, Option.bind_some]
  · intro c hc
    cases hc
    rfl
  · rw [show ∀ text, skipSpaces (' ' :: '=' :: text) = '=' :: text from fun _ => rfl]
    simp

theorem readKey_bracket {key : String} (hkey : isBare key = true) (rest : List Char) :
    readKey (key.toList ++ ']' :: rest) = some ([key], ']' :: rest) := by
  rw [readKey_bare hkey]
  · rfl
  · intro c hc
    cases hc
    rfl
  · simp [skipSpaces, isSpace]

theorem readStatement_field {key : String} (hkey : isBare key = true) (content : Field)
    (rest : List Char) :
    readStatement (key.toList ++ ' ' :: '=' :: ' ' :: (content.render.toList ++ '\n' :: rest)) =
      some (.assign [key] content.value, rest) := by
  have hpair := readPair_field 79 hkey content rest
  obtain ⟨c, name, hc, hname⟩ := exists_toList_of_isBare hkey
  have hbracket : c ≠ '[' := isBareKeyChar_ne hc (by decide)
  rw [hname, List.cons_append] at hpair ⊢
  rw [readStatement, maxDepth, hpair]
  · rfl
  · exact fun _ heq => absurd (List.cons.inj heq).1 hbracket
  · exact fun _ heq => absurd (List.cons.inj heq).1 hbracket

theorem readStatement_table {key : String} (hkey : isBare key = true) (rest : List Char) :
    readStatement ('[' :: (key.toList ++ ']' :: '\n' :: rest)) = some (.header [key], rest) := by
  have hread := readKey_bracket hkey ('\n' :: rest)
  obtain ⟨c, name, hc, hname⟩ := exists_toList_of_isBare hkey
  have hbracket : c ≠ '[' := isBareKeyChar_ne hc (by decide)
  rw [hname, List.cons_append] at hread ⊢
  rw [readStatement, hread]
  · rfl
  · exact fun _ heq => absurd (List.cons.inj heq).1 hbracket

theorem readStatement_element {key : String} (hkey : isBare key = true) (rest : List Char) :
    readStatement ('[' :: '[' :: (key.toList ++ ']' :: ']' :: '\n' :: rest)) =
      some (.element [key], rest) := by
  rw [readStatement, readKey_bracket hkey]
  rfl

theorem readStatement_renderFirst {line : Line} (hkey : isBare line.key = true) (rest : List Char) :
    readStatement (line.renderFirst.toList ++ rest) = some (line.statement, rest) := by
  cases line with
  | field key content =>
    have hread := readStatement_field hkey content rest
    simpa [Line.renderFirst, Line.render, Line.statement, Line.key] using hread
  | table key =>
    have hread := readStatement_table hkey rest
    simpa [Line.renderFirst, Line.statement, Line.key] using hread
  | element key =>
    have hread := readStatement_element hkey rest
    simpa [Line.renderFirst, Line.statement, Line.key] using hread

theorem skipTrivia_bare {key : String} (hkey : isBare key = true) (rest : List Char) :
    skipTrivia false (key.toList ++ rest) = some (key.toList ++ rest) := by
  obtain ⟨c, name, hc, hname⟩ := exists_toList_of_isBare hkey
  have hne := fun d hd => isBareKeyChar_ne (d := d) hc hd
  rw [hname, List.cons_append, skipTrivia]
  · simp [isSpace, hne ' ' (by decide), hne '\t' (by decide), hne '#' (by decide)]
  · exact hne '\n' (by decide)
  · exact fun _ heq => absurd heq (hne '\r' (by decide))

/-- A line is read in the same way whether or not it stands at the start. -/
theorem skipTrivia_render {line : Line} (hkey : isBare line.key = true) (rest : List Char) :
    skipTrivia false (line.render.toList ++ rest) = some (line.renderFirst.toList ++ rest) ∧
      skipTrivia false (line.renderFirst.toList ++ rest) =
        some (line.renderFirst.toList ++ rest) := by
  cases line with
  | field key content =>
    have hskip := skipTrivia_bare hkey
    rw [Line.key] at hskip
    simp [Line.renderFirst, Line.render, hskip]
  | table key => simp [Line.render, Line.renderFirst, skipTrivia, isSpace]
  | element key => simp [Line.render, Line.renderFirst, skipTrivia, isSpace]

theorem readStatements_line {line : Line} (hkey : isBare line.key = true) {text rest : List Char}
    (hskip : skipTrivia false text = some (line.renderFirst.toList ++ rest)) (fuel : Nat) :
    readStatements (fuel + 1) text = (readStatements fuel rest).map (line.statement :: ·) := by
  have hread := readStatement_renderFirst hkey rest
  rw [readStatements, hskip]
  cases htext : line.renderFirst.toList ++ rest with
  | nil =>
    rw [htext] at hread
    cases hread
  | cons c tail =>
    rw [htext] at hread
    simp only [Option.bind_eq_bind, Option.bind_some, hread]
    cases readStatements fuel rest <;> rfl

theorem length_pos_render (line : Line) :
    0 < line.render.toList.length ∧ 0 < line.renderFirst.toList.length := by
  cases line with
  | field key content =>
    have hbreak : "\n".toList.length = 1 := rfl
    simp only [Line.renderFirst, Line.render, String.toList_append, List.length_append, hbreak]
    omega
  | table key => simp [Line.renderFirst, Line.render]
  | element key => simp [Line.renderFirst, Line.render]

theorem readStatements_lines (lines : List Line) (hkeys : ∀ line ∈ lines, isBare line.key = true)
    {fuel : Nat} (hfuel : (lines.flatMap fun line => line.render.toList).length ≤ fuel) :
    readStatements fuel (lines.flatMap fun line => line.render.toList) =
      some (lines.map Line.statement) := by
  induction lines generalizing fuel with
  | nil =>
    rw [List.flatMap_nil, readStatements]
    rfl
  | cons line lines ih =>
    have hpos := (length_pos_render line).1
    rw [List.flatMap_cons, List.length_append] at hfuel
    cases fuel with
    | zero => omega
    | succ fuel =>
      have hkey := hkeys line List.mem_cons_self
      have hread := ih (fun line hline => hkeys line (List.mem_cons_of_mem _ hline))
        (show _ ≤ fuel by omega)
      rw [List.flatMap_cons, readStatements_line hkey (skipTrivia_render hkey _).1, hread]
      rfl

theorem withoutMark_renderFirst {line : Line} (hkey : isBare line.key = true) (rest : List Char) :
    withoutMark (line.renderFirst.toList ++ rest) = line.renderFirst.toList ++ rest := by
  cases line with
  | field key content =>
    obtain ⟨c, name, hc, hname⟩ := exists_toList_of_isBare hkey
    have hmark : c ≠ byteOrderMark := isBareKeyChar_ne hc (by decide)
    rw [Line.key] at hname
    simp [Line.renderFirst, Line.render, hname, withoutMark, hmark]
  | table key => simp [Line.renderFirst, withoutMark, byteOrderMark]
  | element key => simp [Line.renderFirst, withoutMark, byteOrderMark]

theorem toList_renderAll_cons (line : Line) (lines : List Line) :
    (Line.renderAll (line :: lines)).toList =
      line.renderFirst.toList ++ lines.flatMap fun line => line.render.toList := by
  simp [Line.renderAll, List.flatMap_map]

/-- The lines of a document are read as their statements, if there is fuel enough. -/
theorem readStatements_renderAll {lines : List Line}
    (hkeys : ∀ line ∈ lines, isBare line.key = true) {fuel : Nat}
    (hfuel : (Line.renderAll lines).toList.length ≤ fuel) :
    readStatements fuel (Line.renderAll lines).toList = some (lines.map Line.statement) := by
  cases lines with
  | nil =>
    rw [Line.renderAll, readStatements]
    rfl
  | cons line lines =>
    have hkey := hkeys line List.mem_cons_self
    have hpos := (length_pos_render line).2
    rw [toList_renderAll_cons, List.length_append] at hfuel
    obtain ⟨fuel, rfl⟩ : ∃ less, fuel = less + 1 := Nat.exists_eq_succ_of_ne_zero (by omega)
    have hread := readStatements_lines lines
      (fun line hline => hkeys line (List.mem_cons_of_mem _ hline)) (show _ ≤ fuel by omega)
    rw [toList_renderAll_cons, readStatements_line hkey (skipTrivia_render hkey _).2, hread]
    rfl

theorem withoutMark_renderAll {lines : List Line}
    (hkeys : ∀ line ∈ lines, isBare line.key = true) :
    withoutMark (Line.renderAll lines).toList = (Line.renderAll lines).toList := by
  cases lines with
  | nil => rfl
  | cons line lines =>
    rw [toList_renderAll_cons, withoutMark_renderFirst (hkeys line List.mem_cons_self)]

/-- A document of lines with unquoted keys is read as the statements of its lines. -/
theorem read?_renderAll {lines : List Line} (hkeys : ∀ line ∈ lines, isBare line.key = true) :
    read? (Line.renderAll lines) = assemble (lines.map Line.statement) := by
  rw [read?, withoutMark_renderAll hkeys]
  simp only [readStatements_renderAll hkeys (Nat.le_refl _), Option.bind_eq_bind,
    Option.bind_some]

/-! ## Introductions -/

/-- What follows a character other than a line end, in a text of whole lines. -/
theorem getLast?_eq_of_cons {c : Char} {text : List Char} (hline : c = '\n' → False)
    (hend : (c :: text).getLast? = some '\n') : text.getLast? = some '\n' := by
  cases text with
  | nil => exact absurd (Option.some.inj hend) hline
  | cons d text => rwa [List.getLast?_cons_cons] at hend

/-- More text after whole lines makes no new line end of a carriage return. -/
theorem not_break_append {c : Char} {text : List Char} (hend : text.getLast? = some '\n')
    (hreturn : ∀ tail, c = '\r' → text = '\n' :: tail → False) (rest : List Char) :
    ∀ tail, c = '\r' → text ++ rest = '\n' :: tail → False := by
  intro tail hc hbreak
  cases text with
  | nil => cases hend
  | cons d text =>
    obtain ⟨rfl, -⟩ := List.cons.inj hbreak
    exact hreturn text hc rfl

/-- Whole lines that are skipped are skipped in front of any text. -/
theorem skipTrivia_append {inside : Bool} {text : List Char}
    (hskip : skipTrivia inside text = some []) (hend : text.getLast? = some '\n')
    (rest : List Char) : skipTrivia inside (text ++ rest) = skipTrivia false rest := by
  fun_induction skipTrivia inside text with
  | case1 => cases hend
  | case2 inside text ih =>
    rw [List.cons_append, skipTrivia]
    cases text with
    | nil => rfl
    | cons d text => exact ih hskip (by rwa [List.getLast?_cons_cons] at hend)
  | case3 inside text ih =>
    rw [List.cons_append, List.cons_append, skipTrivia]
    cases text with
    | nil => rfl
    | cons d text =>
      exact ih hskip (by rwa [List.getLast?_cons_cons, List.getLast?_cons_cons] at hend)
  | case4 c text hline hreturn hplain ih =>
    have htail := getLast?_eq_of_cons hline hend
    rw [List.cons_append, skipTrivia, if_pos hplain, ih hskip htail]
    · exact hline
    · exact not_break_append htail hreturn rest
  | case6 c text hline hreturn hspace ih =>
    have htail := getLast?_eq_of_cons hline hend
    rw [List.cons_append, skipTrivia, if_pos hspace, ih hskip htail]
    · exact hline
    · exact not_break_append htail hreturn rest
  | case7 c text hline hreturn hspace hmark ih =>
    have htail := getLast?_eq_of_cons hline hend
    rw [List.cons_append, skipTrivia, if_neg hspace, if_pos hmark, ih hskip htail]
    · exact hline
    · exact not_break_append htail hreturn rest
  -- Here a character is in the way, so the text is not skipped.
  | case5 => cases hskip
  | case8 => cases hskip

/-- A text that is skipped starts with no byte order mark. -/
theorem withoutMark_of_skipTrivia {text : List Char} (hskip : skipTrivia false text = some [])
    (hend : text.getLast? = some '\n') (rest : List Char) :
    withoutMark (text ++ rest) = text ++ rest := by
  cases text with
  | nil => cases hend
  | cons c text =>
    have hmark : c ≠ byteOrderMark := by
      rintro rfl
      cases hskip
    rw [List.cons_append, withoutMark, if_neg hmark]

/-- What is read depends on what is left of a text when it was skipped. -/
theorem readStatements_congr {first second : List Char}
    (hsame : skipTrivia false first = skipTrivia false second) (fuel : Nat) :
    readStatements fuel first = readStatements fuel second := by
  rw [readStatements, readStatements, hsame]

/-- Comments and empty lines in front of a document change nothing. -/
theorem read?_append_renderAll {introduction : String}
    (hskip : skipTrivia false introduction.toList = some [])
    (hend : introduction.toList.getLast? = some '\n') {lines : List Line}
    (hkeys : ∀ line ∈ lines, isBare line.key = true) :
    read? (introduction ++ Line.renderAll lines) = assemble (lines.map Line.statement) := by
  have hfuel : (Line.renderAll lines).toList.length ≤
      (introduction.toList ++ (Line.renderAll lines).toList).length := by
    rw [List.length_append]
    omega
  rw [read?, String.toList_append, withoutMark_of_skipTrivia hskip hend]
  simp only [readStatements_congr (skipTrivia_append hskip hend _),
    readStatements_renderAll hkeys hfuel, Option.bind_eq_bind, Option.bind_some]

end RecipeMatrix.Toml
