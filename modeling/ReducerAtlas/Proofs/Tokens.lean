import ReducerAtlas.Proofs.Statements

/-!
# The tokens of a script

A script is read from left to right, and after each item the reading is where it was before: outside
a word. So the tokens of a text that starts with an item are that item's token and those of the
rest, and the tokens of a whole script are those of its items.

* `tokensAfter`: the tokens of a text after a given character.
* `next_cases`: which reading wins at a place.
* `tokensAfter_eq`: the character matters only within a word.
* `tokens_lexeme`: the step over one lexeme; `tokens_filler`: the step over what says nothing.
* `Item.tokens_append`: the step over one item.
* **`tokens_text`**: the tokens of a script.
-/

namespace ReducerAtlas.Source

open ReducerAtlas.Text

variable {rest : List Char}

/-! ## Steps of the reading -/

/-- The tokens of a text after a given character. -/
def tokensAfter (before : Option Char) (cs : List Char) : List Token :=
  (lexemesFrom 0 before cs).filterMap (·.kind.token?)

theorem lexemesFrom_length (l rest : List Char) (before : Option Char) :
    lexemesFrom l.length before (l ++ rest) = lexemesFrom 0 (l.getLast?.or before) rest := by
  induction l generalizing before with
  | nil => rfl
  | cons c l ih =>
    rw [List.length_cons, List.cons_append, lexemesFrom, ih, List.getLast?_cons]
    cases l.getLast? <;> rfl

theorem tokensAfter_cons {before : Option Char} {c : Char} {l : List Char} {kind : Kind}
    (h : next before c (l ++ rest) = ⟨kind, c :: l⟩) :
    tokensAfter before (c :: (l ++ rest)) =
      kind.token?.toList ++ tokensAfter (l.getLast?.or (some c)) rest := by
  rw [tokensAfter, lexemesFrom, h]
  dsimp only
  rw [List.length_cons, Nat.add_sub_cancel, lexemesFrom_length, List.filterMap_cons, tokensAfter]
  cases kind.token? <;> rfl

theorem comment?_of_ne {c : Char} (h : c ≠ '/') (cs : List Char) : comment? (c :: cs) = none := by
  unfold comment?
  split <;> simp_all

theorem statement?_of_ne {c : Char} (hi : 'i' ≠ c) (he : 'e' ≠ c) (hr : 'r' ≠ c)
    (hstart : isConstantStart c = false) (cs : List Char) : statement? (c :: cs) = none := by
  have hconstant : constant? (c :: cs) = none := by
    cases hc : isConstantChar c <;> simp [constant?, List.takeWhile_cons, hc, hstart]
  simp [statement?, import?, export?, require?, importWord, exportWord, requireWord, after?_of_ne,
    hi, he, hr, hconstant]

/-! ## What a lexeme can be -/

section Readings

variable {cs : List Char} {lexeme : Lexeme}

theorem token?_of_comment? (hfound : comment? cs = some lexeme) : lexeme.kind.token? = none := by
  unfold comment? at hfound
  split at hfound
  · cases hfound
    rfl
  · cases hfound
    rfl
  · cases hfound

theorem token?_of_literal? (hfound : literal? cs = some lexeme) : lexeme.kind.token? = none := by
  unfold literal? at hfound
  split at hfound
  · cases hfound
  · split_ifs at hfound
    obtain ⟨text, -, rfl⟩ := Option.map_eq_some_iff.mp hfound
    rfl

theorem token?_of_word? (hfound : word? cs = some lexeme) : lexeme.kind.token? = none := by
  unfold word? at hfound
  dsimp only at hfound
  split_ifs at hfound
  cases hfound
  rfl

theorem token?_otherText (c : Char) (cs : List Char) : (otherText c cs).kind.token? = none := by
  unfold otherText
  split_ifs <;> rfl

theorem word?_ne_none {c : Char} (h : isNameChar c = true) (cs : List Char) :
    word? (c :: cs) ≠ none := by
  simp [word?, h]

/-- **Which reading wins** at a place. -/
theorem next_cases (before : Option Char) (c : Char) (cs : List Char) :
    comment? (c :: cs) = some (next before c cs) ∨ statement? (c :: cs) = some (next before c cs) ∨
    literal? (c :: cs) = some (next before c cs) ∨ word? (c :: cs) = some (next before c cs) ∨
    isNameChar c = false ∧ next before c cs = otherText c cs := by
  unfold next
  dsimp only
  cases hread : (comment? (c :: cs)).or ((if outsideWord before then statement? (c :: cs)
      else none).or ((literal? (c :: cs)).or (word? (c :: cs)))) with
  | some lexeme =>
    simp only [Option.or_eq_some_iff] at hread
    rcases hread with h | ⟨-, h | ⟨-, h | ⟨-, h⟩⟩⟩
    · exact .inl h
    · split_ifs at h
      exact .inr (.inl h)
    · exact .inr (.inr (.inl h))
    · exact .inr (.inr (.inr (.inl h)))
  | none =>
    simp only [Option.or_eq_none_iff] at hread
    obtain ⟨-, -, -, hword⟩ := hread
    refine .inr (.inr (.inr (.inr ⟨?_, rfl⟩)))
    by_contra hname
    exact word?_ne_none (by simpa using hname) cs hword

end Readings

/-! ## Text that says nothing -/

theorem isNameChar_of_isConstantStart {c : Char} (h : isConstantStart c = true) :
    isNameChar c = true := by
  rw [isConstantStart, Bool.or_eq_true] at h
  obtain h | h := h
  · have halpha : c.isAlpha = true := Bool.or_eq_true _ _ |>.mpr (.inl h)
    simp [isNameChar, isWord, Char.isAlphanum, halpha]
  · simp [isNameChar, isWord, h]

theorem statement?_of_not_isNameChar {c : Char} (h : isNameChar c = false) (cs : List Char) :
    statement? (c :: cs) = none := by
  have hne : ∀ d : Char, isNameChar d = true → d ≠ c := by
    rintro d hd rfl
    rw [hd] at h
    cases h
  have hstart : isConstantStart c = false := by
    by_contra hc
    exact hne c (isNameChar_of_isConstantStart (by simpa using hc)) rfl
  exact statement?_of_ne (hne 'i' (by decide)) (hne 'e' (by decide)) (hne 'r' (by decide)) hstart cs

theorem isOther_of_isBlank {c : Char} (h : isBlank c = true) : isOther c = true := by
  have hne : ∀ d : Char, isBlank d = false → c ≠ d := by
    rintro d hd rfl
    rw [h] at hd
    cases hd
  simp [isOther, isNameChar_of_isBlank h, hne '/' (by decide), hne '\x27' (by decide),
    hne '\x22' (by decide), hne templateQuote (by decide)]

theorem next_of_isOther {c : Char} (h : isOther c = true) (before : Option Char) (cs : List Char) :
    next before c cs = ⟨.other, c :: cs.takeWhile isOther⟩ := by
  have hnot := h
  simp only [isOther, Bool.not_eq_true', Bool.or_eq_false_iff, beq_eq_false_iff_ne] at hnot
  obtain ⟨⟨⟨⟨hname, hslash⟩, hsingle⟩, hdouble⟩, htemplate⟩ := hnot
  have hstatement : statement? (c :: cs) = none := statement?_of_not_isNameChar hname cs
  have hliteral : literal? (c :: cs) = none := by
    simp [literal?, hsingle, hdouble, htemplate]
  have hword : word? (c :: cs) = none := by
    simp [word?, hname]
  simp [next, comment?_of_ne hslash, hstatement, hliteral, hword, otherText, h]

/-- Outside a word, the character before a text does not matter. -/
theorem tokensAfter_of_outsideWord {before : Option Char} (h : outsideWord before = true)
    (cs : List Char) : tokensAfter before cs = tokens cs := by
  cases cs with
  | nil => rfl
  | cons c cs =>
    have hnext : next before c cs = next none c cs := by
      rw [next, next, h]
      rfl
    rw [tokensAfter, tokens, lexemes, lexemesFrom, lexemesFrom, hnext]

theorem isWord_of_isOther {c : Char} (h : isOther c = true) : isWord c = false := by
  simp only [isOther, isNameChar, Bool.not_eq_true', Bool.or_eq_false_iff] at h
  exact h.1.1.1.1.1

/-- A run of characters that start no lexeme is stepped over as a whole, even within a word. -/
theorem tokensAfter_cons_of_isOther {c : Char} (h : isOther c = true) (before : Option Char)
    (cs : List Char) : tokensAfter before (c :: cs) = tokens (cs.dropWhile isOther) := by
  have hnext : next before c (cs.takeWhile isOther ++ cs.dropWhile isOther) =
      ⟨.other, c :: cs.takeWhile isOther⟩ := by
    rw [List.takeWhile_append_dropWhile, next_of_isOther h]
  have hstep := tokensAfter_cons hnext
  rw [List.takeWhile_append_dropWhile] at hstep
  rw [hstep]
  refine tokensAfter_of_outsideWord ?_ _
  cases hlast : (cs.takeWhile isOther).getLast? with
  | none => simp [outsideWord, isWord_of_isOther h]
  | some d =>
    have hd : isOther d = true := List.mem_takeWhile_imp (List.mem_of_mem_getLast? hlast)
    simp [outsideWord, isWord_of_isOther hd]

theorem tokens_dropWhile_isOther (cs : List Char) : tokens (cs.dropWhile isOther) = tokens cs := by
  cases cs with
  | nil => rfl
  | cons c cs =>
    cases hc : isOther c with
    | false => rw [List.dropWhile_cons_of_neg (by simp [hc])]
    | true =>
      rw [List.dropWhile_cons_of_pos hc]
      exact (tokensAfter_cons_of_isOther hc none cs).symm

/-- **What starts no lexeme gives no token.** -/
theorem tokens_filler {l : List Char} (h : ∀ c ∈ l, isOther c = true) :
    tokens (l ++ rest) = tokens rest := by
  rw [← tokens_dropWhile_isOther, List.dropWhile_append_of_pos h, tokens_dropWhile_isOther]

theorem tokensAfter_eq {before : Option Char} {cs : List Char}
    (h : outsideWord before = true ∨ ∀ c ∈ cs.head?, isOther c = true) :
    tokensAfter before cs = tokens cs := by
  obtain h | h := h
  · exact tokensAfter_of_outsideWord h cs
  · cases cs with
    | nil => rfl
    | cons c cs =>
      have hc : isOther c = true := h c rfl
      rw [tokensAfter_cons_of_isOther hc]
      exact (tokensAfter_cons_of_isOther hc none cs).symm

/-! ## Items -/

/-- **One lexeme** at the front of a text gives its token. -/
theorem tokens_lexeme {c : Char} {l : List Char} {kind : Kind}
    (h : next none c (l ++ rest) = ⟨kind, c :: l⟩)
    (hafter : outsideWord (l.getLast?.or (some c)) = true ∨ ∀ d ∈ rest.head?, isOther d = true) :
    tokens (c :: l ++ rest) = kind.token?.toList ++ tokens rest := by
  rw [← tokensAfter_eq hafter]
  exact tokensAfter_cons h

theorem next_of_word {c : Char} {cs : List Char} (hc : isNameChar c = true)
    (h : statement? (c :: cs) = none) (before : Option Char) :
    next before c cs = ⟨.word, c :: cs.takeWhile isNameChar⟩ := by
  have hcomment : comment? (c :: cs) = none := comment?_of_ne (by rintro rfl; revert hc; decide) cs
  have hliteral : literal? (c :: cs) = none := by
    have hquote : ¬ (c = '\x27' ∨ c = '\x22' ∨ c = templateQuote) := by
      rintro (rfl | rfl | rfl) <;> revert hc <;> decide
    rw [literal?, if_neg hquote]
  simp [next, hcomment, h, hliteral, word?, List.takeWhile_cons_of_pos hc]

theorem next_of_statement? {c : Char} {cs : List Char} {lexeme : Lexeme} (hc : c ≠ '/')
    (h : statement? (c :: cs) = some lexeme) : next none c cs = lexeme := by
  simp [next, comment?_of_ne hc, h, outsideWord]

/-- A statement that ends with a quote or a bracket gives its token. -/
theorem tokens_statement {text : List Char} {kind : Kind} {d : Char}
    (h : statement? (text ++ rest) = some ⟨kind, text⟩) (hhead : ∀ c ∈ text.head?, c ≠ '/')
    (hlast : text.getLast? = some d) (hd : isWord d = false) :
    tokens (text ++ rest) = kind.token?.toList ++ tokens rest := by
  cases text with
  | nil => cases hlast
  | cons c l =>
    refine tokens_lexeme (next_of_statement? (hhead c rfl) h) (.inl ?_)
    have hor : l.getLast?.or (some c) = some d := by
      rw [← hlast, List.getLast?_cons]
      cases l.getLast? <;> rfl
    simp [hor, outsideWord, hd]

theorem Quotation.getLast?_text (q : Quotation) : q.text.getLast? = some q.quote := by
  rw [text, ← List.cons_append, List.getLast?_concat]

theorem Quotation.quote_not_word (q : Quotation) : isWord q.quote = false := by
  obtain h | h := q.isQuote <;> rw [h] <;> decide

section Statements

variable {text : List Char} {lexeme : Lexeme}

theorem statement?_of_import? (h : (import? text) = some lexeme) :
    statement? text = some lexeme := by
  simp [statement?, h]

theorem statement?_of_export? (hhead : text.head? = some 'e') (h : export? text = some lexeme) :
    statement? text = some lexeme := by
  cases text with
  | nil => cases hhead
  | cons c cs =>
    cases hhead
    simp [statement?, import?, importWord, after?, h]

theorem statement?_of_require? (hhead : text.head? = some 'r') (h : require? text = some lexeme) :
    statement? text = some lexeme := by
  cases text with
  | nil => cases hhead
  | cons c cs =>
    cases hhead
    simp [statement?, import?, export?, importWord, exportWord, after?, h]

theorem statement?_of_constantStart {c : Char} (hc : isConstantStart c = true) (cs : List Char) :
    statement? (c :: cs) = constant? (c :: cs) := by
  have hne : ∀ d : Char, isConstantStart d = false → d ≠ c := by
    rintro d hd rfl
    rw [hc] at hd
    cases hd
  simp [statement?, import?, export?, require?, importWord, exportWord, requireWord, after?,
    hne 'i' (by decide), hne 'e' (by decide), hne 'r' (by decide)]

end Statements

theorem tokens_require (before gap : Gap) {argument : List Char} {d : Char}
    (hhead : ∀ c ∈ (argument ++ rest).head?, isBlank c = false)
    (hargument : requireArgument? (argument ++ rest) = some argument)
    (hlast : argument.getLast? = some d) (hd : isWord d = false) :
    tokens ((requireWord ++ (before.text ++ '(' :: (gap.text ++ argument))) ++ rest) =
      (Kind.requiring argument).token?.toList ++ tokens rest := by
  have hstatement : statement? ((requireWord ++ (before.text ++ '(' :: (gap.text ++ argument))) ++
      rest) = some ⟨.requiring argument,
        requireWord ++ (before.text ++ '(' :: (gap.text ++ argument))⟩ := by
    refine statement?_of_require? rfl ?_
    simpa using require?_append before gap hhead hargument
  rw [tokens_statement hstatement (by rintro _ ⟨⟩; decide) (by simp [List.getLast?_cons, hlast]) hd]

theorem tokens_close (after : Gap) : tokens (after.text ++ ')' :: rest) = tokens rest := by
  rw [tokens_filler fun c hc => isOther_of_isBlank (after.blank c hc)]
  exact tokens_filler (l := [')']) (List.forall_mem_singleton.mpr (by decide))

theorem token?_of_quotations {argument : List Char} {found : List (List Char)}
    (h : quotations argument = found) (hne : found ≠ []) :
    (Kind.requiring argument).token? =
      some (.reference ⟨.requiring, found.map String.ofList, {}⟩) := by
  obtain ⟨content, contents, rfl⟩ := List.exists_cons_of_ne_nil hne
  rw [Kind.token?, h]

theorem token?_requiring (source : Quotation) : (Kind.requiring source.text).token? =
    some (.reference ⟨.requiring, [String.ofList source.content], {}⟩) := by
  have hquotations : quotations source.text = [source.content] := by
    simpa [show quotations [] = [] from rfl] using quotations_text source []
  exact token?_of_quotations hquotations (by simp)

theorem quotations_brackets (inner : List Char) :
    quotations ('[' :: (inner ++ [']'])) = quotations (inner ++ [']']) :=
  quotations_append_of_unquoted (l := ['[']) (List.forall_mem_singleton.mpr (by decide))

theorem SourceList.contents_ne_nil (sources : SourceList) : sources.contents ≠ [] := by
  cases sources <;> exact List.cons_ne_nil _ _

theorem token?_requiringAll (sources : SourceList) :
    (Kind.requiring ('[' :: (sources.text ++ [']']))).token? =
      some (.reference ⟨.requiring, sources.contents.map String.ofList, {}⟩) := by
  have hquotations : quotations ('[' :: (sources.text ++ [']'])) = sources.contents := by
    rw [quotations_brackets, sources.quotations_append]
    exact List.append_nil _
  exact token?_of_quotations hquotations sources.contents_ne_nil

theorem tokens_lineComment {content : List Char} (h : '\n' ∉ content) (rest : List Char)
    (hrest : ∀ c ∈ rest.head?, c = '\n') :
    tokens ('/' :: '/' :: content ++ rest) = tokens rest := by
  have hcontent : (content ++ rest).takeWhile (· != '\n') = content := by
    refine takeWhile_append_of_head (fun c hc => bne_iff_ne.mpr fun e => h (e ▸ hc)) ?_
    intro c hc
    simp [hrest c hc]
  have hnext : next none '/' ('/' :: content ++ rest) = ⟨.lineComment, '/' :: '/' :: content⟩ := by
    simp [next, comment?, hcontent]
  refine tokens_lexeme hnext (.inr ?_)
  intro c hc
  rw [hrest c hc]
  decide

theorem tokens_blockComment {content : List Char} (h : ¬ ['*', '/'] <:+: content)
    (rest : List Char) : tokens ('/' :: '*' :: (content ++ ['*', '/']) ++ rest) = tokens rest := by
  have hnext : next none '/' ('*' :: (content ++ ['*', '/']) ++ rest) =
      ⟨.blockComment, '/' :: '*' :: (content ++ ['*', '/'])⟩ := by
    simp [next, comment?, blockRest_append h]
  exact tokens_lexeme hnext (.inl (by simp [List.getLast?_cons, outsideWord]; decide))

theorem tokens_literal (literal : Literal) (rest : List Char) :
    tokens (literal.text ++ rest) = tokens rest := by
  obtain ⟨quote, parts, isQuote, fits⟩ := literal
  have hquote : quote ≠ '\\' ∧ quote ≠ '/' ∧ isWord quote = false ∧
      statement? (quote :: (parts.flatMap LiteralPart.text ++ quote :: rest)) = none := by
    obtain rfl | rfl | rfl := isQuote <;>
      exact ⟨by decide, by decide, by decide,
        statement?_of_ne (by decide) (by decide) (by decide) (by decide) _⟩
  obtain ⟨hslash, hcomment, hword, hstatement⟩ := hquote
  have hnext : next none quote (parts.flatMap LiteralPart.text ++ [quote] ++ rest) =
      ⟨.literal, quote :: (parts.flatMap LiteralPart.text ++ [quote])⟩ := by
    have hrest := literalRest?_append hslash fits rest
    rw [List.append_assoc, List.singleton_append]
    simp [next, comment?_of_ne hcomment, hstatement, outsideWord, literal?, isQuote, hrest]
  exact tokens_lexeme hnext (.inl (by simp [outsideWord, hword]))

/-- **An item gives its token**, and the reading goes on after it. -/
theorem Item.tokens_append (item : Item) (rest : List Char) :
    tokens (item.text ++ rest) = item.token?.toList ++ tokens rest := by
  cases item with
  | bareImport gap source =>
    have hlast : (bareImport gap source).text.getLast? = some source.quote := by
      simp [text, source.getLast?_text]
    rw [tokens_statement (statement?_of_import? (import?_bare gap source rest))
      (by rintro _ ⟨⟩; decide) hlast source.quote_not_word]
    rfl
  | importing clause before middle after source apart apart' =>
    have hlast : (importing clause before middle after source apart apart').text.getLast? =
        some source.quote := by
      simp [text, fromText, source.getLast?_text]
    rw [tokens_statement (statement?_of_import?
      (import?_clause clause before middle after source apart apart' rest))
      (by rintro _ ⟨⟩; decide) hlast source.quote_not_word, Kind.token?, Clause.ofImport_text]
    rfl
  | reexporting list before middle after source =>
    have hlast : (reexporting list before middle after source).text.getLast? =
        some source.quote := by
      simp [text, fromText, source.getLast?_text]
    rw [tokens_statement (statement?_of_export? rfl
      (export?_braced list before middle after source rest))
      (by rintro _ ⟨⟩; decide) hlast source.quote_not_word, Kind.token?, Clause.ofExport_braced]
    rfl
  | reexportingAll before middle after source =>
    have hlast : (reexportingAll before middle after source).text.getLast? = some source.quote := by
      simp [text, fromText, List.getLast?_cons, source.getLast?_text]
    rw [tokens_statement (statement?_of_export? rfl (export?_all before middle after source rest))
      (by rintro _ ⟨⟩; decide) hlast source.quote_not_word]
    rfl
  | reexportingAs before gap space name middle after source =>
    have hlast : (reexportingAs before gap space name middle after source).text.getLast? =
        some source.quote := by
      simp [text, fromText, List.getLast?_cons, source.getLast?_text]
    rw [tokens_statement (statement?_of_export? rfl
      (export?_star before gap space name middle after source rest))
      (by rintro _ ⟨⟩; decide) hlast source.quote_not_word, Kind.token?, Clause.ofExport_star]
    rfl
  | requiring before gap after source =>
    have htext : (requiring before gap after source).text ++ rest =
        (requireWord ++ (before.text ++ '(' :: (gap.text ++ source.text))) ++
          (after.text ++ ')' :: rest) := by
      simp [text]
    rw [htext, tokens_require before gap source.head_not_blank (requireArgument?_text source _)
      source.getLast?_text source.quote_not_word, tokens_close, token?_requiring]
    rfl
  | requiringAll before gap after sources =>
    have htext : (requiringAll before gap after sources).text ++ rest =
        (requireWord ++ (before.text ++ '(' :: (gap.text ++ '[' :: (sources.text ++ [']'])))) ++
          (after.text ++ ')' :: rest) := by
      simp [text]
    have hargument := requireArgument?_list sources (after.text ++ ')' :: rest)
    rw [htext, tokens_require (d := ']') before gap (by rintro _ ⟨⟩; decide)
      (by simpa using hargument) (by simp [List.getLast?_cons]) (by decide), tokens_close,
      token?_requiringAll]
    rfl
  | constant name before after value =>
    have hlast : (constant name before after value).text.getLast? = some value.quote := by
      simp [text, List.getLast?_cons, value.getLast?_text]
    have hhead : ∀ c ∈ (constant name before after value).text.head?, c ≠ '/' := by
      rintro _ ⟨⟩ hslash
      have hstart := name.first_start
      rw [hslash] at hstart
      revert hstart
      decide
    rw [tokens_statement ((statement?_of_constantStart name.first_start _).trans
      (constant?_text name before after value rest)) hhead hlast value.quote_not_word]
    rfl
  | lineComment content inLine =>
    have htext : (lineComment content inLine).text ++ rest =
        '/' :: '/' :: content ++ '\n' :: rest := by
      simp [text]
    rw [htext, tokens_lineComment inLine _ (by simp)]
    exact tokens_filler (l := ['\n']) (List.forall_mem_singleton.mpr (by decide))
  | blockComment content unclosed => exact tokens_blockComment unclosed rest
  | literal l => exact tokens_literal l rest

/-- **The tokens of a script are those of its items.** -/
theorem tokens_text (script : Script) : tokens script.text = script.tokens := by
  obtain ⟨opening, items, closing⟩ := script
  rw [Script.text, tokens_filler opening.other, Script.tokens]
  induction items with
  | nil =>
    cases closing with
    | none => rfl
    | some content =>
      have hend := tokens_lineComment content.2 [] (by simp)
      rw [List.append_nil] at hend
      exact hend
  | cons part items ih =>
    obtain ⟨item, filler⟩ := part
    simp only [List.flatMap_cons, List.append_assoc] at ih ⊢
    rw [item.tokens_append, tokens_filler filler.other, ih, List.filterMap_cons]
    cases item.token? <;> rfl

/-- A name may be the keyword itself. -/
example : tokens "import from, * as as from'./from'".toList =
    [.reference ⟨.importing, ["./from"], ⟨some ["as", "from"], none⟩⟩] := by
  decide +kernel

end ReducerAtlas.Source
