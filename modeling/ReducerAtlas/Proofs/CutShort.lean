import ReducerAtlas.Proofs.Inserted

/-!
# Texts that are cut short

The value of a constant ends at the first quote of its kind, and the list of a require call at the
first closing bracket. Neither looks at what the mark stands in: the quote may be escaped, and the
bracket may belong to a module name. The reading then goes on in the middle of the literal or of the
list, as if that were the start of a source.

* `Literal.BreaksAt`: the escaped quote that ends a value early.
* **`references_constant`**: what a constant with a string literal leaves to be read.
* `Listed`, `requireList`: a call with a list of module names.
* `BracketAt`: the bracket that ends a list early.
* **`references_requireList`**: what such a call refers to, and what it leaves to be read.
-/

namespace ReducerAtlas.Source

open ReducerAtlas.Text

theorem references_of_tokens {cs rest : List Char} {token : Option Token}
    (h : tokens cs = token.toList ++ tokens rest) :
    references cs = (token.bind Token.reference?).toList ++ references rest := by
  rw [references, h, List.filterMap_append, references]
  cases token with
  | none => rfl
  | some token => cases token <;> rfl

theorem references_filler {l : List Char} (h : ∀ c ∈ l, isOther c = true) (rest : List Char) :
    references (l ++ rest) = references rest := by
  rw [references, tokens_filler h, references]

/-! ## Constants -/

/-- How a line that gives a constant its value starts. -/
def ConstantName.start (name : ConstantName) : List Char :=
  name.first :: (name.rest ++ [' ', '=', ' '])

/-- A line that gives a constant its value. -/
def ConstantName.line (name : ConstantName) (value : List Char) : List Char :=
  name.start ++ (value ++ [';', '\n'])

/-- **A literal is broken** by the first escaped quote that stands on its first line; given are the
parts before and behind that quote. -/
structure Literal.BreaksAt (lit : Literal) (pre post : List LiteralPart) : Prop where
  parts_eq : lit.parts = pre ++ .escaped lit.quote :: post
  first : .escaped lit.quote ∉ pre
  inLine : .escaped '\n' ∉ pre

namespace Literal

variable {lit : Literal} {pre post : List LiteralPart} {rest : List Char}

theorem exists_breaksAt (hquote : .escaped lit.quote ∈ pre) (hline : .escaped '\n' ∉ pre)
    (hparts : lit.parts = pre ++ post) : ∃ pre' post', lit.BreaksAt pre' post' := by
  obtain ⟨pre', post', rfl, hfirst⟩ := List.eq_append_cons_of_mem hquote
  refine ⟨pre', post' ++ post, by simp [hparts], hfirst, ?_⟩
  exact fun hmem => hline (List.mem_append_left _ hmem)

theorem plain_text (hlit : lit.quote ≠ templateQuote) (hsub : pre ⊆ lit.parts)
    (hquote : .escaped lit.quote ∉ pre) (hline : .escaped '\n' ∉ pre) :
    ∀ c ∈ pre.flatMap LiteralPart.text, c ≠ lit.quote ∧ c ≠ '\n' := by
  have hslash : '\\' ≠ lit.quote := by
    obtain h | h | h := lit.isQuote <;> rw [h] <;> decide
  intro c hc
  obtain ⟨part, hpart, hc⟩ := List.mem_flatMap.mp hc
  cases part with
  | plain d =>
    obtain ⟨hd, -, hend⟩ := lit.fits _ (hsub hpart)
    rw [LiteralPart.text, List.mem_singleton] at hc
    subst hc
    exact ⟨hd, fun h => hlit (hend h)⟩
  | escaped d =>
    simp only [LiteralPart.text, List.mem_cons, List.not_mem_nil, or_false] at hc
    obtain rfl | rfl := hc
    · exact ⟨hslash, by decide⟩
    · constructor
      · rintro rfl
        exact hquote hpart
      · rintro rfl
        exact hline hpart

/-- Parts without an escaped quote or line end, and a backslash behind them or none, can be the
value of a constant. -/
theorem exists_quotation (hlit : lit.quote ≠ templateQuote) (hsub : pre ⊆ lit.parts)
    (hquote : .escaped lit.quote ∉ pre) (hline : .escaped '\n' ∉ pre) {tail : List Char}
    (htail : tail = [] ∨ tail = ['\\']) :
    ∃ value : Quotation, value.quote = lit.quote ∧
      value.content = pre.flatMap LiteralPart.text ++ tail := by
  have hisQuote : lit.quote = '\x27' ∨ lit.quote = '\x22' := by
    obtain h | h | h := lit.isQuote
    · exact .inl h
    · exact .inr h
    · exact absurd h hlit
  refine ⟨⟨lit.quote, _, hisQuote, ?_⟩, rfl, rfl⟩
  intro c hc
  obtain hc | hc := List.mem_append.mp hc
  · exact plain_text hlit hsub hquote hline c hc
  · obtain rfl | rfl := htail
    · cases hc
    · rw [List.mem_singleton] at hc
      subst hc
      obtain h | h := hisQuote <;> rw [h] <;> decide

end Literal

section Constants

variable {name : ConstantName} {lit : Literal} {rest : List Char}

theorem references_value (name : ConstantName) (value : Quotation) (rest : List Char) :
    references (name.start ++ (value.text ++ rest)) = references rest := by
  have htokens := (Item.constant name oneSpace.toGap oneSpace.toGap value).tokens_append rest
  simpa [ConstantName.start, Item.text, oneSpace, Item.token?, Token.reference?] using
    references_of_tokens htokens

theorem references_literal (h : quotation? (lit.text ++ rest) = none) :
    references (name.start ++ (lit.text ++ rest)) = references rest := by
  have hbody : ∀ c ∈ (lit.text ++ rest).head?, isBlank c = false := by
    rintro _ ⟨⟩
    obtain h | h | h := lit.isQuote <;> rw [h] <;> decide
  have hstatement : statement? (name.first :: (name.rest ++
      ([' ', '=', ' '] ++ (lit.text ++ rest)))) = none := by
    have hconstant := constant?_append name oneSpace.toGap oneSpace.toGap hbody
    rw [statement?_of_constantStart name.first_start]
    simpa [oneSpace, h] using hconstant
  have hnamed : ∀ c ∈ name.rest, isNameChar c = true := by
    intro c hc
    have hchar := name.rest_constant c hc
    rw [isConstantChar, Bool.or_eq_true] at hchar
    obtain h | h := hchar
    · exact isNameChar_of_isConstantStart h
    · simp [isNameChar, isWord, Char.isAlphanum, h]
  have hnext : next none name.first (name.rest ++ ([' ', '=', ' '] ++ (lit.text ++ rest))) =
      ⟨.word, name.first :: name.rest⟩ := by
    rw [next_of_word (isNameChar_of_isConstantStart name.first_start) hstatement,
      takeWhile_append_of_head hnamed (by rintro _ ⟨⟩; decide)]
  have htokens : tokens (name.start ++ (lit.text ++ rest)) = tokens rest :=
    calc tokens (name.start ++ (lit.text ++ rest))
      _ = tokens (name.first :: name.rest ++ ([' ', '=', ' '] ++ (lit.text ++ rest))) := by
        simp [ConstantName.start]
      _ = tokens ([' ', '=', ' '] ++ (lit.text ++ rest)) :=
        tokens_lexeme hnext (.inr (by rintro _ ⟨⟩; decide))
      _ = tokens (lit.text ++ rest) := tokens_filler (List.all_eq_true.mp (by decide))
      _ = tokens rest := tokens_literal lit rest
  rw [references, htokens, references]

/-- A literal that is not broken is read to its end: as the value of the constant, or by itself if
its first line has no end that a value could have. -/
theorem references_of_whole (hlit : lit.quote ≠ templateQuote)
    (h : ∀ pre post, ¬ lit.BreaksAt pre post) :
    references (name.start ++ (lit.text ++ rest)) = references rest := by
  have hnone : ∀ pre post, lit.parts = pre ++ post → .escaped '\n' ∉ pre →
      .escaped lit.quote ∉ pre := by
    intro pre post hparts hinLine hquote
    obtain ⟨pre', post', hbreaks⟩ := Literal.exists_breaksAt hquote hinLine hparts
    exact h pre' post' hbreaks
  by_cases hinLine : .escaped '\n' ∈ lit.parts
  · obtain ⟨pre, post, hparts, hfirst⟩ := List.eq_append_cons_of_mem hinLine
    have hsub : pre ⊆ lit.parts := hparts ▸ List.subset_append_left pre _
    obtain ⟨value, hquote, hcontent⟩ := Literal.exists_quotation hlit hsub
      (hnone pre _ hparts hfirst) hfirst (.inr rfl)
    have htext : lit.text ++ rest = value.quote :: (value.content ++
        '\n' :: (post.flatMap LiteralPart.text ++ lit.quote :: rest)) := by
      simp [Literal.text, hparts, hquote, hcontent, LiteralPart.text]
    apply references_literal
    rw [htext, quotation?, quotedText?_unclosed value.isQuote value.plain rfl]
    rfl
  · have hfirst := hnone lit.parts [] (List.append_nil _).symm hinLine
    obtain ⟨value, hquote, hcontent⟩ := Literal.exists_quotation hlit (List.Subset.refl _)
      hfirst hinLine (.inl rfl)
    have htext : lit.text = value.text := by
      simp [Literal.text, Quotation.text, hquote, hcontent]
    rw [htext, references_value]

/-- The value of a constant ends at the quote that breaks its literal. -/
theorem references_of_breaksAt (hlit : lit.quote ≠ templateQuote) {pre post : List LiteralPart}
    (h : lit.BreaksAt pre post) :
    references (name.start ++ (lit.text ++ rest)) =
      references (post.flatMap LiteralPart.text ++ lit.quote :: rest) := by
  have hsub : pre ⊆ lit.parts := h.parts_eq ▸ List.subset_append_left pre _
  obtain ⟨value, hquote, hcontent⟩ := Literal.exists_quotation hlit hsub h.first h.inLine (.inr rfl)
  have htext : lit.text ++ rest =
      value.text ++ (post.flatMap LiteralPart.text ++ lit.quote :: rest) := by
    simp [Literal.text, Quotation.text, h.parts_eq, hquote, hcontent, LiteralPart.text]
  rw [htext, references_value]

/-- **A constant with a string literal.** If no escaped quote breaks the literal, nothing in it is a
reference and nothing behind it is lost. If one does, the rest of the literal is read as source,
with its closing quote before all that follows. -/
theorem references_constant (name : ConstantName) (lit : Literal) (hlit : lit.quote ≠ templateQuote)
    (rest : List Char) :
    ((∀ pre post, ¬ lit.BreaksAt pre post) →
      references (name.line lit.text ++ rest) = references rest) ∧
    ∀ pre post, lit.BreaksAt pre post →
      references (name.line lit.text ++ rest) =
        references (post.flatMap LiteralPart.text ++ lit.quote :: ';' :: '\n' :: rest) := by
  have hline : name.line lit.text ++ rest =
      name.start ++ (lit.text ++ ';' :: '\n' :: rest) := by
    simp [ConstantName.line]
  rw [hline]
  refine ⟨fun hwhole => ?_, fun pre post hbreaks => references_of_breaksAt hlit hbreaks⟩
  rw [references_of_whole hlit hwhole]
  exact references_filler (l := [';', '\n']) (List.all_eq_true.mp (by decide)) rest

/-- The name of a constant. -/
def shortName : ConstantName := ⟨'A', [], by decide, by simp⟩

/-- A literal with an import behind an escaped quote. -/
def leakyLiteral : Literal where
  quote := '\x27'
  parts := .escaped '\x27' :: "import \"./a\"".toList.map .plain
  isQuote := .inl rfl
  fits := by simp [LiteralPart.Fits]

/-- A literal that goes over the end of its line and has an escaped quote behind it. -/
def longLiteral : Literal where
  quote := '\x22'
  parts := [.escaped '\n', .escaped '\x22']
  isQuote := .inr (.inl rfl)
  fits := by simp [LiteralPart.Fits]

/-- The import in the first literal is a reference; the second literal is read to its end. -/
theorem references_leakyLiteral :
    leakyLiteral.BreaksAt [] ("import \"./a\"".toList.map .plain) ∧
      references "A = '\\'import \"./a\"';\n".toList =
        [⟨.importing, ["./a"], ⟨some [], none⟩⟩] ∧
      (∀ pre post, ¬ longLiteral.BreaksAt pre post) ∧
      references "A = \"\\\n\\\"\";\nrequire('./b')".toList = [⟨.requiring, ["./b"], {}⟩] := by
  have hbreaks : leakyLiteral.BreaksAt [] ("import \"./a\"".toList.map .plain) :=
    ⟨rfl, by simp, by simp⟩
  have hwhole : ∀ pre post, ¬ longLiteral.BreaksAt pre post := by
    rintro pre post ⟨hparts, -, hinLine⟩
    cases pre with
    | nil => simp [longLiteral] at hparts
    | cons part pre =>
      have hpart : LiteralPart.escaped '\n' = part := (List.cons.inj hparts).1
      exact hinLine (hpart ▸ List.mem_cons_self)
  exact ⟨hbreaks, ((references_constant shortName leakyLiteral (by decide) []).2 _ _ hbreaks).trans
    (by decide +kernel), hwhole, ((references_constant shortName longLiteral (by decide)
      "require('./b')".toList).1 hwhole).trans (by decide +kernel)⟩

end Constants

/-! ## Lists of module names -/

/-- A module name in a list, with the blanks around it. No quote stands in the name. -/
structure Listed where
  before : Gap
  source : Quotation
  after : Gap
  unquoted : ∀ c ∈ source.content, isUnquoted c = true

/-- The text of a module name in a list. -/
def Listed.text (e : Listed) : List Char := e.before.text ++ (e.source.text ++ e.after.text)

/-- A call with a list of module names, with commas between them. -/
def requireList (entries : List Listed) : List Char :=
  requireWord ++ '(' :: '[' :: ([','].intercalate (entries.map Listed.text) ++ [']', ')', ';'])

/-- The reference of a call with some module names; without any there is none. -/
def callOf (names : List (List Char)) : List Reference :=
  if names = [] then [] else [⟨.requiring, names.map String.ofList, {}⟩]

/-- **A list is cut** at the first closing bracket in a module name; given are the entries before
and behind the one with the bracket, and the name before and behind the bracket. -/
structure BracketAt (entries pre : List Listed) (e : Listed) (post : List Listed)
    (head tail : List Char) : Prop where
  entries_eq : entries = pre ++ e :: post
  content_eq : e.source.content = head ++ ']' :: tail
  first : ∀ p ∈ pre, ']' ∉ p.source.content
  inName : ']' ∉ head

section Lists

variable {entries pre post : List Listed} {e : Listed} {inner rest : List Char}

/-- A list ends at the first bracket, and gives the quoted texts before it. -/
theorem references_brackets (h : ']' ∉ inner) (rest : List Char) :
    references (requireWord ++ '(' :: '[' :: (inner ++ ']' :: rest)) =
      callOf (quotations (inner ++ [']'])) ++ references rest := by
  have hargument := requireArgument?_brackets h rest
  have htokens : tokens (requireWord ++ ([] ++ '(' :: ([] ++ '[' :: (inner ++ [']']))) ++ rest) =
      (Kind.requiring ('[' :: (inner ++ [']']))).token?.toList ++ tokens rest :=
    tokens_require (d := ']') ⟨[], by simp⟩ ⟨[], by simp⟩ (by rintro _ ⟨⟩; decide)
      (by simpa using hargument) (by simp [List.getLast?_cons]) (by decide)
  have htext : requireWord ++ '(' :: '[' :: (inner ++ ']' :: rest) =
      requireWord ++ ([] ++ '(' :: ([] ++ '[' :: (inner ++ [']']))) ++ rest := by
    simp
  rw [htext, references_of_tokens htokens, Kind.token?, quotations_brackets, callOf]
  cases quotations (inner ++ [']']) <;> rfl

theorem intercalate_append (pre : List Listed) (e : Listed) (post : List Listed) :
    [','].intercalate ((pre ++ e :: post).map Listed.text) =
      pre.flatMap (fun p => p.text ++ [',']) ++
        (e.text ++ post.flatMap (fun p => ',' :: p.text)) := by
  induction pre generalizing e post with
  | nil =>
    induction post generalizing e with
    | nil => simp
    | cons p post ih => simpa [List.intercalate_cons_cons] using ih p
  | cons p pre ih =>
    have hne : (pre ++ e :: post).map Listed.text ≠ [] := by simp
    obtain ⟨text, texts, htexts⟩ := List.exists_cons_of_ne_nil hne
    rw [List.cons_append, List.map_cons, htexts, List.intercalate_cons_cons, ← htexts, ih]
    simp

theorem quotations_open {c : Char} {l : List Char} (h : ∀ d ∈ l, isUnquoted d = true) :
    quotations (c :: l) = [] := by
  have hnone : quotedText? (c :: l) = none := by
    rw [quotedText?]
    dsimp only
    split_ifs with hc hclose
    · have hmem := List.mem_of_mem_drop (List.mem_of_mem_head? hclose)
      have hplain := h c hmem
      obtain rfl | rfl := hc <;> exact absurd hplain (by decide)
    · rfl
    · rfl
  rw [quotations_of_none hnone, ← List.append_nil l, quotations_append_of_unquoted h]
  rfl

namespace Listed

theorem quotations_append (e : Listed) (rest : List Char) :
    quotations (e.text ++ rest) = e.source.content :: quotations rest := by
  rw [text, List.append_assoc, List.append_assoc, quotations_append_of_unquoted e.before.unquoted,
    quotations_text, quotations_append_of_unquoted e.after.unquoted]

theorem quotations_before (pre : List Listed) (rest : List Char) :
    quotations (pre.flatMap (fun p => p.text ++ [',']) ++ rest) =
      pre.map (·.source.content) ++ quotations rest := by
  induction pre with
  | nil => rfl
  | cons p pre ih =>
    have hcomma : ∀ l, quotations (',' :: l) = quotations l := fun l =>
      quotations_append_of_unquoted (l := [',']) (List.forall_mem_singleton.mpr (by decide))
    rw [List.flatMap_cons, List.append_assoc, List.append_assoc, quotations_append,
      List.singleton_append, hcomma, ih]
    rfl

theorem bracket_not_mem {e : Listed} (h : ']' ∉ e.source.content) : ']' ∉ e.text := by
  simp [text, e.before.not_mem (c := ']') (by decide), e.after.not_mem (c := ']') (by decide),
    Quotation.bracket_not_mem h]

theorem bracket_not_mem_before (h : ∀ p ∈ pre, ']' ∉ p.source.content) :
    ']' ∉ pre.flatMap (fun p => p.text ++ [',']) := by
  intro hmem
  obtain ⟨p, hp, hmem⟩ := List.mem_flatMap.mp hmem
  simp [bracket_not_mem (h p hp)] at hmem

end Listed

theorem references_of_no_bracket (hne : entries ≠ [])
    (h : ∀ e ∈ entries, ']' ∉ e.source.content) :
    references (requireList entries) = callOf (entries.map (·.source.content)) := by
  obtain ⟨pre, e, rfl⟩ := (List.eq_nil_or_concat entries).resolve_left hne
  rw [List.concat_eq_append] at h ⊢
  rw [List.forall_mem_append, List.forall_mem_singleton] at h
  have hinner : ']' ∉ pre.flatMap (fun p => p.text ++ [',']) ++ e.text := by
    rw [List.mem_append, not_or]
    exact ⟨Listed.bracket_not_mem_before h.1, Listed.bracket_not_mem h.2⟩
  have htext : requireList (pre ++ [e]) = requireWord ++ '(' :: '[' ::
      (pre.flatMap (fun p => p.text ++ [',']) ++ e.text ++ ']' :: [')', ';']) := by
    rw [requireList, intercalate_append]
    simp
  have hquotations : quotations (pre.flatMap (fun p => p.text ++ [',']) ++ e.text ++ [']']) =
      (pre ++ [e]).map (·.source.content) := by
    rw [List.append_assoc, Listed.quotations_before, e.quotations_append, List.map_append]
    rfl
  rw [htext, references_brackets hinner, hquotations]
  exact List.append_nil _

/-- With a bracket in a module name, the call refers to those before it, and the rest of the list is
read as source. -/
theorem references_of_bracketAt {head tail : List Char}
    (h : BracketAt entries pre e post head tail) :
    references (requireList entries) = callOf (pre.map (·.source.content)) ++
      references (tail ++ e.source.quote :: (e.after.text ++
        (post.flatMap (fun p => ',' :: p.text) ++ [']', ')', ';']))) := by
  have hquote : ']' ≠ e.source.quote := by
    obtain h | h := e.source.isQuote <;> rw [h] <;> decide
  have hinner : ']' ∉ pre.flatMap (fun p => p.text ++ [',']) ++
      (e.before.text ++ e.source.quote :: head) := by
    rw [List.mem_append, List.mem_append, List.mem_cons, not_or, not_or, not_or]
    exact ⟨Listed.bracket_not_mem_before h.first, e.before.not_mem (by decide), hquote, h.inName⟩
  have htext : requireList entries = requireWord ++ '(' :: '[' ::
      (pre.flatMap (fun p => p.text ++ [',']) ++ (e.before.text ++ e.source.quote :: head) ++
        ']' :: (tail ++ e.source.quote :: (e.after.text ++
          (post.flatMap (fun p => ',' :: p.text) ++ [']', ')', ';'])))) := by
    rw [requireList, h.entries_eq, intercalate_append]
    simp [Listed.text, Quotation.text, h.content_eq]
  have hopen : quotations (e.source.quote :: (head ++ [']'])) = [] := by
    apply quotations_open
    intro d hd
    obtain hd | hd := List.mem_append.mp hd
    · exact e.unquoted d (by simp [h.content_eq, hd])
    · rw [List.mem_singleton.mp hd]
      decide
  have hquotations : quotations (pre.flatMap (fun p => p.text ++ [',']) ++
      (e.before.text ++ e.source.quote :: head) ++ [']']) = pre.map (·.source.content) := by
    rw [List.append_assoc, Listed.quotations_before, List.append_assoc,
      quotations_append_of_unquoted e.before.unquoted, List.cons_append, hopen, List.append_nil]
  rw [htext, references_brackets hinner, hquotations]

/-- **A call with a list of module names.** It refers to all of them, in order, and to nothing else,
if no closing bracket stands in one. The first bracket that does ends the list: the call refers to
the module names before it, if there are any, and the rest of the list is read as source. -/
theorem references_requireList (entries : List Listed) (hne : entries ≠ []) :
    ((∀ e ∈ entries, ']' ∉ e.source.content) →
      references (requireList entries) =
        [⟨.requiring, entries.map (fun e => String.ofList e.source.content), {}⟩]) ∧
    ∀ pre e post head tail, BracketAt entries pre e post head tail →
      references (requireList entries) = callOf (pre.map (·.source.content)) ++
        references (tail ++ e.source.quote :: (e.after.text ++
          (post.flatMap (fun p => ',' :: p.text) ++ [']', ')', ';']))) := by
  refine ⟨fun h => ?_, fun pre e post head tail h => references_of_bracketAt h⟩
  rw [references_of_no_bracket hne h, callOf, if_neg (by simpa using hne), List.map_map]
  rfl

theorem blank_nil : ∀ c ∈ ([] : List Char), isBlank c = true := List.forall_mem_nil _

theorem apostrophe_isQuote : '\x27' = '\x27' ∨ '\x27' = '\x22' := .inl rfl

/-- No blanks at all. -/
def emptyGap : Gap := ⟨[], blank_nil⟩

/-- A module name in apostrophes, without blanks around it. -/
def listedName (name : String)
    (h : (name.toList.all fun c => isUnquoted c && c != '\n') = true) : Listed where
  before := emptyGap
  source := ⟨'\x27', name.toList, apostrophe_isQuote, by
    intro c hc
    have hplain := List.all_eq_true.mp h c hc
    simp only [isUnquoted, Bool.and_eq_true, bne_iff_ne] at hplain
    exact ⟨hplain.1.1, hplain.2⟩⟩
  after := emptyGap
  unquoted := by
    intro c hc
    have hplain := List.all_eq_true.mp h c hc
    rw [Bool.and_eq_true] at hplain
    exact hplain.1

/-- A module name before the one with brackets. -/
def firstListed : Listed := listedName "./a" (by decide)

/-- A module name with brackets. -/
def bracketListed : Listed := listedName "./b[0]" (by decide)

/-- A module name behind it. -/
def lastListed : Listed := listedName "./c" (by decide)

/-- The list is cut in its second module name, and the third is lost with it. -/
theorem references_bracketList :
    BracketAt [firstListed, bracketListed, lastListed] [firstListed] bracketListed [lastListed]
        "./b[0".toList [] ∧
      references "require(['./a','./b[0]','./c']);".toList = [⟨.requiring, ["./a"], {}⟩] ∧
      references "require(['./a','./c']);".toList = [⟨.requiring, ["./a", "./c"], {}⟩] := by
  have hbracket : BracketAt [firstListed, bracketListed, lastListed] [firstListed] bracketListed
      [lastListed] "./b[0".toList [] :=
    ⟨rfl, by decide, List.forall_mem_singleton.mpr (by decide), by decide⟩
  have hplain : ∀ e ∈ [firstListed, lastListed], ']' ∉ e.source.content :=
    List.forall_mem_cons.mpr ⟨by decide, List.forall_mem_singleton.mpr (by decide)⟩
  refine ⟨hbracket, ?_, (references_requireList [firstListed, lastListed] (by simp)).1 hplain⟩
  exact ((references_requireList _ (by simp)).2 _ _ _ _ _ hbracket).trans (by decide +kernel)

end Lists

end ReducerAtlas.Source
