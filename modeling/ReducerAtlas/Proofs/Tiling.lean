import ReducerAtlas.Proofs.Tokens

/-!
# Lexemes tile a text

Whatever a text holds, its lexemes follow each other without a gap and none is empty, also where a
comment, a string or a template is never closed. No lexeme ends in the middle of an identifier: a
word takes the whole of it, a comment stops at the end of its line or of the text, and everything
else ends with a character that is in no identifier. So no token starts in the middle of one either,
after a dollar sign as little as after a letter.

* `Sealed`: a piece at the front of a text that ends outside identifiers; `sealed_statement?`: all
  statements are such.
* `Between`: a place that is not inside an identifier; `Parts`: a piece that ends at such a place;
  **`parts_next`**: every lexeme is one.
* `Tiles`: lexemes that are read one behind the other; `tiles_lexemesFrom`: those of a text;
  `Tiles.place`: where each of them stands.
* **`lexemes_tile`**: the lexemes of a text tile it, and tokens start outside identifiers.
-/

namespace ReducerAtlas.Source

open ReducerAtlas.Text

/-! ## Pieces that end outside identifiers -/

/-- A text starts with a piece, and the last character of the piece is in no identifier. -/
structure Sealed (cs piece : List Char) : Prop where
  front : piece <+: cs
  closed : ∃ init d, piece = init ++ [d] ∧ isNameChar d = false

variable {cs rest piece text clause source : List Char} {lexeme : Lexeme}

theorem Sealed.append (h : Sealed rest piece) (l : List Char) :
    Sealed (l ++ rest) (l ++ piece) := by
  obtain ⟨hfront, init, d, rfl, hname⟩ := h
  exact ⟨(List.prefix_append_right_inj l).mpr hfront, l ++ init, d, by simp, hname⟩

theorem Sealed.blanks (h : Sealed (cs.dropWhile isBlank) piece) :
    Sealed cs (cs.takeWhile isBlank ++ piece) := by
  have happend := h.append (cs.takeWhile isBlank)
  rwa [List.takeWhile_append_dropWhile] at happend

theorem Sealed.word {word : List Char} (hword : after? word cs = some rest)
    (h : Sealed rest piece) : Sealed cs (word ++ piece) := by
  rw [after?_eq_some_iff.mp hword]
  exact h.append word

theorem drop_length_takeWhile (p : Char → Bool) (cs : List Char) :
    cs.drop (cs.takeWhile p).length = cs.dropWhile p := by
  induction cs with
  | nil => rfl
  | cons c cs ih => cases hc : p c <;> simp [hc, ih]

theorem head_dropWhile_of_eq {p : Char → Bool} {d : Char} (h : cs.dropWhile p = d :: rest) :
    p d = false := by
  have hhead := List.head?_dropWhile_not p cs
  rwa [h] at hhead

theorem sealed_run {p : Char → Bool} {d : Char} (hd : isNameChar d = false)
    (h : cs.dropWhile p = d :: rest) : Sealed cs (cs.takeWhile p ++ [d]) := by
  refine ⟨⟨rest, ?_⟩, _, d, rfl, hd⟩
  rw [List.append_assoc, List.singleton_append, ← h, List.takeWhile_append_dropWhile]

theorem sealed_quotation? (h : quotation? cs = some (source, text)) : Sealed cs text := by
  obtain ⟨⟨q, content⟩, hquoted, heq⟩ := Option.map_eq_some_iff.mp h
  cases heq
  cases cs with
  | nil => cases hquoted
  | cons c cs =>
    unfold quotedText? at hquoted
    dsimp only at hquoted
    split_ifs at hquoted with hq hclosed
    cases hquoted
    have hname : isNameChar q = false := by
      rcases hq with rfl | rfl <;> decide
    rw [drop_length_takeWhile] at hclosed
    obtain ⟨tail, htail⟩ := List.head?_eq_some_iff.mp hclosed
    exact (sealed_run hname htail).append [q]

theorem sealed_fromSource? (h : fromSource? cs = some (source, text)) : Sealed cs text := by
  simp only [fromSource?, Option.bind_eq_bind, Option.bind_eq_some_iff] at h
  obtain ⟨body, hbody, ⟨name, quote⟩, hquote, heq⟩ := h
  cases heq
  simpa using (Sealed.word hbody (sealed_quotation? hquote).blanks).blanks

/-! ## Statements -/

theorem sealed_importClause? {taken : List Char}
    (h : importClause? taken cs = some (clause, source, text)) :
    Sealed (taken.reverse ++ cs) text := by
  induction cs generalizing taken with
  | nil => cases h
  | cons c cs ih =>
    have htaken : taken.reverse ++ c :: cs = (c :: taken).reverse ++ cs := by simp
    rw [htaken]
    unfold importClause? at h
    split_ifs at h with hc hfollows
    · dsimp only at h
      split at h
      · next hsource =>
        cases h
        exact (sealed_fromSource? hsource).append _
      · exact ih h
    · exact ih h

theorem sealed_importTail? {gap : List Char}
    (h : importTail? gap cs = some (clause, source, text)) : Sealed cs text := by
  unfold importTail? at h
  split at h
  · next hclause =>
    cases h
    exact sealed_importClause? hclause
  · split at h
    · next hquote =>
      cases h
      exact sealed_quotation? hquote
    · split_ifs at h
      obtain ⟨⟨name, tail⟩, hsource, heq⟩ := Option.map_eq_some_iff.mp h
      cases heq
      exact sealed_fromSource? hsource

theorem sealed_import? (h : import? cs = some lexeme) : Sealed cs lexeme.text := by
  simp only [import?, Option.bind_eq_bind, Option.bind_eq_some_iff] at h
  obtain ⟨rest, hrest, h⟩ := h
  split_ifs at h
  · simp at h
  · obtain ⟨⟨clause, source, text⟩, htail, heq⟩ := Option.bind_eq_some_iff.mp h
    cases heq
    simpa using Sealed.word hrest (sealed_importTail? htail).blanks

theorem sealed_aliasSource? {name part : List Char} {n : Nat}
    (h : aliasSource? name rest n = some (part, source, text)) :
    Sealed (name ++ rest) (part ++ text) := by
  induction n with
  | zero => cases h
  | succ n ih =>
    unfold aliasSource? at h
    split at h
    · next hsource =>
      cases h
      have happend := (sealed_fromSource? hsource).append (name.take (n + 1))
      rwa [← List.append_assoc, List.take_append_drop] at happend
    · exact ih h

theorem sealed_starAlias? {name : List Char} (h : starAlias? cs = some (name, source, text)) :
    Sealed cs (name ++ text) := by
  simp only [starAlias?, Option.bind_eq_bind, Option.bind_eq_some_iff] at h
  obtain ⟨rest, hrest, h⟩ := h
  split_ifs at h
  · simp at h
  · obtain ⟨⟨part, source, text⟩, halias, heq⟩ := Option.bind_eq_some_iff.mp h
    cases heq
    have hpart := sealed_aliasSource? halias
    rw [List.takeWhile_append_dropWhile] at hpart
    simpa using (Sealed.word hrest hpart.blanks).blanks

theorem sealed_exportClause? (h : exportClause? cs = some (clause, source, text)) :
    Sealed cs (clause ++ text) := by
  cases cs with
  | nil => cases h
  | cons c cs =>
    rw [exportClause?] at h
    split_ifs at h with hstar hbrace
    · subst hstar
      split at h
      · next halias =>
        cases h
        exact (sealed_starAlias? halias).append ['*']
      · obtain ⟨⟨name, tail⟩, hsource, heq⟩ := Option.map_eq_some_iff.mp h
        cases heq
        exact (sealed_fromSource? hsource).append ['*']
    · dsimp only at h
      split at h
      · cases h
      · next close rest hdrop =>
        obtain ⟨⟨name, tail⟩, hsource, heq⟩ := Option.map_eq_some_iff.mp h
        cases heq
        have happend := (sealed_fromSource? hsource).append
          (c :: cs.takeWhile (· != '\x7d') ++ [close])
        have hcs : cs = cs.takeWhile (· != '\x7d') ++ close :: rest := by
          rw [← hdrop, drop_length_takeWhile, List.takeWhile_append_dropWhile]
        simpa [← hcs] using happend

theorem sealed_export? (h : export? cs = some lexeme) : Sealed cs lexeme.text := by
  simp only [export?, Option.bind_eq_bind, Option.bind_eq_some_iff] at h
  obtain ⟨rest, hrest, ⟨clause, source, text⟩, hclause, heq⟩ := h
  cases heq
  simpa using Sealed.word hrest (sealed_exportClause? hclause).blanks

theorem sealed_requireArgument? (h : requireArgument? cs = some text) : Sealed cs text := by
  cases cs with
  | nil => cases h
  | cons c cs =>
    rw [requireArgument?] at h
    split_ifs at h with hc
    · dsimp only at h
      split_ifs at h with hdrop
      cases h
      rw [drop_length_takeWhile, List.isEmpty_iff] at hdrop
      obtain ⟨d, tail, htail⟩ := List.exists_cons_of_ne_nil hdrop
      have hd : d = ']' := by simpa using head_dropWhile_of_eq htail
      subst hd
      exact (sealed_run (by decide) htail).append [c]
    · obtain ⟨⟨name, tail⟩, hquote, rfl⟩ := Option.map_eq_some_iff.mp h
      exact sealed_quotation? hquote

theorem sealed_require? (h : require? cs = some lexeme) : Sealed cs lexeme.text := by
  simp only [require?, Option.bind_eq_bind, Option.bind_eq_some_iff] at h
  obtain ⟨rest, hrest, inner, hinner, argument, hargument, heq⟩ := h
  cases heq
  simpa using
    Sealed.word hrest (Sealed.word hinner (sealed_requireArgument? hargument).blanks).blanks

theorem sealed_constant? (h : constant? cs = some lexeme) : Sealed cs lexeme.text := by
  simp only [constant?, Option.bind_eq_bind] at h
  split_ifs at h
  · simp at h
  · obtain ⟨body, hbody, h⟩ := Option.bind_eq_some_iff.mp h
    obtain ⟨⟨value, text⟩, hvalue, heq⟩ := Option.bind_eq_some_iff.mp h
    cases heq
    have happend := ((Sealed.word hbody (sealed_quotation? hvalue).blanks).blanks).append
      (cs.takeWhile isConstantChar)
    rw [List.takeWhile_append_dropWhile] at happend
    simpa using happend

/-- **A statement ends outside identifiers**, with a quote or a bracket. -/
theorem sealed_statement? (h : statement? cs = some lexeme) : Sealed cs lexeme.text := by
  simp only [statement?, Option.or_eq_some_iff] at h
  rcases h with h | ⟨-, h | ⟨-, h | ⟨-, h⟩⟩⟩
  · exact sealed_import? h
  · exact sealed_export? h
  · exact sealed_require? h
  · exact sealed_constant? h

/-! ## Where lexemes end -/

/-- The place after a character and before a text is not inside an identifier. -/
def Between (before : Option Char) (cs : List Char) : Prop :=
  ∀ d ∈ before, ∀ c ∈ cs.head?, isNameChar d = true → isNameChar c = false

/-- A piece that a text starts with, and what is left: no identifier goes on over the place between
the two. -/
structure Parts (cs piece rest : List Char) : Prop where
  eq_append : cs = piece ++ rest
  ne_nil : piece ≠ []
  between : Between piece.getLast? rest

theorem Sealed.parts (h : Sealed cs piece) : ∃ rest, Parts cs piece rest := by
  obtain ⟨⟨rest, hrest⟩, init, d, rfl, hname⟩ := h
  refine ⟨rest, hrest.symm, by simp, ?_⟩
  intro e he _ _ hnamed
  rw [List.getLast?_concat, Option.mem_some_iff] at he
  rw [← he, hname] at hnamed
  cases hnamed

theorem blockRest_cases (cs : List Char) :
    blockRest cs = cs ∨ ∃ init, blockRest cs = init ++ ['/'] ∧ blockRest cs <+: cs := by
  fun_induction blockRest cs with
  | case1 => exact .inl rfl
  | case2 cs => exact .inr ⟨['*'], rfl, cs, rfl⟩
  | case3 c cs _ ih =>
    rcases ih with ih | ⟨init, hinit, hfront⟩
    · exact .inl (by rw [ih])
    · exact .inr ⟨c :: init, by rw [hinit]; rfl, (List.prefix_cons_inj c).mpr hfront⟩

theorem parts_comment? (h : comment? cs = some lexeme) : ∃ rest, Parts cs lexeme.text rest := by
  unfold comment? at h
  split at h
  · next cs =>
    cases h
    refine ⟨cs.dropWhile (· != '\n'), ?_, by simp, ?_⟩
    · simp [List.takeWhile_append_dropWhile]
    · -- the line ends here, or the text does
      intro _ _ c hc _
      obtain ⟨tail, htail⟩ := List.head?_eq_some_iff.mp hc
      have hline : c = '\n' := by simpa using head_dropWhile_of_eq htail
      rw [hline]
      decide
  · next cs =>
    cases h
    rcases blockRest_cases cs with hall | ⟨init, hinit, hfront⟩
    · refine ⟨[], by simp [hall], by simp, ?_⟩
      intro _ _ c hc
      cases hc
    · refine Sealed.parts ⟨?_, '/' :: '*' :: init, '/', by simp [hinit], by decide⟩
      exact (List.prefix_append_right_inj ['/', '*']).mpr hfront
  · cases h

theorem sealed_literalRest? {quote : Char} (hquote : isNameChar quote = false)
    (h : literalRest? quote cs = some text) : Sealed cs text := by
  fun_induction literalRest? quote cs generalizing text with
  | case1 => cases h
  | case2 => cases h
  | case3 c rest ih =>
    obtain ⟨tail, htail, rfl⟩ := Option.map_eq_some_iff.mp h
    exact (ih htail).append ['\\', c]
  | case4 cs =>
    cases h
    exact ⟨⟨cs, rfl⟩, [], quote, rfl, hquote⟩
  | case5 => cases h
  | case6 c cs _ _ _ ih =>
    obtain ⟨tail, htail, rfl⟩ := Option.map_eq_some_iff.mp h
    exact (ih htail).append [c]

theorem sealed_literal? (h : literal? cs = some lexeme) : Sealed cs lexeme.text := by
  cases cs with
  | nil => cases h
  | cons q cs =>
    rw [literal?] at h
    split_ifs at h with hq
    have hname : isNameChar q = false := by
      rcases hq with rfl | rfl | rfl <;> decide
    obtain ⟨text, htext, rfl⟩ := Option.map_eq_some_iff.mp h
    exact (sealed_literalRest? hname htext).append [q]

/-- A word takes the whole of an identifier. -/
theorem parts_word? (h : word? cs = some lexeme) : ∃ rest, Parts cs lexeme.text rest := by
  unfold word? at h
  dsimp only at h
  split_ifs at h with hempty
  cases h
  refine ⟨cs.dropWhile isNameChar, List.takeWhile_append_dropWhile.symm, ?_, ?_⟩
  · simpa using hempty
  · intro _ _ c hc _
    obtain ⟨tail, htail⟩ := List.head?_eq_some_iff.mp hc
    exact head_dropWhile_of_eq htail

theorem isNameChar_of_isOther {c : Char} (h : isOther c = true) : isNameChar c = false := by
  simp only [isOther, Bool.not_eq_true', Bool.or_eq_false_iff] at h
  exact h.1.1.1.1

theorem parts_otherText {c : Char} (hc : isNameChar c = false) (cs : List Char) :
    ∃ rest, Parts (c :: cs) (otherText c cs).text rest := by
  unfold otherText
  split_ifs with hother
  · have hrun : ∀ d ∈ c :: cs.takeWhile isOther, isOther d = true :=
      List.forall_mem_cons.mpr ⟨hother, fun d hd => List.mem_takeWhile_imp hd⟩
    obtain ⟨init, d, hlast⟩ := List.eq_nil_or_concat' (c :: cs.takeWhile isOther) |>.resolve_left
      (List.cons_ne_nil _ _)
    refine Sealed.parts ⟨(List.prefix_cons_inj c).mpr (List.takeWhile_prefix _), init, d, hlast, ?_⟩
    exact isNameChar_of_isOther (hrun d (by simp [hlast]))
  · exact Sealed.parts ⟨⟨cs, rfl⟩, [], c, rfl, hc⟩

/-- **A lexeme is not empty and does not end in the middle of an identifier**, whatever comes before
and after it. -/
theorem parts_next (before : Option Char) (c : Char) (cs : List Char) :
    ∃ rest, Parts (c :: cs) (next before c cs).text rest := by
  rcases next_cases before c cs with h | h | h | h | ⟨hname, h⟩
  · exact parts_comment? h
  · exact (sealed_statement? h).parts
  · exact (sealed_literal? h).parts
  · exact parts_word? h
  · rw [h]
    exact parts_otherText hname cs

/-- **Only statements give tokens**, so what gives one starts with a character of an identifier. -/
theorem isNameChar_of_token? {before : Option Char} {c : Char}
    (h : (next before c cs).kind.token?.isSome = true) : isNameChar c = true := by
  rw [Option.isSome_iff_ne_none] at h
  rcases next_cases before c cs with hread | hread | hread | hread | ⟨-, hread⟩
  · exact absurd (token?_of_comment? hread) h
  · by_contra hname
    rw [statement?_of_not_isNameChar (by simpa using hname)] at hread
    cases hread
  · exact absurd (token?_of_literal? hread) h
  · exact absurd (token?_of_word? hread) h
  · rw [hread] at h
    exact absurd (token?_otherText c cs) h

/-! ## Where lexemes stand -/

/-- Some lexemes tile a text: each is read where the one before it ends, up to the end. -/
inductive Tiles : Option Char → List Char → List Lexeme → Prop
  | nil {before : Option Char} : Tiles before [] []
  | cons {before : Option Char} {c : Char} {cs rest : List Char} {lexemes : List Lexeme}
      (parts : Parts (c :: cs) (next before c cs).text rest)
      (tiles : Tiles (next before c cs).text.getLast? rest lexemes) :
      Tiles before (c :: cs) (next before c cs :: lexemes)

/-- From one lexeme to the next, the reading goes on right behind it. -/
theorem lexemesFrom_cons {before : Option Char} {c : Char}
    (h : Parts (c :: cs) (next before c cs).text rest) : lexemesFrom 0 before (c :: cs) =
      next before c cs :: lexemesFrom 0 (next before c cs).text.getLast? rest := by
  rw [lexemesFrom]
  generalize next before c cs = lexeme at h ⊢
  obtain ⟨d, l, hl⟩ := List.exists_cons_of_ne_nil h.ne_nil
  have heq := h.eq_append
  rw [hl] at heq
  rw [List.cons_append] at heq
  obtain ⟨rfl, rfl⟩ := List.cons.inj heq
  rw [hl, List.length_cons, Nat.add_sub_cancel, lexemesFrom_length, List.getLast?_cons]
  cases l.getLast? <;> rfl

theorem tiles_lexemesFrom (before : Option Char) (content : List Char) :
    Tiles before content (lexemesFrom 0 before content) := by
  -- what is left behind a lexeme is shorter, and no part of the text in the sense of the recursion
  induction hn : content.length using Nat.strong_induction_on generalizing before content with
  | _ n ih =>
    cases content with
    | nil => exact .nil
    | cons c cs =>
      obtain ⟨rest, hparts⟩ := parts_next before c cs
      rw [lexemesFrom_cons hparts]
      refine .cons hparts (ih rest.length ?_ _ _ rfl)
      have hlength := congrArg List.length hparts.eq_append
      have hpos := List.length_pos_iff.mpr hparts.ne_nil
      rw [List.length_append] at hlength
      omega

/-- The text that some lexemes take. -/
def taken (lexemes : List Lexeme) : List Char := lexemes.flatMap (·.text)

@[simp] theorem taken_cons (lexeme : Lexeme) (lexemes : List Lexeme) :
    taken (lexeme :: lexemes) = lexeme.text ++ taken lexemes := by
  simp [taken]

namespace Tiles

variable {before : Option Char} {content : List Char} {lexemes front back : List Lexeme}

theorem taken_eq (h : Tiles before content lexemes) : taken lexemes = content := by
  induction h with
  | nil => rfl
  | cons parts _ ih => rw [taken_cons, ih, ← parts.eq_append]

theorem ne_nil (h : Tiles before content lexemes) : ∀ lexeme ∈ lexemes, lexeme.text ≠ [] := by
  induction h with
  | nil => simp
  | cons parts _ ih => exact List.forall_mem_cons.mpr ⟨parts.ne_nil, ih⟩

/-- **Each lexeme is read where those before it end**, which is outside identifiers. -/
theorem place (h : Tiles before content lexemes) (hbetween : Between before content)
    (hsplit : lexemes = front ++ lexeme :: back) :
    ∃ c cs, content = taken front ++ c :: cs ∧
      lexeme = next ((taken front).getLast?.or before) c cs ∧
      Between ((taken front).getLast?.or before) (c :: cs) := by
  induction h generalizing front with
  | nil => simp at hsplit
  | @cons before c cs rest lexemes parts _ ih =>
    cases front with
    | nil =>
      cases hsplit
      exact ⟨c, cs, rfl, rfl, hbetween⟩
    | cons first front =>
      obtain ⟨rfl, hrest⟩ := List.cons.inj hsplit
      obtain ⟨d, ds, hcontent, hnext, hplace⟩ := ih parts.between hrest
      have hlast : (taken (next before c cs :: front)).getLast?.or before =
          (taken front).getLast?.or (next before c cs).text.getLast? := by
        rw [taken_cons, List.getLast?_append, Option.or_assoc,
          List.getLast?_eq_some_getLast parts.ne_nil, Option.some_or]
      rw [hlast]
      refine ⟨d, ds, ?_, hnext, hplace⟩
      rw [parts.eq_append, hcontent, taken_cons, List.append_assoc]

end Tiles

/-- **The lexemes of a text tile it**, and tokens start outside identifiers. -/
theorem lexemes_tile (content : List Char) :
    taken (lexemes content) = content ∧
    (∀ lexeme ∈ lexemes content, lexeme.text ≠ []) ∧
    ∀ front lexeme back, lexemes content = front ++ lexeme :: back →
      (∃ c cs, content = taken front ++ c :: cs ∧ lexeme = next (taken front).getLast? c cs ∧
        Between (taken front).getLast? (c :: cs)) ∧
      (lexeme.kind.token?.isSome = true →
        ∀ d ∈ (taken front).getLast?, isWord d = false ∧ d ≠ '$') := by
  have htiles := tiles_lexemesFrom none content
  refine ⟨htiles.taken_eq, htiles.ne_nil, ?_⟩
  intro front lexeme back h
  have hstart : Between none content := by
    intro d hd
    cases hd
  obtain ⟨c, cs, hcontent, hnext, hbetween⟩ := htiles.place hstart h
  rw [Option.or_none] at hnext hbetween
  refine ⟨⟨c, cs, hcontent, hnext, hbetween⟩, ?_⟩
  intro htoken d hd
  rw [hnext] at htoken
  have hname : isNameChar d = false := by
    by_contra hd'
    have hc := hbetween d hd c rfl (by simpa using hd')
    rw [isNameChar_of_token? htoken] at hc
    cases hc
  simpa [isNameChar] using hname

/-- A keyword behind a dollar sign is part of a name; behind a template it is a keyword, also where
an unclosed comment follows. -/
theorem lexemes_tile_dollar :
    lexemes "$import'a'`$`import'b'/*".toList =
      [⟨.word, "$import".toList⟩, ⟨.literal, "'a'".toList⟩, ⟨.literal, "`$`".toList⟩] ++
        ⟨.importing [] ['b'], "import'b'".toList⟩ :: [⟨.blockComment, "/*".toList⟩] ∧
    isWord '\x60' = false ∧ '\x60' ≠ '$' := by
  have hlexemes : lexemes "$import'a'`$`import'b'/*".toList =
      [⟨.word, "$import".toList⟩, ⟨.literal, "'a'".toList⟩, ⟨.literal, "`$`".toList⟩] ++
        ⟨.importing [] ['b'], "import'b'".toList⟩ :: [⟨.blockComment, "/*".toList⟩] := by
    decide +kernel
  obtain ⟨-, -, hplace⟩ := lexemes_tile "$import'a'`$`import'b'/*".toList
  exact ⟨hlexemes, (hplace _ _ _ hlexemes).2 rfl '\x60' rfl⟩

end ReducerAtlas.Source
