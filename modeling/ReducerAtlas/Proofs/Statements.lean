import Mathlib.Data.List.TakeWhile
import ReducerAtlas.Proofs.ClauseText

/-!
# Reading statements back

Each item of a script is read back from the text that it starts, whatever follows. The one place
where a reader could stop early is the clause of an import, since a name may be any word, the word
`from` among them. A module name is quoted, though, and nothing but blanks and one `from` may stand
between the clause and the quote.

* `quotation?_text`, `fromSource?_text`: a module name, alone and after its keyword.
* `fromSource?_of_append`: no module name follows an unfinished clause.
* `import?_bare`, `import?_clause`, `export?_braced`, `export?_all`, `export?_star`,
  `require?_append`, `constant?_append`, `constant?_text`: statements.
* `requireArgument?_text`, `requireArgument?_list`, `SourceList.quotations_append`: arguments.
* `blockRest_append`, `literalRest?_append`: comments and literals.
-/

namespace ReducerAtlas.Source

open ReducerAtlas.Text

variable {rest : List Char}

/-! ## Gaps and quotations -/

theorem after?_append (start rest : List Char) : after? start (start ++ rest) = some rest :=
  after?_eq_some_iff.mpr rfl

theorem after?_of_ne {p c : Char} (h : p ≠ c) (ps cs : List Char) :
    after? (p :: ps) (c :: cs) = none := if_neg h

theorem Gap.takeWhile_append (g : Gap) (h : ∀ c ∈ rest.head?, isBlank c = false) :
    (g.text ++ rest).takeWhile isBlank = g.text :=
  takeWhile_append_of_head g.blank h

theorem Gap.dropWhile_append (g : Gap) (h : ∀ c ∈ rest.head?, isBlank c = false) :
    (g.text ++ rest).dropWhile isBlank = rest :=
  dropWhile_append_of_head g.blank h

theorem isBlank_quote {c : Char} (h : c = '\x27' ∨ c = '\x22') : isBlank c = false := by
  obtain rfl | rfl := h <;> decide

theorem Quotation.head_not_blank (q : Quotation) :
    ∀ c ∈ (q.text ++ rest).head?, isBlank c = false := by
  rintro _ ⟨⟩
  exact isBlank_quote q.isQuote

/-- A character that starts no quoted text. -/
def isUnquoted (c : Char) : Bool := c != '\x27' && c != '\x22'

theorem Gap.unquoted (g : Gap) : ∀ c ∈ g.text, isUnquoted c = true := by
  intro c hc
  rw [isUnquoted, Bool.and_eq_true, bne_iff_ne, bne_iff_ne]
  constructor
  all_goals
    rintro rfl
    exact g.not_mem (by decide) hc

theorem quotedText?_of_unquoted {c : Char} (h : isUnquoted c = true) (cs : List Char) :
    quotedText? (c :: cs) = none := by
  rw [quotedText?, if_neg]
  simpa [isUnquoted, not_or] using h

theorem quotedText?_append (q : Quotation) (rest : List Char) :
    quotedText? (q.text ++ rest) = some (q.quote, q.content) := by
  have hcontent : (q.content ++ q.quote :: rest).takeWhile (fun c => c != q.quote && c != '\n') =
      q.content := by
    apply takeWhile_append_of_head
    · intro c hc
      simp [q.plain c hc]
    · simp
  have htext : q.text ++ rest = q.quote :: (q.content ++ q.quote :: rest) := by
    simp [Quotation.text]
  rw [htext, quotedText?, if_pos q.isQuote, hcontent]
  simp

theorem quotation?_text (q : Quotation) (rest : List Char) :
    quotation? (q.text ++ rest) = some (q.content, q.text) := by
  rw [quotation?, quotedText?_append]
  rfl

/-! ## The keyword before a module name -/

theorem fromWord_head_not_blank (rest : List Char) :
    ∀ c ∈ (fromWord ++ rest).head?, isBlank c = false := by
  rintro _ ⟨⟩
  decide

theorem fromSource?_text (middle after : Gap) (source : Quotation) (rest : List Char) :
    fromSource? (Item.fromText middle after source ++ rest) =
      some (source.content, Item.fromText middle after source) := by
  have htext : Item.fromText middle after source ++ rest =
      middle.text ++ (fromWord ++ (after.text ++ (source.text ++ rest))) := by
    simp [Item.fromText]
  rw [htext, fromSource?, middle.takeWhile_append (fromWord_head_not_blank _),
    middle.dropWhile_append (fromWord_head_not_blank _), after?_append]
  simp only [Option.bind_eq_bind, Option.bind_some, after.takeWhile_append source.head_not_blank,
    after.dropWhile_append source.head_not_blank, quotation?_text]
  simp [Item.fromText]

theorem exists_of_fromSource? {cs : List Char} {found : List Char × List Char}
    (h : fromSource? cs = some found) :
    ∃ (g g' : Gap) (q : Char) (tail : List Char), (q = '\x27' ∨ q = '\x22') ∧
      cs = g.text ++ (fromWord ++ (g'.text ++ q :: tail)) := by
  have hblank : ∀ l : List Char, ∀ c ∈ l.takeWhile isBlank, isBlank c = true := fun _ _ hc =>
    List.mem_takeWhile_imp hc
  simp only [fromSource?, Option.bind_eq_bind, Option.bind_eq_some_iff] at h
  obtain ⟨body, hbody, quoted, hquoted, -⟩ := h
  rw [after?_eq_some_iff] at hbody
  cases hq : body.dropWhile isBlank with
  | nil => simp [hq, quotation?, quotedText?] at hquoted
  | cons q tail =>
    refine ⟨⟨_, hblank cs⟩, ⟨_, hblank body⟩, q, tail, ?_, ?_⟩
    · by_contra hne
      simp [hq, quotation?, quotedText?, hne] at hquoted
    · rw [← hq, List.takeWhile_append_dropWhile, ← hbody, List.takeWhile_append_dropWhile]

/-- **No module name follows an unfinished clause.** Up to the first quote there would be another
word besides `from`. -/
theorem fromSource?_of_append {m : List Char} (hm : ∀ c ∈ m, isUnquoted c = true)
    (hword : ∃ c ∈ m, isBlank c = false) (middle after : Gap) (source : Quotation)
    (rest : List Char) : fromSource? (m ++ (Item.fromText middle after source ++ rest)) = none := by
  rw [Option.eq_none_iff_forall_ne_some]
  intro found hfound
  obtain ⟨g, g', q, tail, hq, htext⟩ := exists_of_fromSource? hfound
  have hfrom : ∀ c ∈ fromWord, isUnquoted c = true := List.all_eq_true.mp (by decide)
  have hquote : ∀ {c : Char} {l : List Char}, (c = '\x27' ∨ c = '\x22') →
      ∀ d ∈ (c :: l).head?, isUnquoted d = false := by
    rintro c l (rfl | rfl) _ ⟨⟩ <;> decide
  -- both texts up to the first quote
  have hfront : m ++ (middle.text ++ (fromWord ++ after.text)) =
      g.text ++ (fromWord ++ g'.text) := by
    have hleft : (m ++ (Item.fromText middle after source ++ rest)).takeWhile isUnquoted =
        m ++ (middle.text ++ (fromWord ++ after.text)) := by
      have hsplit : m ++ (Item.fromText middle after source ++ rest) =
          (m ++ (middle.text ++ (fromWord ++ after.text))) ++ (source.text ++ rest) := by
        simp [Item.fromText]
      rw [hsplit]
      refine takeWhile_append_of_head ?_ (hquote source.isQuote)
      simp only [List.forall_mem_append]
      exact ⟨hm, middle.unquoted, hfrom, after.unquoted⟩
    have hright : (g.text ++ (fromWord ++ (g'.text ++ q :: tail))).takeWhile isUnquoted =
        g.text ++ (fromWord ++ g'.text) := by
      have hsplit : g.text ++ (fromWord ++ (g'.text ++ q :: tail)) =
          (g.text ++ (fromWord ++ g'.text)) ++ q :: tail := by
        simp
      rw [hsplit]
      refine takeWhile_append_of_head ?_ (hquote hq)
      simp only [List.forall_mem_append]
      exact ⟨g.unquoted, hfrom, g'.unquoted⟩
    rw [← hleft, htext, hright]
  have hwords := congrArg (List.filter fun c => !isBlank c) hfront
  have hnone : ∀ g : Gap, g.text.filter (fun c => !isBlank c) = [] := by
    intro g
    simpa using g.blank
  simp only [List.filter_append, hnone, List.nil_append, List.append_nil] at hwords
  rw [List.append_left_eq_self, List.filter_eq_nil_iff] at hwords
  obtain ⟨c, hc, hblank⟩ := hword
  exact hwords c hc (by simp [hblank])

/-! ## Imports -/

theorem isUnquoted_of_isClauseChar {c : Char} (h : isClauseChar c = true) :
    isUnquoted c = true := by
  rw [isUnquoted, Bool.and_eq_true, bne_iff_ne, bne_iff_ne]
  constructor
  all_goals
    rintro rfl
    revert h
    decide

/-- A clause is taken to its end. No module name follows before that, since its last character is
not blank. -/
theorem importClause?_append (m : List Char) (hne : m ≠ []) (hm : ∀ c ∈ m, isClauseChar c = true)
    (hlast : ∀ c ∈ m.getLast?, isBlank c = false) (middle after : Gap) (source : Quotation)
    (rest : List Char)
    (hapart : (∀ c ∈ m.getLast?, isWord c = false) ∨ middle.text ≠ []) (taken : List Char) :
    importClause? taken (m ++ (Item.fromText middle after source ++ rest)) =
      some (taken.reverse ++ m, source.content,
        taken.reverse ++ (m ++ Item.fromText middle after source)) := by
  induction m generalizing taken with
  | nil => exact absurd rfl hne
  | cons c m ih =>
    obtain ⟨hc, hm'⟩ := List.forall_mem_cons.mp hm
    rw [List.cons_append, importClause?, if_pos hc]
    cases hl : m with
    | nil =>
      subst hl
      have hfollows : (outsideWord (some c) ||
          (Item.fromText middle after source ++ rest).head?.any isBlank) = true := by
        rw [Bool.or_eq_true]
        obtain hword | hgap := hapart
        · exact .inl (by simp [outsideWord, hword c rfl])
        · obtain ⟨d, g, hg⟩ := List.exists_cons_of_ne_nil hgap
          exact .inr (by simp [Item.fromText, hg, middle.blank d (by simp [hg])])
      simp only [List.nil_append, hfollows, if_true, fromSource?_text]
      simp
    | cons d m' =>
      rw [← hl]
      have hne' : m ≠ [] := by simp [hl]
      have hlast' : m.getLast? = (c :: m).getLast? := by simp [hl, List.getLast?_cons]
      have hnone : fromSource? (m ++ (Item.fromText middle after source ++ rest)) = none := by
        refine fromSource?_of_append (fun c hc => isUnquoted_of_isClauseChar (hm' c hc)) ?_ _ _ _ _
        exact ⟨m.getLast hne', List.getLast_mem hne',
          hlast _ (by rw [← hlast', List.getLast?_eq_some_getLast hne']; rfl)⟩
      simp only [hnone, ite_self]
      rw [ih hne' hm' (hlast' ▸ hlast) (hlast' ▸ hapart)]
      simp

theorem Selection.clauseChar (s : Selection) : ∀ c ∈ s.text, isClauseChar c = true := by
  intro c hc
  cases s with
  | braces list =>
    simp only [text, EntryList.braced, List.mem_cons, List.mem_append, List.not_mem_nil,
      or_false] at hc
    obtain rfl | hc | rfl := hc
    · decide
    · obtain h | h | rfl := list.mem_text hc <;> simp [isClauseChar, *]
    · decide
  | star gap space name => obtain h | h | rfl := mem_star hc <;> simp [isClauseChar, *]

theorem ImportClause.clauseChar (clause : ImportClause) :
    ∀ c ∈ clause.text, isClauseChar c = true := by
  intro c hc
  have hname : ∀ n : Name, c ∈ n.text → isClauseChar c = true := fun n h => by
    simp [isClauseChar, n.named c h]
  have hgap : ∀ g : Gap, c ∈ g.text → isClauseChar c = true := fun g h => by
    simp [isClauseChar, g.blank c h]
  cases clause with
  | default name => exact hname name.toName hc
  | selection s => exact s.clauseChar c hc
  | both name before after s =>
    simp only [text, List.mem_append, List.mem_cons] at hc
    obtain h | h | rfl | h | h := hc
    · exact hname name.toName h
    · exact hgap before h
    · decide
    · exact hgap after h
    · exact s.clauseChar c h

theorem isWord_of_isBlank {c : Char} (h : isBlank c = true) : isWord c = false :=
  (Bool.or_eq_false_iff.mp (isNameChar_of_isBlank h)).1

theorem Gap.head_not_word (g : Gap)
    (h : g.text = [] → ∀ c ∈ rest.head?, isWord c = false) :
    (g.text ++ rest).head?.any isWord = false := by
  rw [Option.any_eq_false]
  intro c hc
  cases hg : g.text with
  | nil => exact h hg c (by simpa [hg] using hc)
  | cons d g' =>
    rw [hg] at hc
    cases hc
    exact isWord_of_isBlank (g.blank c (by simp [hg]))

theorem import?_append (gap : Gap) {body clause source text : List Char}
    (hbody : ∀ c ∈ body.head?, isBlank c = false)
    (hword : (gap.text ++ body).head?.any isWord = false)
    (htail : importTail? gap.text body = some (clause, source, text)) :
    (import? (importWord ++ (gap.text ++ body))) =
      some ⟨.importing clause source, importWord ++ (gap.text ++ text)⟩ := by
  simp only [import?, after?_append, Option.bind_eq_bind, Option.bind_some, hword,
    gap.takeWhile_append hbody, gap.dropWhile_append hbody, htail]
  simp

theorem import?_bare (gap : Gap) (source : Quotation) (rest : List Char) :
    (import? ((Item.bareImport gap source).text ++ rest)) =
      some ⟨.importing [] source.content, (Item.bareImport gap source).text⟩ := by
  have hhead : ∀ c ∈ (source.text ++ rest).head?, isWord c = false := by
    rintro _ ⟨⟩
    obtain h | h := source.isQuote <;> rw [h] <;> decide
  have hclause : importClause? [] (source.text ++ rest) = none := by
    have hquote : isClauseChar source.quote = false := by
      obtain h | h := source.isQuote <;> rw [h] <;> decide
    rw [Quotation.text, List.cons_append, importClause?, if_neg (by simp [hquote])]
  have htail : importTail? gap.text (source.text ++ rest) =
      some ([], source.content, source.text) := by
    simp only [importTail?, hclause, quotation?_text]
  have htext : (Item.bareImport gap source).text ++ rest =
      importWord ++ (gap.text ++ (source.text ++ rest)) := by
    simp [Item.text]
  rw [htext]
  exact import?_append gap source.head_not_blank (gap.head_not_word fun _ => hhead) htail

theorem import?_clause (clause : ImportClause) (before middle after : Gap) (source : Quotation)
    (apart : clause.startsWord = true → before.text ≠ [])
    (apart' : clause.endsWord = true → middle.text ≠ []) (rest : List Char) :
    (import? ((Item.importing clause before middle after source apart apart').text ++ rest)) =
      some ⟨.importing clause.text source.content,
        (Item.importing clause before middle after source apart apart').text⟩ := by
  have hblank : ∀ c ∈ (clause.text ++ (Item.fromText middle after source ++ rest)).head?,
      isBlank c = false := by
    rw [List.head?_append_of_ne_nil _ clause.text_ne_nil]
    exact clause.head_not_blank
  have hword : (before.text ++
      (clause.text ++ (Item.fromText middle after source ++ rest))).head?.any isWord = false := by
    apply before.head_not_word
    intro hgap
    rw [List.head?_append_of_ne_nil _ clause.text_ne_nil]
    exact clause.head_not_word (by simpa [hgap] using apart)
  have hapart : (∀ c ∈ clause.text.getLast?, isWord c = false) ∨ middle.text ≠ [] := by
    cases h : clause.endsWord with
    | false => exact .inl (clause.last_not_word h)
    | true => exact .inr (apart' h)
  have htail : importTail? before.text
      (clause.text ++ (Item.fromText middle after source ++ rest)) =
        some (clause.text, source.content, clause.text ++ Item.fromText middle after source) := by
    rw [importTail?, importClause?_append clause.text clause.text_ne_nil clause.clauseChar
      clause.last_not_blank middle after source rest hapart]
    rfl
  have htext : (Item.importing clause before middle after source apart apart').text ++ rest =
      importWord ++
        (before.text ++ (clause.text ++ (Item.fromText middle after source ++ rest))) := by
    simp [Item.text]
  rw [htext]
  exact import?_append before hblank hword htail

/-! ## Re-exports -/

theorem export?_append (gap : Gap) {body clause source text : List Char}
    (hbody : ∀ c ∈ body.head?, isBlank c = false)
    (hclause : exportClause? body = some (clause, source, text)) :
    export? (exportWord ++ (gap.text ++ body)) =
      some ⟨.reexporting clause source, exportWord ++ (gap.text ++ (clause ++ text))⟩ := by
  simp only [export?, after?_append, Option.bind_eq_bind, Option.bind_some,
    gap.takeWhile_append hbody, gap.dropWhile_append hbody, hclause]
  simp

/-- A brace list is taken to its closing brace, whatever it holds. -/
theorem export?_braces {inner : List Char} (hinner : '\x7d' ∉ inner) (before middle after : Gap)
    (source : Quotation) (rest : List Char) :
    export? (exportWord ++ (before.text ++
      ('\x7b' :: (inner ++ ['\x7d']) ++ Item.fromText middle after source)) ++ rest) =
        some ⟨.reexporting ('\x7b' :: (inner ++ ['\x7d'])) source.content,
          exportWord ++ (before.text ++
            ('\x7b' :: (inner ++ ['\x7d']) ++ Item.fromText middle after source))⟩ := by
  have hclause : exportClause?
      ('\x7b' :: (inner ++ '\x7d' :: (Item.fromText middle after source ++ rest))) =
        some ('\x7b' :: (inner ++ ['\x7d']), source.content,
          Item.fromText middle after source) := by
    simp only [exportClause?, takeWhile_ne_append hinner, List.drop_left, fromSource?_text]
    simp
  have htext : exportWord ++ (before.text ++
      ('\x7b' :: (inner ++ ['\x7d']) ++ Item.fromText middle after source)) ++ rest =
        exportWord ++ (before.text ++
          '\x7b' :: (inner ++ '\x7d' :: (Item.fromText middle after source ++ rest))) := by
    simp
  rw [htext, export?_append before (by rintro _ ⟨⟩; decide) hclause]

theorem export?_braced (list : EntryList) (before middle after : Gap) (source : Quotation)
    (rest : List Char) :
    export? ((Item.reexporting list before middle after source).text ++ rest) =
      some ⟨.reexporting list.braced source.content,
        (Item.reexporting list before middle after source).text⟩ :=
  export?_braces (list.not_mem (by decide) (by decide) (by decide)) before middle after source rest

theorem export?_all (before middle after : Gap) (source : Quotation) (rest : List Char) :
    export? ((Item.reexportingAll before middle after source).text ++ rest) =
      some ⟨.reexporting ['*'] source.content,
        (Item.reexportingAll before middle after source).text⟩ := by
  have halias : starAlias? (Item.fromText middle after source ++ rest) = none := by
    have hbody : (Item.fromText middle after source ++ rest).dropWhile isBlank =
        fromWord ++ (after.text ++ (source.text ++ rest)) := by
      simpa [Item.fromText] using middle.dropWhile_append
        (fromWord_head_not_blank (after.text ++ (source.text ++ rest)))
    rw [starAlias?, hbody]
    rfl
  have hclause : exportClause? ('*' :: (Item.fromText middle after source ++ rest)) =
      some (['*'], source.content, Item.fromText middle after source) := by
    simp only [exportClause?, halias, fromSource?_text]
    rfl
  have htext : (Item.reexportingAll before middle after source).text ++ rest =
      exportWord ++ (before.text ++ '*' :: (Item.fromText middle after source ++ rest)) := by
    simp [Item.text]
  rw [htext, export?_append before (by rintro _ ⟨⟩; decide) hclause]
  rfl

theorem Space.head_not_named (s : Space) (rest : List Char) :
    ∀ c ∈ (s.text ++ rest).head?, isNameChar c = false := by
  intro c hc
  rw [List.head?_append_of_ne_nil _ s.ne_nil] at hc
  exact isNameChar_of_isBlank (s.blank c (List.mem_of_mem_head? hc))

theorem starAlias?_text (gap : Gap) (space : Space) (name : Name) (middle : Space) (after : Gap)
    (source : Quotation) (rest : List Char) :
    starAlias? (gap.text ++ (asWord ++ (space.text ++ (name.text ++
      (Item.fromText middle.toGap after source ++ rest))))) =
        some (gap.text ++ (asWord ++ (space.text ++ name.text)), source.content,
          Item.fromText middle.toGap after source) := by
  have has : ∀ c ∈ (asWord ++ (space.text ++ (name.text ++
      (Item.fromText middle.toGap after source ++ rest)))).head?, isBlank c = false := by
    rintro _ ⟨⟩
    decide
  have hafter : ∀ c ∈ (Item.fromText middle.toGap after source ++ rest).head?,
      isNameChar c = false := by
    simpa [Item.fromText] using
      middle.head_not_named (fromWord ++ (after.text ++ (source.text ++ rest)))
  have hname := takeWhile_append_of_head name.named hafter
  have hrest := dropWhile_append_of_head name.named hafter
  have hsource : aliasSource? name.text (Item.fromText middle.toGap after source ++ rest)
      name.text.length =
        some (name.text, source.content, Item.fromText middle.toGap after source) := by
    obtain ⟨c, cs, hcs⟩ := List.exists_cons_of_ne_nil name.ne_nil
    have hlength : name.text.length = cs.length + 1 := by simp [hcs]
    rw [hlength, aliasSource?, ← hlength, List.drop_length, List.nil_append, fromSource?_text,
      List.take_length]
  have hspace : space.text.isEmpty = false := by simp [space.ne_nil]
  simp only [starAlias?, gap.takeWhile_append has, gap.dropWhile_append has, after?_append,
    Option.bind_eq_bind, Option.bind_some, space.takeWhile_append (name.head_not_blank _),
    space.dropWhile_append (name.head_not_blank _), hspace, hname, hrest, hsource]
  simp

theorem export?_star (before gap : Gap) (space : Space) (name : Name) (middle : Space) (after : Gap)
    (source : Quotation) (rest : List Char) :
    export? ((Item.reexportingAs before gap space name middle after source).text ++ rest) =
      some ⟨.reexporting (Selection.star gap space name).text source.content,
        (Item.reexportingAs before gap space name middle after source).text⟩ := by
  have hclause : exportClause? ('*' :: (gap.text ++ (asWord ++ (space.text ++ (name.text ++
      (Item.fromText middle.toGap after source ++ rest)))))) =
        some ((Selection.star gap space name).text, source.content,
          Item.fromText middle.toGap after source) := by
    simp only [exportClause?, starAlias?_text]
    rfl
  have htext : (Item.reexportingAs before gap space name middle after source).text ++ rest =
      exportWord ++ (before.text ++ '*' :: (gap.text ++ (asWord ++ (space.text ++ (name.text ++
        (Item.fromText middle.toGap after source ++ rest)))))) := by
    simp [Item.text]
  rw [htext, export?_append before (by rintro _ ⟨⟩; decide) hclause]
  simp [Item.text, Selection.text]

/-! ## Require calls -/

theorem require?_append (before gap : Gap) {body argument : List Char}
    (hbody : ∀ c ∈ body.head?, isBlank c = false)
    (hargument : requireArgument? body = some argument) :
    require? (requireWord ++ (before.text ++ '(' :: (gap.text ++ body))) =
      some ⟨.requiring argument,
        requireWord ++ (before.text ++ '(' :: (gap.text ++ argument))⟩ := by
  have hparen : ∀ c ∈ ('(' :: (gap.text ++ body)).head?, isBlank c = false := by
    rintro _ ⟨⟩
    decide
  have hafter : after? ['('] ('(' :: (gap.text ++ body)) = some (gap.text ++ body) :=
    after?_append ['('] _
  simp only [require?, after?_append, Option.bind_eq_bind, Option.bind_some,
    before.takeWhile_append hparen, before.dropWhile_append hparen, hafter,
    gap.takeWhile_append hbody, gap.dropWhile_append hbody, hargument]
  simp

theorem requireArgument?_text (source : Quotation) (rest : List Char) :
    requireArgument? (source.text ++ rest) = some source.text := by
  have hne : source.quote ≠ '[' := by
    obtain h | h := source.isQuote <;> rw [h] <;> decide
  have hquotation := quotation?_text source rest
  rw [Quotation.text, List.cons_append] at hquotation ⊢
  rw [requireArgument?, if_neg hne, hquotation]
  rfl

theorem Quotation.bracket_not_mem {q : Quotation} (h : ']' ∉ q.content) : ']' ∉ q.text := by
  have hne : ']' ≠ q.quote := by
    obtain h | h := q.isQuote <;> rw [h] <;> decide
  simp [Quotation.text, h, hne]

theorem SourceList.not_mem (sources : SourceList) : ']' ∉ sources.text := by
  have hgap : ∀ g : Gap, ']' ∉ g.text := fun g => g.not_mem (by decide)
  induction sources with
  | one before source after open' => simp [text, hgap, Quotation.bracket_not_mem open']
  | more before source after open' rest ih =>
    simp [text, hgap, Quotation.bracket_not_mem open', ih]

theorem requireArgument?_brackets {inner : List Char} (hinner : ']' ∉ inner) (rest : List Char) :
    requireArgument? ('[' :: (inner ++ ']' :: rest)) = some ('[' :: (inner ++ [']'])) := by
  rw [requireArgument?, if_pos rfl, takeWhile_ne_append hinner]
  simp

theorem requireArgument?_list (sources : SourceList) (rest : List Char) :
    requireArgument? ('[' :: (sources.text ++ ']' :: rest)) =
      some ('[' :: (sources.text ++ [']'])) :=
  requireArgument?_brackets sources.not_mem rest

theorem quotationsFrom_append (l rest : List Char) :
    quotationsFrom l.length (l ++ rest) = quotations rest := by
  induction l with
  | nil => rfl
  | cons c l ih => exact ih

theorem quotations_append_of_unquoted {l : List Char} (h : ∀ c ∈ l, isUnquoted c = true) :
    quotations (l ++ rest) = quotations rest := by
  induction l with
  | nil => rfl
  | cons c l ih =>
    obtain ⟨hc, hl⟩ := List.forall_mem_cons.mp h
    rw [← ih hl, List.cons_append, quotations, quotationsFrom, quotedText?_of_unquoted hc]
    rfl

theorem quotations_text (q : Quotation) (rest : List Char) :
    quotations (q.text ++ rest) = q.content :: quotations rest := by
  have hquoted := quotedText?_append q rest
  have hskip := quotationsFrom_append (q.content ++ [q.quote]) rest
  rw [Quotation.text, List.cons_append] at hquoted ⊢
  rw [quotations, quotationsFrom, hquoted]
  simpa using hskip

theorem SourceList.quotations_append (sources : SourceList) (rest : List Char) :
    quotations (sources.text ++ rest) = sources.contents ++ quotations rest := by
  have hgap : ∀ (g : Gap) (l : List Char), quotations (g.text ++ l) = quotations l := fun g l =>
    quotations_append_of_unquoted g.unquoted
  induction sources with
  | one before source after open' =>
    simp only [text, List.append_assoc, hgap, quotations_text]
    rfl
  | more before source after open' more ih =>
    have hcomma : quotations (',' :: (more.text ++ rest)) = quotations (more.text ++ rest) :=
      quotations_append_of_unquoted (l := [',']) (List.forall_mem_singleton.mpr (by decide))
    simp only [text, List.append_assoc, List.cons_append, hgap, quotations_text, hcomma, ih]
    rfl

/-! ## Constants -/

theorem isConstantChar_of_isBlank {c : Char} (h : isBlank c = true) : isConstantChar c = false :=
  false_of_isBlank (by decide +kernel) h

theorem constant?_append (name : ConstantName) (before after : Gap) {body : List Char}
    (hbody : ∀ c ∈ body.head?, isBlank c = false) :
    constant? (name.first :: (name.rest ++ (before.text ++ '=' :: (after.text ++ body)))) =
      (quotation? body).map fun found => ⟨.constant (name.first :: name.rest) found.1,
        name.first :: (name.rest ++ (before.text ++ '=' :: (after.text ++ found.2)))⟩ := by
  have hname : ∀ c ∈ name.first :: name.rest, isConstantChar c = true := by
    rw [List.forall_mem_cons]
    exact ⟨by simp [isConstantChar, name.first_start], name.rest_constant⟩
  have hhead : ∀ c ∈ (before.text ++ '=' :: (after.text ++ body)).head?,
      isConstantChar c = false := by
    intro c hc
    cases hgap : before.text with
    | nil =>
      rw [hgap] at hc
      cases hc
      decide
    | cons d g =>
      rw [hgap] at hc
      cases hc
      exact isConstantChar_of_isBlank (before.blank c (by simp [hgap]))
  have hequals : ∀ c ∈ ('=' :: (after.text ++ body)).head?, isBlank c = false := by
    rintro _ ⟨⟩
    decide
  have hafter : after? ['='] ('=' :: (after.text ++ body)) = some (after.text ++ body) :=
    after?_append ['='] _
  rw [← List.cons_append]
  simp only [constant?, takeWhile_append_of_head hname hhead, dropWhile_append_of_head hname hhead,
    before.takeWhile_append hequals, before.dropWhile_append hequals, hafter, Option.bind_eq_bind,
    Option.bind_some, after.takeWhile_append hbody, after.dropWhile_append hbody]
  cases quotation? body <;> simp [name.first_start]

theorem constant?_text (name : ConstantName) (before after : Gap) (value : Quotation)
    (rest : List Char) :
    constant? ((Item.constant name before after value).text ++ rest) =
      some ⟨.constant (name.first :: name.rest) value.content,
        (Item.constant name before after value).text⟩ := by
  have htext : (Item.constant name before after value).text ++ rest =
      name.first :: (name.rest ++ (before.text ++ '=' :: (after.text ++ (value.text ++ rest)))) := by
    simp [Item.text]
  rw [htext, constant?_append name before after value.head_not_blank, quotation?_text]
  rfl

/-! ## Comments and literals -/

theorem blockRest_append {content : List Char} (h : ¬ ['*', '/'] <:+: content) (rest : List Char) :
    blockRest (content ++ '*' :: '/' :: rest) = content ++ ['*', '/'] := by
  induction content with
  | nil => rfl
  | cons c content ih =>
    have hrest := ih fun hin => h (hin.trans (List.suffix_cons c content).isInfix)
    rw [List.cons_append, blockRest, hrest]
    · rfl
    · rintro tail rfl htail
      -- the slash that would close the comment here is in the content
      cases content with
      | nil => cases htail
      | cons d content =>
        cases htail
        exact h ⟨[], content, rfl⟩

theorem literalRest?_append {quote : Char} (hquote : quote ≠ '\\') {parts : List LiteralPart}
    (h : ∀ part ∈ parts, part.Fits quote) (rest : List Char) :
    literalRest? quote (parts.flatMap LiteralPart.text ++ quote :: rest) =
      some (parts.flatMap LiteralPart.text ++ [quote]) := by
  induction parts with
  | nil =>
    rw [List.flatMap_nil, List.nil_append, literalRest?, if_pos rfl]
    · rfl
    · exact hquote
  | cons part parts ih =>
    obtain ⟨hpart, hparts⟩ := List.forall_mem_cons.mp h
    cases part with
    | plain c =>
      obtain ⟨hc, hslash, hline⟩ := hpart
      rw [List.flatMap_cons, LiteralPart.text, List.append_assoc, List.singleton_append,
        literalRest?, if_neg hc, if_neg (fun hn => hn.2 (hline hn.1)), ih hparts]
      · rfl
      · exact hslash
    | escaped c =>
      rw [List.flatMap_cons, LiteralPart.text, List.append_assoc, List.cons_append,
        List.singleton_append, literalRest?, ih hparts]
      rfl

end ReducerAtlas.Source
