import ReducerAtlas.Proofs.Breaks

/-!
# Comments in lists

The list of a require call is searched for quoted texts, and the braces of a re-export are cut at
commas and blanks. Neither knows of comments. So the quoted texts of a comment join the module names
around it, and its words join those of the entry that it stands by.

* `quotations_line`: every quoted text ends with its line.
* `Comment.quotations_append`, `Comment.closed_of_unquoted`: the quoted texts of a comment.
* **`SourceList.quotations_insert`**: a comment in a list of module names.
* `Remark.pairs_insert`: an entry with a comment in it is read by its first and its last word.
* **`EntryList.pairs_inner`**, **`EntryList.pairs_outer`**: a comment in a brace list.
-/

namespace ReducerAtlas.Source

open ReducerAtlas.Text

variable {rest : List Char}

/-! ## Quoted texts of a comment -/

/-- A quote that is not closed on its line starts no quoted text. -/
theorem quotedText?_unclosed {c : Char} {content tail : List Char} (hc : c = '\x27' ∨ c = '\x22')
    (hplain : ∀ d ∈ content, d ≠ c ∧ d ≠ '\n') (htail : tail.head? = some '\n') :
    quotedText? (c :: (content ++ tail)) = none := by
  have hcontent : (content ++ tail).takeWhile (fun d => d != c && d != '\n') = content := by
    apply takeWhile_append_of_head
    · intro d hd
      simp [hplain d hd]
    · rw [htail]
      rintro _ ⟨⟩
      simp
  have hline : tail.head? ≠ some c := by
    rw [htail]
    obtain rfl | rfl := hc <;> decide
  rw [quotedText?, if_pos hc, hcontent]
  dsimp only
  rw [List.drop_left, if_neg hline]

theorem quotedText?_line {c : Char} (hc : c = '\x27' ∨ c = '\x22') (l : List Char) :
    (∃ (q : Quotation) (l' : List Char), c :: l = q.text ++ l') ∨
      ∀ rest, quotedText? (c :: (l ++ '\n' :: rest)) = none := by
  let p : Char → Bool := fun d => d != c && d != '\n'
  have hplain : ∀ d ∈ l.takeWhile p, d ≠ c ∧ d ≠ '\n' := by
    intro d hd
    simpa [p] using List.mem_takeWhile_imp hd
  have hsplit := List.takeWhile_append_dropWhile (p := p) (l := l)
  have hhead := List.head?_dropWhile_not p l
  cases htail : l.dropWhile p with
  | nil =>
    refine .inr fun rest => ?_
    rw [← hsplit, htail, List.append_nil]
    exact quotedText?_unclosed hc hplain rfl
  | cons d l' =>
    rw [htail] at hhead
    by_cases hd : d = '\n'
    · refine .inr fun rest => ?_
      rw [← hsplit, htail, List.append_assoc]
      exact quotedText?_unclosed hc hplain (by simp [hd])
    · have hclose : d = c := by simpa [p, hd] using hhead
      refine .inl ⟨⟨c, l.takeWhile p, hc, hplain⟩, l', ?_⟩
      have hl : l = l.takeWhile p ++ c :: l' := by rw [← hclose, ← htail, hsplit]
      simp [Quotation.text, ← hl]

theorem quotations_of_none {c : Char} {l : List Char} (h : quotedText? (c :: l) = none) :
    quotations (c :: l) = quotations l := by
  rw [quotations, quotationsFrom, h]
  rfl

theorem quotations_line (l rest : List Char) :
    quotations (l ++ '\n' :: rest) = quotations (l ++ ['\n']) ++ quotations rest := by
  have hstep : ∀ {c : Char} {l : List Char},
      (∀ rest, quotedText? (c :: (l ++ '\n' :: rest)) = none) →
      quotations (l ++ '\n' :: rest) = quotations (l ++ ['\n']) ++ quotations rest →
      quotations (c :: l ++ '\n' :: rest) = quotations (c :: l ++ ['\n']) ++ quotations rest := by
    intro c l hnone hl
    rw [List.cons_append, List.cons_append, quotations_of_none (hnone rest),
      quotations_of_none (hnone []), hl]
  -- a quoted text is read at a time, or one character
  induction hn : l.length using Nat.strong_induction_on generalizing l with
  | _ n ih =>
    cases l with
    | nil =>
      exact quotations_append_of_unquoted (l := ['\n']) (List.forall_mem_singleton.mpr (by decide))
    | cons c l =>
      have hl : l.length < n := by
        rw [← hn, List.length_cons]
        omega
      by_cases hc : c = '\x27' ∨ c = '\x22'
      · obtain ⟨q, l', htext⟩ | hnone := quotedText?_line hc l
        · have hl' : l'.length < n := by
            rw [← hn, htext, List.length_append, Quotation.text, List.length_cons]
            omega
          rw [htext, List.append_assoc, List.append_assoc, quotations_text, quotations_text,
            ih _ hl' l' rfl]
          rfl
        · exact hstep hnone (ih _ hl l rfl)
      · refine hstep (fun rest => ?_) (ih _ hl l rfl)
        rw [quotedText?, if_neg hc]

namespace Comment

theorem quotations_append {comment : Comment} (h : comment.Closed) (rest : List Char) :
    quotations (comment.text ++ rest) = quotations comment.text ++ quotations rest := by
  cases comment with
  | line content inLine =>
    have hline := quotations_line ('/' :: '/' :: content) rest
    simpa [text, item, Item.text] using hline
  | block content unclosed =>
    have hopen : ∀ l, quotations ('/' :: '*' :: l) = quotations l := fun l =>
      quotations_append_of_unquoted (l := ['/', '*']) (List.all_eq_true.mp (by decide))
    have hclose : ∀ l, quotations (['*', '/'] ++ l) = quotations l := fun l =>
      quotations_append_of_unquoted (List.all_eq_true.mp (by decide))
    have htext : (block content unclosed).text = '/' :: '*' :: (content ++ ['*', '/']) := rfl
    rw [htext, List.cons_append, List.cons_append, hopen, hopen, List.append_assoc, h, h, hclose,
      List.append_assoc, ← List.append_nil ['*', '/'], hclose]
    rfl

theorem closed_of_unquoted {comment : Comment} (h : ∀ c ∈ comment.text, isUnquoted c = true) :
    comment.Closed ∧ quotations comment.text = [] := by
  have hnone : ∀ l : List Char, (∀ c ∈ l, isUnquoted c = true) → quotations l = [] := by
    intro l hl
    rw [← List.append_nil l, quotations_append_of_unquoted hl]
    rfl
  refine ⟨?_, hnone _ h⟩
  cases comment with
  | line content inLine => trivial
  | block content unclosed =>
    have hcontent : ∀ c ∈ content, isUnquoted c = true := fun c hc =>
      h c (by simp [text, item, Item.text, hc])
    intro rest
    rw [quotations_append_of_unquoted hcontent, hnone content hcontent]
    rfl

end Comment

namespace Remark

variable (remark : Remark)

theorem quotations_append (h : remark.comment.Closed) (rest : List Char) :
    quotations (remark.text ++ rest) = quotations remark.comment.text ++ quotations rest := by
  have htext : remark.text ++ rest =
      remark.before.text ++ (remark.comment.text ++ (remark.after.text ++ rest)) := by
    simp [text]
  rw [htext, quotations_append_of_unquoted remark.before.unquoted, Comment.quotations_append h,
    quotations_append_of_unquoted remark.after.unquoted]

theorem words_append (front back : List Char) :
    words (front ++ (remark.text ++ back)) =
      words front ++ (words remark.comment.text ++ words back) := by
  have htext : front ++ (remark.text ++ back) = front ++ (remark.before.text ++
      (remark.comment.text ++ (remark.after.text ++ back))) := by
    simp [text]
  rw [htext, Text.words_append remark.before.blank remark.before.ne_nil,
    Text.words_append remark.after.blank remark.after.ne_nil]

end Remark

/-! ## Lists of module names -/

namespace SourceList

theorem contents_of_mem_cuts {sources : SourceList} {cut : SourceCut} (h : cut ∈ sources.cuts) :
    sources.contents = cut.before ++ cut.after := by
  induction sources generalizing cut with
  | one before source after open' =>
    simp only [cuts, List.mem_cons, List.not_mem_nil, or_false] at h
    obtain rfl | rfl := h <;> rfl
  | more before source after open' rest ih =>
    simp only [cuts, List.mem_cons, List.mem_map] at h
    obtain rfl | rfl | ⟨cut, hcut, rfl⟩ := h
    · rfl
    · rfl
    · rw [contents, ih hcut]
      rfl

/-- The quoted texts of a comment stand between the module names around it. -/
theorem quotations_insert {sources : SourceList} {cut : SourceCut} (h : cut ∈ sources.cuts)
    {remark : Remark} (hclosed : remark.comment.Closed) (rest : List Char) :
    quotations (cut.front ++ (remark.text ++ (cut.back ++ rest))) =
      cut.before ++ (quotations remark.comment.text ++ (cut.after ++ quotations rest)) := by
  have hgap : ∀ (g : Gap) (l : List Char), quotations (g.text ++ l) = quotations l := fun g l =>
    quotations_append_of_unquoted g.unquoted
  have hcomma : ∀ l, quotations (',' :: l) = quotations l := fun l =>
    quotations_append_of_unquoted (l := [',']) (List.forall_mem_singleton.mpr (by decide))
  induction sources generalizing cut with
  | one before source after open' =>
    simp only [cuts, List.mem_cons, List.not_mem_nil, or_false] at h
    obtain rfl | rfl := h
    · simp only [List.nil_append, List.append_assoc, remark.quotations_append hclosed,
        quotations_text, hgap]
      rfl
    · simp only [List.nil_append, List.append_assoc, remark.quotations_append hclosed,
        quotations_text, hgap]
      rfl
  | more before source after open' more ih =>
    simp only [cuts, List.mem_cons, List.mem_map] at h
    obtain rfl | rfl | ⟨cut, hcut, rfl⟩ := h
    · simp only [List.nil_append, List.append_assoc, List.cons_append,
        remark.quotations_append hclosed, quotations_text, hgap, hcomma, more.quotations_append]
    · simp only [List.append_assoc, List.cons_append, remark.quotations_append hclosed,
        quotations_text, hgap, hcomma, more.quotations_append]
      rfl
    · simp only [Cut.within, List.append_assoc, List.append_nil, List.cons_append, List.nil_append,
        quotations_text, hgap, hcomma, ih hcut]

end SourceList

/-! ## Brace lists -/

theorem words_ends {l : List Char} (hne : l ≠ []) (hhead : ∀ c ∈ l.head?, isBlank c = false) :
    (words l).head? = some (aliasPair l).1 ∧ (words l).getLast? = some (aliasPair l).2 := by
  obtain ⟨c, l, rfl⟩ := List.exists_cons_of_ne_nil hne
  have hwords := words_ne_nil (hhead c rfl) l
  have hfirst := List.head?_eq_some_head hwords
  have hlast := List.getLast?_eq_some_getLast hwords
  rw [aliasPair_of_words hfirst hlast]
  exact ⟨hfirst, hlast⟩

theorem Comment.words_ends (comment : Comment) :
    (words comment.text).head? = some (aliasPair comment.text).1 ∧
      (words comment.text).getLast? = some (aliasPair comment.text).2 := by
  apply Source.words_ends
  · cases comment <;> exact List.cons_ne_nil _ _
  · cases comment <;>
      · rintro _ ⟨⟩
        decide

theorem ClauseEntry.words_ends (entry : ClauseEntry) :
    (words entry.text).head? = some entry.imported.text ∧
      (words entry.text).getLast? = some entry.bound.text := by
  have hends := Source.words_ends entry.text_ne_nil entry.head_not_blank
  rwa [entry.aliasPair_text] at hends

theorem ClauseEntry.words_cuts {entry : ClauseEntry} {cut : Cut} (h : cut ∈ entry.cuts) :
    (words cut.front).head? = some entry.imported.text ∧
      (words cut.back).getLast? = some entry.bound.text := by
  cases entry with
  | plain name => cases h
  | renamed name before after called =>
    have hname := words_of_word name.not_blank name.ne_nil
    have hcalled := words_of_word called.not_blank called.ne_nil
    simp only [cuts, List.mem_cons, List.not_mem_nil, or_false] at h
    obtain rfl | rfl := h
    · rw [Text.words_append after.blank after.ne_nil, hname, hcalled, List.getLast?_concat]
      exact ⟨rfl, rfl⟩
    · rw [Text.words_append before.blank before.ne_nil, hname, hcalled]
      exact ⟨rfl, rfl⟩

theorem Remark.pairs_insert {remark : Remark} {front back first last : List Char}
    (hcomment : ',' ∉ remark.comment.text) (hfront : ',' ∉ front) (hback : ',' ∉ back)
    (hfirst : (words front).head?.or (some (aliasPair remark.comment.text).1) = some first)
    (hlast : (words back).getLast?.or (some (aliasPair remark.comment.text).2) = some last) :
    (entries (front ++ (remark.text ++ back))).map aliasPair = [(first, last)] := by
  obtain ⟨hhead, hend⟩ := remark.comment.words_ends
  apply pairs_of_words
  · simp only [text, List.mem_append, not_or]
    exact ⟨hfront, ⟨remark.before.not_mem (by decide), hcomment, remark.after.not_mem (by decide)⟩,
      hback⟩
  · rw [remark.words_append, List.head?_append, List.head?_append, hhead, Option.some_or, hfirst]
  · rw [remark.words_append, List.getLast?_append, List.getLast?_append, hend, hlast,
      Option.some_or]

namespace EntryList

theorem pairs_map_snd (list : EntryList) : list.pairs.map (·.2) = list.locals := by
  rw [pairs, List.map_map]
  rfl

theorem pairs_map_fst (list : EntryList) : list.pairs.map (·.1) = list.imported := by
  rw [pairs, List.map_map]
  rfl

theorem pairs_more (before : Gap) (entry : ClauseEntry) (after : Gap) (l : List Char) :
    (Source.entries ((before.text ++ (entry.text ++ (after.text ++ [',']))) ++ l)).map aliasPair =
      entry.pair :: (Source.entries l).map aliasPair := by
  have htext : (before.text ++ (entry.text ++ (after.text ++ [',']))) ++ l =
      (before.text ++ (entry.text ++ after.text)) ++ ',' :: l := by
    simp
  rw [htext, entries_append_comma, entries_entry, List.map_append, List.map_singleton,
    entry.aliasPair_text]
  rfl

section Insert

variable {remark : Remark} (hcomment : ',' ∉ remark.comment.text)

include hcomment

/-- A comment before an entry is taken for its name at the other module. -/
theorem pairs_before (entry : ClauseEntry) (after : Gap) :
    (Source.entries (remark.text ++ (entry.text ++ after.text))).map aliasPair =
      [((aliasPair remark.comment.text).1, entry.bound.text)] := by
  have hcomma : ',' ∉ entry.text ++ after.text := by
    rw [List.mem_append, not_or]
    exact ⟨entry.not_mem (by decide) (by decide), after.not_mem (by decide)⟩
  refine Remark.pairs_insert hcomment List.not_mem_nil hcomma rfl ?_
  rw [words_append_blank after.blank, entry.words_ends.2]
  rfl

/-- A comment after an entry is taken for its name in this module. -/
theorem pairs_after (before : Gap) (entry : ClauseEntry) :
    (Source.entries ((before.text ++ entry.text) ++ remark.text)).map aliasPair =
      [(entry.imported.text, (aliasPair remark.comment.text).2)] := by
  have hcomma : ',' ∉ before.text ++ entry.text := by
    rw [List.mem_append, not_or]
    exact ⟨before.not_mem (by decide), entry.not_mem (by decide) (by decide)⟩
  rw [← List.append_nil remark.text]
  refine Remark.pairs_insert hcomment hcomma List.not_mem_nil ?_ rfl
  rw [words_blank_append before.blank, entry.words_ends.1]
  rfl

/-- A comment inside an entry is not seen. -/
theorem pairs_inside {entry : ClauseEntry} {cut : Cut} (h : cut ∈ entry.cuts) (before after : Gap) :
    (Source.entries ((before.text ++ cut.front) ++
      (remark.text ++ (cut.back ++ after.text)))).map aliasPair = [entry.pair] := by
  have hof := ClauseEntry.of_mem_cuts h
  have hcomma := entry.not_mem (c := ',') (by decide) (by decide)
  have hfront : ',' ∉ before.text ++ cut.front := by
    rw [List.mem_append, not_or]
    exact ⟨before.not_mem (by decide), fun hc => hcomma (hof.mem_of_mem_front hc)⟩
  have hback : ',' ∉ cut.back ++ after.text := by
    rw [List.mem_append, not_or]
    exact ⟨fun hc => hcomma (hof.mem_of_mem_back hc), after.not_mem (by decide)⟩
  obtain ⟨hfirst, hlast⟩ := ClauseEntry.words_cuts h
  apply Remark.pairs_insert hcomment hfront hback
  · rw [words_blank_append before.blank, hfirst]
    rfl
  · rw [words_append_blank after.blank, hlast]
    rfl

theorem pairs_inner {list : EntryList} {cut : Cut} (h : cut ∈ list.inner) :
    (Source.entries (cut.front ++ (remark.text ++ cut.back))).map aliasPair = list.pairs := by
  induction list generalizing cut with
  | none gap => cases h
  | one before entry after =>
    obtain ⟨cut, hcut, rfl⟩ := List.mem_map.mp h
    exact pairs_inside hcomment hcut before after
  | more before entry after rest ih =>
    rw [inner, List.mem_append, List.mem_map, List.mem_map] at h
    obtain ⟨cut, hcut, rfl⟩ | ⟨cut, hcut, rfl⟩ := h
    · have htext : (cut.within before.text (after.text ++ ',' :: rest.text)).front ++
          (remark.text ++ (cut.within before.text (after.text ++ ',' :: rest.text)).back) =
            ((before.text ++ cut.front) ++ (remark.text ++ (cut.back ++ after.text))) ++
              ',' :: rest.text := by
        simp [Cut.within]
      rw [htext, entries_append_comma, List.map_append, pairs_inside hcomment hcut, rest.pairs_text]
      rfl
    · rw [Cut.within, List.append_nil, List.append_assoc, pairs_more, ih hcut]
      rfl

/-- **A comment beside an entry of a list**, or on its own, is taken for a name. -/
theorem pairs_outer {list : EntryList} {cut : EntryCut} (h : cut ∈ list.outer) :
    (Source.entries (cut.front ++ (remark.text ++ cut.back))).map aliasPair =
      cut.pairs (aliasPair remark.comment.text) := by
  induction list generalizing cut with
  | none gap =>
    rw [outer, List.mem_singleton] at h
    rw [h]
    exact Remark.pairs_insert hcomment List.not_mem_nil List.not_mem_nil rfl rfl
  | one before entry after =>
    simp only [outer, List.mem_cons, List.not_mem_nil, or_false] at h
    obtain rfl | rfl := h
    · exact pairs_before hcomment entry after
    · rw [List.append_nil]
      exact pairs_after hcomment before entry
  | more before entry after rest ih =>
    simp only [outer, List.mem_cons, List.mem_map] at h
    obtain rfl | rfl | ⟨cut, hcut, rfl⟩ := h
    · have htext : remark.text ++ (entry.text ++ (after.text ++ ',' :: rest.text)) =
          (remark.text ++ (entry.text ++ after.text)) ++ ',' :: rest.text := by
        simp
      rw [List.nil_append, htext, entries_append_comma, List.map_append,
        pairs_before hcomment, rest.pairs_text]
      rfl
    · rw [← List.append_assoc, entries_append_comma, List.map_append, pairs_after hcomment,
        rest.pairs_text]
      rfl
    · rw [Cut.within, List.append_nil, List.append_assoc, pairs_more, ih hcut]

end Insert

end EntryList

end ReducerAtlas.Source
