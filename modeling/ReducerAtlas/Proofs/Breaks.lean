import ReducerAtlas.Proofs.Barred

/-!
# The places of a statement

Each place of a statement is one of its text: what stands before it and what stands after it are
the whole text but for blanks. Before the quote of a module name no statement can be begun that goes
over a comment, so the places outside braces and lists are where a comment breaks the statement.

* `Cut.Of`: the place belongs to a text.
* **`Item.of_mem_places`**: the places of a statement belong to its text.
* `Stuck.of_prefix`: beginnings of a text without the keyword of an export before a brace.
* **`Item.stuck_of_mem_breaks`**: no statement is begun before a place that breaks it.
-/

namespace ReducerAtlas.Source

open ReducerAtlas.Text

/-! ## Places of a text -/

/-- The place belongs to the text: only blanks are left out at it. -/
def Cut.Of (cut : Cut) (text : List Char) : Prop :=
  ∃ gap : Gap, text = cut.front ++ (gap.text ++ cut.back)

namespace Cut.Of

variable {cut : Cut} {text : List Char}

theorem within (h : cut.Of text) (pre post : List Char) :
    (cut.within pre post).Of (pre ++ (text ++ post)) := by
  obtain ⟨gap, rfl⟩ := h
  exact ⟨gap, by simp [Cut.within]⟩

theorem within_left (h : cut.Of text) (pre : List Char) : (cut.within pre []).Of (pre ++ text) := by
  have hwithin := h.within pre []
  rwa [List.append_nil] at hwithin

theorem within_right (h : cut.Of text) (post : List Char) :
    (cut.within [] post).Of (text ++ post) :=
  h.within [] post

theorem front_isPrefix (h : cut.Of text) : cut.front <+: text := by
  obtain ⟨gap, rfl⟩ := h
  exact List.prefix_append _ _

theorem mem_of_mem_front (h : cut.Of text) {c : Char} (hc : c ∈ cut.front) : c ∈ text :=
  h.front_isPrefix.subset hc

theorem mem_of_mem_back (h : cut.Of text) {c : Char} (hc : c ∈ cut.back) : c ∈ text := by
  obtain ⟨gap, rfl⟩ := h
  simp [hc]

end Cut.Of

theorem ClauseEntry.of_mem_cuts {entry : ClauseEntry} {cut : Cut} (h : cut ∈ entry.cuts) :
    cut.Of entry.text := by
  cases entry with
  | plain name => cases h
  | renamed name before after called =>
    simp only [cuts, List.mem_cons, List.not_mem_nil, or_false] at h
    obtain rfl | rfl := h
    · exact ⟨before.toGap, rfl⟩
    · exact ⟨after.toGap, by simp [text]⟩

namespace EntryList

theorem text_more (before : Gap) (entry : ClauseEntry) (after : Gap) (rest : EntryList) :
    (more before entry after rest).text =
      (before.text ++ (entry.text ++ (after.text ++ [',']))) ++ rest.text := by
  simp [text]

theorem of_mem_inner {list : EntryList} {cut : Cut} (h : cut ∈ list.inner) : cut.Of list.text := by
  induction list generalizing cut with
  | none gap => cases h
  | one before entry after =>
    obtain ⟨cut, hcut, rfl⟩ := List.mem_map.mp h
    exact (ClauseEntry.of_mem_cuts hcut).within _ _
  | more before entry after rest ih =>
    rw [inner, List.mem_append] at h
    obtain h | h := h
    · obtain ⟨cut, hcut, rfl⟩ := List.mem_map.mp h
      exact (ClauseEntry.of_mem_cuts hcut).within _ _
    · obtain ⟨cut, hcut, rfl⟩ := List.mem_map.mp h
      rw [text_more]
      exact (ih hcut).within_left _

theorem of_mem_outer {list : EntryList} {cut : EntryCut} (h : cut ∈ list.outer) :
    cut.Of list.text := by
  induction list generalizing cut with
  | none gap =>
    rw [outer, List.mem_singleton] at h
    exact ⟨gap, by simp [h, text]⟩
  | one before entry after =>
    simp only [outer, List.mem_cons, List.not_mem_nil, or_false] at h
    obtain rfl | rfl := h
    · exact ⟨before, rfl⟩
    · exact ⟨after, by simp [text]⟩
  | more before entry after rest ih =>
    simp only [outer, List.mem_cons, List.mem_map] at h
    obtain rfl | rfl | ⟨cut, hcut, rfl⟩ := h
    · exact ⟨before, rfl⟩
    · exact ⟨after, by simp [text]⟩
    · rw [text_more]
      exact (ih hcut).within_left _

theorem of_mem_cuts {list : EntryList} {cut : Cut} (h : cut ∈ list.cuts) : cut.Of list.text := by
  rw [cuts, List.mem_append, List.mem_map] at h
  obtain h | ⟨cut, hcut, rfl⟩ := h
  · exact of_mem_inner h
  · exact of_mem_outer hcut

end EntryList

theorem SourceList.of_mem_cuts {sources : SourceList} {cut : SourceCut} (h : cut ∈ sources.cuts) :
    cut.Of sources.text := by
  induction sources generalizing cut with
  | one before source after open' =>
    simp only [cuts, List.mem_cons, List.not_mem_nil, or_false] at h
    obtain rfl | rfl := h
    · exact ⟨before, rfl⟩
    · exact ⟨after, by simp [text]⟩
  | more before source after open' rest ih =>
    simp only [cuts, List.mem_cons, List.mem_map] at h
    obtain rfl | rfl | ⟨cut, hcut, rfl⟩ := h
    · exact ⟨before, rfl⟩
    · exact ⟨after, by simp [text]⟩
    · have htext : (more before source after open' rest).text =
          (before.text ++ (source.text ++ (after.text ++ [',']))) ++ rest.text := by
        simp [text]
      rw [htext]
      exact (ih hcut).within_left _

theorem Selection.of_mem_cuts {s : Selection} {cut : Cut} (h : cut ∈ s.cuts) : cut.Of s.text := by
  cases s with
  | braces list =>
    obtain ⟨cut, hcut, rfl⟩ := List.mem_map.mp h
    exact (EntryList.of_mem_cuts hcut).within _ _
  | star gap space name =>
    simp only [cuts, List.mem_cons, List.not_mem_nil, or_false] at h
    obtain rfl | rfl := h
    · exact ⟨gap, rfl⟩
    · exact ⟨space.toGap, by simp [text]⟩

theorem ImportClause.of_mem_cuts {clause : ImportClause} {cut : Cut} (h : cut ∈ clause.cuts) :
    cut.Of clause.text := by
  cases clause with
  | default name => cases h
  | selection s => exact Selection.of_mem_cuts h
  | both name before after s =>
    simp only [cuts, List.mem_cons, List.mem_map] at h
    obtain rfl | rfl | ⟨cut, hcut, rfl⟩ := h
    · exact ⟨before, rfl⟩
    · exact ⟨after, by simp [text]⟩
    · have htext : (both name before after s).text =
          (name.text ++ (before.text ++ ',' :: after.text)) ++ s.text := by
        simp [text]
      rw [htext]
      exact (Selection.of_mem_cuts hcut).within_left _

section From

variable {head : List Char} {cuts : List Cut} {middle after : Gap} {source : Quotation} {cut : Cut}

theorem of_mem_fromCuts (hcuts : ∀ cut ∈ cuts, cut.Of head)
    (h : cut ∈ fromCuts head cuts middle after source) :
    cut.Of (head ++ Item.fromText middle after source) := by
  simp only [fromCuts, List.mem_append, List.mem_map, List.mem_cons, List.not_mem_nil,
    or_false] at h
  obtain ⟨cut, hcut, rfl⟩ | rfl | rfl := h
  · exact (hcuts cut hcut).within_right _
  · exact ⟨middle, by simp [Item.fromText]⟩
  · exact ⟨after, by simp [Item.fromText]⟩

/-- What stands before such a place stands before the module name. -/
theorem isPrefix_of_mem_fromCuts (hcuts : ∀ cut ∈ cuts, cut.Of head)
    (h : cut ∈ fromCuts head cuts middle after source) :
    cut.front <+: head ++ (middle.text ++ fromWord) := by
  simp only [fromCuts, List.mem_append, List.mem_map, List.mem_cons, List.not_mem_nil,
    or_false] at h
  obtain ⟨cut, hcut, rfl⟩ | rfl | rfl := h
  · exact (hcuts cut hcut).front_isPrefix.trans (List.prefix_append _ _)
  · exact List.prefix_append _ _
  · exact List.prefix_refl _

end From

namespace Item

/-- The places in the head of a statement: behind its keyword, and in what follows. -/
theorem of_mem_head {word text : List Char} {before : Gap} {cuts : List Cut}
    (hcuts : ∀ cut ∈ cuts, cut.Of text) :
    ∀ cut ∈ (⟨word, text⟩ : Cut) :: cuts.map (·.within (word ++ before.text) []),
      cut.Of (word ++ (before.text ++ text)) := by
  intro cut hcut
  rw [List.mem_cons, List.mem_map] at hcut
  obtain rfl | ⟨cut, hcut, rfl⟩ := hcut
  · exact ⟨before, rfl⟩
  · rw [← List.append_assoc]
    exact (hcuts cut hcut).within_left _

theorem of_mem_breaks {item : Item} {cut : Cut} (h : cut ∈ item.breaks) : cut.Of item.text := by
  cases item with
  | bareImport gap source =>
    rw [breaks, List.mem_singleton] at h
    exact ⟨gap, by rw [h]; rfl⟩
  | importing clause before middle after source apart apart' =>
    have hof := of_mem_fromCuts (of_mem_head fun _ => ImportClause.of_mem_cuts) h
    simpa [text] using hof
  | reexporting list before middle after source =>
    have hof := of_mem_fromCuts (of_mem_head (List.forall_mem_nil _)) h
    simpa [text] using hof
  | reexportingAll before middle after source =>
    have hof := of_mem_fromCuts (of_mem_head (List.forall_mem_nil _)) h
    simpa [text] using hof
  | reexportingAs before gap space name middle after source =>
    have hof := of_mem_fromCuts (of_mem_head fun _ => Selection.of_mem_cuts) h
    simpa [text, Selection.text] using hof
  | requiring before inner after source =>
    simp only [breaks, List.mem_cons, List.not_mem_nil, or_false] at h
    obtain rfl | rfl := h
    · exact ⟨before, rfl⟩
    · exact ⟨inner, by simp [text]⟩
  | requiringAll before inner after sources =>
    simp only [breaks, List.mem_cons, List.not_mem_nil, or_false] at h
    obtain rfl | rfl := h
    · exact ⟨before, rfl⟩
    · exact ⟨inner, by simp [text]⟩
  | constant name before after value =>
    simp only [breaks, List.mem_cons, List.not_mem_nil, or_false] at h
    obtain rfl | rfl := h
    · exact ⟨before, by simp [text]⟩
    · exact ⟨after, by simp [text]⟩
  | lineComment content inLine => cases h
  | blockComment content unclosed => cases h
  | literal l => cases h

theorem of_mem_openings {item : Item} {place : Place} (h : place ∈ item.openings) :
    place.Of item.text := by
  cases item with
  | reexporting list before middle after source =>
    have htext : (reexporting list before middle after source).text =
        (exportWord ++ (before.text ++ ['\x7b'])) ++
          (list.text ++ '\x7d' :: fromText middle after source) := by
      simp [text, EntryList.braced]
    rw [htext]
    simp only [openings, List.mem_append, List.mem_map] at h
    obtain ⟨cut, hcut, rfl⟩ | ⟨cut, hcut, rfl⟩ := h
    · exact (EntryList.of_mem_inner hcut).within _ _
    · exact (EntryList.of_mem_outer hcut).within _ _
  | requiring before inner after source =>
    rw [openings, List.mem_singleton] at h
    exact ⟨after, by simp [h, text]⟩
  | requiringAll before inner after sources =>
    have htext : (requiringAll before inner after sources).text =
        (requireWord ++ (before.text ++ '(' :: (inner.text ++ ['[']))) ++
          (sources.text ++ ']' :: (after.text ++ [')'])) := by
      simp [text]
    rw [htext]
    simp only [openings, List.mem_cons, List.mem_map] at h
    obtain rfl | ⟨cut, hcut, rfl⟩ := h
    · exact ⟨after, by simp⟩
    · exact (SourceList.of_mem_cuts hcut).within _ _
  | _ => cases h

/-- **The places of a statement belong to its text.** -/
theorem of_mem_places {item : Item} {place : Place} (h : place ∈ item.places) :
    place.Of item.text := by
  rw [places, List.mem_append, List.mem_map] at h
  obtain ⟨cut, hcut, rfl⟩ | h := h
  · exact of_mem_breaks hcut
  · exact of_mem_openings h

end Item

/-! ## Before the quote -/

/-- The keyword of an export stands before no brace of the text. -/
def ExportFree (text : List Char) : Prop :=
  ∀ (pre : List Char) (gap : Gap) (inner : List Char),
    text ≠ pre ++ (exportWord ++ (gap.text ++ '\x7b' :: inner))

theorem exportFree_of_not_mem {text : List Char} (h : '\x7b' ∉ text) : ExportFree text := by
  rintro pre gap inner rfl
  exact h (by simp)

/-- Blanks at the end of two texts do not make them equal. -/
theorem eq_of_append_gap {x y : List Char} {g g' : Gap}
    (hx : ∀ c ∈ x.getLast?, isBlank c = false) (hy : ∀ c ∈ y.getLast?, isBlank c = false)
    (h : x ++ g.text = y ++ g'.text) : x = y := by
  have hback : ∀ (z : List Char) (k : Gap), (∀ c ∈ z.getLast?, isBlank c = false) →
      (z ++ k.text).reverse.dropWhile isBlank = z.reverse := by
    intro z k hz
    rw [List.reverse_append]
    apply dropWhile_append_of_head
    · intro c hc
      exact k.blank c (List.mem_reverse.mp hc)
    · rwa [List.head?_reverse]
  rw [← List.reverse_inj, ← hback x g hx, ← hback y g' hy, h]

theorem exportFree_brace {x rest : List Char} {gap : Gap} (hx : '\x7b' ∉ x) (hrest : '\x7b' ∉ rest)
    (hlast : ∀ c ∈ x.getLast?, isBlank c = false) (hword : ¬ exportWord <:+ x) :
    ExportFree ((x ++ gap.text) ++ '\x7b' :: rest) := by
  intro pre gap' inner htext
  have hsplit : (x ++ gap.text) ++ '\x7b' :: rest =
      ((pre ++ exportWord) ++ gap'.text) ++ '\x7b' :: inner := by
    rw [htext]
    simp
  have hfront : '\x7b' ∉ x ++ gap.text := by
    rw [List.mem_append, not_or]
    exact ⟨hx, gap.not_mem (by decide)⟩
  rw [List.append_cons_inj_of_notMem hfront hrest] at hsplit
  have hexport : ∀ c ∈ (pre ++ exportWord).getLast?, isBlank c = false := by
    rw [List.getLast?_append_of_ne_nil _ (by decide)]
    rintro _ ⟨⟩
    decide
  exact hword ⟨pre, (eq_of_append_gap hlast hexport hsplit.1).symm⟩

theorem ImportClause.exportFree (clause : ImportClause) (before middle : Gap) :
    ExportFree ((importWord ++ (before.text ++ clause.text)) ++ (middle.text ++ fromWord)) := by
  have hgap : ∀ g : Gap, '\x7b' ∉ g.text := fun g => g.not_mem (by decide)
  have hname : ∀ n : Name, '\x7b' ∉ n.text := fun n => n.not_mem (by decide)
  have hlist : ∀ list : EntryList, '\x7b' ∉ list.text := fun list =>
    list.not_mem (by decide) (by decide) (by decide)
  have hstar : ∀ gap space name, '\x7b' ∉ (Selection.star gap space name).text :=
    fun gap space name => star_not_mem gap space name (by decide) (by decide) (by decide)
  have hfrom : '\x7b' ∉ fromWord := by decide
  have hkey : '\x7b' ∉ importWord := by decide
  cases clause with
  | default name =>
    apply exportFree_of_not_mem
    simp [text, hgap, hname, hfrom, hkey]
  | selection s =>
    cases s with
    | braces list =>
      have htext : (importWord ++ (before.text ++ (selection (.braces list)).text)) ++
          (middle.text ++ fromWord) = (importWord ++ before.text) ++
            '\x7b' :: (list.text ++ '\x7d' :: (middle.text ++ fromWord)) := by
        simp [text, Selection.text, EntryList.braced]
      rw [htext]
      apply exportFree_brace hkey
      · simp [hlist, hgap, hfrom]
      · rintro _ ⟨⟩
        decide
      · decide
    | star gap space name =>
      apply exportFree_of_not_mem
      simp [text, hgap, hstar, hfrom, hkey]
  | both name gap' gap'' s =>
    cases s with
    | braces list =>
      have htext : (importWord ++ (before.text ++ (both name gap' gap'' (.braces list)).text)) ++
          (middle.text ++ fromWord) =
            ((importWord ++ (before.text ++ (name.text ++ (gap'.text ++ [','])))) ++ gap''.text) ++
              '\x7b' :: (list.text ++ '\x7d' :: (middle.text ++ fromWord)) := by
        simp [text, Selection.text, EntryList.braced]
      have hcomma : (importWord ++ (before.text ++ (name.text ++ (gap'.text ++ [','])))).getLast? =
          some ',' := by
        simp [List.getLast?_append]
      rw [htext]
      apply exportFree_brace
      · simp [hgap, hname, hkey]
      · simp [hlist, hgap, hfrom]
      · rw [hcomma]
        rintro _ ⟨⟩
        decide
      · rintro ⟨pre, hpre⟩
        rw [← hpre, List.getLast?_append_of_ne_nil _ (by decide)] at hcomma
        revert hcomma
        decide
    | star gap space name' =>
      apply exportFree_of_not_mem
      simp [text, hgap, hname, hstar, hfrom, hkey]

theorem isPlain_of_isClauseChar {c : Char} (h : isClauseChar c = true) : isPlain c = true := by
  simp only [isClauseChar, Bool.or_eq_true, beq_iff_eq] at h
  obtain ((((h | h) | rfl) | rfl) | rfl) | rfl := h
  · simp [isPlain, h]
  · simp [isPlain, isOther_of_isBlank h]
  all_goals decide

theorem isPlain_of_isConstantChar {c : Char} (h : isConstantChar c = true) : isPlain c = true := by
  rw [isConstantChar, Bool.or_eq_true] at h
  obtain h | h := h
  · simp [isPlain, isNameChar_of_isConstantStart h]
  · simp [isPlain, isNameChar, isWord, Char.isAlphanum, h]

namespace Stuck

variable {m text : List Char}

theorem of_isPrefix (hplain : ∀ c ∈ text, isPlain c = true) (hbracket : '[' ∉ text)
    (hfree : ExportFree text) (hm : m <+: text) : Stuck m where
  plain c hc := hplain c (hm.subset hc)
  noBracket hc := hbracket (hm.subset hc)
  closed pre gap inner htext := by
    obtain ⟨rest, rfl⟩ := hm
    exact absurd (by simp [htext]) (hfree pre gap (inner ++ rest))

theorem of_no_brace (hplain : ∀ c ∈ text, isPlain c = true) (hbracket : '[' ∉ text)
    (hbrace : '\x7b' ∉ text) (hm : m <+: text) : Stuck m :=
  of_isPrefix hplain hbracket (exportFree_of_not_mem hbrace) hm

theorem of_isClauseChar (hclause : ∀ c ∈ text, isClauseChar c = true) (hfree : ExportFree text)
    (hm : m <+: text) : Stuck m :=
  of_isPrefix (fun c hc => isPlain_of_isClauseChar (hclause c hc))
    (fun hc => absurd (hclause _ hc) (by decide)) hfree hm

end Stuck

theorem Gap.clauseChar (g : Gap) : ∀ c ∈ g.text, isClauseChar c = true := fun c hc => by
  simp [isClauseChar, g.blank c hc]

theorem Gap.plain (g : Gap) : ∀ c ∈ g.text, isPlain c = true := fun c hc =>
  isPlain_of_isClauseChar (g.clauseChar c hc)

theorem EntryList.stuck_braced (list : EntryList) (before : Gap) :
    Stuck (exportWord ++ (before.text ++ list.braced)) := by
  have hclause : ∀ c ∈ exportWord ++ (before.text ++ list.braced), isClauseChar c = true := by
    simp only [List.forall_mem_append]
    exact ⟨List.all_eq_true.mp (by decide), before.clauseChar, (Selection.braces list).clauseChar⟩
  refine ⟨fun c hc => isPlain_of_isClauseChar (hclause c hc),
    fun hc => absurd (hclause _ hc) (by decide), fun pre gap inner htext => ?_⟩
  have hsplit : (exportWord ++ before.text) ++ '\x7b' :: (list.text ++ ['\x7d']) =
      (pre ++ (exportWord ++ gap.text)) ++ '\x7b' :: inner := by
    simpa [braced] using htext
  have hfront : '\x7b' ∉ exportWord ++ before.text := by
    rw [List.mem_append, not_or]
    exact ⟨by decide, before.not_mem (by decide)⟩
  have hback : '\x7b' ∉ list.text ++ ['\x7d'] := by
    rw [List.mem_append, not_or]
    exact ⟨list.not_mem (by decide) (by decide) (by decide), by decide⟩
  rw [List.append_cons_inj_of_notMem hfront hback] at hsplit
  rw [← hsplit.2.2]
  simp

theorem stuck_require {m : List Char} (before : Gap)
    (hm : m = requireWord ∨ m = requireWord ++ (before.text ++ ['('])) : Stuck m := by
  have hprefix : m <+: requireWord ++ (before.text ++ ['(']) := by
    obtain rfl | rfl := hm
    · exact List.prefix_append _ _
    · exact List.prefix_refl _
  refine .of_no_brace ?_ ?_ ?_ hprefix
  · simp only [List.forall_mem_append, List.forall_mem_singleton]
    exact ⟨List.all_eq_true.mp (by decide), before.plain, by decide⟩
  · simp only [List.mem_append, not_or]
    exact ⟨by decide, before.not_mem (by decide), by decide⟩
  · simp only [List.mem_append, not_or]
    exact ⟨by decide, before.not_mem (by decide), by decide⟩

theorem ConstantName.stuck (name : ConstantName) (before : Gap) {m : List Char}
    (hm : m = name.first :: name.rest ∨ m = name.first :: (name.rest ++ (before.text ++ ['=']))) :
    Stuck m := by
  have hname : ∀ c ∈ name.first :: name.rest, isConstantChar c = true := by
    rw [List.forall_mem_cons]
    exact ⟨by simp [isConstantChar, name.first_start], name.rest_constant⟩
  have hnot : ∀ c : Char, isConstantChar c = false → c ∉ name.first :: name.rest := by
    intro c hc hmem
    rw [hname c hmem] at hc
    cases hc
  have hprefix : m <+: (name.first :: name.rest) ++ (before.text ++ ['=']) := by
    obtain rfl | rfl := hm
    · exact List.prefix_append _ _
    · exact List.prefix_refl _
  refine .of_no_brace ?_ ?_ ?_ hprefix
  · simp only [List.forall_mem_append, List.forall_mem_singleton]
    exact ⟨fun c hc => isPlain_of_isConstantChar (hname c hc), before.plain, by decide⟩
  · simp only [List.mem_append, not_or]
    exact ⟨hnot _ (by decide), before.not_mem (by decide), by decide⟩
  · simp only [List.mem_append, not_or]
    exact ⟨hnot _ (by decide), before.not_mem (by decide), by decide⟩

/-- **No statement is begun before a place that breaks it.** -/
theorem Item.stuck_of_mem_breaks {item : Item} {cut : Cut} (h : cut ∈ item.breaks) :
    Stuck cut.front := by
  have hfrom : ∀ c ∈ fromWord, isClauseChar c = true := List.all_eq_true.mp (by decide)
  have himport : ∀ c ∈ importWord, isClauseChar c = true := List.all_eq_true.mp (by decide)
  have hexport : ∀ c ∈ exportWord, isClauseChar c = true := List.all_eq_true.mp (by decide)
  cases item with
  | bareImport gap source =>
    rw [breaks, List.mem_singleton] at h
    rw [h]
    exact .of_isClauseChar himport (exportFree_of_not_mem (by decide)) (List.prefix_refl _)
  | importing clause before middle after source apart apart' =>
    refine .of_isClauseChar ?_ (clause.exportFree before middle)
      (isPrefix_of_mem_fromCuts (of_mem_head fun _ => ImportClause.of_mem_cuts) h)
    simp only [List.forall_mem_append]
    exact ⟨⟨himport, before.clauseChar, clause.clauseChar⟩, middle.clauseChar, hfrom⟩
  | reexporting list before middle after source =>
    simp only [breaks, fromCuts, List.map_cons, List.map_nil, List.cons_append, List.nil_append,
      List.mem_cons, List.not_mem_nil, or_false] at h
    have hbraced := list.stuck_braced before
    obtain rfl | rfl | rfl := h
    · exact .of_isClauseChar hexport (exportFree_of_not_mem (by decide)) (List.prefix_refl _)
    · exact hbraced
    · have hfront := hbraced.append_gap middle
      rw [← List.append_assoc]
      exact hfront.append (fun c hc => isPlain_of_isClauseChar (hfrom c hc)) (by decide) (by decide)
  | reexportingAll before middle after source =>
    refine .of_isClauseChar ?_ (exportFree_of_not_mem ?_)
      (isPrefix_of_mem_fromCuts (of_mem_head (List.forall_mem_nil _)) h)
    · simp only [List.forall_mem_append, List.forall_mem_singleton]
      exact ⟨⟨hexport, before.clauseChar, by decide⟩, middle.clauseChar, hfrom⟩
    · simp only [List.mem_append, List.mem_singleton, not_or]
      exact ⟨⟨by decide, before.not_mem (by decide), by decide⟩, middle.not_mem (by decide),
        by decide⟩
  | reexportingAs before gap space name middle after source =>
    refine .of_isClauseChar ?_ (exportFree_of_not_mem ?_)
      (isPrefix_of_mem_fromCuts (of_mem_head fun _ => Selection.of_mem_cuts) h)
    · simp only [List.forall_mem_append]
      exact ⟨⟨hexport, before.clauseChar, (Selection.star gap space name).clauseChar⟩,
        middle.clauseChar, hfrom⟩
    · simp only [List.mem_append, not_or]
      exact ⟨⟨by decide, before.not_mem (by decide),
        star_not_mem gap space name (by decide) (by decide) (by decide)⟩,
        middle.not_mem (by decide), by decide⟩
  | requiring before inner after source =>
    simp only [breaks, List.mem_cons, List.not_mem_nil, or_false] at h
    exact stuck_require before (h.imp (congrArg Cut.front) (congrArg Cut.front))
  | requiringAll before inner after sources =>
    simp only [breaks, List.mem_cons, List.not_mem_nil, or_false] at h
    exact stuck_require before (h.imp (congrArg Cut.front) (congrArg Cut.front))
  | constant name before after value =>
    simp only [breaks, List.mem_cons, List.not_mem_nil, or_false] at h
    exact name.stuck before (h.imp (congrArg Cut.front) (congrArg Cut.front))
  | lineComment content inLine => cases h
  | blockComment content unclosed => cases h
  | literal l => cases h

end ReducerAtlas.Source
