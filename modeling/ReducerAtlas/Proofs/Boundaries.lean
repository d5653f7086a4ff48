import ReducerAtlas.Proofs.Places

/-!
# Between any two lexemes

The places of a statement are all there are: however its lexemes are parted into some at the front
and some at the back, there is a place with these on its two sides.

* `Item.lexemes`: the lexemes of a statement.
* `Spaced`: a text made of lexemes, with blanks between them.
* `Covers`: there is a place between any two lexemes of a text; `Covers.append`: two texts with
  blanks between them.
* `EntryList.covers`, `SourceList.covers`: lists, by recursion on their entries.
* **`Item.covers`**: the places of a statement.
-/

namespace ReducerAtlas.Source

open ReducerAtlas.Text

/-! ## Lexemes -/

/-- The lexemes of an entry. -/
def ClauseEntry.lexemes : ClauseEntry → List (List Char)
  | plain name => [name.text]
  | renamed name _ _ called => [name.text, asWord, called.text]

/-- The lexemes between the braces of a list. -/
def EntryList.lexemes : EntryList → List (List Char)
  | none _ => []
  | one _ entry _ => entry.lexemes
  | more _ entry _ rest => entry.lexemes ++ [','] :: rest.lexemes

/-- The lexemes between the brackets of a list. -/
def SourceList.lexemes : SourceList → List (List Char)
  | one _ source _ _ => [source.text]
  | more _ source _ _ rest => source.text :: [','] :: rest.lexemes

/-- The lexemes of a selection. -/
def Selection.lexemes : Selection → List (List Char)
  | braces list => ['\x7b'] :: (list.lexemes ++ [['\x7d']])
  | star _ _ name => [['*'], asWord, name.text]

/-- The lexemes of a clause. -/
def ImportClause.lexemes : ImportClause → List (List Char)
  | default name => [name.text]
  | selection s => s.lexemes
  | both name _ _ s => name.text :: [','] :: s.lexemes

/-- **The lexemes of a statement.** A comment or a literal is one. -/
def Item.lexemes : Item → List (List Char)
  | bareImport _ source => [importWord, source.text]
  | importing clause _ _ _ source _ _ =>
    importWord :: (clause.lexemes ++ [fromWord, source.text])
  | reexporting list _ _ _ source =>
    exportWord :: ((Selection.braces list).lexemes ++ [fromWord, source.text])
  | reexportingAll _ _ _ source => [exportWord, ['*'], fromWord, source.text]
  | reexportingAs _ gap space name _ _ source =>
    exportWord :: ((Selection.star gap space name).lexemes ++ [fromWord, source.text])
  | requiring _ _ _ source => [requireWord, ['('], source.text, [')']]
  | requiringAll _ _ _ sources =>
    requireWord :: ['('] :: ['['] :: (sources.lexemes ++ [[']'], [')']])
  | constant name _ _ value => [name.first :: name.rest, ['='], value.text]
  | item => [item.text]

/-! ## Places between lexemes -/

/-- The text is made of the lexemes, in order and with blanks between them. -/
inductive Spaced : List (List Char) → List Char → Prop
  | word (w : List Char) : Spaced [w] w
  | cons (w : List Char) (gap : Gap) {ws : List (List Char)} {text : List Char}
    (h : Spaced ws text) : Spaced (w :: ws) (w ++ (gap.text ++ text))

theorem Spaced.append {la lb : List (List Char)} {ta tb : List Char} (ha : Spaced la ta)
    (gap : Gap) (hb : Spaced lb tb) : Spaced (la ++ lb) (ta ++ (gap.text ++ tb)) := by
  induction ha with
  | word w => exact hb.cons w gap
  | cons w gap' _ ih =>
    rw [List.append_assoc, List.append_assoc]
    exact ih.cons w gap'

/-- Between any two lexemes of the text there is a place of a kind. -/
structure Covers (P : Cut → Prop) (lexemes : List (List Char)) (text : List Char) : Prop where
  spaced : Spaced lexemes text
  between : ∀ l r, lexemes = l ++ r → l ≠ [] → r ≠ [] →
    ∃ cut, P cut ∧ Spaced l cut.front ∧ Spaced r cut.back

namespace Covers

variable {P Q R : Cut → Prop} {la lb : List (List Char)} {ta tb : List Char}

theorem word (w : List Char) : Covers P [w] w where
  spaced := .word w
  between l r h hl hr := by
    have hlength := congrArg List.length h
    have hl := List.length_pos_iff.mpr hl
    have hr := List.length_pos_iff.mpr hr
    rw [List.length_append, List.length_singleton] at hlength
    omega

theorem mono (h : Covers P la ta) (himp : ∀ cut, P cut → R cut) : Covers R la ta where
  spaced := h.spaced
  between l r hlr hl hr := by
    obtain ⟨cut, hcut, hspaced⟩ := h.between l r hlr hl hr
    exact ⟨cut, himp cut hcut, hspaced⟩

theorem append (ha : Covers P la ta) (gap : Gap) (hb : Covers Q lb tb)
    (hleft : ∀ cut, P cut → R (cut.within [] (gap.text ++ tb))) (hmiddle : R ⟨ta, tb⟩)
    (hright : ∀ cut, Q cut → R (cut.within (ta ++ gap.text) [])) :
    Covers R (la ++ lb) (ta ++ (gap.text ++ tb)) where
  spaced := ha.spaced.append gap hb.spaced
  between l r h hl hr := by
    rw [List.append_eq_append_iff] at h
    obtain ⟨m, rfl, rfl⟩ | ⟨m, rfl, rfl⟩ := h
    · by_cases hm : m = []
      · refine ⟨_, hmiddle, ?_, ?_⟩
        · rw [hm, List.append_nil]
          exact ha.spaced
        · rw [hm] at hb
          exact hb.spaced
      · obtain ⟨cut, hcut, hfront, hback⟩ := hb.between m r rfl hm hr
        refine ⟨_, hright cut hcut, ?_, ?_⟩
        · rw [Cut.within, List.append_assoc]
          exact ha.spaced.append gap hfront
        · rw [Cut.within, List.append_nil]
          exact hback
    · by_cases hm : m = []
      · refine ⟨_, hmiddle, ?_, ?_⟩
        · rw [hm, List.append_nil] at ha
          exact ha.spaced
        · rw [hm]
          exact hb.spaced
      · obtain ⟨cut, hcut, hfront, hback⟩ := ha.between l m rfl hl hm
        refine ⟨_, hleft cut hcut, hfront, ?_⟩
        exact hback.append gap hb.spaced

theorem concat (ha : Covers P la ta) (gap : Gap) (w : List Char)
    (hleft : ∀ cut, P cut → R (cut.within [] (gap.text ++ w))) (hmiddle : R ⟨ta, w⟩) :
    Covers R (la ++ [w]) (ta ++ (gap.text ++ w)) :=
  ha.append gap (word (P := fun _ => False) w) hleft hmiddle fun _ h => h.elim

theorem cons (w : List Char) (gap : Gap) (hb : Covers Q lb tb) (hmiddle : R ⟨w, tb⟩)
    (hright : ∀ cut, Q cut → R (cut.within (w ++ gap.text) [])) :
    Covers R (w :: lb) (w ++ (gap.text ++ tb)) :=
  (word (P := fun _ => False) w).append gap hb (fun _ h => h.elim) hmiddle hright

/-- A text with blanks around it, between another text and a word. -/
theorem enclose (h : Covers Q lb tb) (before after : Gap) (w : List Char)
    (htext : Covers (fun cut => P (cut.within [] (before.text ++ (tb ++ (after.text ++ w))))) la ta)
    (hbefore : P ⟨ta, tb ++ (after.text ++ w)⟩)
    (hinner : ∀ cut, Q cut → P (cut.within (ta ++ before.text) (after.text ++ w)))
    (hafter : P ⟨ta ++ (before.text ++ tb), w⟩) :
    Covers P (la ++ (lb ++ [w])) (ta ++ (before.text ++ (tb ++ (after.text ++ w)))) := by
  have hback : Covers (fun cut => P (cut.within (ta ++ before.text) [])) (lb ++ [w])
      (tb ++ (after.text ++ w)) := by
    refine h.concat after w (fun cut hcut => ?_) ?_
    · simpa [Cut.within] using hinner cut hcut
    · simpa [Cut.within] using hafter
  exact htext.append before hback (fun cut hcut => hcut) hbefore fun cut hcut => hcut

end Covers

/-! ## Lists and clauses -/

theorem ClauseEntry.covers (entry : ClauseEntry) :
    Covers (· ∈ entry.cuts) entry.lexemes entry.text := by
  cases entry with
  | plain name => exact .word name.text
  | renamed name before after called =>
    have hcalled : Covers (fun cut => cut.within (name.text ++ before.text) [] ∈
        (renamed name before after called).cuts) [asWord, called.text]
          (asWord ++ (after.text ++ called.text)) := by
      refine .cons asWord after.toGap (.word (P := fun _ => False) called.text) ?_ fun _ h => h.elim
      simp [cuts, Cut.within]
    refine .cons name.text before.toGap hcalled ?_ fun cut hcut => hcut
    simp [cuts]

theorem EntryList.mem_cuts_more (before : Gap) (entry : ClauseEntry) (after : Gap)
    {rest : EntryList} {cut : Cut} (h : cut ∈ rest.cuts) :
    cut.within (before.text ++ (entry.text ++ (after.text ++ [',']))) [] ∈
      (more before entry after rest).cuts := by
  rw [cuts, List.mem_append, List.mem_map] at h ⊢
  obtain h | ⟨cut, hcut, rfl⟩ := h
  · exact .inl (List.mem_append_right _ (List.mem_map_of_mem h))
  · refine .inr ⟨⟨_, fun words => entry.pair :: cut.pairs words⟩, ?_, rfl⟩
    exact List.mem_cons_of_mem _ (List.mem_cons_of_mem _ (List.mem_map_of_mem hcut))

/-- The places of a brace list, with what stands before it and a word that ends it. -/
theorem EntryList.covers (list : EntryList) {P : Cut → Prop} {lexemes : List (List Char)}
    {text : List Char} (w : List Char)
    (htext : Covers (fun cut => P (cut.within [] (list.text ++ w))) lexemes text)
    (hlist : ∀ cut ∈ list.cuts, P (cut.within text w)) :
    Covers P (lexemes ++ (list.lexemes ++ [w])) (text ++ (list.text ++ w)) := by
  induction list generalizing lexemes text with
  | none gap =>
    refine htext.concat gap w (fun cut hcut => hcut) ?_
    simpa [Cut.within] using hlist ⟨[], []⟩ (by simp [cuts, inner, outer])
  | one before entry after =>
    have hfront : Covers (fun cut => P (cut.within [] (before.text ++ (entry.text ++
        (after.text ++ w))))) lexemes text := by
      simpa [EntryList.text] using htext
    have hplaces := entry.covers.enclose (P := P) before after w hfront ?_ ?_ ?_
    · simpa [EntryList.text, EntryList.lexemes] using hplaces
    · simpa [Cut.within] using hlist ⟨[], entry.text ++ after.text⟩ (by simp [cuts, inner, outer])
    · intro cut hcut
      simpa [Cut.within] using hlist (cut.within before.text after.text)
        (List.mem_append_left _ (List.mem_map_of_mem hcut))
    · simpa [Cut.within] using hlist ⟨before.text ++ entry.text, []⟩ (by simp [cuts, inner, outer])
  | more before entry after rest ih =>
    -- the first entry and its comma belong to what stands before the rest
    have hfront : Covers (fun cut => P ((cut.within [] (before.text ++ (entry.text ++
        (after.text ++ [','])))).within [] (rest.text ++ w))) lexemes text := by
      simpa [EntryList.text, Cut.within] using htext
    have hentry := entry.covers.enclose (P := fun cut => P (cut.within [] (rest.text ++ w))) before
      after [','] hfront ?_ ?_ ?_
    · have hrest := ih hentry ?_
      · simpa [EntryList.text, EntryList.lexemes] using hrest
      · intro cut hcut
        simpa [Cut.within] using hlist _ (mem_cuts_more before entry after hcut)
    · simpa [Cut.within] using hlist ⟨[], entry.text ++ (after.text ++ ',' :: rest.text)⟩
        (by simp [cuts, outer])
    · intro cut hcut
      simpa [Cut.within] using hlist (cut.within before.text (after.text ++ ',' :: rest.text))
        (List.mem_append_left _ (List.mem_append_left _ (List.mem_map_of_mem hcut)))
    · simpa [Cut.within] using hlist ⟨before.text ++ entry.text, ',' :: rest.text⟩
        (by simp [cuts, outer])

theorem SourceList.covers (sources : SourceList) {P : Cut → Prop} {lexemes : List (List Char)}
    {text : List Char} (w : List Char)
    (htext : Covers (fun cut => P (cut.within [] (sources.text ++ w))) lexemes text)
    (hlist : ∀ cut ∈ sources.cuts, P (cut.within text w)) :
    Covers P (lexemes ++ (sources.lexemes ++ [w])) (text ++ (sources.text ++ w)) := by
  induction sources generalizing lexemes text with
  | one before source after open' =>
    have hfront : Covers (fun cut => P (cut.within [] (before.text ++ (source.text ++
        (after.text ++ w))))) lexemes text := by
      simpa [SourceList.text] using htext
    have hword : Covers (fun _ => False) [source.text] source.text := .word source.text
    have hplaces := hword.enclose (P := P) before after w hfront ?_ (fun _ h => h.elim) ?_
    · simpa [SourceList.text, SourceList.lexemes] using hplaces
    · simpa [Cut.within] using hlist _ List.mem_cons_self
    · simpa [Cut.within] using hlist _ (List.mem_cons_of_mem _ List.mem_cons_self)
  | more before source after open' rest ih =>
    have hfront : Covers (fun cut => P ((cut.within [] (before.text ++ (source.text ++
        (after.text ++ [','])))).within [] (rest.text ++ w))) lexemes text := by
      simpa [SourceList.text, Cut.within] using htext
    have hword : Covers (fun _ => False) [source.text] source.text := .word source.text
    have hsource := hword.enclose (P := fun cut => P (cut.within [] (rest.text ++ w))) before after
      [','] hfront ?_ (fun _ h => h.elim) ?_
    · have hrest := ih hsource ?_
      · simpa [SourceList.text, SourceList.lexemes] using hrest
      · intro cut hcut
        have hmem := hlist _ (List.mem_cons_of_mem _ (List.mem_cons_of_mem _
          (List.mem_map_of_mem hcut)))
        simpa [Cut.within] using hmem
    · simpa [Cut.within] using hlist _ List.mem_cons_self
    · simpa [Cut.within] using hlist _ (List.mem_cons_of_mem _ List.mem_cons_self)

theorem Selection.covers (s : Selection) : Covers (· ∈ s.cuts) s.lexemes s.text := by
  cases s with
  | braces list =>
    refine list.covers ['\x7d'] (.word ['\x7b']) fun cut hcut => ?_
    exact List.mem_map_of_mem hcut
  | star gap space name =>
    have hname : Covers (fun cut => cut.within (['*'] ++ gap.text) [] ∈
        (star gap space name).cuts) [asWord, name.text]
          (asWord ++ (space.text ++ name.text)) := by
      refine .cons asWord space.toGap (.word (P := fun _ => False) name.text) ?_ fun _ h => h.elim
      simp [cuts, Cut.within]
    refine .cons ['*'] gap hname ?_ fun cut hcut => hcut
    simp [cuts]

theorem ImportClause.covers (clause : ImportClause) :
    Covers (· ∈ clause.cuts) clause.lexemes clause.text := by
  cases clause with
  | default name => exact .word name.text
  | selection s => exact s.covers
  | both name before after s =>
    have hback : Covers (fun cut => cut.within (name.text ++ before.text) [] ∈
        (both name before after s).cuts) ([','] :: s.lexemes) ([','] ++ (after.text ++ s.text)) := by
      refine .cons [','] after s.covers ?_ fun cut hcut => ?_
      · simp [cuts, Cut.within]
      · refine List.mem_cons_of_mem _ (List.mem_cons_of_mem _ (List.mem_map.mpr ⟨cut, hcut, ?_⟩))
        simp [Cut.within]
    refine .cons name.text before hback ?_ fun cut hcut => hcut
    simp [cuts]

/-! ## Statements -/

theorem covers_head {cuts : List Cut} {lexemes : List (List Char)} {text : List Char}
    (word : List Char) (before : Gap) (h : Covers (· ∈ cuts) lexemes text) :
    Covers (· ∈ (⟨word, text⟩ : Cut) :: cuts.map (·.within (word ++ before.text) []))
      (word :: lexemes) (word ++ (before.text ++ text)) :=
  .cons word before h List.mem_cons_self fun _ hcut =>
    List.mem_cons_of_mem _ (List.mem_map_of_mem hcut)

/-- The keyword `from` and a module name behind a text. -/
theorem covers_from {P R : Cut → Prop} {lexemes : List (List Char)} {head : List Char}
    (h : Covers P lexemes head) (middle after : Gap) (source : Quotation)
    (hhead : ∀ cut, P cut → R (cut.within [] (Item.fromText middle after source)))
    (hfrom : ∀ cut ∈ fromCuts head [] middle after source, R cut) :
    Covers R (lexemes ++ [fromWord, source.text]) (head ++ Item.fromText middle after source) := by
  have htail : Covers (fun cut => R (cut.within (head ++ middle.text) [])) [fromWord, source.text]
      (fromWord ++ (after.text ++ source.text)) := by
    refine .cons fromWord after (.word (P := fun _ => False) source.text) ?_ fun _ h => h.elim
    apply hfrom
    simp [fromCuts, Cut.within]
  refine h.append middle htail hhead ?_ fun cut hcut => hcut
  apply hfrom
  simp [fromCuts]

theorem covers_fromCuts {cuts : List Cut} {lexemes : List (List Char)} {head : List Char}
    (h : Covers (· ∈ cuts) lexemes head) (middle after : Gap) (source : Quotation) :
    Covers (· ∈ fromCuts head cuts middle after source) (lexemes ++ [fromWord, source.text])
      (head ++ Item.fromText middle after source) :=
  covers_from h middle after source
    (fun _ hcut => List.mem_append_left _ (List.mem_map_of_mem hcut))
    fun _ hcut => List.mem_append_right _ hcut

namespace Item

/-- A place of a statement, without its effect. -/
def HasCut (item : Item) (cut : Cut) : Prop := ∃ place ∈ item.places, place.toCut = cut

theorem hasCut_of_mem_breaks {item : Item} {cut : Cut} (h : cut ∈ item.breaks) : item.HasCut cut :=
  ⟨⟨cut, .lost⟩, List.mem_append_left _ (List.mem_map_of_mem h), rfl⟩

theorem covers_reexporting (list : EntryList) (before middle after : Gap) (source : Quotation) :
    Covers (reexporting list before middle after source).HasCut
      (reexporting list before middle after source).lexemes
      (reexporting list before middle after source).text := by
  have hbraces : Covers (fun cut => (reexporting list before middle after source).HasCut
      (cut.within (exportWord ++ before.text) (fromText middle after source)))
        (Selection.braces list).lexemes list.braced := by
    refine list.covers ['\x7d'] (.word ['\x7b']) fun cut hcut => ?_
    rw [EntryList.cuts, List.mem_append, List.mem_map] at hcut
    obtain hcut | ⟨cut, hcut, rfl⟩ := hcut
    · refine ⟨_, List.mem_append_right _ (List.mem_append_left _ (List.mem_map_of_mem hcut)), ?_⟩
      simp [Cut.within]
    · refine ⟨_, List.mem_append_right _ (List.mem_append_right _ (List.mem_map_of_mem hcut)), ?_⟩
      simp [Cut.within]
  have hhead : Covers (fun cut => (reexporting list before middle after source).HasCut
      (cut.within [] (fromText middle after source))) (exportWord :: (Selection.braces list).lexemes)
        (exportWord ++ (before.text ++ list.braced)) := by
    refine .cons exportWord before hbraces ?_ fun cut hcut => ?_
    · exact hasCut_of_mem_breaks List.mem_cons_self
    · simpa [Cut.within] using hcut
  have hplaces : Covers (reexporting list before middle after source).HasCut _ _ :=
    covers_from hhead middle after source (fun cut hcut => hcut) fun cut hcut =>
      hasCut_of_mem_breaks (List.mem_append_right _ hcut)
  simpa [text, lexemes] using hplaces

theorem covers_requiringAll (before inner after : Gap) (sources : SourceList) :
    Covers (requiringAll before inner after sources).HasCut
      (requiringAll before inner after sources).lexemes
      (requiringAll before inner after sources).text := by
  have hbracket : Covers (fun cut => (requiringAll before inner after sources).HasCut
      (cut.within (requireWord ++ before.text) (sources.text ++ ']' :: (after.text ++ [')']))))
        [['('], ['[']] (['('] ++ (inner.text ++ ['['])) := by
    refine .cons ['('] inner (.word (P := fun _ => False) ['[']) ?_ fun _ h => h.elim
    exact hasCut_of_mem_breaks (by simp [breaks, Cut.within])
  have hopen : Covers (fun cut => (requiringAll before inner after sources).HasCut
      ((cut.within [] (sources.text ++ [']'])).within [] (after.text ++ [')'])))
        [requireWord, ['('], ['[']]
        (requireWord ++ (before.text ++ (['('] ++ (inner.text ++ ['['])))) := by
    refine .cons requireWord before hbracket ?_ fun cut hcut => ?_
    · exact hasCut_of_mem_breaks (by simp [breaks, Cut.within])
    · simpa [Cut.within] using hcut
  have hlist := sources.covers (P := fun cut => (requiringAll before inner after sources).HasCut
    (cut.within [] (after.text ++ [')']))) [']'] hopen fun cut hcut => ?_
  · have hplaces : Covers (requiringAll before inner after sources).HasCut _ _ :=
      hlist.concat after [')'] (fun cut hcut => hcut)
        ⟨_, List.mem_append_right _ List.mem_cons_self, by simp⟩
    simpa [text, lexemes] using hplaces
  · refine ⟨_, List.mem_append_right _ (List.mem_cons_of_mem _ (List.mem_map_of_mem hcut)), ?_⟩
    simp [Cut.within]

/-- **Between any two lexemes of a statement there is a place.** -/
theorem covers (item : Item) : Covers item.HasCut item.lexemes item.text := by
  cases item with
  | bareImport gap source =>
    refine .cons importWord gap (.word (P := fun _ => False) source.text) ?_ fun _ h => h.elim
    exact hasCut_of_mem_breaks List.mem_cons_self
  | importing clause before middle after source apart apart' =>
    have hplaces : Covers (importing clause before middle after source apart apart').HasCut _ _ :=
      (covers_fromCuts (covers_head importWord before clause.covers) middle after source).mono
        fun _ hcut => hasCut_of_mem_breaks hcut
    simpa [text, lexemes] using hplaces
  | reexporting list before middle after source =>
    exact covers_reexporting list before middle after source
  | reexportingAll before middle after source =>
    have hstar : Covers (· ∈ ([] : List Cut)) [['*']] ['*'] := .word ['*']
    have hplaces : Covers (reexportingAll before middle after source).HasCut _ _ :=
      (covers_fromCuts (covers_head exportWord before hstar) middle after source).mono
        fun _ hcut => hasCut_of_mem_breaks hcut
    simpa [text, lexemes] using hplaces
  | reexportingAs before gap space name middle after source =>
    have hplaces : Covers (reexportingAs before gap space name middle after source).HasCut _ _ :=
      (covers_fromCuts (covers_head exportWord before (Selection.star gap space name).covers)
        middle.toGap after source).mono fun _ hcut => hasCut_of_mem_breaks hcut
    simpa [text, lexemes, Selection.text] using hplaces
  | requiring before inner after source =>
    have hsource : Covers (fun cut => (requiring before inner after source).HasCut
        ((cut.within (['('] ++ inner.text) []).within (requireWord ++ before.text) []))
          [source.text, [')']] (source.text ++ (after.text ++ [')'])) := by
      refine .cons source.text after (.word (P := fun _ => False) [')']) ?_ fun _ h => h.elim
      refine ⟨_, List.mem_append_right _ List.mem_cons_self, ?_⟩
      simp [Cut.within]
    have hbracket : Covers (fun cut => (requiring before inner after source).HasCut
        (cut.within (requireWord ++ before.text) [])) [['('], source.text, [')']]
          (['('] ++ (inner.text ++ (source.text ++ (after.text ++ [')'])))) := by
      refine .cons ['('] inner hsource ?_ fun cut hcut => hcut
      exact hasCut_of_mem_breaks (by simp [breaks, Cut.within])
    refine .cons requireWord before hbracket ?_ fun cut hcut => hcut
    exact hasCut_of_mem_breaks List.mem_cons_self
  | requiringAll before inner after sources =>
    exact covers_requiringAll before inner after sources
  | constant name before after value =>
    have hvalue : Covers (fun cut => (constant name before after value).HasCut
        (cut.within ((name.first :: name.rest) ++ before.text) [])) [['='], value.text]
          (['='] ++ (after.text ++ value.text)) := by
      refine .cons ['='] after (.word (P := fun _ => False) value.text) ?_ fun _ h => h.elim
      exact hasCut_of_mem_breaks (by simp [breaks, Cut.within])
    refine .cons (name.first :: name.rest) before hvalue ?_ fun cut hcut => hcut
    exact hasCut_of_mem_breaks List.mem_cons_self
  | lineComment content inLine => exact .word _
  | blockComment content unclosed => exact .word _
  | literal l => exact .word _

end Item

end ReducerAtlas.Source
