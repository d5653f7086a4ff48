import ReducerAtlas.Proofs.Remarks
import ReducerAtlas.Proofs.Boundaries

/-!
# Comments inside statements

A comment is skipped where a lexeme may start, and nowhere else. A statement is one lexeme, so a
comment between two of its words is no comment to the reader: it breaks the statement, or it is text
like any other in the braces or the list that it stands in.

* `tokens_reexport`, `tokens_braces`: a comment in the braces of a re-export.
* `tokens_behind`, `tokens_listed`: a comment in a require call.
* `Item.tokens_insert`: a statement with a comment in it, at each of its places.
* `Item.token?_of_harmless`: the comments that are not seen.
* `Script.tokens_append`: a script before other text.
* **`tokens_of_remark`**: what a comment in a statement does to the tokens of a source.
-/

namespace ReducerAtlas.Source

open ReducerAtlas.Text

/-! ## Re-exports -/

/-- A re-export gives the entries between its braces, whatever they are. -/
theorem tokens_reexport {inner : List Char} (hclose : '\x7d' ∉ inner)
    (hhead : ∀ c ∈ inner.head?, c ≠ '\x7b' ∧ c ≠ '\x7d')
    (hlast : ∀ c ∈ inner.getLast?, c ≠ '\x7b' ∧ c ≠ '\x7d') (before middle after : Gap)
    (source : Quotation) (rest : List Char) :
    tokens (exportWord ++ (before.text ++
      ('\x7b' :: (inner ++ ['\x7d']) ++ Item.fromText middle after source)) ++ rest) =
        .reference ⟨.reexporting, [String.ofList source.content],
          ⟨some (nameSet (((entries inner).map aliasPair).map (·.2))),
            some (nameSet (((entries inner).map aliasPair).map (·.1)))⟩⟩ :: tokens rest := by
  have hquote : (exportWord ++ (before.text ++ ('\x7b' :: (inner ++ ['\x7d']) ++
      Item.fromText middle after source))).getLast? = some source.quote := by
    simp [Item.fromText, List.getLast?_cons, source.getLast?_text]
  rw [tokens_statement (statement?_of_export? rfl
    (export?_braces hclose before middle after source rest)) (by rintro _ ⟨⟩; decide) hquote
    source.quote_not_word, Kind.token?, Clause.ofExport_braces hhead hlast]
  rfl

section Braces

variable {list : EntryList} {cut : Cut} {remark : Remark}

/-- A comment without a closing brace does not end the list. -/
theorem EntryList.not_mem_insert (hcut : cut.Of list.text)
    (hclose : '\x7d' ∉ remark.comment.text) :
    '\x7d' ∉ cut.front ++ (remark.text ++ cut.back) := by
  have hlist := list.not_mem (c := '\x7d') (by decide) (by decide) (by decide)
  simp only [Remark.text, List.mem_append, not_or]
  exact ⟨fun hc => hlist (hcut.mem_of_mem_front hc),
    ⟨remark.before.not_mem (by decide), hclose, remark.after.not_mem (by decide)⟩,
    fun hc => hlist (hcut.mem_of_mem_back hc)⟩

theorem EntryList.ends_insert (hcut : cut.Of list.text) :
    (∀ c ∈ (cut.front ++ (remark.text ++ cut.back)).head?, c ≠ '\x7b' ∧ c ≠ '\x7d') ∧
      ∀ c ∈ (cut.front ++ (remark.text ++ cut.back)).getLast?, c ≠ '\x7b' ∧ c ≠ '\x7d' := by
  have hlist : ∀ c ∈ list.text, c ≠ '\x7b' ∧ c ≠ '\x7d' := by
    intro c hc
    constructor
    all_goals
      rintro rfl
      exact list.not_mem (by decide) (by decide) (by decide) hc
  have hgap : ∀ g : Gap, ∀ c ∈ g.text, c ≠ '\x7b' ∧ c ≠ '\x7d' := by
    intro g c hc
    constructor
    all_goals
      rintro rfl
      exact g.not_mem (by decide) hc
  have hfront : cut.front ++ (remark.text ++ cut.back) = (cut.front ++ remark.before.text) ++
      (remark.comment.text ++ (remark.after.text ++ cut.back)) := by
    simp [Remark.text]
  have hback : cut.front ++ (remark.text ++ cut.back) = (cut.front ++ (remark.before.text ++
      remark.comment.text)) ++ (remark.after.text ++ cut.back) := by
    simp [Remark.text]
  constructor
  · intro c hc
    rw [hfront, List.head?_append_of_ne_nil _ (by simp [remark.before.ne_nil])] at hc
    obtain h | h := List.mem_append.mp (List.mem_of_mem_head? hc)
    · exact hlist c (hcut.mem_of_mem_front h)
    · exact hgap remark.before.toGap c h
  · intro c hc
    rw [hback, List.getLast?_append_of_ne_nil _ (by simp [remark.after.ne_nil])] at hc
    obtain h | h := List.mem_append.mp (List.mem_of_mem_getLast? hc)
    · exact hgap remark.after.toGap c h
    · exact hlist c (hcut.mem_of_mem_back h)

theorem tokens_braces (hcut : cut.Of list.text) (hclose : '\x7d' ∉ remark.comment.text)
    {pairs : List (List Char × List Char)}
    (hpairs : (entries (cut.front ++ (remark.text ++ cut.back))).map aliasPair = pairs)
    (before middle after : Gap) (source : Quotation) (rest : List Char) :
    tokens ((exportWord ++ (before.text ++ ['\x7b'])) ++ cut.front ++ (remark.text ++
      (cut.back ++ '\x7d' :: Item.fromText middle after source)) ++ rest) =
        .reference ⟨.reexporting, [String.ofList source.content],
          ⟨some (nameSet (pairs.map (·.2))), some (nameSet (pairs.map (·.1)))⟩⟩ :: tokens rest := by
  obtain ⟨hhead, hlast⟩ := @EntryList.ends_insert list cut remark hcut
  have htokens := tokens_reexport (EntryList.not_mem_insert hcut hclose) hhead hlast before middle
    after source rest
  rw [hpairs] at htokens
  rw [← htokens]
  simp

end Braces

/-! ## Require calls -/

theorem Remark.tokens_append (remark : Remark) (rest : List Char) :
    tokens (remark.text ++ rest) = tokens rest :=
  tokens_of_stuck .nil remark rest

/-- A remark behind the argument of a call is not read with it. -/
theorem tokens_behind (before inner : Gap) {argument : List Char} {d : Char} (remark : Remark)
    (hhead : ∀ rest, ∀ c ∈ (argument ++ rest).head?, isBlank c = false)
    (hargument : ∀ rest, requireArgument? (argument ++ rest) = some argument)
    (hlast : argument.getLast? = some d) (hd : isWord d = false) (rest : List Char) :
    tokens ((requireWord ++ (before.text ++ '(' :: (inner.text ++ argument))) ++
      (remark.text ++ [')']) ++ rest) =
        (Kind.requiring argument).token?.toList ++ tokens rest := by
  have hclose : tokens (remark.text ++ (')' :: rest)) = tokens rest := by
    rw [remark.tokens_append]
    exact tokens_close ⟨[], by simp⟩
  have htext : (requireWord ++ (before.text ++ '(' :: (inner.text ++ argument))) ++
      (remark.text ++ [')']) ++ rest =
        (requireWord ++ (before.text ++ '(' :: (inner.text ++ argument))) ++
          (remark.text ++ (')' :: rest)) := by
    simp
  rw [htext, tokens_require before inner (hhead _) (hargument _) hlast hd, hclose]

theorem tokens_listed {sources : SourceList} {cut : SourceCut} (hcut : cut ∈ sources.cuts)
    {remark : Remark} (hbracket : ']' ∉ remark.comment.text) (hclosed : remark.comment.Closed)
    (before inner after : Gap) (rest : List Char) :
    tokens ((requireWord ++ (before.text ++ '(' :: (inner.text ++ ['[']))) ++ cut.front ++
      (remark.text ++ (cut.back ++ ']' :: (after.text ++ [')']))) ++ rest) =
        .reference ⟨.requiring, (cut.before ++ (quotations remark.comment.text ++
          cut.after)).map String.ofList, {}⟩ :: tokens rest := by
  have hof := SourceList.of_mem_cuts hcut
  have hinner : ']' ∉ cut.front ++ (remark.text ++ cut.back) := by
    simp only [Remark.text, List.mem_append, not_or]
    exact ⟨fun hc => sources.not_mem (hof.mem_of_mem_front hc),
      ⟨remark.before.not_mem (by decide), hbracket, remark.after.not_mem (by decide)⟩,
      fun hc => sources.not_mem (hof.mem_of_mem_back hc)⟩
  have hquotations : quotations ('[' :: ((cut.front ++ (remark.text ++ cut.back)) ++ [']'])) =
      cut.before ++ (quotations remark.comment.text ++ cut.after) := by
    have hinsert := SourceList.quotations_insert hcut hclosed [']']
    rw [show quotations [']'] = [] from rfl, List.append_nil] at hinsert
    rw [quotations_brackets, ← hinsert]
    simp
  have hne : cut.before ++ (quotations remark.comment.text ++ cut.after) ≠ [] := by
    have hcontents := sources.contents_ne_nil
    rw [SourceList.contents_of_mem_cuts hcut] at hcontents
    intro hnil
    rw [List.append_eq_nil_iff, List.append_eq_nil_iff] at hnil
    exact hcontents (List.append_eq_nil_iff.mpr ⟨hnil.1, hnil.2.2⟩)
  have htext : (requireWord ++ (before.text ++ '(' :: (inner.text ++ ['[']))) ++ cut.front ++
      (remark.text ++ (cut.back ++ ']' :: (after.text ++ [')']))) ++ rest =
        (requireWord ++ (before.text ++ '(' :: (inner.text ++
          '[' :: ((cut.front ++ (remark.text ++ cut.back)) ++ [']'])))) ++
            (after.text ++ ')' :: rest) := by
    simp
  have hargument := requireArgument?_brackets hinner (after.text ++ ')' :: rest)
  rw [htext, tokens_require (d := ']') before inner (by rintro _ ⟨⟩; decide)
    (by simpa using hargument) (by simp [List.getLast?_cons]) (by decide), tokens_close,
    token?_of_quotations hquotations hne]
  rfl

/-! ## Statements -/

/-- **A statement with a comment in it**, at each of its places. -/
theorem Item.tokens_insert {item : Item} {place : Place} (hplace : place ∈ item.places)
    (remark : Remark) (hfits : place.effect.Fits remark.comment) (rest : List Char) :
    tokens (place.insert remark ++ rest) =
      (place.effect.token? item remark.comment).toList ++ tokens (place.left ++ rest) := by
  rw [places, List.mem_append, List.mem_map] at hplace
  obtain ⟨cut, hcut, rfl⟩ | hplace := hplace
  · have htext : Place.insert ⟨cut, .lost⟩ remark ++ rest =
        cut.front ++ (remark.text ++ (cut.back ++ rest)) := by
      simp [Place.insert]
    rw [htext, tokens_of_stuck (stuck_of_mem_breaks hcut)]
    rfl
  · cases item with
    | reexporting list before middle after source =>
      simp only [openings, List.mem_append, List.mem_map] at hplace
      obtain ⟨cut, hcut, rfl⟩ | ⟨cut, hcut, rfl⟩ := hplace
      · have hcomma : ',' ∉ remark.comment.text := hfits _ (by simp)
        have hbrace : '\x7d' ∉ remark.comment.text := hfits _ (by simp)
        have htokens := tokens_braces (EntryList.of_mem_inner hcut) hbrace
          (EntryList.pairs_inner hcomma hcut) before middle after source rest
        rw [list.pairs_map_snd, list.pairs_map_fst] at htokens
        exact htokens
      · exact tokens_braces (EntryList.of_mem_outer hcut) hfits.2
          (EntryList.pairs_outer hfits.1 hcut) before middle after source rest
    | requiring before inner after source =>
      rw [openings, List.mem_singleton] at hplace
      rw [hplace]
      have htokens := tokens_behind before inner remark (fun _ => source.head_not_blank)
        (requireArgument?_text source) source.getLast?_text source.quote_not_word rest
      rw [token?_requiring] at htokens
      exact htokens
    | requiringAll before inner after sources =>
      simp only [openings, List.mem_cons, List.mem_map] at hplace
      obtain rfl | ⟨cut, hcut, rfl⟩ := hplace
      · have hargument : ∀ rest, requireArgument? ('[' :: (sources.text ++ [']']) ++ rest) =
            some ('[' :: (sources.text ++ [']'])) := by
          intro rest
          simpa using requireArgument?_list sources rest
        have htokens := tokens_behind (d := ']') before inner remark (by rintro _ _ ⟨⟩; decide)
          hargument (by simp [List.getLast?_cons]) (by decide) rest
        rw [token?_requiringAll] at htokens
        simpa [Place.insert, Place.left, Effect.token?, token?] using htokens
      · exact tokens_listed hcut hfits.1 hfits.2 before inner after rest
    | _ => cases hplace

theorem Item.token?_of_listed {item : Item} {place : Place} (hplace : place ∈ item.places)
    {before after : List (List Char)} (heffect : place.effect = .listed before after) :
    item.token? =
      some (.reference ⟨.requiring, (before ++ after).map String.ofList, {}⟩) := by
  rw [places, List.mem_append, List.mem_map] at hplace
  obtain ⟨cut, hcut, rfl⟩ | hplace := hplace
  · cases heffect
  · cases item with
    | reexporting list gap middle after' source =>
      simp only [openings, List.mem_append, List.mem_map] at hplace
      obtain ⟨cut, hcut, rfl⟩ | ⟨cut, hcut, rfl⟩ := hplace <;> cases heffect
    | requiring gap inner after' source =>
      rw [openings, List.mem_singleton] at hplace
      rw [hplace] at heffect
      cases heffect
    | requiringAll gap inner after' sources =>
      simp only [openings, List.mem_cons, List.mem_map] at hplace
      obtain rfl | ⟨cut, hcut, rfl⟩ := hplace
      · cases heffect
      · cases heffect
        rw [token?, SourceList.contents_of_mem_cuts hcut]
    | _ => cases hplace

/-- A harmless comment leaves the token of its statement as it is. -/
theorem Item.token?_of_harmless {item : Item} {place : Place} (hplace : place ∈ item.places)
    {comment : Comment} (h : place.effect.Harmless comment) :
    place.effect.Fits comment ∧ place.effect.token? item comment = item.token? ∧
      place.left = [] := by
  cases heffect : place.effect with
  | lost =>
    rw [heffect] at h
    exact h.elim
  | kept barred =>
    rw [heffect] at h
    exact ⟨h, rfl, by rw [Place.left, heffect]⟩
  | listed before after =>
    rw [heffect] at h
    have hunquoted : ∀ c ∈ comment.text, isUnquoted c = true := by
      intro c hc
      rw [isUnquoted, Bool.and_eq_true, bne_iff_ne, bne_iff_ne]
      constructor
      all_goals
        rintro rfl
        exact h _ (by simp) hc
    obtain ⟨hclosed, hnone⟩ := Comment.closed_of_unquoted hunquoted
    refine ⟨⟨h _ (by simp), hclosed⟩, ?_, by rw [Place.left, heffect]⟩
    rw [Effect.token?, hnone, Item.token?_of_listed hplace heffect]
    rfl
  | named source pairs =>
    rw [heffect] at h
    exact h.elim

theorem Script.tokens_append {script : Script} (h : script.closing = none) (rest : List Char) :
    Source.tokens (script.text ++ rest) = script.tokens ++ Source.tokens rest := by
  obtain ⟨opening, items, closing⟩ := script
  cases h
  have htext : Script.text ⟨opening, items, none⟩ ++ rest = opening.text ++
      (items.flatMap (fun part => part.1.text ++ part.2.text) ++ rest) := by
    simp [Script.text]
  rw [htext, tokens_filler opening.other, Script.tokens]
  induction items with
  | nil => rfl
  | cons part items ih =>
    obtain ⟨item, filler⟩ := part
    have ih := ih (by simp [Script.text])
    simp only [List.flatMap_cons, List.append_assoc] at ih ⊢
    rw [item.tokens_append, tokens_filler filler.other, ih, List.filterMap_cons]
    cases item.token? <;> rfl

/-- **A comment between two lexemes of a statement**, anywhere in a source. There is a place between
any two lexemes, and it is one of the text. Outside lists the statement is lost and the reading goes
on behind the comment; in the list of a require call each quoted text of the comment is a module
name; beside an entry of a re-export the words of the comment are names. The comment changes nothing
behind the argument of a call, inside an entry of a re-export, and in the list of a call if it holds
no quote. -/
theorem tokens_of_remark {before : Script} (hbefore : before.closing = none) (item : Item) :
    Spaced item.lexemes item.text ∧
    (∀ l r, item.lexemes = l ++ r → l ≠ [] → r ≠ [] →
      ∃ place ∈ item.places, Spaced l place.front ∧ Spaced r place.back) ∧
    ∀ place ∈ item.places,
      (∃ gap : Gap, item.text = place.front ++ (gap.text ++ place.back)) ∧
      ∀ (remark : Remark) (rest : List Char),
        (place.effect.Fits remark.comment →
          tokens (before.text ++ (place.insert remark ++ rest)) = before.tokens ++
            ((place.effect.token? item remark.comment).toList ++ tokens (place.left ++ rest))) ∧
        (place.effect.Harmless remark.comment →
          tokens (before.text ++ (place.insert remark ++ rest)) =
            tokens (before.text ++ (item.text ++ rest))) := by
  have hinsert : ∀ place ∈ item.places, ∀ (remark : Remark) (rest : List Char),
      place.effect.Fits remark.comment →
        tokens (before.text ++ (place.insert remark ++ rest)) = before.tokens ++
          ((place.effect.token? item remark.comment).toList ++ tokens (place.left ++ rest)) := by
    intro place hplace remark rest hfits
    rw [Script.tokens_append hbefore, Item.tokens_insert hplace remark hfits]
  refine ⟨item.covers.spaced, fun l r hlr hl hr => ?_, fun place hplace =>
    ⟨Item.of_mem_places hplace, fun remark rest => ⟨hinsert place hplace remark rest, ?_⟩⟩⟩
  · obtain ⟨cut, ⟨place, hplace, rfl⟩, hspaced⟩ := item.covers.between l r hlr hl hr
    exact ⟨place, hplace, hspaced⟩
  · intro hharmless
    obtain ⟨hfits, htoken, hleft⟩ := Item.token?_of_harmless hplace hharmless
    rw [hinsert place hplace remark rest hfits, htoken, hleft, Script.tokens_append hbefore,
      item.tokens_append]
    rfl

/-- A call with one module name in its list. -/
def listCall : Item :=
  .requiringAll ⟨[], by simp⟩ ⟨[], by simp⟩ ⟨[], by simp⟩
    (.one oneSpace.toGap ⟨'\x27', ['.', '/', 'a'], by decide, by simp⟩ ⟨[], by simp⟩ (by decide))

/-- The place before the module name. -/
def listPlace : Place :=
  ⟨⟨"require([".toList, "'./a'])".toList⟩, .listed [] [['.', '/', 'a']]⟩

/-- The other module name. -/
def otherSource : Quotation := ⟨'\x27', ['.', '/', 'b'], by decide, by simp⟩

/-- A comment with the other module name. -/
def quotingRemark : Remark :=
  ⟨oneSpace, .block ([' '] ++ (otherSource.text ++ [',', ' '])) fun h =>
    absurd (h.subset List.mem_cons_self) (by decide), oneSpace⟩

/-- The module name in the comment is one of the call. -/
theorem tokens_quotingRemark :
    listPlace ∈ listCall.places ∧ listPlace.effect.Fits quotingRemark.comment ∧
      tokens "require([ /* './b', */ './a']);".toList =
        [.reference ⟨.requiring, ["./b", "./a"], {}⟩] := by
  have hplace : listPlace ∈ listCall.places :=
    List.mem_append_right _ (List.mem_cons_of_mem _ List.mem_cons_self)
  have hunquoted : ∀ l : List Char, quotations (',' :: ' ' :: l) = quotations l := fun l =>
    quotations_append_of_unquoted (l := [',', ' ']) (List.all_eq_true.mp (by decide))
  have hfits : listPlace.effect.Fits quotingRemark.comment := by
    refine ⟨by decide, fun rest => ?_⟩
    have hquoted : ∀ l, quotations (' ' :: (otherSource.text ++ l)) =
        otherSource.content :: quotations l := fun l =>
      (quotations_append_of_unquoted (l := [' '])
        (List.forall_mem_singleton.mpr (by decide))).trans (quotations_text otherSource l)
    have hleft : quotations ([' '] ++ (otherSource.text ++ [',', ' ']) ++ rest) =
        otherSource.content :: quotations rest := by
      rw [← hunquoted rest]
      simpa using hquoted (',' :: ' ' :: rest)
    have hright : quotations ([' '] ++ (otherSource.text ++ [',', ' '])) =
        [otherSource.content] := hquoted [',', ' ']
    rw [hleft, hright]
    rfl
  obtain ⟨-, -, hplaces⟩ := @tokens_of_remark ⟨⟨[], by simp⟩, [], none⟩ rfl listCall
  obtain ⟨-, hremark⟩ := hplaces listPlace hplace
  exact ⟨hplace, hfits, (hremark quotingRemark [';']).1 hfits⟩

end ReducerAtlas.Source
