import ReducerAtlas.Artifact.GlobalModule
import ReducerAtlas.Proofs.Barred
import ReducerAtlas.Proofs.References
import ReducerAtlas.Proofs.Sorting

/-!
# Reading the global module back

The module of the global reducers imports each of them under its name and exports them all. Read as
a source it gives the imports and nothing else: its head is made of comments, an import may bind any
name, the words of the language among them, and what comes after the imports holds no quote, without
which no statement says anything.

* **`tokens_of_unquoted`**: a text without quotes gives no token.
* `Clause.ofImport_name`, `tokens_defaultImport`: the import of a default under any name.
* `tokens_header`, `tokens_importLine`: the lines of the module.
* **`tokens_globalModule`**: the tokens of the module.
-/

namespace ReducerAtlas

namespace Source

open ReducerAtlas.Text

/-! ## Text without quotes -/

section Unquoted

variable {cs : List Char} {lexeme : Lexeme}

theorem exportClause?_of_unquoted (h : ∀ c ∈ cs, isUnquoted c = true) :
    exportClause? cs = none := by
  cases cs with
  | nil => rfl
  | cons c cs =>
    have hcs := (List.forall_mem_cons.mp h).2
    have hbarred := Barred.of_unquoted hcs
    rw [exportClause?]
    split_ifs with hstar hbrace
    · rw [starAlias?_of_barred hbarred, fromSource?_of_barred hbarred]
      rfl
    · dsimp only
      split
      · rfl
      · next close rest hdrop =>
        have hrest : ∀ d ∈ rest, isUnquoted d = true := by
          intro d hd
          exact hcs d (List.mem_of_mem_drop (hdrop ▸ List.mem_cons_of_mem _ hd))
        rw [fromSource?_of_barred (.of_unquoted hrest)]
        rfl
    · rfl

theorem unquoted_after {start rest : List Char} (h : ∀ c ∈ cs, isUnquoted c = true)
    (hrest : cs = start ++ rest) : ∀ c ∈ rest.dropWhile isBlank, isUnquoted c = true := by
  intro c hc
  exact h c (hrest ▸ List.mem_append_right _ (List.dropWhile_subset _ hc))

theorem export?_of_unquoted (h : ∀ c ∈ cs, isUnquoted c = true) : export? cs = none := by
  cases hrest : after? exportWord cs with
  | none => simp [export?, hrest]
  | some rest =>
    have hbody := unquoted_after h (after?_eq_some_iff.mp hrest)
    simp [export?, hrest, exportClause?_of_unquoted hbody]

theorem quotations_of_unquoted (h : ∀ c ∈ cs, isUnquoted c = true) : quotations cs = [] := by
  rw [← List.append_nil cs, quotations_append_of_unquoted h]
  rfl

/-- A call without quotes can only have a list for its argument. -/
theorem unquoted_of_requireArgument? {argument : List Char} (h : ∀ c ∈ cs, isUnquoted c = true)
    (hfound : requireArgument? cs = some argument) : ∀ c ∈ argument, isUnquoted c = true := by
  cases cs with
  | nil => cases hfound
  | cons c cs =>
    obtain ⟨hc, hcs⟩ := List.forall_mem_cons.mp h
    rw [requireArgument?, quotation?_of_barred (.of_unquoted h)] at hfound
    dsimp only at hfound
    split_ifs at hfound with hbracket hclosed
    · cases hfound
      rw [List.cons_append, List.forall_mem_cons, List.forall_mem_append,
        List.forall_mem_singleton]
      exact ⟨hc, fun d hd => hcs d (List.takeWhile_subset _ hd), by decide⟩
    · cases hfound

theorem token?_of_require? (h : ∀ c ∈ cs, isUnquoted c = true)
    (hfound : require? cs = some lexeme) : lexeme.kind.token? = none := by
  simp only [require?, Option.bind_eq_bind, Option.bind_eq_some_iff, after?_eq_some_iff] at hfound
  obtain ⟨rest, hrest, inner, hinner, argument, hargument, hlexeme⟩ := hfound
  have hbody := unquoted_after (unquoted_after h hrest) hinner
  have hnone := quotations_of_unquoted (unquoted_of_requireArgument? hbody hargument)
  cases hlexeme
  simp only [Kind.token?, hnone]

/-- **No statement without quotes says anything.** -/
theorem token?_of_statement? (h : ∀ c ∈ cs, isUnquoted c = true)
    (hfound : statement? cs = some lexeme) : lexeme.kind.token? = none := by
  have hbarred := Barred.of_unquoted h
  rw [statement?, import?_of_barred hbarred, export?_of_unquoted h,
    constant?_of_barred hbarred] at hfound
  simp only [Option.none_or, Option.or_none] at hfound
  exact token?_of_require? h hfound

theorem token?_next {c : Char} (h : ∀ d ∈ c :: cs, isUnquoted d = true) (before : Option Char) :
    (next before c cs).kind.token? = none := by
  rcases next_cases before c cs with hread | hread | hread | hread | ⟨-, hread⟩
  · exact token?_of_comment? hread
  · exact token?_of_statement? h hread
  · exact token?_of_literal? hread
  · exact token?_of_word? hread
  · rw [hread]
    exact token?_otherText c cs

/-- **A text without quotes gives no token.** -/
theorem tokens_of_unquoted (h : ∀ c ∈ cs, isUnquoted c = true) : tokens cs = [] := by
  have hfrom : ∀ skip before, (lexemesFrom skip before cs).filterMap (·.kind.token?) = [] := by
    induction cs with
    | nil =>
      intro skip before
      rw [lexemesFrom]
      rfl
    | cons c cs ih =>
      have hcs := (List.forall_mem_cons.mp h).2
      intro skip before
      cases skip with
      | succ skip => exact ih hcs skip (some c)
      | zero =>
        simp only [lexemesFrom, List.filterMap_cons, token?_next h before]
        exact ih hcs _ _
  exact hfrom 0 none

end Unquoted

/-! ## Default imports -/

theorem dropTypeWord_name (n : Name) : dropTypeWord n.text = n.text := by
  have hblank : ∀ {word : List Char}, ' ' ∈ word → ¬ word <+: n.text := by
    intro word hword hfront
    exact absurd (n.not_blank ' ' (hfront.subset hword)) (by decide)
  rw [dropTypeWord, if_neg]
  rw [Bool.or_eq_true, List.isPrefixOf_iff_prefix, List.isPrefixOf_iff_prefix, not_or]
  exact ⟨hblank (by decide), hblank (by decide)⟩

/-- **A clause that is a name** binds it, whatever it is, and takes the whole target. -/
theorem Clause.ofImport_name (n : Name) :
    Clause.ofImport n.text = ⟨some [String.ofList n.text], none⟩ := by
  have hhead : ∀ c ∈ n.text.head?, isBlank c = false := by
    simpa using n.head_not_blank []
  have hlast : ∀ c ∈ n.text.getLast?, isBlank c = false := by
    simpa using n.last_not_blank []
  have hentries : entries n.text = [n.text] := by
    simpa using entries_name n ⟨[], by simp⟩
  rw [Clause.ofImport, trim_eq_self hhead hlast, dropTypeWord_name,
    braceList?_of_not_mem (n.not_mem (by decide))]
  simp only [hentries, List.map_cons, List.map_nil, aliasPair_name]
  rfl

/-- The default import of a name from a source. -/
def defaultImport (n : Name) (source : Quotation) : List Char :=
  importWord ++ (oneSpace.text ++
    (n.text ++ Item.fromText oneSpace.toGap oneSpace.toGap source))

theorem import?_defaultImport (n : Name) (source : Quotation) (rest : List Char) :
    (import? (defaultImport n source ++ rest)) =
      some ⟨.importing n.text source.content, defaultImport n source⟩ := by
  have hclause : ∀ c ∈ n.text, isClauseChar c = true := fun c hc => by
    simp [isClauseChar, n.named c hc]
  have hlast : ∀ c ∈ n.text.getLast?, isBlank c = false := by
    simpa using n.last_not_blank []
  have htail : importTail? oneSpace.text
      (n.text ++ (Item.fromText oneSpace.toGap oneSpace.toGap source ++ rest)) =
        some (n.text, source.content,
          n.text ++ Item.fromText oneSpace.toGap oneSpace.toGap source) := by
    rw [importTail?, importClause?_append n.text n.ne_nil hclause hlast _ _ source rest
      (.inr oneSpace.ne_nil)]
    rfl
  have htext : defaultImport n source ++ rest = importWord ++ (oneSpace.text ++
      (n.text ++ (Item.fromText oneSpace.toGap oneSpace.toGap source ++ rest))) := by
    simp [defaultImport]
  rw [htext]
  exact import?_append oneSpace.toGap (n.head_not_blank _) rfl htail

/-- **A default import** gives the import of its source under its name. -/
theorem tokens_defaultImport (n : Name) (source : Quotation) (rest : List Char) :
    tokens (defaultImport n source ++ rest) =
      .reference ⟨.importing, [String.ofList source.content],
        ⟨some [String.ofList n.text], none⟩⟩ :: tokens rest := by
  have hlast : (defaultImport n source).getLast? = some source.quote := by
    simp [defaultImport, Item.fromText, source.getLast?_text]
  rw [tokens_statement (statement?_of_import? (import?_defaultImport n source rest))
    (by rintro _ ⟨⟩; decide) hlast source.quote_not_word, Kind.token?, Clause.ofImport_name]
  rfl

end Source

namespace Artifact

open ReducerAtlas.Text ReducerAtlas.Source

/-! ## Lines -/

/-- Lines of text, each with its end. -/
def lineText (lines : List String) : List Char :=
  lines.flatMap fun s => s.toList ++ ['\n']

theorem lineText_append (lines more : List String) :
    lineText (lines ++ more) = lineText lines ++ lineText more :=
  List.flatMap_append

theorem toList_joinWith_lines (lines : List String) :
    (joinWith "\n" (lines ++ [""])).toList = lineText lines := by
  induction lines with
  | nil => rfl
  | cons s lines ih =>
    have hjoin : joinWith "\n" (s :: (lines ++ [""])) =
        s ++ "\n" ++ joinWith "\n" (lines ++ [""]) := by
      cases lines <;> rfl
    rw [List.cons_append, hjoin, String.toList_append, String.toList_append, ih]
    rfl

theorem tokens_commentLines {lines : List String}
    (h : ∀ s ∈ lines, ∃ content, s.toList = '/' :: '*' :: (content ++ ['*', '/']) ∧ '*' ∉ content)
    (rest : List Char) :
    tokens (lineText lines ++ rest) = tokens rest := by
  induction lines with
  | nil => rfl
  | cons s lines ih =>
    obtain ⟨⟨content, hs, hstar⟩, hlines⟩ := List.forall_mem_cons.mp h
    have hopen : ¬ ['*', '/'] <:+: content := fun hclose => hstar (hclose.subset (by simp))
    have hend : ∀ c ∈ ['\n'], isOther c = true := List.forall_mem_singleton.mpr (by decide)
    rw [lineText, List.flatMap_cons, hs, List.append_assoc, List.append_assoc,
      tokens_blockComment hopen, tokens_filler hend]
    exact ih hlines

theorem tokens_header (rest : List Char) : tokens (lineText header ++ rest) = tokens rest := by
  apply tokens_commentLines
  intro s hs
  simp only [header, List.mem_cons, List.not_mem_nil, or_false] at hs
  obtain rfl | rfl := hs
  · exact ⟨" AUTOGENERATED FILE - DO NOT MODIFY ".toList, by decide, by decide⟩
  · exact ⟨" generated by redux-mapper ".toList, by decide, by decide⟩

/-- A reducer that can be imported under its name from a quoted path. -/
structure Importable (r : Reducer) : Prop where
  ne_empty : r.name ≠ ""
  named : ∀ c ∈ r.name.toList, isNameChar c = true
  unquoted : '\x22' ∉ r.definition.render.toList
  inLine : '\n' ∉ r.definition.render.toList

instance : DecidablePred Importable := fun r =>
  decidable_of_iff (r.name ≠ "" ∧ r.name.toList.all isNameChar = true ∧
    '\x22' ∉ r.definition.render.toList ∧ '\n' ∉ r.definition.render.toList)
    ⟨fun h => ⟨h.1, List.all_eq_true.mp h.2.1, h.2.2.1, h.2.2.2⟩,
      fun h => ⟨h.ne_empty, List.all_eq_true.mpr h.named, h.unquoted, h.inLine⟩⟩

/-- The import of a reducer's definition, as a token. -/
def importToken (folder : Path) (r : Reducer) : Token :=
  .reference ⟨.importing, [moduleReference r.definition folder], ⟨some [r.name], none⟩⟩

theorem tokens_importLine {r : Reducer} (h : Importable r) (folder : Path) (rest : List Char) :
    tokens ((importLine folder r).toList ++ '\n' :: rest) =
      importToken folder r :: tokens rest := by
  have hname : r.name.toList ≠ [] := mt String.toList_eq_nil_iff.mp h.ne_empty
  have hplain : ∀ c ∈ (moduleReference r.definition folder).toList, c ≠ '\x22' ∧ c ≠ '\n' := by
    intro c hc
    constructor
    all_goals
      rintro rfl
      obtain hc | hc | hc := mem_moduleReference hc
      · exact absurd hc (by decide)
      · exact absurd hc (by decide)
    · exact h.unquoted hc
    · exact h.inLine hc
  have hline : (importLine folder r).toList ++ '\n' :: rest =
      defaultImport ⟨r.name.toList, hname, h.named⟩
        ⟨'\x22', (moduleReference r.definition folder).toList, .inr rfl, hplain⟩ ++
          ([';', '\n'] ++ rest) := by
    simp [importLine, defaultImport, importWord, oneSpace, Item.fromText, fromWord, Quotation.text]
  have hend : ∀ c ∈ [';', '\n'], isOther c = true := List.all_eq_true.mp (by decide)
  rw [hline, tokens_defaultImport, tokens_filler hend, String.ofList_toList, String.ofList_toList]
  rfl

theorem tokens_importLines {reducers : List Reducer} (h : ∀ r ∈ reducers, Importable r)
    (folder : Path) (rest : List Char) :
    tokens (lineText (reducers.map (importLine folder)) ++ rest) =
      reducers.map (importToken folder) ++ tokens rest := by
  induction reducers with
  | nil => rfl
  | cons r reducers ih =>
    obtain ⟨hr, hreducers⟩ := List.forall_mem_cons.mp h
    rw [List.map_cons, lineText, List.flatMap_cons, List.append_assoc, List.append_assoc,
      List.singleton_append, tokens_importLine hr, List.map_cons, List.cons_append,
      ← ih hreducers]
    rfl

theorem unquoted_exportLine {r : Reducer} (h : Importable r) :
    ∀ c ∈ (exportLine r).toList, isUnquoted c = true := by
  have hblanks : ∀ c ∈ "  ".toList, isUnquoted c = true := List.all_eq_true.mp (by decide)
  have hcomma : ∀ c ∈ ",".toList, isUnquoted c = true := List.all_eq_true.mp (by decide)
  rw [exportLine, String.toList_append, String.toList_append, List.forall_mem_append,
    List.forall_mem_append]
  refine ⟨⟨hblanks, fun c hc => isUnquoted_of_isClauseChar ?_⟩, hcomma⟩
  simp [isClauseChar, h.named c hc]

theorem unquoted_exportLines {reducers : List Reducer} (h : ∀ r ∈ reducers, Importable r) :
    ∀ c ∈ lineText ("" :: "export default \x7b" :: reducers.map exportLine ++ ["\x7d;"]),
      isUnquoted c = true := by
  have hlines : ∀ s ∈ "" :: "export default \x7b" :: reducers.map exportLine ++ ["\x7d;"],
      ∀ c ∈ s.toList, isUnquoted c = true := by
    have hopen : ∀ c ∈ "export default \x7b".toList, isUnquoted c = true :=
      List.all_eq_true.mp (by decide)
    have hclose : ∀ c ∈ "\x7d;".toList, isUnquoted c = true := List.all_eq_true.mp (by decide)
    simp only [List.cons_append, List.forall_mem_cons, List.forall_mem_append, List.forall_mem_map]
    exact ⟨by simp, hopen, fun r hr => unquoted_exportLine (h r hr), hclose, by simp⟩
  intro c hc
  obtain ⟨s, hs, hc⟩ := List.mem_flatMap.mp hc
  obtain hc | hc := List.mem_append.mp hc
  · exact hlines s hs c hc
  · rw [List.mem_singleton.mp hc]
    decide

/-- **The global module reads back as its imports**: one for each reducer, in the order of their
names, and nothing else. -/
theorem tokens_globalModule (globals : List Reducer) (output : Path)
    (h : ∀ r ∈ globals, Importable r) :
    ∃ sorted, InKeyOrder Reducer.name globals sorted ∧
      tokens (globalModule globals output).toList = sorted.map (importToken output.parent) := by
  have horder := Reducer.inKeyOrder_sortByName globals
  have hsorted : ∀ r ∈ Reducer.sortByName globals, Importable r :=
    fun r hr => h r (horder.perm.mem_iff.mp hr)
  refine ⟨Reducer.sortByName globals, horder, ?_⟩
  have hlines : globalModule globals output = joinWith "\n" ((header ++
      ((Reducer.sortByName globals).map (importLine output.parent) ++
        ("" :: "export default \x7b" :: (Reducer.sortByName globals).map exportLine ++
          ["\x7d;"]))) ++ [""]) := by
    unfold globalModule
    dsimp only
    simp only [List.append_assoc, List.cons_append, List.nil_append]
  rw [hlines, toList_joinWith_lines, lineText_append, lineText_append, tokens_header,
    tokens_importLines hsorted, tokens_of_unquoted (unquoted_exportLines hsorted), List.append_nil]

/-- Reducers named by words of the language, two of them by the same one, and a path with an
apostrophe. -/
def keywordReducers : List Reducer := [
  ⟨"type", Path.parse "/lib/type.js", none⟩,
  ⟨"from", Path.parse "/lib/z'/from.js", none⟩,
  ⟨"$", Path.parse "/out/import.jsx", none⟩,
  ⟨"from", Path.parse "/lib/a/from.js", none⟩]

theorem tokens_keywordReducers :
    (∀ r ∈ keywordReducers, Importable r) ∧
    ∃ sorted, InKeyOrder Reducer.name keywordReducers sorted ∧
      tokens (globalModule keywordReducers (Path.parse "/out/globals.js")).toList =
        sorted.map (importToken (Path.parse "/out")) := by
  have himportable : ∀ r ∈ keywordReducers, Importable r := by decide
  exact ⟨himportable,
    tokens_globalModule keywordReducers (Path.parse "/out/globals.js") himportable⟩

end Artifact

end ReducerAtlas
