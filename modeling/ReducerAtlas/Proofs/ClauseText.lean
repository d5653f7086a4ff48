import Mathlib.Data.List.Basic
import Mathlib.Data.List.TakeWhile
import ReducerAtlas.Proofs.Path
import ReducerAtlas.Proofs.Script

/-!
# Reading clauses back

The text of a clause is cut at commas and blanks, and neither of them is part of a name. So the
entries that were written are the entries that are read.

* `Text.isNameChar_of_isBlank`: no blank is part of a name.
* `Text.trim_append`, `Text.words_append`: taking blanks away and cutting at them.
* `entries_text`, `aliasPair_text`: the entries of a brace list.
* **`Clause.ofImport_text`**, **`Clause.ofExport_braced`**: the clauses that were written.
-/

namespace ReducerAtlas

/-! ## Blanks and names -/

namespace Text

/-- The code points of the blanks. -/
def blankIntervals : Intervals :=
  [(9, 13), (28, 32), (0x85, 0x85), (0xA0, 0xA0), (0x1680, 0x1680), (0x2000, 0x200A),
    (0x2028, 0x2028), (0x2029, 0x2029), (0x202F, 0x202F), (0x205F, 0x205F), (0x3000, 0x3000)]

theorem isBlank_eq (c : Char) : isBlank c = blankIntervals.holds c.toNat := by
  have hsingle : ∀ n code : Nat, (n == code) = (decide (code ≤ n) && decide (n ≤ code)) := by
    intro n code
    rw [Bool.eq_iff_iff, beq_iff_eq, Bool.and_eq_true, decide_eq_true_eq, decide_eq_true_eq]
    omega
  simp only [isBlank, hsingle, Intervals.holds, blankIntervals, List.any_cons, List.any_nil,
    Bool.or_false, Bool.or_assoc]

/-- What holds at every code point of the table holds of every blank. -/
theorem false_of_isBlank {p : Char → Bool} {c : Char}
    (hall : ∀ i ∈ blankIntervals, ∀ k < i.2 + 1 - i.1, p (Char.ofNat (i.1 + k)) = false)
    (h : isBlank c = true) : p c = false := by
  rw [isBlank_eq] at h
  obtain ⟨i, hi, hlow, hhigh⟩ := Intervals.holds_iff.mp h
  have hcode := hall i hi (c.toNat - i.1) (by omega)
  rwa [Nat.add_sub_cancel' hlow, Char.ofNat_toNat] at hcode

theorem isNameChar_of_isBlank {c : Char} (h : isBlank c = true) : isNameChar c = false :=
  false_of_isBlank (by decide +kernel) h

theorem isBlank_of_isNameChar {c : Char} (h : isNameChar c = true) : isBlank c = false := by
  by_contra hb
  rw [isNameChar_of_isBlank (by simpa using hb)] at h
  cases h

variable {l g g' w rest : List Char}

/-! ## Taking blanks away and cutting at them -/

theorem trimWith_append {p : Char → Bool} (hg : ∀ c ∈ g, p c = true) (hg' : ∀ c ∈ g', p c = true)
    (hhead : ∀ c ∈ l.head?, p c = false) (hlast : ∀ c ∈ l.getLast?, p c = false) :
    trimWith p (g ++ (l ++ g')) = l := by
  have hback : ∀ m : List Char, (∀ c ∈ m.head?, p c = false) → m.dropWhile p = m := by
    intro m hm
    cases m with
    | nil => rfl
    | cons c m => rw [List.dropWhile_cons_of_neg (by simpa using hm c rfl)]
  cases hl : l with
  | nil =>
    have hall : (g ++ ([] ++ g')).dropWhile p = [] := by
      rw [List.nil_append, List.dropWhile_append_of_pos hg, ← List.append_nil g',
        List.dropWhile_append_of_pos hg']
      rfl
    rw [trimWith, hall]
    rfl
  | cons c m =>
    subst hl
    have hfront : (g ++ (c :: m ++ g')).dropWhile p = c :: m ++ g' := by
      rw [List.dropWhile_append_of_pos hg, hback _ (by simpa using hhead)]
    rw [trimWith, hfront, List.reverse_append,
      List.dropWhile_append_of_pos (by simpa using hg'), hback _ (by rwa [List.head?_reverse]),
      List.reverse_reverse]

theorem trim_append (hg : ∀ c ∈ g, isBlank c = true) (hg' : ∀ c ∈ g', isBlank c = true)
    (hhead : ∀ c ∈ l.head?, isBlank c = false) (hlast : ∀ c ∈ l.getLast?, isBlank c = false) :
    trim (g ++ (l ++ g')) = l :=
  trimWith_append hg hg' hhead hlast

theorem trim_eq_self (hhead : ∀ c ∈ l.head?, isBlank c = false)
    (hlast : ∀ c ∈ l.getLast?, isBlank c = false) : trim l = l := by
  have hnone : ∀ c ∈ ([] : List Char), isBlank c = true := by simp
  simpa using trim_append hnone hnone hhead hlast

theorem trim_of_blank (hg : ∀ c ∈ g, isBlank c = true) : trim g = [] := by
  have hnone : ∀ c ∈ ([] : List Char), isBlank c = true := by simp
  simpa using trim_append (l := []) hg hnone (by simp) (by simp)

theorem splitBy_ne_nil (p : Char → Bool) (l : List Char) : splitBy p l ≠ [] := by
  cases l with
  | nil => simp [splitBy]
  | cons c l =>
    rw [splitBy]
    split_ifs
    · simp
    · cases splitBy p l <;> simp

theorem splitBy_append_cons {p : Char → Bool} {c : Char} (hc : p c = true) :
    splitBy p (l ++ c :: rest) = splitBy p l ++ splitBy p rest := by
  induction l with
  | nil => exact splitBy_cons_sep hc
  | cons d l ih =>
    simp only [List.cons_append, splitBy, ih]
    split_ifs
    · rfl
    · obtain ⟨piece, pieces, hl⟩ := List.exists_cons_of_ne_nil (splitBy_ne_nil p l)
      rw [hl]
      rfl

theorem words_append_cons {c : Char} (hc : isBlank c = true) :
    words (l ++ c :: rest) = words l ++ words rest := by
  rw [words, splitBy_append_cons hc, List.filter_append]
  rfl

theorem words_blank_append (hg : ∀ c ∈ g, isBlank c = true) : words (g ++ rest) = words rest := by
  induction g with
  | nil => rfl
  | cons c g ih =>
    obtain ⟨hc, hg⟩ := List.forall_mem_cons.mp hg
    rw [← ih hg]
    exact words_append_cons (l := []) hc

theorem words_of_word (hw : ∀ c ∈ w, isBlank c = false) (hne : w ≠ []) : words w = [w] := by
  rw [words, splitBy_of_forall hw]
  simp [hne]

theorem words_append (hg : ∀ c ∈ g, isBlank c = true) (hne : g ≠ []) :
    words (l ++ (g ++ rest)) = words l ++ words rest := by
  obtain ⟨c, g, rfl⟩ := List.exists_cons_of_ne_nil hne
  obtain ⟨hc, hg⟩ := List.forall_mem_cons.mp hg
  rw [List.cons_append, words_append_cons hc, words_blank_append hg]

theorem words_append_blank (hg : ∀ c ∈ g, isBlank c = true) : words (l ++ g) = words l := by
  by_cases hne : g = []
  · rw [hne, List.append_nil]
  · have hwords : words (l ++ (g ++ [])) = words l ++ words [] := words_append hg hne
    rw [List.append_nil] at hwords
    rw [hwords]
    exact List.append_nil _

theorem words_ne_nil {c : Char} (hc : isBlank c = false) (l : List Char) : words (c :: l) ≠ [] := by
  obtain ⟨piece, pieces, hl⟩ := List.exists_cons_of_ne_nil (splitBy_ne_nil isBlank l)
  simp [words, splitBy, hc, hl]

theorem exists_trim (l : List Char) : ∃ g g', (∀ c ∈ g, isBlank c = true) ∧
    (∀ c ∈ g', isBlank c = true) ∧ l = g ++ (trim l ++ g') := by
  refine ⟨l.takeWhile isBlank, ((l.dropWhile isBlank).reverse.takeWhile isBlank).reverse,
    fun c hc => List.mem_takeWhile_imp hc,
    fun c hc => List.mem_takeWhile_imp (List.mem_reverse.mp hc), ?_⟩
  rw [trim, trimWith, ← List.reverse_append, List.takeWhile_append_dropWhile, List.reverse_reverse,
    List.takeWhile_append_dropWhile]

theorem words_trim (l : List Char) : words (trim l) = words l := by
  obtain ⟨g, g', hg, hg', hl⟩ := exists_trim l
  rw [hl, words_blank_append hg, words_append_blank hg', ← hl]

end Text

namespace Source

open ReducerAtlas.Text

/-! ## Characters of the pieces -/

theorem Gap.not_mem (g : Gap) {c : Char} (h : isBlank c = false) : c ∉ g.text := fun hc => by
  rw [g.blank c hc] at h
  cases h

theorem Name.not_mem (n : Name) {c : Char} (h : isNameChar c = false) : c ∉ n.text := fun hc => by
  rw [n.named c hc] at h
  cases h

theorem Name.not_blank (n : Name) : ∀ c ∈ n.text, isBlank c = false := fun c hc =>
  isBlank_of_isNameChar (n.named c hc)

theorem Name.head_not_blank (n : Name) (l : List Char) :
    ∀ c ∈ (n.text ++ l).head?, isBlank c = false := by
  intro c hc
  rw [List.head?_append_of_ne_nil _ n.ne_nil] at hc
  exact n.not_blank c (List.mem_of_mem_head? hc)

theorem Name.last_not_blank (n : Name) (l : List Char) :
    ∀ c ∈ (l ++ n.text).getLast?, isBlank c = false := by
  intro c hc
  rw [List.getLast?_append_of_ne_nil _ n.ne_nil] at hc
  exact n.not_blank c (List.mem_of_mem_getLast? hc)

theorem asWord_named : ∀ c ∈ asWord, isNameChar c = true :=
  List.all_eq_true.mp (by decide)

theorem asWord_not_blank : ∀ c ∈ asWord, isBlank c = false := fun c hc =>
  isBlank_of_isNameChar (asWord_named c hc)

namespace ClauseEntry

theorem mem_text (e : ClauseEntry) {c : Char} (h : c ∈ e.text) :
    isNameChar c = true ∨ isBlank c = true := by
  cases e with
  | plain name => exact .inl (name.named c h)
  | renamed name before after called =>
    simp only [text, List.mem_append] at h
    obtain h | h | h | h | h := h
    · exact .inl (name.named c h)
    · exact .inr (before.blank c h)
    · exact .inl (asWord_named c h)
    · exact .inr (after.blank c h)
    · exact .inl (called.named c h)

theorem not_mem (e : ClauseEntry) {c : Char} (hname : isNameChar c = false)
    (hblank : isBlank c = false) : c ∉ e.text := fun h => by
  simpa [hname, hblank] using e.mem_text h

theorem aliasPair_text (e : ClauseEntry) : aliasPair e.text = (e.imported.text, e.bound.text) := by
  cases e with
  | plain name => simp [aliasPair, text, imported, bound, words_of_word name.not_blank name.ne_nil]
  | renamed name before after called =>
    have hwords : words (text (renamed name before after called)) =
        [name.text, asWord, called.text] := by
      rw [text, words_append before.blank before.ne_nil, words_append after.blank after.ne_nil,
        words_of_word name.not_blank name.ne_nil, words_of_word asWord_not_blank (by decide),
        words_of_word called.not_blank called.ne_nil]
      rfl
    simp [aliasPair, hwords, imported, bound]

theorem text_ne_nil (e : ClauseEntry) : e.text ≠ [] := by
  cases e with
  | plain name => exact name.ne_nil
  | renamed name before after called => simp [text, name.ne_nil]

theorem head_not_blank (e : ClauseEntry) : ∀ c ∈ e.text.head?, isBlank c = false := by
  cases e with
  | plain name => simpa [text] using name.head_not_blank []
  | renamed name before after called => exact name.head_not_blank _

theorem last_not_blank (e : ClauseEntry) : ∀ c ∈ e.text.getLast?, isBlank c = false := by
  cases e with
  | plain name => exact name.last_not_blank []
  | renamed name before after called =>
    simpa [text] using called.last_not_blank (name.text ++ (before.text ++ (asWord ++ after.text)))

end ClauseEntry

/-! ## Entries -/

theorem entries_of_not_mem {l : List Char} (h : ',' ∉ l) :
    entries l = if (trim l).isEmpty then [] else [trim l] := by
  have hsplit : splitBy (· == ',') l = [l] := splitBy_of_forall fun c hc => by
    rw [beq_eq_false_iff_ne]
    rintro rfl
    exact h hc
  rw [entries, hsplit]
  split_ifs with he <;> simp [he]

theorem aliasPair_of_words {l first last : List Char} (hfirst : (words l).head? = some first)
    (hlast : (words l).getLast? = some last) : aliasPair l = (first, last) := by
  cases hwords : words l with
  | nil =>
    rw [hwords] at hfirst
    cases hfirst
  | cons w ws =>
    rw [hwords] at hfirst hlast
    cases hfirst
    simp only [aliasPair, hwords, List.getLastD_eq_getLast?, hlast]
    rfl

/-- A text without a comma is one entry. -/
theorem pairs_of_words {l first last : List Char} (hcomma : ',' ∉ l)
    (hfirst : (words l).head? = some first) (hlast : (words l).getLast? = some last) :
    (entries l).map aliasPair = [(first, last)] := by
  rw [← words_trim] at hfirst hlast
  have hne : (trim l).isEmpty = false := by
    cases htrim : trim l with
    | nil =>
      rw [htrim] at hfirst
      cases hfirst
    | cons c cs => rfl
  rw [entries_of_not_mem hcomma, hne, if_neg Bool.false_ne_true, List.map_singleton,
    aliasPair_of_words hfirst hlast]

theorem entries_append_comma (l rest : List Char) :
    entries (l ++ ',' :: rest) = entries l ++ entries rest := by
  rw [entries, splitBy_append_cons rfl, List.map_append, List.filter_append]
  rfl

theorem entries_entry (before : Gap) (e : ClauseEntry) (after : Gap) :
    entries (before.text ++ (e.text ++ after.text)) = [e.text] := by
  have hcomma : ',' ∉ before.text ++ (e.text ++ after.text) := by
    simp only [List.mem_append, not_or]
    exact ⟨before.not_mem (by decide), e.not_mem (by decide) (by decide), after.not_mem (by decide)⟩
  have htrim := trim_append before.blank after.blank e.head_not_blank e.last_not_blank
  rw [entries_of_not_mem hcomma, htrim, if_neg (by simp [e.text_ne_nil])]

theorem EntryList.entries_text (list : EntryList) :
    Source.entries list.text = list.entries.map ClauseEntry.text := by
  induction list with
  | none gap =>
    rw [text, entries_of_not_mem (gap.not_mem (by decide)), trim_of_blank gap.blank]
    rfl
  | one before entry after => exact entries_entry before entry after
  | more before entry after rest ih =>
    have htext : text (more before entry after rest) =
        (before.text ++ (entry.text ++ after.text)) ++ ',' :: rest.text := by
      simp [text]
    rw [htext, entries_append_comma, entries_entry, ih]
    rfl

theorem EntryList.pairs_text (list : EntryList) :
    (Source.entries list.text).map aliasPair =
      list.entries.map fun e => (e.imported.text, e.bound.text) := by
  rw [list.entries_text, List.map_map]
  exact List.map_congr_left fun e _ => e.aliasPair_text

theorem EntryList.mem_text (list : EntryList) {c : Char} (h : c ∈ list.text) :
    isNameChar c = true ∨ isBlank c = true ∨ c = ',' := by
  have hentry : ∀ {e : ClauseEntry}, c ∈ e.text →
      isNameChar c = true ∨ isBlank c = true ∨ c = ',' := fun hc =>
    (ClauseEntry.mem_text _ hc).imp_right .inl
  induction list with
  | none gap => exact .inr (.inl (gap.blank c h))
  | one before entry after =>
    simp only [text, List.mem_append] at h
    obtain h | h | h := h
    · exact .inr (.inl (before.blank c h))
    · exact hentry h
    · exact .inr (.inl (after.blank c h))
  | more before entry after rest ih =>
    simp only [text, List.mem_append, List.mem_cons] at h
    obtain h | h | h | h | h := h
    · exact .inr (.inl (before.blank c h))
    · exact hentry h
    · exact .inr (.inl (after.blank c h))
    · exact .inr (.inr h)
    · exact ih h

theorem EntryList.not_mem (list : EntryList) {c : Char} (hname : isNameChar c = false)
    (hblank : isBlank c = false) (hcomma : c ≠ ',') : c ∉ list.text := fun h => by
  simpa [hname, hblank, hcomma] using list.mem_text h

/-! ## Brace lists -/

section Braces

variable {cs front inner rest : List Char}

theorem takeWhile_append_of_head {p : Char → Bool} (h : ∀ d ∈ front, p d = true)
    (hrest : ∀ d ∈ rest.head?, p d = false) : (front ++ rest).takeWhile p = front := by
  rw [List.takeWhile_append_of_pos h]
  cases rest with
  | nil => simp
  | cons c rest => rw [List.takeWhile_cons_of_neg (by simp [hrest c rfl]), List.append_nil]

theorem dropWhile_append_of_head {p : Char → Bool} (h : ∀ d ∈ front, p d = true)
    (hrest : ∀ d ∈ rest.head?, p d = false) : (front ++ rest).dropWhile p = rest := by
  rw [List.dropWhile_append_of_pos h]
  cases rest with
  | nil => rfl
  | cons c rest => rw [List.dropWhile_cons_of_neg (by simp [hrest c rfl])]

theorem takeWhile_ne_append {c : Char} (h : c ∉ front) :
    (front ++ c :: rest).takeWhile (· != c) = front :=
  takeWhile_append_of_head (fun d hd => bne_iff_ne.mpr fun e => h (e ▸ hd)) (by simp)

theorem braceList?_append (rest : List Char) (hfront : '\x7b' ∉ front) (hinner : '\x7d' ∉ inner) :
    braceList? (front ++ '\x7b' :: (inner ++ '\x7d' :: rest)) = some (inner, front ++ rest) := by
  simp only [braceList?, takeWhile_ne_append hfront, List.drop_left, takeWhile_ne_append hinner]

theorem braceList?_of_not_mem (h : '\x7b' ∉ cs) : braceList? cs = none := by
  have hclass : ∀ d ∈ cs, (d != '\x7b') = true := fun d hd => bne_iff_ne.mpr fun e => h (e ▸ hd)
  have hall : cs.takeWhile (· != '\x7b') = cs := by
    rw [← List.append_nil cs, List.takeWhile_append_of_pos (by simpa using hclass)]
    rfl
  simp [braceList?, hall]

end Braces

/-! ## Clauses -/

theorem nameSet_congr {l m : List (List Char)} (h : ∀ x, x ∈ l ↔ x ∈ m) :
    nameSet l = nameSet m := by
  have hmem : ∀ x, x ∈ nameSet l ↔ x ∈ nameSet m := by
    intro x
    simp only [nameSet, NameSet.mem_ofList, List.mem_map, h]
  have hnodup : ∀ k : List (List Char), (nameSet k).Nodup := fun k =>
    (NameSet.ordered_ofList _).imp fun hlt => fun e => String.lt_irrefl _ (e ▸ hlt)
  have hperm := (List.perm_ext_iff_of_nodup (hnodup l) (hnodup m)).mpr hmem
  exact hperm.eq_of_pairwise (fun _ _ _ _ h1 h2 => absurd h1 (String.lt_asymm h2))
    (NameSet.ordered_ofList _) (NameSet.ordered_ofList _)

/-- A text that starts with a name has no other word in front. -/
theorem Name.not_isPrefixOf (n : Name) {w rest : List Char} (hw : ∀ c ∈ w, isNameChar c = true)
    (hne : n.text ≠ w) (hrest : ∀ c ∈ rest.head?, isNameChar c = false) :
    (w ++ [' ']).isPrefixOf (n.text ++ rest) = false := by
  by_contra hpre
  obtain ⟨tail, htail⟩ := List.isPrefixOf_iff_prefix.mp (Bool.not_eq_false _ ▸ hpre)
  have hfront : (n.text ++ rest).takeWhile isNameChar = n.text :=
    takeWhile_append_of_head n.named hrest
  have hword : (w ++ ' ' :: tail).takeWhile isNameChar = w :=
    takeWhile_append_of_head hw (by rintro _ ⟨⟩; decide)
  apply hne
  rw [← hfront, ← htail, List.append_assoc]
  exact hword

theorem DefaultName.dropTypeWord_append (n : DefaultName) {rest : List Char}
    (hrest : ∀ c ∈ rest.head?, isNameChar c = false) :
    dropTypeWord (n.text ++ rest) = n.text ++ rest := by
  have htype : "type ".toList.isPrefixOf (n.text ++ rest) = false :=
    n.not_isPrefixOf (w := "type".toList) (List.all_eq_true.mp (by decide)) n.ne_type hrest
  have htypeof : "typeof ".toList.isPrefixOf (n.text ++ rest) = false :=
    n.not_isPrefixOf (w := "typeof".toList) (List.all_eq_true.mp (by decide)) n.ne_typeof hrest
  rw [dropTypeWord, htype, htypeof]
  rfl

theorem dropTypeWord_cons {c : Char} (h : c ≠ 't') (rest : List Char) :
    dropTypeWord (c :: rest) = c :: rest := by
  simp [dropTypeWord, List.isPrefixOf, h.symm]

namespace Selection

variable (s : Selection)

theorem exists_text : ∃ c rest, s.text = c :: rest ∧ (c = '\x7b' ∨ c = '*') := by
  cases s with
  | braces list => exact ⟨_, _, rfl, .inl rfl⟩
  | star gap space name => exact ⟨_, _, rfl, .inr rfl⟩

theorem text_ne_nil : s.text ≠ [] := by
  obtain ⟨c, rest, htext, -⟩ := s.exists_text
  simp [htext]

theorem head_not_blank : ∀ c ∈ s.text.head?, isBlank c = false := by
  obtain ⟨c, rest, htext, rfl | rfl⟩ := s.exists_text <;>
    · rw [htext]
      rintro _ ⟨⟩
      decide

theorem getLast?_braces (list : EntryList) : (braces list).text.getLast? = some '\x7d' := by
  rw [text, EntryList.braced, ← List.cons_append, List.getLast?_concat]

theorem last_not_blank : ∀ c ∈ s.text.getLast?, isBlank c = false := by
  cases s with
  | braces list =>
    rw [getLast?_braces]
    rintro _ ⟨⟩
    decide
  | star gap space name =>
    simpa [text] using name.last_not_blank ('*' :: (gap.text ++ (asWord ++ space.text)))

theorem last_not_word (h : s.endsWord = false) : ∀ c ∈ s.text.getLast?, isWord c = false := by
  cases s with
  | braces list =>
    rw [getLast?_braces]
    rintro _ ⟨⟩
    decide
  | star gap space name => cases h

end Selection

namespace ImportClause

variable (clause : ImportClause)

theorem getLast?_both (name : DefaultName) (before after : Gap) (s : Selection) :
    (both name before after s).text.getLast? = s.text.getLast? := by
  have htext : text (both name before after s) =
      (name.text ++ (before.text ++ ',' :: after.text)) ++ s.text := by
    simp [text]
  rw [htext, List.getLast?_append_of_ne_nil _ s.text_ne_nil]

theorem text_ne_nil : clause.text ≠ [] := by
  cases clause with
  | default name => exact name.ne_nil
  | selection s => exact s.text_ne_nil
  | both name before after s => simp [text, name.ne_nil]

theorem head_not_blank : ∀ c ∈ clause.text.head?, isBlank c = false := by
  cases clause with
  | default name => simpa [text] using name.head_not_blank []
  | selection s => exact s.head_not_blank
  | both name before after s => exact name.head_not_blank _

theorem last_not_blank : ∀ c ∈ clause.text.getLast?, isBlank c = false := by
  cases clause with
  | default name => exact name.last_not_blank []
  | selection s => exact s.last_not_blank
  | both name before after s =>
    rw [getLast?_both]
    exact s.last_not_blank

theorem head_not_word (h : clause.startsWord = false) :
    ∀ c ∈ clause.text.head?, isWord c = false := by
  cases clause with
  | default name => cases h
  | selection s =>
    obtain ⟨c, rest, htext, rfl | rfl⟩ := s.exists_text <;>
      · rw [text, htext]
        rintro _ ⟨⟩
        decide
  | both name before after s => cases h

theorem last_not_word (h : clause.endsWord = false) :
    ∀ c ∈ clause.text.getLast?, isWord c = false := by
  cases clause with
  | default name => cases h
  | selection s => exact s.last_not_word h
  | both name before after s =>
    rw [getLast?_both]
    exact s.last_not_word h

/-- Nothing is taken away from a clause. -/
theorem dropTypeWord_trim_text : dropTypeWord (trim clause.text) = clause.text := by
  rw [trim_eq_self clause.head_not_blank clause.last_not_blank]
  cases clause with
  | default name =>
    have hnone : ∀ c ∈ ([] : List Char).head?, isNameChar c = false := by simp
    simpa [text] using name.dropTypeWord_append hnone
  | selection s =>
    obtain ⟨c, rest, htext, rfl | rfl⟩ := s.exists_text <;>
      · rw [text, htext, dropTypeWord_cons (by decide)]
  | both name before after s =>
    apply name.dropTypeWord_append
    intro c hc
    cases hgap : before.text with
    | nil =>
      rw [hgap] at hc
      cases hc
      decide
    | cons d g =>
      rw [hgap] at hc
      cases hc
      exact isNameChar_of_isBlank (before.blank _ (by simp [hgap]))

end ImportClause

theorem EntryList.bindings_text (list : EntryList) :
    ((Source.entries list.text).map aliasPair).map (·.2) = list.locals := by
  rw [list.pairs_text, List.map_map]
  rfl

theorem EntryList.restriction_text (list : EntryList) :
    ((Source.entries list.text).map aliasPair).map (·.1) = list.imported := by
  rw [list.pairs_text, List.map_map]
  rfl

/-- The last word after a star is the name of everything. -/
theorem aliasPair_star (gap : Gap) (space : Space) (name : Name) :
    (aliasPair (Selection.star gap space name).text).2 = name.text := by
  have hwords : words (Selection.star gap space name).text =
      words ('*' :: (gap.text ++ asWord)) ++ [name.text] := by
    have htext : (Selection.star gap space name).text =
        ('*' :: (gap.text ++ asWord)) ++ (space.text ++ name.text) := by
      simp [Selection.text]
    rw [htext, words_append space.blank space.ne_nil, words_of_word name.not_blank name.ne_nil]
  rw [aliasPair, hwords]
  cases words ('*' :: (gap.text ++ asWord)) with
  | nil => rfl
  | cons first rest =>
    rw [List.cons_append]
    dsimp only
    rw [← List.cons_append, List.getLastD_concat]

theorem mem_star {gap : Gap} {space : Space} {name : Name} {c : Char}
    (h : c ∈ (Selection.star gap space name).text) :
    isNameChar c = true ∨ isBlank c = true ∨ c = '*' := by
  simp only [Selection.text, List.mem_cons, List.mem_append] at h
  obtain h | h | h | h | h := h
  · exact .inr (.inr h)
  · exact .inr (.inl (gap.blank c h))
  · exact .inl (asWord_named c h)
  · exact .inr (.inl (space.blank c h))
  · exact .inl (name.named c h)

theorem star_not_mem (gap : Gap) (space : Space) (name : Name) {c : Char}
    (hname : isNameChar c = false) (hblank : isBlank c = false) (hstar : c ≠ '*') :
    c ∉ (Selection.star gap space name).text := fun h => by
  simpa [hname, hblank, hstar] using mem_star h

theorem entries_star (before : Gap) (gap : Gap) (space : Space) (name : Name) :
    entries (before.text ++ (Selection.star gap space name).text) =
      [(Selection.star gap space name).text] := by
  have hcomma : ',' ∉ before.text ++ (Selection.star gap space name).text := by
    rw [List.mem_append, not_or]
    exact ⟨before.not_mem (by decide),
      star_not_mem gap space name (by decide) (by decide) (by decide)⟩
  have hnone : ∀ c ∈ ([] : List Char), isBlank c = true := by simp
  have htrim := trim_append before.blank hnone (Selection.star gap space name).head_not_blank
    (Selection.star gap space name).last_not_blank
  rw [List.append_nil] at htrim
  rw [entries_of_not_mem hcomma, htrim, if_neg (by simp [Selection.text])]

theorem entries_name (n : Name) (after : Gap) : entries (n.text ++ after.text) = [n.text] :=
  entries_entry ⟨[], by simp⟩ (.plain n) after

theorem entries_gap (gap : Gap) : entries gap.text = [] := (EntryList.none gap).entries_text

theorem aliasPair_name (n : Name) : aliasPair n.text = (n.text, n.text) :=
  (ClauseEntry.plain n).aliasPair_text

/-- **The clause of an import is read as it was written.** -/
theorem Clause.ofImport_text (clause : ImportClause) :
    Clause.ofImport clause.text = clause.meaning := by
  rw [Clause.ofImport, clause.dropTypeWord_trim_text]
  cases clause with
  | default name =>
    have hentries : entries name.text = [name.text] := by
      simpa using entries_name name.toName ⟨[], by simp⟩
    simp only [ImportClause.text, braceList?_of_not_mem (name.not_mem (by decide)), hentries]
    simp [ImportClause.meaning, ImportClause.bindings, ImportClause.restriction, aliasPair_name]
  | selection s =>
    cases s with
    | braces list =>
      have hbraces : braceList? list.braced = some (list.text, []) :=
        braceList?_append [] List.not_mem_nil (list.not_mem (by decide) (by decide) (by decide))
      simp only [ImportClause.text, Selection.text, hbraces, list.bindings_text,
        list.restriction_text]
      rw [show entries [] = [] from rfl, List.map_nil, List.append_nil]
      rfl
    | star gap space name =>
      have hentries := entries_star ⟨[], by simp⟩ gap space name
      rw [List.nil_append] at hentries
      have hbraces := braceList?_of_not_mem
        (star_not_mem gap space name (c := '\x7b') (by decide) (by decide) (by decide))
      simp only [ImportClause.text, hbraces, hentries, List.map_cons, List.map_nil, aliasPair_star]
      rfl
  | both name before after s =>
    have houter : entries (name.text ++ (before.text ++ ',' :: after.text)) = [name.text] := by
      rw [← List.append_assoc, entries_append_comma, entries_name, entries_gap, List.append_nil]
    cases s with
    | braces list =>
      have hfront : '\x7b' ∉ name.text ++ (before.text ++ ',' :: after.text) := by
        simp only [List.mem_append, List.mem_cons, not_or]
        exact ⟨name.not_mem (by decide), before.not_mem (by decide), by decide,
          after.not_mem (by decide)⟩
      have hbraces : braceList? (name.text ++ (before.text ++ ',' :: (after.text ++ list.braced))) =
          some (list.text, name.text ++ (before.text ++ ',' :: after.text)) := by
        have hbrace := list.not_mem (c := '\x7d') (by decide) (by decide) (by decide)
        simpa [EntryList.braced] using braceList?_append [] hfront hbrace
      simp only [ImportClause.text, Selection.text, hbraces, houter,
        list.bindings_text, list.restriction_text, List.map_cons, List.map_nil, aliasPair_name]
      rw [nameSet_congr (m := name.text :: list.locals) (by simp [or_comm])]
      rfl
    | star gap space name' =>
      have hentries : entries (name.text ++ (before.text ++ ',' ::
          (after.text ++ (Selection.star gap space name').text))) =
            [name.text, (Selection.star gap space name').text] := by
        rw [← List.append_assoc, entries_append_comma, entries_name, entries_star]
        rfl
      have hbraces : braceList? (name.text ++ (before.text ++ ',' ::
          (after.text ++ (Selection.star gap space name').text))) = none := by
        apply braceList?_of_not_mem
        simp only [List.mem_append, List.mem_cons, not_or]
        exact ⟨name.not_mem (by decide), before.not_mem (by decide), by decide,
          after.not_mem (by decide),
          star_not_mem gap space name' (by decide) (by decide) (by decide)⟩
      simp only [ImportClause.text, hbraces, hentries, List.map_cons, List.map_nil, aliasPair_star,
        aliasPair_name]
      rfl

theorem Clause.ofExport_braces {inner : List Char}
    (hhead : ∀ c ∈ inner.head?, c ≠ '\x7b' ∧ c ≠ '\x7d')
    (hlast : ∀ c ∈ inner.getLast?, c ≠ '\x7b' ∧ c ≠ '\x7d') :
    Clause.ofExport ('\x7b' :: (inner ++ ['\x7d'])) =
      ⟨some (nameSet (((entries inner).map aliasPair).map (·.2))),
        some (nameSet (((entries inner).map aliasPair).map (·.1)))⟩ := by
  have htrim : trim ('\x7b' :: (inner ++ ['\x7d'])) = '\x7b' :: (inner ++ ['\x7d']) := by
    apply trim_eq_self
    · rintro _ ⟨⟩
      decide
    · rw [← List.cons_append, List.getLast?_concat]
      rintro _ ⟨⟩
      decide
  have hinner : trimWith (fun c => c == '\x7b' || c == '\x7d') ('\x7b' :: (inner ++ ['\x7d'])) =
      inner :=
    trimWith_append (g := ['\x7b']) (List.forall_mem_singleton.mpr (by decide))
      (List.forall_mem_singleton.mpr (by decide)) (fun c hc => by simp [hhead c hc])
      (fun c hc => by simp [hlast c hc])
  rw [Clause.ofExport, htrim]
  show Clause.mk _ _ = _
  rw [hinner]

/-- **The brace list of a re-export is read as it was written.** -/
theorem Clause.ofExport_braced (list : EntryList) :
    Clause.ofExport list.braced = ⟨some (nameSet list.locals), some (nameSet list.imported)⟩ := by
  have hnot : ∀ c ∈ list.text, c ≠ '\x7b' ∧ c ≠ '\x7d' := by
    intro c hc
    constructor
    all_goals
      rintro rfl
      exact list.not_mem (by decide) (by decide) (by decide) hc
  rw [EntryList.braced, Clause.ofExport_braces (fun c hc => hnot c (List.mem_of_mem_head? hc))
    (fun c hc => hnot c (List.mem_of_mem_getLast? hc)), list.bindings_text, list.restriction_text]

theorem Clause.ofExport_star (gap : Gap) (space : Space) (name : Name) :
    Clause.ofExport (Selection.star gap space name).text =
      ⟨some [String.ofList name.text], none⟩ := by
  have htrim : trim (Selection.star gap space name).text = (Selection.star gap space name).text :=
    trim_eq_self (Selection.head_not_blank _) (Selection.last_not_blank _)
  have hwords : words (gap.text ++ (asWord ++ (space.text ++ name.text))) =
      [asWord, name.text] := by
    rw [words_blank_append gap.blank, words_append space.blank space.ne_nil,
      words_of_word asWord_not_blank (by decide), words_of_word name.not_blank name.ne_nil]
    rfl
  rw [Clause.ofExport, htrim, Selection.text]
  simp only [hwords]
  rfl

end Source

end ReducerAtlas
