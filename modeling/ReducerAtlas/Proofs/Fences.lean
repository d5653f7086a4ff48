import Mathlib.Data.List.Forall2
import Mathlib.Data.List.Infix
import ReducerAtlas.Artifact.MapFile
import ReducerAtlas.Proofs.Sorting

/-!
# Fences around code

The loaders of a map file are written as fenced words. When the document is laid out, every fence
that stands next to a quote is taken out with the quote, wherever in the text it stands. That this
leaves all but the loaders as it was is shown piece by piece: what a piece of text becomes does not
depend on what follows it, if that does not begin with a dollar, and no piece begins with one.

* `Drops`: what a piece becomes when all occurrences of a pattern are taken out of a text.
* `Unfences`: what it becomes when the fences are; `Unfences.enclose`: a list or an object;
  `unfences_word`, `unfences_code`: a word, and fenced code.
* `atlasText`: the map file written directly, with code in the place of the loaders.
* **`mapFile_eq_atlasText`**: the map file is that text.
-/

namespace ReducerAtlas

/-! ## Taking a pattern out -/

namespace Text

variable {c p : Char} {ps piece l rest cs : List Char}

theorem replaceAll_cons (h : ¬ piece <+: c :: cs) :
    replaceAll piece [] (c :: cs) = c :: replaceAll piece [] cs := by
  rw [replaceAll, replaceFrom, if_neg]
  · rfl
  · rwa [List.isPrefixOf_iff_prefix]

theorem replaceAll_append_of_not_mem (h : p ∉ l) :
    replaceAll (p :: ps) [] (l ++ rest) = l ++ replaceAll (p :: ps) [] rest := by
  induction l with
  | nil => rfl
  | cons c l ih =>
    rw [List.mem_cons, not_or] at h
    have hstart : ¬ (p :: ps) <+: c :: (l ++ rest) := by
      intro hfront
      exact h.1 (List.cons_prefix_cons.mp hfront).1
    rw [List.cons_append, replaceAll_cons hstart, ih h.2, List.cons_append]

theorem replaceFrom_length (piece l rest : List Char) :
    replaceFrom piece [] l.length (l ++ rest) = replaceAll piece [] rest := by
  induction l with
  | nil => rfl
  | cons c l ih => rw [List.length_cons, List.cons_append, replaceFrom, ih]

theorem replaceAll_self_append (p : Char) (ps rest : List Char) :
    replaceAll (p :: ps) [] (p :: ps ++ rest) = replaceAll (p :: ps) [] rest := by
  rw [replaceAll, List.cons_append, replaceFrom, if_pos]
  · exact replaceFrom_length (p :: ps) ps rest
  · rw [List.isPrefixOf_iff_prefix, ← List.cons_append]
    exact List.prefix_append _ _

end Text

namespace Artifact

open ReducerAtlas.Text ReducerAtlas.Json

/-- A fence after a quote. -/
def opening : List Char := '\x22' :: fence.toList

/-- A fence before a quote. -/
def closing : List Char := fence.toList ++ ['\x22']

/-- A piece of text becomes another one when a pattern is taken out of the text, unless a dollar
follows it. -/
structure Drops (pattern piece left : List Char) : Prop where
  head : piece.head? ≠ some '$'
  drop : ∀ rest, rest.head? ≠ some '$' →
    replaceAll pattern [] (piece ++ rest) = left ++ replaceAll pattern [] rest

theorem Drops.append {pattern t u t' u' : List Char} (h : Drops pattern t u)
    (h' : Drops pattern t' u') : Drops pattern (t ++ t') (u ++ u') := by
  have hhead : ∀ rest, rest.head? ≠ some '$' → (t' ++ rest).head? ≠ some '$' := by
    intro rest hrest
    cases t' with
    | nil => exact hrest
    | cons c t' => exact h'.head
  refine ⟨?_, fun rest hrest => ?_⟩
  · cases t with
    | nil => exact h'.head
    | cons c t => exact h.head
  · rw [List.append_assoc, h.drop _ (hhead rest hrest), h'.drop rest hrest, List.append_assoc]

/-! ## Escaped text -/

/-- The escaped text of a word, without its quotes. -/
def escape (cs : List Char) : List Char := cs.flatMap escapeInWord

theorem escape_cons (c : Char) (cs rest : List Char) :
    escape (c :: cs) ++ rest = escapeInWord c ++ (escape cs ++ rest) := by
  rw [escape, List.flatMap_cons, List.append_assoc]
  rfl

theorem escapeInWord_cases (c : Char) :
    (escapeInWord c = [c] ∧ c ≠ '\x22') ∨
      ∃ cs, escapeInWord c = '\\' :: cs ∧ c ≠ '$' ∧ '$' ∉ cs ∧ (c ≠ '\x22' → '\x22' ∉ cs) := by
  have hhex : ∀ n < 32, '$' ∉ hexPadded 4 n ∧ '\x22' ∉ hexPadded 4 n := by decide
  unfold escapeInWord
  split
  case h_8 c hquote _ _ _ _ _ _ =>
    split_ifs with hsmall
    · refine Or.inr ⟨_, rfl, ?_, ?_, ?_⟩
      · rintro rfl
        exact absurd hsmall (by decide)
      · simpa using (hhex _ hsmall).1
      · intro _
        simpa using (hhex _ hsmall).2
    · exact Or.inl ⟨rfl, hquote⟩
  all_goals exact Or.inr ⟨_, rfl, by decide, by decide, by decide⟩

theorem quote_not_mem_escapeInWord {c : Char} (h : c ≠ '\x22') : '\x22' ∉ escapeInWord c := by
  obtain ⟨hself, -⟩ | ⟨cs, hcs, -, -, hquote⟩ := escapeInWord_cases c
  · simp [hself, Ne.symm h]
  · simp [hcs, hquote h]

theorem dollar_not_mem_escapeInWord {c : Char} (h : c ≠ '$') : '$' ∉ escapeInWord c := by
  obtain ⟨hself, -⟩ | ⟨cs, hcs, -, hdollar, -⟩ := escapeInWord_cases c
  · simp [hself, Ne.symm h]
  · simp [hcs, hdollar]

variable {s rest : List Char} {d : Char} {x : List Char}

/-- An escaped text that begins with anything but a backslash begins with a character of the text
that is written as it is. -/
theorem eq_of_cons_prefix_escape {c : Char} (hd : d ≠ '\\')
    (h : d :: x <+: escape (c :: s) ++ rest) : c = d ∧ d ≠ '\x22' ∧ x <+: escape s ++ rest := by
  rw [escape_cons] at h
  obtain ⟨hself, hquote⟩ | ⟨cs, hcs, -⟩ := escapeInWord_cases c
  · rw [hself, List.singleton_append, List.cons_prefix_cons] at h
    obtain ⟨rfl, hx⟩ := h
    exact ⟨rfl, hquote, hx⟩
  · rw [hcs, List.cons_append, List.cons_prefix_cons] at h
    exact absurd h.1 hd

theorem not_cons_prefix_of_head? (h : rest.head? ≠ some d) : ¬ d :: x <+: rest := by
  rintro ⟨y, rfl⟩
  exact h rfl

theorem not_opening_of_head? (h : rest.head? ≠ some '$') : ¬ opening <+: '\x22' :: rest := by
  intro hfront
  exact not_cons_prefix_of_head? h (List.cons_prefix_cons.mp hfront).2

theorem not_closing_of_ne {c : Char} (h : c ≠ '$') : ¬ closing <+: c :: rest := by
  intro hfront
  exact h (List.cons_prefix_cons.mp hfront).1.symm

theorem fence_prefix_of_escape (hrest : rest.head? ≠ some '$')
    (h : ['$', '$'] <+: escape s ++ rest) : ['$', '$'] <+: s := by
  cases s with
  | nil => exact absurd h (not_cons_prefix_of_head? hrest)
  | cons c s =>
    obtain ⟨rfl, -, h⟩ := eq_of_cons_prefix_escape (by decide) h
    cases s with
    | nil => exact absurd h (not_cons_prefix_of_head? hrest)
    | cons c s =>
      obtain ⟨rfl, -, -⟩ := eq_of_cons_prefix_escape (by decide) h
      exact ⟨s, rfl⟩

/-- No quote of an escaped text stands after a dollar, so one that does comes after the text. -/
theorem eq_of_dollar_quote_escape (hrest : rest.head? ≠ some '$')
    (h : ['$', '\x22'] <+: escape s ++ rest) : s = ['$'] ∧ rest.head? = some '\x22' := by
  cases s with
  | nil => exact absurd h (not_cons_prefix_of_head? hrest)
  | cons c s =>
    obtain ⟨rfl, -, h⟩ := eq_of_cons_prefix_escape (by decide) h
    cases s with
    | nil =>
      obtain ⟨y, rfl⟩ := h
      exact ⟨rfl, rfl⟩
    | cons c s =>
      obtain ⟨-, hquote, -⟩ := eq_of_cons_prefix_escape (by decide) h
      exact absurd rfl hquote

theorem replaceAll_opening_escape (hinside : ¬ opening <:+: s) (hrest : rest.head? ≠ some '$') :
    replaceAll opening [] (escape s ++ rest) = escape s ++ replaceAll opening [] rest := by
  induction s with
  | nil => rfl
  | cons c s ih =>
    have hs : ¬ opening <:+: s := fun h => hinside (List.infix_cons h)
    rw [escape_cons, escape_cons, ← ih hs]
    by_cases hc : c = '\x22'
    · subst hc
      -- the quote stands after its backslash, and no fence of the text follows it
      have hfirst : ¬ opening <+: '\x22' :: (escape s ++ rest) := by
        intro h
        have hfence := fence_prefix_of_escape hrest (List.cons_prefix_cons.mp h).2
        exact hinside (List.IsPrefix.isInfix (List.cons_prefix_cons.mpr ⟨rfl, hfence⟩))
      have hslash : ¬ opening <+: '\\' :: '\x22' :: (escape s ++ rest) := by
        intro h
        exact absurd (List.cons_prefix_cons.mp h).1 (by decide)
      change replaceAll opening [] ('\\' :: '\x22' :: (escape s ++ rest)) = _
      rw [replaceAll_cons hslash, replaceAll_cons hfirst]
      rfl
    · exact replaceAll_append_of_not_mem (quote_not_mem_escapeInWord hc)

theorem replaceAll_closing_escape (hrest : rest.head? ≠ some '$')
    (hback : rest.head? = some '\x22' → ¬ ['$', '$'] <:+ s) :
    replaceAll closing [] (escape s ++ rest) = escape s ++ replaceAll closing [] rest := by
  induction s with
  | nil => rfl
  | cons c s ih =>
    have hs : rest.head? = some '\x22' → ¬ ['$', '$'] <:+ s :=
      fun hquote h => hback hquote (h.trans (List.suffix_cons c s))
    rw [escape_cons, escape_cons, ← ih hs]
    by_cases hc : c = '$'
    · subst hc
      -- a quote right after two dollars would be the end of the word
      have hfirst : ¬ closing <+: '$' :: (escape s ++ rest) := by
        intro h
        obtain ⟨rfl, hquote⟩ := eq_of_dollar_quote_escape hrest (List.cons_prefix_cons.mp h).2
        exact hback hquote List.suffix_rfl
      exact replaceAll_cons hfirst
    · exact replaceAll_append_of_not_mem (dollar_not_mem_escapeInWord hc)

/-! ## Taking the fences out -/

/-- A piece of text becomes another one when the fences are taken out. -/
def Unfences (piece left : String) : Prop :=
  ∃ middle, Drops opening piece.toList middle ∧ Drops closing middle left.toList

theorem Unfences.append {t u t' u' : String} (h : Unfences t u) (h' : Unfences t' u') :
    Unfences (t ++ t') (u ++ u') := by
  obtain ⟨m, hopen, hclose⟩ := h
  obtain ⟨m', hopen', hclose'⟩ := h'
  refine ⟨m ++ m', ?_, ?_⟩
  · rw [String.toList_append]
    exact hopen.append hopen'
  · rw [String.toList_append]
    exact hclose.append hclose'

theorem unfences_of_not_mem {t : String} (hquote : '\x22' ∉ t.toList) (hdollar : '$' ∉ t.toList) :
    Unfences t t := by
  have hhead : t.toList.head? ≠ some '$' := fun h => hdollar (List.mem_of_head? h)
  refine ⟨t.toList, ⟨hhead, fun rest _ => ?_⟩, ⟨hhead, fun rest _ => ?_⟩⟩
  · exact replaceAll_append_of_not_mem hquote
  · exact replaceAll_append_of_not_mem hdollar

theorem unfences_empty : Unfences "" "" := unfences_of_not_mem (by decide) (by decide)

theorem unfences_joinWith {separator : String} (hsep : Unfences separator separator)
    {pieces lefts : List String} (h : List.Forall₂ Unfences pieces lefts) :
    Unfences (joinWith separator pieces) (joinWith separator lefts) := by
  induction h with
  | nil => exact unfences_empty
  | cons hfirst hrest ih =>
    cases hrest with
    | nil => exact hfirst
    | cons _ _ => exact (hfirst.append hsep).append ih

/-- A word keeps its text when the fences are taken out. -/
structure Plain (s : String) : Prop where
  front : ¬ fence.toList <+: s.toList
  back : ¬ fence.toList <:+ s.toList
  inside : ¬ opening <:+: s.toList

instance : DecidablePred Plain := fun s =>
  decidable_of_iff (¬ fence.toList <+: s.toList ∧ ¬ fence.toList <:+ s.toList ∧
    ¬ opening <:+: s.toList)
    ⟨fun h => ⟨h.1, h.2.1, h.2.2⟩, fun h => ⟨h.front, h.back, h.inside⟩⟩

theorem toList_renderWord (s : String) :
    (renderWord s).toList = '\x22' :: (escape s.toList ++ ['\x22']) := by
  rw [renderWord, String.toList_ofList]
  rfl

/-- **A plain word stays as it is.** -/
theorem unfences_word {s : String} (h : Plain s) : Unfences (renderWord s) (renderWord s) := by
  have hquote : ∀ rest : List Char, ('\x22' :: rest).head? ≠ some '$' := by simp
  refine ⟨(renderWord s).toList, ⟨?_, fun rest hrest => ?_⟩, ⟨?_, fun rest hrest => ?_⟩⟩
  · rw [toList_renderWord]
    exact hquote _
  · have hfront : ¬ opening <+: '\x22' :: (escape s.toList ++ '\x22' :: rest) := by
      intro hfront
      exact h.front (fence_prefix_of_escape (hquote rest) (List.cons_prefix_cons.mp hfront).2)
    rw [toList_renderWord, List.cons_append, List.append_assoc, List.singleton_append,
      replaceAll_cons hfront, replaceAll_opening_escape h.inside (hquote rest),
      replaceAll_cons (not_opening_of_head? hrest)]
    simp
  · rw [toList_renderWord]
    exact hquote _
  · have hother : '\x22' ≠ '$' := by decide
    rw [toList_renderWord, List.cons_append, List.append_assoc, List.singleton_append,
      replaceAll_cons (not_closing_of_ne hother),
      replaceAll_closing_escape (hquote rest) fun _ => h.back,
      replaceAll_cons (not_closing_of_ne hother)]
    simp

/-- The escaped text of code. -/
def codeText (code : String) : String := String.ofList (escape code.toList)

theorem escape_append (s t : List Char) : escape (s ++ t) = escape s ++ escape t :=
  List.flatMap_append

theorem toList_renderWord_fenced (code : String) :
    (renderWord (fenced code)).toList = opening ++ (escape code.toList ++ closing) := by
  have hfence : escape fence.toList = fence.toList := by decide
  rw [toList_renderWord, fenced, String.toList_append, String.toList_append, escape_append,
    escape_append, hfence]
  simp [opening, closing]

-- code ends with a brace, so that the closing fence begins where the code ends
theorem drops_opening_code {body : List Char} (hinside : ¬ opening <:+: body) :
    Drops opening (opening ++ (escape body ++ '\x7d' :: closing))
      (escape body ++ '\x7d' :: closing) := by
  refine ⟨by simp [opening], fun rest hrest => ?_⟩
  have hfence : replaceAll opening [] (['\x7d', '$', '$'] ++ '\x22' :: rest) =
      ['\x7d', '$', '$'] ++ replaceAll opening [] ('\x22' :: rest) :=
    replaceAll_append_of_not_mem (by decide)
  have hclosing : '\x7d' :: (closing ++ rest) = ['\x7d', '$', '$'] ++ '\x22' :: rest := rfl
  have hopening : ∀ cs, replaceAll opening [] (opening ++ cs) = replaceAll opening [] cs :=
    replaceAll_self_append _ _
  rw [List.append_assoc, hopening, List.append_assoc, List.cons_append,
    replaceAll_opening_escape hinside (by simp), hclosing, hfence,
    replaceAll_cons (not_opening_of_head? hrest)]
  simp [closing, fence]

theorem drops_closing_code {body : List Char} (hfirst : body.head? ≠ some '$') :
    Drops closing (escape body ++ '\x7d' :: closing) (escape body ++ ['\x7d']) := by
  refine ⟨?_, fun rest _ => ?_⟩
  · cases body with
    | nil => simp [escape]
    | cons c body =>
      intro h
      obtain ⟨x, hx⟩ := List.head?_eq_some_iff.mp h
      have hfront : ['$'] <+: escape (c :: body) ++ '\x7d' :: closing := hx ▸ ⟨x, rfl⟩
      obtain ⟨rfl, -, -⟩ := eq_of_cons_prefix_escape (by decide) hfront
      exact hfirst rfl
  · have hclosing : replaceAll closing [] (closing ++ rest) = replaceAll closing [] rest :=
      replaceAll_self_append _ _ _
    rw [List.append_assoc, List.cons_append,
      replaceAll_closing_escape (by simp) fun hquote => absurd hquote (by simp),
      replaceAll_cons (not_closing_of_ne (by decide)), hclosing, List.append_assoc,
      List.singleton_append]

/-- **Fenced code loses its quotes and its fences.** -/
theorem unfences_code {code : String} {body : List Char} (hcode : code.toList = body ++ ['\x7d'])
    (hinside : ¬ opening <:+: body) (hfirst : body.head? ≠ some '$') :
    Unfences (renderWord (fenced code)) (codeText code) := by
  have hescape : escape code.toList = escape body ++ ['\x7d'] := by
    rw [hcode, escape_append]
    rfl
  refine ⟨escape body ++ '\x7d' :: closing, ?_, ?_⟩
  · rw [toList_renderWord_fenced, hescape, List.append_assoc]
    exact drops_opening_code hinside
  · rw [codeText, String.toList_ofList, hescape]
    exact drops_closing_code hfirst

/-! ## Loaders -/

theorem infix_of_append_left {p : Char} {ps l cs : List Char} (hl : p ∉ l)
    (h : p :: ps <:+: l ++ cs) : p :: ps <:+: cs := by
  induction l with
  | nil => exact h
  | cons c l ih =>
    rw [List.mem_cons, not_or] at hl
    rw [List.cons_append, List.infix_cons_iff] at h
    obtain h | h := h
    · exact absurd (List.cons_prefix_cons.mp h).1 hl.1
    · exact ih hl.2 h

theorem infix_of_append_right {p : Char} {ps l cs : List Char} (hl : p ∉ l)
    (h : ps ++ [p] <:+: cs ++ l) : ps ++ [p] <:+: cs := by
  rw [← List.reverse_infix] at h ⊢
  rw [List.reverse_append, List.reverse_append] at h
  rw [List.reverse_append]
  exact infix_of_append_left (List.mem_reverse.not.mpr hl) h

-- stated of any texts: a rewrite would compare the long texts of a loader with each other
theorem toList_append_split (front name : String) {back back' : String} {last : List Char}
    (h : back.toList = back'.toList ++ last) :
    (front ++ name ++ back).toList = front.toList ++ (name.toList ++ back'.toList) ++ last := by
  simp [h]

/-- The text of the loader of a file. -/
def loaderText (folder target : Path) : String :=
  codeText (loader (moduleReference target folder))

/-- **A loader loses its quotes and its fences**, if no fence stands after a quote in the name of
the module. -/
theorem unfences_fileLoader {folder target : Path}
    (h : ¬ opening <:+: (moduleReference target folder).toList) :
    Unfences (renderWord (fileLoader folder target)) (loaderText folder target) := by
  have hcode : (loader (moduleReference target folder)).toList =
      "function() \x7b return System.import('".toList ++
        ((moduleReference target folder).toList ++ "'); ".toList) ++ ['\x7d'] :=
    toList_append_split _ _ (by decide)
  refine unfences_code hcode ?_ (by simp)
  intro hinside
  have hopening : opening = ['\x22', '$'] ++ ['$'] := by decide
  have hright : opening <:+: (moduleReference target folder).toList ++ "'); ".toList :=
    infix_of_append_left (by decide) hinside
  rw [hopening] at h hright
  exact h (infix_of_append_right (by decide) hright)

/-! ## Lists and objects -/

/-- Line ends and indentation hold no fences. -/
def Quiet (layout : Layout) : Prop :=
  ∀ level, Unfences (layout.newLine level) (layout.newLine level)

theorem quiet_lines {unit : String} (h : Unfences unit unit) : Quiet (.lines unit) := by
  intro level
  apply unfences_joinWith unfences_empty
  rw [List.forall₂_same]
  intro s hs
  obtain rfl | hs := List.mem_cons.mp hs
  · exact unfences_of_not_mem (by decide) (by decide)
  · rw [List.eq_of_mem_replicate hs]
    exact h

theorem quiet_indent (indent : Option Int) : Quiet (indent.elim .line .spaces) := by
  cases indent with
  | none => exact fun _ => unfences_empty
  | some n =>
    apply quiet_lines
    apply unfences_of_not_mem <;> simp [List.mem_replicate]

theorem Quiet.between {layout : Layout} (h : Quiet layout) (level : Nat) :
    Unfences (layout.between level) (layout.between level) := by
  have hcomma : Unfences ", " ", " := unfences_of_not_mem (by decide) (by decide)
  cases layout with
  | line => exact hcomma
  | lines unit => exact (unfences_of_not_mem (by decide) (by decide)).append (h level)

theorem Unfences.enclose {layout : Layout} (hquiet : Quiet layout) {left right : String}
    (hleft : Unfences left left) (hright : Unfences right right) {pieces lefts : List String}
    (h : List.Forall₂ Unfences pieces lefts) (level : Nat) :
    Unfences (layout.enclose level left right pieces) (layout.enclose level left right lefts) := by
  have hjoin := unfences_joinWith (hquiet.between (level + 1)) h
  unfold Layout.enclose
  cases h with
  | nil => exact hleft.append hright
  | cons hfirst hrest =>
    exact (((hleft.append (hquiet _)).append hjoin).append (hquiet _)).append hright

/-- The text of a field. -/
def fieldText (name text : String) : String := renderWord name ++ ": " ++ text

theorem Unfences.field {name piece left : String} (hname : Plain name)
    (h : Unfences piece left) : Unfences (fieldText name piece) (fieldText name left) :=
  ((unfences_word hname).append (unfences_of_not_mem (by decide) (by decide))).append h

theorem renderItems_map {α : Type*} (layout : Layout) (level : Nat) (f : α → Doc) (l : List α) :
    renderItems layout level (l.map f) = l.map fun a => (f a).renderAt layout level := by
  induction l with
  | nil => rfl
  | cons a l ih => rw [List.map_cons, renderItems, ih, List.map_cons]

theorem renderFields_map {α : Type*} (layout : Layout) (level : Nat) (f : α → String × Doc)
    (l : List α) :
    renderFields layout level (l.map f) =
      l.map fun a => fieldText (f a).1 ((f a).2.renderAt layout level) := by
  induction l with
  | nil => rfl
  | cons a l ih =>
    rw [List.map_cons, renderFields, ih, List.map_cons]
    rfl

/-! ## The map file -/

section Text

variable (layout : Layout) (folder : Path)

/-- A reducer, with code for its loaders. -/
def reducerText (level : Nat) (r : Reducer) : String :=
  layout.enclose level "\x7b" "\x7d" (
    [fieldText "reducerName" (renderWord r.name),
      fieldText "importFunc" (loaderText folder r.definition)] ++
    (r.saga.map fun saga => fieldText "sagaImportFunc" (loaderText folder saga)).toList)

/-- Reducers, in the order in which they are given. -/
def reducersText (level : Nat) (reducers : List Reducer) : String :=
  layout.enclose level "[" "]" (reducers.map (reducerText layout folder (level + 1)))

/-- A container, with code for its loader. -/
def containerText (level : Nat) (c : Container) : String :=
  layout.enclose level "\x7b" "\x7d"
    [fieldText "importFunc" (loaderText folder c.path),
      fieldText "reducers" (reducersText layout folder (level + 1) c.reducers)]

/-- An atlas, in the order in which it is given, with code for every loader. -/
def atlasText (atlas : Atlas) : String :=
  layout.enclose 0 "\x7b" "\x7d"
    [fieldText "global" (reducersText layout folder 1 atlas.globals),
      fieldText "containerSpecific" (layout.enclose 1 "\x7b" "\x7d"
        (atlas.containers.map fun c => fieldText c.key (containerText layout folder 2 c)))]

end Text

/-- No fence stands next to a quote in what is written of a reducer. -/
structure PlainReducer (folder : Path) (r : Reducer) : Prop where
  name : Plain r.name
  definition : ¬ opening <:+: (moduleReference r.definition folder).toList
  saga : ∀ saga ∈ r.saga, ¬ opening <:+: (moduleReference saga folder).toList

/-- No fence stands next to a quote in what is written of a container. -/
structure PlainContainer (folder : Path) (c : Container) : Prop where
  key : Plain c.key
  path : ¬ opening <:+: (moduleReference c.path folder).toList
  reducers : ∀ r ∈ c.reducers, PlainReducer folder r

/-- No fence stands next to a quote in what is written of an atlas. -/
structure PlainAtlas (folder : Path) (atlas : Atlas) : Prop where
  globals : ∀ r ∈ atlas.globals, PlainReducer folder r
  containers : ∀ c ∈ atlas.containers, PlainContainer folder c

/-- An atlas in the order in which it is written: its containers by their keys, and all reducers
by their names. -/
structure Arranged (given laid : Atlas) : Prop where
  globals : InKeyOrder Reducer.name given.globals laid.globals
  containers : ∃ sorted, InKeyOrder Container.key given.containers sorted ∧
    List.Forall₂ (fun c d => d.key = c.key ∧ d.path = c.path ∧
      InKeyOrder Reducer.name c.reducers d.reducers) sorted laid.containers

section Written

variable {layout : Layout} {folder : Path} (hquiet : Quiet layout)

theorem unfences_braces : Unfences "\x7b" "\x7b" ∧ Unfences "\x7d" "\x7d" :=
  ⟨unfences_of_not_mem (by decide) (by decide), unfences_of_not_mem (by decide) (by decide)⟩

theorem unfences_brackets : Unfences "[" "[" ∧ Unfences "]" "]" :=
  ⟨unfences_of_not_mem (by decide) (by decide), unfences_of_not_mem (by decide) (by decide)⟩

include hquiet

theorem unfences_reducer {r : Reducer} (h : PlainReducer folder r) (level : Nat) :
    Unfences
      ((Doc.object ((entry folder r).map fun field => (field.1, .word field.2))).renderAt
        layout level)
      (reducerText layout folder level r) := by
  have hname : Unfences (fieldText "reducerName" (renderWord r.name))
      (fieldText "reducerName" (renderWord r.name)) := (unfences_word h.name).field (by decide)
  have hdefinition : Unfences (fieldText "importFunc" (renderWord (fileLoader folder r.definition)))
      (fieldText "importFunc" (loaderText folder r.definition)) :=
    (unfences_fileLoader h.definition).field (by decide)
  rw [Doc.renderAt, renderFields_map]
  apply Unfences.enclose hquiet unfences_braces.1 unfences_braces.2
  cases hsaga : r.saga with
  | none =>
    simp only [entry, hsaga, Option.map_none, Option.toList_none, List.append_nil, List.map_cons,
      List.map_nil, Doc.renderAt]
    exact .cons hname (.cons hdefinition .nil)
  | some saga =>
    have hsagas := (unfences_fileLoader (h.saga saga hsaga)).field
      (show Plain "sagaImportFunc" by decide)
    simp only [entry, hsaga, Option.map_some, Option.toList_some, List.cons_append, List.nil_append,
      List.map_cons, List.map_nil, Doc.renderAt]
    exact .cons hname (.cons hdefinition (.cons hsagas .nil))

theorem unfences_reducers {reducers : List Reducer}
    (h : ∀ r ∈ reducers, PlainReducer folder r) (level : Nat) :
    Unfences ((reducersDocument folder reducers).renderAt layout level)
      (reducersText layout folder level (Reducer.sortByName reducers)) := by
  rw [reducersDocument, Doc.renderAt, entries, List.map_map, renderItems_map]
  apply Unfences.enclose hquiet unfences_brackets.1 unfences_brackets.2
  rw [List.forall₂_map_left_iff, List.forall₂_map_right_iff, List.forall₂_same]
  intro r hr
  have hmem := (Reducer.inKeyOrder_sortByName reducers).perm.mem_iff.mp hr
  exact unfences_reducer hquiet (h r hmem) (level + 1)

theorem unfences_container {c : Container} (h : PlainContainer folder c) (level : Nat) :
    Unfences ((containerDocument folder c).renderAt layout level)
      (containerText layout folder level
        { c with reducers := Reducer.sortByName c.reducers }) := by
  have hloader := (unfences_fileLoader h.path).field (show Plain "importFunc" by decide)
  have hreducers := (unfences_reducers hquiet h.reducers (level + 1)).field
    (show Plain "reducers" by decide)
  rw [containerDocument, Doc.renderAt, renderFields, renderFields, renderFields]
  apply Unfences.enclose hquiet unfences_braces.1 unfences_braces.2
  exact .cons hloader (.cons hreducers .nil)

end Written

/-- An atlas with its containers by their keys, and all reducers by their names. -/
def arrange (atlas : Atlas) : Atlas :=
  { atlas with
    globals := Reducer.sortByName atlas.globals
    containers := (Container.sortByKey atlas.containers).map fun c =>
      { c with reducers := Reducer.sortByName c.reducers } }

theorem arranged_arrange (atlas : Atlas) : Arranged atlas (arrange atlas) := by
  refine ⟨Reducer.inKeyOrder_sortByName _, _, Container.inKeyOrder_sortByKey _, ?_⟩
  rw [arrange, List.forall₂_map_right_iff, List.forall₂_same]
  intro c _
  exact ⟨rfl, rfl, Reducer.inKeyOrder_sortByName _⟩

theorem unfences_map {layout : Layout} {folder : Path} {atlas : Atlas} (hquiet : Quiet layout)
    (h : PlainAtlas folder atlas) :
    Unfences ((mapDocument folder atlas).render layout)
      (atlasText layout folder (arrange atlas)) := by
  have hglobals := (unfences_reducers hquiet h.globals 1).field (show Plain "global" by decide)
  have hcontainers : Unfences
      ((Doc.object ((Container.sortByKey atlas.containers).map fun c =>
        (c.key, containerDocument folder c))).renderAt layout 1)
      (layout.enclose 1 "\x7b" "\x7d" ((arrange atlas).containers.map fun c =>
        fieldText c.key (containerText layout folder 2 c))) := by
    rw [Doc.renderAt, renderFields_map, arrange, List.map_map]
    apply Unfences.enclose hquiet unfences_braces.1 unfences_braces.2
    rw [List.forall₂_map_left_iff, List.forall₂_map_right_iff, List.forall₂_same]
    intro c hc
    have hmem := (Container.inKeyOrder_sortByKey atlas.containers).perm.mem_iff.mp hc
    have hplain := h.containers c hmem
    exact (unfences_container hquiet hplain 2).field hplain.key
  rw [Doc.render, mapDocument, Doc.renderAt, renderFields, renderFields, renderFields]
  apply Unfences.enclose hquiet unfences_braces.1 unfences_braces.2
  exact .cons hglobals (.cons (hcontainers.field (by decide)) .nil)

theorem Unfences.dropFences_eq {piece left : String} (h : Unfences piece left) :
    dropFences piece.toList = left.toList := by
  obtain ⟨middle, hopen, hclose⟩ := h
  have hfirst := hopen.drop [] (by simp)
  have hsecond := hclose.drop [] (by simp)
  rw [List.append_nil] at hfirst hsecond
  change replaceAll closing [] (replaceAll opening [] piece.toList) = _
  rw [hfirst]
  change replaceAll closing [] (middle ++ []) = _
  rw [List.append_nil, hsecond]
  exact List.append_nil _

/-- **Taking the fences out changes only the loaders.** If no name and no key begins or ends with a
fence, and no fence stands after a quote in a name, a key or a reference, the map file is the text
of the atlas in order, with words for names and keys and escaped code for every loader. -/
theorem mapFile_eq_atlasText (atlas : Atlas) (output : Path) (indent : Option Int)
    (h : PlainAtlas output.parent atlas) :
    ∃ laid, Arranged atlas laid ∧
      mapFile atlas output (indent.elim .line .spaces) =
        joinWith "\n" header ++ "\n" ++ "module.exports = " ++
          atlasText (indent.elim .line .spaces) output.parent laid ++ ";" ++ "\n" := by
  refine ⟨arrange atlas, arranged_arrange atlas, ?_⟩
  unfold mapFile
  dsimp only
  rw [(unfences_map (quiet_indent indent) h).dropFences_eq, String.ofList_toList]
  simp only [header, List.cons_append, List.nil_append, joinWith, String.append_assoc,
    String.append_empty]

/-- An atlas with fences inside of names and at the front of a reference, and a name that begins
with a quote and a single dollar. -/
def spikedAtlas : Atlas where
  globals := [
    ⟨"cart$$total", Path.parse "/lib/$$cart.js", some (Path.parse "/lib/\x22saga.js")⟩,
    ⟨"\x22$a", Path.parse "/out/a.js", none⟩]
  containers := [⟨"./$home.js", Path.parse "/app/$home.js", []⟩]

theorem mapFile_spikedAtlas :
    PlainAtlas (Path.parse "/out") spikedAtlas ∧
    ∃ laid, Arranged spikedAtlas laid ∧
      mapFile spikedAtlas (Path.parse "/out/map.js") .line =
        joinWith "\n" header ++ "\n" ++ "module.exports = " ++
          atlasText .line (Path.parse "/out") laid ++ ";" ++ "\n" := by
  have hplain : PlainAtlas (Path.parse "/out") spikedAtlas := by
    constructor
    · intro r hr
      simp only [spikedAtlas, List.mem_cons, List.not_mem_nil, or_false] at hr
      obtain rfl | rfl := hr
      · exact ⟨by decide, by decide, by decide⟩
      · exact ⟨by decide, by decide, by decide⟩
    · intro c hc
      simp only [spikedAtlas, List.mem_cons, List.not_mem_nil, or_false] at hc
      subst hc
      exact ⟨by decide, by decide, by simp⟩
  exact ⟨hplain, mapFile_eq_atlasText spikedAtlas (Path.parse "/out/map.js") none hplain⟩

end Artifact

end ReducerAtlas
