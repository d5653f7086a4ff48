import Mathlib.Data.List.Basic
import ReducerAtlas.Proofs.Tokens
import ReducerAtlas.Proofs.Places

/-!
# No statement goes over a slash

Every statement that refers to a module holds a quoted text, and outside braces and brackets no
slash may stand before the quote. So a comment before the quote ends whatever was begun: the words
before the comment are read one by one and give nothing.

* `Barred`: a slash or the end of a text comes before any quote.
* `fromSource?_of_barred`, `importClause?_of_barred`, `exportClause?_of_barred`: what is not read
  then.
* `Stuck`: a text in which no statement starts that could go over a slash behind the text.
* `statement?_of_stuck`: no statement starts there.
* **`tokens_of_stuck`**: such a text gives nothing if a comment follows.
-/

namespace ReducerAtlas.Source

open ReducerAtlas.Text

/-! ## A slash before the first quote -/

/-- A slash or the end of the text comes before any quote. -/
inductive Barred : List Char → Prop
  | nil : Barred []
  | slash (rest : List Char) : Barred ('/' :: rest)
  | cons {c : Char} {cs : List Char} (hc : isUnquoted c = true) (h : Barred cs) : Barred (c :: cs)

namespace Barred

variable {m cs : List Char}

theorem append (hm : ∀ c ∈ m, isUnquoted c = true) (h : Barred cs) : Barred (m ++ cs) := by
  induction m with
  | nil => exact h
  | cons c m ih =>
    obtain ⟨hc, hm⟩ := List.forall_mem_cons.mp hm
    exact cons hc (ih hm)

theorem of_unquoted (h : ∀ c ∈ cs, isUnquoted c = true) : Barred cs := by
  rw [← List.append_nil cs]
  exact append h nil

theorem of_append (hm : '/' ∉ m) (h : Barred (m ++ cs)) : Barred cs := by
  induction m with
  | nil => exact h
  | cons c m ih =>
    rw [List.mem_cons, not_or] at hm
    cases h with
    | slash => exact absurd rfl hm.1
    | cons _ h => exact ih hm.2 h

theorem dropWhile {p : Char → Bool} (hp : p '/' = false) (h : Barred cs) :
    Barred (cs.dropWhile p) := by
  induction h with
  | nil => exact nil
  | slash rest =>
    rw [List.dropWhile_cons_of_neg (by simp [hp])]
    exact slash rest
  | @cons c cs hc h ih =>
    by_cases hpc : p c = true
    · rwa [List.dropWhile_cons_of_pos hpc]
    · rw [List.dropWhile_cons_of_neg hpc]
      exact cons hc h

theorem head_unquoted (h : Barred cs) : ∀ c ∈ cs.head?, isUnquoted c = true := by
  cases h with
  | nil => exact fun _ hc => absurd hc (by simp)
  | slash =>
    rintro _ ⟨⟩
    decide
  | cons hc =>
    rintro _ ⟨⟩
    exact hc

theorem after? {start rest : List Char} (hstart : '/' ∉ start) (h : Barred cs)
    (hafter : after? start cs = some rest) : Barred rest := by
  rw [after?_eq_some_iff] at hafter
  rw [hafter] at h
  exact h.of_append hstart

end Barred

section Pieces

variable {cs : List Char}

theorem quotation?_of_barred (h : Barred cs) : quotation? cs = none := by
  cases cs with
  | nil => rfl
  | cons c cs =>
    have hc : ¬ (c = '\x27' ∨ c = '\x22') := by
      simpa [isUnquoted] using h.head_unquoted c rfl
    rw [quotation?, quotedText?, if_neg hc]
    rfl

theorem fromSource?_of_barred (h : Barred cs) : fromSource? cs = none := by
  rw [Option.eq_none_iff_forall_ne_some]
  intro found hfound
  obtain ⟨g, g', q, tail, hq, htext⟩ := exists_of_fromSource? hfound
  rw [htext] at h
  have hquote : Barred (q :: tail) :=
    ((h.of_append (g.not_mem (by decide))).of_append (by decide)).of_append (g'.not_mem (by decide))
  have hunquoted := hquote.head_unquoted q rfl
  obtain rfl | rfl := hq <;> exact absurd hunquoted (by decide)

theorem importClause?_of_barred (h : Barred cs) (taken : List Char) :
    importClause? taken cs = none := by
  induction h generalizing taken with
  | nil => rfl
  | slash rest => rfl
  | cons hc h ih =>
    rw [importClause?]
    simp only [fromSource?_of_barred h, ite_self]
    rw [ih, ite_self]

theorem import?_of_barred (h : Barred cs) : (import? cs) = none := by
  cases hrest : after? importWord cs with
  | none => simp [import?, hrest]
  | some rest =>
    have hbody : Barred (rest.dropWhile isBlank) :=
      (h.after? (by decide) hrest).dropWhile (by decide)
    have htail : importTail? (rest.takeWhile isBlank) (rest.dropWhile isBlank) = none := by
      simp [importTail?, importClause?_of_barred hbody, quotation?_of_barred hbody,
        fromSource?_of_barred hbody]
    simp [import?, hrest, htail]

theorem aliasSource?_of_barred {name rest : List Char} (hname : '/' ∉ name)
    (h : Barred (name ++ rest)) (n : Nat) : aliasSource? name rest n = none := by
  induction n with
  | zero => rfl
  | succ n ih =>
    have hrest : Barred (name.drop (n + 1) ++ rest) := by
      rw [← List.take_append_drop (n + 1) name, List.append_assoc] at h
      exact h.of_append fun hslash => hname (List.mem_of_mem_take hslash)
    rw [aliasSource?, fromSource?_of_barred hrest]
    exact ih

theorem starAlias?_of_barred (h : Barred cs) : starAlias? cs = none := by
  cases hrest : after? asWord (cs.dropWhile isBlank) with
  | none => simp [starAlias?, hrest]
  | some rest =>
    have hbody : Barred (rest.dropWhile isBlank) :=
      ((h.dropWhile (by decide)).after? (by decide) hrest).dropWhile (by decide)
    have hname : '/' ∉ (rest.dropWhile isBlank).takeWhile isNameChar := fun hslash =>
      absurd (List.mem_takeWhile_imp hslash) (by decide)
    rw [← List.takeWhile_append_dropWhile (p := isNameChar) (l := rest.dropWhile isBlank)] at hbody
    have hsource := aliasSource?_of_barred hname hbody
    simp [starAlias?, hrest, hsource]

/-- Behind a star, and behind braces that are closed before the slash. -/
theorem exportClause?_of_barred {c : Char} (h : Barred (c :: cs)) (hc : c ≠ '/')
    (hclosed : c = '\x7b' →
      ∃ inner rest, cs = inner ++ '\x7d' :: rest ∧ '\x7d' ∉ inner ∧ Barred rest) :
    exportClause? (c :: cs) = none := by
  have hcs : Barred cs := h.of_append (m := [c]) (by simpa using hc.symm)
  rw [exportClause?]
  split_ifs with hstar hbrace
  · rw [starAlias?_of_barred hcs, fromSource?_of_barred hcs]
    rfl
  · obtain ⟨inner, rest, rfl, hinner, hrest⟩ := hclosed hbrace
    simp only [takeWhile_ne_append hinner, List.drop_left, fromSource?_of_barred hrest]
    rfl
  · rfl

end Pieces

/-! ## Texts in which no statement starts -/

/-- A character that starts neither a comment nor a literal. -/
def isPlain (c : Char) : Bool := isNameChar c || isOther c

theorem isUnquoted_of_isPlain {c : Char} (h : isPlain c = true) : isUnquoted c = true := by
  rw [isUnquoted, Bool.and_eq_true, bne_iff_ne, bne_iff_ne]
  constructor
  all_goals
    rintro rfl
    revert h
    decide

/-- A text without slashes and quotes in which no list starts, and braces behind the keyword of an
export only if they are closed. -/
structure Stuck (m : List Char) : Prop where
  plain : ∀ c ∈ m, isPlain c = true
  noBracket : '[' ∉ m
  closed : ∀ (pre : List Char) (gap : Gap) (inner : List Char),
    m = pre ++ (exportWord ++ (gap.text ++ '\x7b' :: inner)) → '\x7d' ∈ inner

namespace Stuck

variable {m : List Char}

theorem nil : Stuck [] where
  plain := by simp
  noBracket := by simp
  closed := by simp [exportWord]

theorem of_append {l : List Char} (h : Stuck (l ++ m)) : Stuck m where
  plain c hc := h.plain c (List.mem_append_right l hc)
  noBracket hc := h.noBracket (List.mem_append_right l hc)
  closed pre gap inner hm := h.closed (l ++ pre) gap inner (by rw [hm, List.append_assoc])

theorem no_slash (h : Stuck m) : '/' ∉ m := fun hc => absurd (h.plain _ hc) (by decide)

theorem barred (h : Stuck m) (tail : List Char) : Barred (m ++ '/' :: tail) :=
  .append (fun c hc => isUnquoted_of_isPlain (h.plain c hc)) (.slash tail)

theorem dropWhile (h : Stuck m) (p : Char → Bool) : Stuck (m.dropWhile p) := by
  rw [← List.takeWhile_append_dropWhile (p := p) (l := m)] at h
  exact h.of_append

theorem after? {start tail rest : List Char} (h : Stuck m) (hstart : '/' ∉ start)
    (hafter : after? start (m ++ '/' :: tail) = some rest) :
    ∃ m', Stuck m' ∧ m = start ++ m' ∧ rest = m' ++ '/' :: tail := by
  rw [after?_eq_some_iff, List.append_eq_append_iff] at hafter
  obtain ⟨l, hl, htail⟩ | ⟨m', rfl, htail⟩ := hafter
  · cases l with
    | nil => exact ⟨[], nil, by simpa using hl.symm, htail.symm⟩
    | cons c l =>
      -- the slash would be in the beginning
      cases htail
      exact absurd (by simp [hl]) hstart
  · exact ⟨m', h.of_append, rfl, htail⟩

theorem head_dropWhile_append {p : Char → Bool} (hp : p '/' = false) (m tail : List Char) :
    ∀ c ∈ (m.dropWhile p ++ '/' :: tail).head?, p c = false := by
  induction m with
  | nil =>
    rintro _ ⟨⟩
    exact hp
  | cons d m ih =>
    by_cases hd : p d = true
    · rwa [List.dropWhile_cons_of_pos hd]
    · rw [List.dropWhile_cons_of_neg hd]
      rintro _ ⟨⟩
      simpa using hd

theorem dropWhile_append {p : Char → Bool} (hp : p '/' = false) (m tail : List Char) :
    (m ++ '/' :: tail).dropWhile p = m.dropWhile p ++ '/' :: tail := by
  nth_rewrite 1 [← List.takeWhile_append_dropWhile (p := p) (l := m)]
  rw [List.append_assoc]
  exact dropWhile_append_of_head (fun c hc => List.mem_takeWhile_imp hc)
    (head_dropWhile_append hp m tail)

theorem takeWhile_append {p : Char → Bool} (hp : p '/' = false) (m tail : List Char) :
    (m ++ '/' :: tail).takeWhile p = m.takeWhile p := by
  nth_rewrite 1 [← List.takeWhile_append_dropWhile (p := p) (l := m)]
  rw [List.append_assoc]
  exact takeWhile_append_of_head (fun c hc => List.mem_takeWhile_imp hc)
    (head_dropWhile_append hp m tail)

theorem append {l : List Char} (h : Stuck m) (hplain : ∀ c ∈ l, isPlain c = true)
    (hbracket : '[' ∉ l) (hbrace : '\x7b' ∉ l) : Stuck (m ++ l) where
  plain := List.forall_mem_append.mpr ⟨h.plain, hplain⟩
  noBracket := by
    rw [List.mem_append, not_or]
    exact ⟨h.noBracket, hbracket⟩
  closed pre gap inner hm := by
    have hsplit : m ++ l = (pre ++ (exportWord ++ gap.text)) ++ '\x7b' :: inner := by
      rw [hm]
      simp
    rw [List.append_eq_append_iff] at hsplit
    obtain ⟨l', -, hl⟩ | ⟨m', hm', hl⟩ := hsplit
    · exact absurd (by simp [hl]) hbrace
    · cases m' with
      | nil => exact absurd (by rw [← List.nil_append l, ← hl]; exact List.mem_cons_self) hbrace
      | cons c m' =>
        cases hl
        have hinner := h.closed pre gap m' (by simp [hm'])
        exact List.mem_append_left l hinner

theorem append_gap (h : Stuck m) (gap : Gap) : Stuck (m ++ gap.text) :=
  h.append (fun c hc => by simp [isPlain, isOther_of_isBlank (gap.blank c hc)])
    (gap.not_mem (by decide)) (gap.not_mem (by decide))

end Stuck

theorem export?_of_stuck {m : List Char} (h : Stuck m) (tail : List Char) :
    export? (m ++ '/' :: tail) = none := by
  cases hrest : after? exportWord (m ++ '/' :: tail) with
  | none => simp [export?, hrest]
  | some rest =>
    obtain ⟨m', hm', hm, htail⟩ := h.after? (by decide) hrest
    have hclause : exportClause? (rest.dropWhile isBlank) = none := by
      rw [htail, Stuck.dropWhile_append (by decide)]
      have hstuck := hm'.dropWhile isBlank
      cases hbody : m'.dropWhile isBlank with
      | nil => rfl
      | cons c body =>
        rw [hbody] at hstuck
        refine exportClause?_of_barred (hstuck.barred tail)
          (fun hc => hstuck.no_slash (by simp [hc])) ?_
        rintro rfl
        -- the braces are closed before the slash
        have hclose : '\x7d' ∈ body := by
          refine h.closed [] ⟨m'.takeWhile isBlank, fun d hd => List.mem_takeWhile_imp hd⟩ body ?_
          rw [← hbody, List.takeWhile_append_dropWhile]
          exact hm
        obtain ⟨inner, rest, rfl, hinner⟩ := List.eq_append_cons_of_mem hclose
        refine ⟨inner, rest ++ '/' :: tail, by simp, hinner, ?_⟩
        have hrest : Stuck rest :=
          Stuck.of_append (l := '\x7b' :: (inner ++ ['\x7d'])) (by simpa using hstuck)
        exact hrest.barred tail
    simp [export?, hrest, hclause]

theorem require?_of_stuck {m : List Char} (h : Stuck m) (tail : List Char) :
    require? (m ++ '/' :: tail) = none := by
  cases hrest : after? requireWord (m ++ '/' :: tail) with
  | none => simp [require?, hrest]
  | some rest =>
    obtain ⟨m', hm', -, rfl⟩ := h.after? (by decide) hrest
    have hopen := Stuck.dropWhile_append (p := isBlank) (by decide) m' tail
    cases hinner : after? ['('] ((m' ++ '/' :: tail).dropWhile isBlank) with
    | none => simp [require?, hrest, hinner]
    | some inner =>
      have hargument : requireArgument? (inner.dropWhile isBlank) = none := by
        rw [hopen] at hinner
        obtain ⟨m'', hm'', -, rfl⟩ := (hm'.dropWhile isBlank).after? (by decide) hinner
        rw [Stuck.dropWhile_append (by decide)]
        have hstuck := hm''.dropWhile isBlank
        cases hbody : m''.dropWhile isBlank with
        | nil => rfl
        | cons c body =>
          rw [hbody] at hstuck
          have hbracket : c ≠ '[' := fun hc => hstuck.noBracket (by simp [hc])
          rw [List.cons_append, requireArgument?, if_neg hbracket, ← List.cons_append,
            quotation?_of_barred (hstuck.barred tail)]
          rfl
      simp [require?, hrest, hinner, hargument]

theorem constant?_of_barred {cs : List Char} (h : Barred cs) : constant? cs = none := by
  have hrest := (h.dropWhile (p := isConstantChar) (by decide)).dropWhile (p := isBlank) (by decide)
  cases hbody : after? ['='] ((cs.dropWhile isConstantChar).dropWhile isBlank) with
  | none => simp [constant?, hbody]
  | some body =>
    have hvalue := quotation?_of_barred
      ((hrest.after? (by decide) hbody).dropWhile (p := isBlank) (by decide))
    simp [constant?, hbody, hvalue]

/-- **No statement starts in a stuck text.** -/
theorem statement?_of_stuck {m : List Char} (h : Stuck m) (tail : List Char) :
    statement? (m ++ '/' :: tail) = none := by
  rw [statement?, import?_of_barred (h.barred tail), export?_of_stuck h, require?_of_stuck h,
    constant?_of_barred (h.barred tail)]
  rfl

/-! ## Reading up to a comment -/

theorem Comment.tokens_append (comment : Comment) (rest : List Char) :
    tokens (comment.text ++ rest) = tokens rest := by
  rw [Comment.text, Item.tokens_append]
  cases comment <;> rfl

/-- A comment is read wherever it stands, within a word too. -/
theorem tokensAfter_comment (comment : Comment) (before : Option Char) (rest : List Char) :
    tokensAfter before (comment.text ++ rest) = tokens rest := by
  have hnext : ∀ c cs, comment.text ++ rest = c :: cs → next before c cs = next none c cs := by
    intro c cs htext
    have hcomment : (comment? (c :: cs)).isSome = true := by
      rw [← htext]
      cases comment <;> rfl
    obtain ⟨lexeme, hlexeme⟩ := Option.isSome_iff_exists.mp hcomment
    simp [next, hlexeme]
  rw [← comment.tokens_append]
  cases htext : comment.text ++ rest with
  | nil => rfl
  | cons c cs => rw [tokensAfter, tokens, lexemes, lexemesFrom, lexemesFrom, hnext c cs htext]

theorem tokensAfter_word {c : Char} {m : List Char} (h : Stuck (c :: m))
    (hc : isNameChar c = true) (tail : List Char) (before : Option Char) :
    ∃ before', tokensAfter before (c :: (m ++ '/' :: tail)) =
      tokensAfter before' (m.dropWhile isNameChar ++ '/' :: tail) := by
  have hstatement : statement? (c :: (m ++ '/' :: tail)) = none := statement?_of_stuck h tail
  have hsplit : m ++ '/' :: tail =
      m.takeWhile isNameChar ++ (m.dropWhile isNameChar ++ '/' :: tail) := by
    rw [← List.append_assoc, List.takeWhile_append_dropWhile]
  have hnext : next before c (m.takeWhile isNameChar ++ (m.dropWhile isNameChar ++ '/' :: tail)) =
      ⟨.word, c :: m.takeWhile isNameChar⟩ := by
    rw [← hsplit, next_of_word hc hstatement, Stuck.takeWhile_append (by decide)]
  rw [hsplit]
  exact ⟨_, tokensAfter_cons hnext⟩

/-- **A stuck text before a comment gives nothing.** -/
theorem tokensAfter_of_stuck {m : List Char} (h : Stuck m) (comment : Comment) (rest : List Char)
    (before : Option Char) : tokensAfter before (m ++ (comment.text ++ rest)) = tokens rest := by
  obtain ⟨tail, htail⟩ : ∃ tail, comment.text ++ rest = '/' :: tail := by
    cases comment <;> exact ⟨_, rfl⟩
  -- a word, or a run of other characters, is read at a time
  induction hn : m.length using Nat.strong_induction_on generalizing m before with
  | _ n ih =>
    cases m with
    | nil => exact tokensAfter_comment comment before rest
    | cons c m =>
      have hm : Stuck m := h.of_append (l := [c])
      have hshorter : ∀ p : Char → Bool, (m.dropWhile p).length < n := by
        intro p
        have := (List.dropWhile_suffix p (l := m)).length_le
        rw [List.length_cons] at hn
        omega
      by_cases hc : isNameChar c = true
      · obtain ⟨before', hstep⟩ := tokensAfter_word h hc tail before
        rw [List.cons_append, htail, hstep, ← htail]
        exact ih _ (hshorter _) (hm.dropWhile _) before' rfl
      · have hother : isOther c = true := by
          simpa [isPlain, hc] using h.plain c List.mem_cons_self
        rw [List.cons_append, tokensAfter_cons_of_isOther hother, htail,
          Stuck.dropWhile_append (by decide), ← htail]
        exact ih _ (hshorter _) (hm.dropWhile _) none rfl

/-- **A remark behind a stuck text ends it**: what comes behind the remark is read on its own. -/
theorem tokens_of_stuck {m : List Char} (h : Stuck m) (remark : Remark) (rest : List Char) :
    tokens (m ++ (remark.text ++ rest)) = tokens rest := by
  have htext : m ++ (remark.text ++ rest) = (m ++ remark.before.text) ++
      (remark.comment.text ++ (remark.after.text ++ rest)) := by
    simp [Remark.text]
  rw [htext]
  calc tokens _ = tokens (remark.after.text ++ rest) :=
        tokensAfter_of_stuck (h.append_gap remark.before.toGap) remark.comment _ none
    _ = tokens rest := tokens_filler fun c hc => isOther_of_isBlank (remark.after.blank c hc)

end ReducerAtlas.Source
