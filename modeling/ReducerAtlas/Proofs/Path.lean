import Mathlib.Data.List.Basic
import ReducerAtlas.Path.Basic

/-!
# Paths and their text

The text of a path can be read back, and the absolute form of an absolute form is that form. So two
files have the same displayed path only if they are the same file.

* `Path.Segment`: a name that stands between slashes; `Path.parse_render`: the text of such names.
* `Path.joinText_of_segment`: a single name after a path; `Path.segment_of_mem_parse`: the names
  that are read from a text; `Path.extend?_of_segment`, `Path.eq_nil_of_extend?`: the paths that
  can be extended, and those that cannot.
* `Path.Resolved`: a path in absolute form; `Path.Resolved.resolve?_eq`: it is its own.
* `Path.parse_display`: a displayed path read back.
* **`Path.display_inj`**: distinct files are displayed by distinct paths.
-/

namespace ReducerAtlas

namespace Text

variable {α : Type} {p : α → Bool} {piece rest : List α} {c : α}

theorem splitBy_cons_sep (hc : p c = true) : splitBy p (c :: rest) = [] :: splitBy p rest := by
  simp [splitBy, hc]

theorem splitBy_of_forall (h : ∀ c ∈ piece, p c = false) : splitBy p piece = [piece] := by
  induction piece with
  | nil => rfl
  | cons c piece ih =>
    obtain ⟨hc, hpiece⟩ := List.forall_mem_cons.mp h
    simp [splitBy, hc, ih hpiece]

theorem splitBy_append_sep (h : ∀ c ∈ piece, p c = false) (hc : p c = true) :
    splitBy p (piece ++ c :: rest) = piece :: splitBy p rest := by
  induction piece with
  | nil => exact splitBy_cons_sep hc
  | cons d piece ih =>
    obtain ⟨hd, hpiece⟩ := List.forall_mem_cons.mp h
    simp [splitBy, hd, ih hpiece]

theorem toList_joinWith_cons (s t : String) (l : List String) :
    (joinWith "/" (s :: t :: l)).toList = s.toList ++ '/' :: (joinWith "/" (t :: l)).toList := by
  simp [joinWith]

theorem eq_false_of_mem_splitBy {cs : List α} (hpiece : piece ∈ splitBy p cs) :
    ∀ c ∈ piece, p c = false := by
  induction cs generalizing piece with
  | nil => simp_all [splitBy]
  | cons d cs ih =>
    rw [splitBy] at hpiece
    split_ifs at hpiece with hd
    · obtain rfl | hpiece := List.mem_cons.mp hpiece
      · simp
      · exact ih hpiece
    · cases hsplit : splitBy p cs with
      | nil => simp_all
      | cons first rest =>
        rw [hsplit] at hpiece ih
        obtain rfl | hpiece := List.mem_cons.mp hpiece
        · exact List.forall_mem_cons.mpr ⟨eq_false_of_ne_true hd, ih List.mem_cons_self⟩
        · exact ih (List.mem_cons_of_mem _ hpiece)

theorem splitBy_intercalate [BEq α] [LawfulBEq α] {l : List (List α)} (hl : l ≠ [])
    (h : ∀ piece ∈ l, c ∉ piece) : splitBy (· == c) (List.intercalate [c] l) = l := by
  have hpiece : ∀ piece : List α, c ∉ piece → ∀ d ∈ piece, (d == c) = false := by
    intro piece hc d hd
    rw [beq_eq_false_iff_ne]
    rintro rfl
    exact hc hd
  induction l with
  | nil => exact absurd rfl hl
  | cons piece l ih =>
    obtain ⟨hc, hl'⟩ := List.forall_mem_cons.mp h
    cases l with
    | nil => rw [List.intercalate_singleton, splitBy_of_forall (hpiece piece hc)]
    | cons next l =>
      rw [List.intercalate_cons_cons, List.append_assoc, List.singleton_append,
        splitBy_append_sep (hpiece piece hc) (beq_self_eq_true c), ih (List.cons_ne_nil _ _) hl']

theorem toList_joinWith (separator : String) (l : List String) :
    (joinWith separator l).toList = List.intercalate separator.toList (l.map String.toList) := by
  induction l with
  | nil => simp [joinWith]
  | cons s l ih =>
    cases l with
    | nil => simp [joinWith]
    | cons t l =>
      rw [joinWith, String.toList_append, String.toList_append, ih]
      · rw [List.map_cons, List.map_cons, List.map_cons, List.intercalate_cons_cons]
      · simp

theorem splitBy_joinWith {separator : String} {c : Char} (hseparator : separator.toList = [c])
    {l : List String} (hl : l ≠ []) (h : ∀ s ∈ l, c ∉ s.toList) :
    splitBy (· == c) (joinWith separator l).toList = l.map String.toList := by
  rw [toList_joinWith, hseparator, splitBy_intercalate (by simpa using hl) (by simpa using h)]

end Text

namespace Path

open ReducerAtlas.Text

variable {base b p q f g : Path} {cs : List Char} {l : List String}

/-! ## Reading the text of a path back -/

/-- A name that stands between the slashes of a path. -/
def Segment (name : String) : Prop := name ≠ "" ∧ name ≠ "." ∧ '/' ∉ name.toList

instance : DecidablePred Segment := fun _ => inferInstanceAs (Decidable (_ ∧ _ ∧ _))

theorem partsOf_slash (cs : List Char) : partsOf ('/' :: cs) = partsOf cs := by
  simp [partsOf, splitBy_cons_sep]

theorem partsOf_dot (cs : List Char) : partsOf ('.' :: '/' :: cs) = partsOf cs := by
  have hsplit : splitBy (· == '/') (['.'] ++ '/' :: cs) = ['.'] :: splitBy (· == '/') cs :=
    splitBy_append_sep (by simp) rfl
  rw [List.singleton_append] at hsplit
  simp [partsOf, hsplit]

theorem partsOf_joinWith (h : ∀ n ∈ l, Segment n) : partsOf (joinWith "/" l).toList = l := by
  cases l with
  | nil => simp [joinWith, partsOf, splitBy]
  | cons s l =>
    have hkeep : ∀ piece ∈ (s :: l).map String.toList,
        (!piece.isEmpty && piece != ['.']) = true := by
      intro piece hpiece
      obtain ⟨n, hn, rfl⟩ := List.mem_map.mp hpiece
      obtain ⟨hempty, hdot, -⟩ := h n hn
      have hne : n.toList ≠ ['.'] := fun e => hdot (String.toList_inj.mp e)
      simp [hempty, hne]
    rw [partsOf, splitBy_joinWith rfl (by simp) fun n hn => (h n hn).2.2,
      List.filter_eq_self.mpr hkeep, List.map_map]
    simp

theorem takeWhile_joinWith (h : ∀ n ∈ l, Segment n) :
    (joinWith "/" l).toList.takeWhile (· == '/') = [] := by
  cases l with
  | nil => rfl
  | cons s l =>
    obtain ⟨hempty, -, hslash⟩ := h s List.mem_cons_self
    have hfirst : ∃ rest, (joinWith "/" (s :: l)).toList = s.toList ++ rest := by
      cases l with
      | nil => exact ⟨[], by simp [joinWith]⟩
      | cons t l => exact ⟨_, toList_joinWith_cons s t l⟩
    obtain ⟨rest, hrest⟩ := hfirst
    rw [hrest]
    cases hs : s.toList with
    | nil => exact absurd (String.toList_eq_nil_iff.mp hs) hempty
    | cons c cs =>
      have hc : (c == '/') = false := by
        rw [beq_eq_false_iff_ne]
        rintro rfl
        exact hslash (by simp [hs])
      simp [hc]

/-- **The text of a path can be read back.** -/
theorem parse_render (h : ∀ n ∈ p.parts, Segment n) : parse p.render = p := by
  obtain ⟨anchor, parts⟩ := p
  have hparts := partsOf_joinWith h
  have hanchor := takeWhile_joinWith h
  cases anchor with
  | relative =>
    by_cases hempty : parts = []
    · subst hempty
      decide
    · simp [render, hempty, Anchor.render, parse, anchorOf, hparts, hanchor]
  | root => simp [render, Anchor.render, parse, anchorOf, partsOf_slash, hparts, hanchor]
  | doubleRoot => simp [render, Anchor.render, parse, anchorOf, partsOf_slash, hparts, hanchor]

theorem parse_of_segment {name : String} (h : Segment name) : parse name = ⟨.relative, [name]⟩ := by
  have hread : parse (render ⟨.relative, [name]⟩) = ⟨.relative, [name]⟩ :=
    parse_render (List.forall_mem_singleton.mpr h)
  have hrender : render ⟨.relative, [name]⟩ = name := by simp [render, Anchor.render, joinWith]
  rwa [hrender] at hread

theorem joinText_of_segment {name : String} (h : Segment name) (p : Path) :
    p.joinText name = ⟨p.anchor, p.parts ++ [name]⟩ := by
  simp [joinText, join, parse_of_segment h, isAbsolute]

theorem parse_dot_render (h : ∀ n ∈ l, Segment n) :
    parse ("./" ++ render ⟨.relative, l⟩) = ⟨.relative, l⟩ := by
  have hread : parse (render ⟨.relative, l⟩) = ⟨.relative, l⟩ := parse_render h
  have hparts : partsOf (render ⟨.relative, l⟩).toList = l := congrArg Path.parts hread
  simp [parse, anchorOf, partsOf_dot, hparts]

/-! ## The names of a path -/

theorem segment_of_mem_parse {s name : String} (h : name ∈ (parse s).parts) : Segment name := by
  obtain ⟨piece, hpiece, rfl⟩ := List.mem_map.mp h
  obtain ⟨hsplit, hkept⟩ := List.mem_filter.mp hpiece
  simp only [Bool.and_eq_true, Bool.not_eq_true', List.isEmpty_eq_false_iff, bne_iff_ne] at hkept
  refine ⟨?_, fun hdot => hkept.2 ?_, fun hslash => ?_⟩
  · simpa using hkept.1
  · rw [← String.toList_ofList (l := piece), hdot]
    rfl
  · rw [String.toList_ofList] at hslash
    exact absurd (eq_false_of_mem_splitBy hsplit '/' hslash) (by decide)

theorem mem_of_mem_joinText {s name : String} (h : name ∈ (p.joinText s).parts) :
    name ∈ p.parts ∨ name ∈ (parse s).parts := by
  unfold joinText join at h
  split_ifs at h
  · exact .inr h
  · exact List.mem_append.mp h

theorem name_mem (h : p.parts ≠ []) : p.name ∈ p.parts := by
  rw [name, List.getLastD_eq_getLast?, List.getLast?_eq_some_getLast h]
  exact List.getLast_mem h

theorem append_ne_dot {name tail : String} (hempty : name ≠ "") (hdot : name ≠ ".") :
    name ++ tail ≠ "." := by
  intro h
  rw [← String.toList_inj, String.toList_append] at h
  obtain ⟨hname, -⟩ | ⟨hname, -⟩ := List.append_eq_singleton_iff.mp h
  · exact hempty (String.toList_eq_nil_iff.mp hname)
  · exact hdot (String.toList_inj.mp hname)

theorem Segment.append {name tail : String} (h : Segment name) (htail : '/' ∉ tail.toList) :
    Segment (name ++ tail) := by
  obtain ⟨hempty, hdot, hslash⟩ := h
  exact ⟨by simp [hempty], append_ne_dot hempty hdot, by simp [hslash, htail]⟩

/-- A path is extended by its last name, if that stays a single one. -/
theorem extend?_of_segment {tail : String} (hne : p.parts ≠ []) (h : Segment (p.name ++ tail)) :
    p.extend? tail = some ⟨p.anchor, p.parts.dropLast ++ [p.name ++ tail]⟩ := by
  unfold extend?
  dsimp only
  rw [parse_of_segment h, if_neg]
  rintro (hnil | habsolute | hlength | hlast)
  · exact hne hnil
  · cases habsolute
  · exact hlength rfl
  · exact h.2.2 (List.mem_of_getLast? hlast)

/-- A path in absolute form: seen from the root, and nothing in it leads up. -/
structure Resolved (p : Path) : Prop where
  anchor : p.anchor = .root
  not_up : up ∉ p.parts
  not_null : p.hasNull = false

theorem push_of_ne {part : String} (h : part ≠ up) (anchored : Bool) (stack : List String) :
    push anchored stack part = part :: stack := by
  simp [push, h]

/-- The names that are left when each `..` is taken back do not lead up, and are old ones. -/
theorem foldl_push (parts stack : List String) (hstack : up ∉ stack) :
    up ∉ parts.foldl (push true) stack ∧
      ∀ n ∈ parts.foldl (push true) stack, n ∈ stack ∨ n ∈ parts := by
  induction parts generalizing stack with
  | nil => exact ⟨hstack, fun n hn => .inl hn⟩
  | cons part parts ih =>
    have hpush : up ∉ push true stack part ∧ ∀ n ∈ push true stack part, n ∈ stack ∨ n = part := by
      by_cases hpart : part = up
      · subst hpart
        cases stack with
        | nil => simp [push]
        | cons top rest =>
          have htop : top ≠ up := fun e => hstack (e ▸ List.mem_cons_self)
          simp only [push, if_true, if_neg htop]
          exact ⟨fun h => hstack (List.mem_cons_of_mem _ h),
            fun n hn => .inl (List.mem_cons_of_mem _ hn)⟩
      · rw [push_of_ne hpart]
        simp [Ne.symm hpart, hstack, or_comm]
    obtain ⟨hup, hold⟩ := ih _ hpush.1
    refine ⟨hup, fun n hn => ?_⟩
    rcases hold n hn with h | h
    · rcases hpush.2 n h with h | rfl
      · exact .inl h
      · exact .inr List.mem_cons_self
    · exact .inr (List.mem_cons_of_mem _ h)

theorem normalize_of_root (hp : p.anchor = .root) :
    p.normalize = ⟨.root, (p.parts.foldl (push true) []).reverse⟩ := by
  have habsolute : p.isAbsolute = true := by simp [isAbsolute, hp]
  rw [normalize, habsolute, hp]

theorem up_not_mem_normalize (hp : p.anchor = .root) : up ∉ p.normalize.parts := by
  rw [normalize_of_root hp, List.mem_reverse]
  exact (foldl_push p.parts [] List.not_mem_nil).1

theorem mem_of_mem_normalize {name : String} (hp : p.anchor = .root)
    (h : name ∈ p.normalize.parts) : name ∈ p.parts := by
  rw [normalize_of_root hp, List.mem_reverse] at h
  exact ((foldl_push p.parts [] List.not_mem_nil).2 name h).resolve_left List.not_mem_nil

theorem foldl_push_of_not_mem (anchored : Bool) {parts : List String} (h : up ∉ parts)
    (stack : List String) : parts.foldl (push anchored) stack = parts.reverse ++ stack := by
  induction parts generalizing stack with
  | nil => rfl
  | cons part parts ih =>
    have hpart : part ≠ up := fun e => h (e ▸ List.mem_cons_self)
    rw [List.foldl_cons, ih (fun hm => h (List.mem_cons_of_mem _ hm)), push_of_ne hpart]
    simp

theorem hasNull_eq_false_iff : p.hasNull = false ↔ ∀ n ∈ p.parts, '\x00' ∉ n.toList := by
  simp [hasNull]

theorem mem_of_resolve? {name : String} (h : p.resolve? = some q) (hname : name ∈ q.parts) :
    name ∈ p.parts := by
  unfold resolve? at h
  split_ifs at h
  cases h
  exact mem_of_mem_normalize (p := ⟨.root, p.parts⟩) rfl hname

theorem resolved_of_resolve? (h : p.resolve? = some q) : q.Resolved := by
  have hold : ∀ n ∈ q.parts, n ∈ p.parts := fun _ => mem_of_resolve? h
  unfold resolve? at h
  split_ifs at h with hnull
  cases h
  have hnone := hasNull_eq_false_iff.mp (eq_false_of_ne_true hnull)
  exact ⟨rfl, up_not_mem_normalize rfl, hasNull_eq_false_iff.mpr fun n hn => hnone n (hold n hn)⟩

theorem Resolved.resolve?_eq (h : p.Resolved) : p.resolve? = some p := by
  obtain ⟨anchor, parts⟩ := p
  obtain ⟨rfl, hup, hnull⟩ := h
  simp [resolve?, hnull, normalize, foldl_push_of_not_mem _ hup]

theorem Resolved.of_subset (h : p.Resolved) (hl : l ⊆ p.parts) : Resolved ⟨p.anchor, l⟩ where
  anchor := h.anchor
  not_up hup := h.not_up (hl hup)
  not_null := by
    have hnull := hasNull_eq_false_iff.mp h.not_null
    exact hasNull_eq_false_iff.mpr fun n hn => hnull n (hl hn)

theorem Resolved.parent (h : p.Resolved) : p.parent.Resolved :=
  h.of_subset (List.dropLast_subset _)

theorem eq_of_parts_eq (hp : p.anchor = .root) (hq : q.anchor = .root) (h : p.parts = q.parts) :
    p = q := by
  obtain ⟨anchor, parts⟩ := p
  obtain ⟨anchor', parts'⟩ := q
  exact congrArg₂ mk (hp.trans hq.symm) h

/-! ## Displayed paths -/

theorem below?_eq_some_iff : base.below? p = some l ↔
    base.anchor = p.anchor ∧ p.parts = base.parts ++ l := by
  unfold below?
  constructor
  · intro h
    split_ifs at h with hbelow
    obtain ⟨hanchor, rest, hrest⟩ := And.imp_right List.isPrefixOf_iff_prefix.mp hbelow
    cases h
    exact ⟨hanchor, by simp [← hrest]⟩
  · rintro ⟨hanchor, hparts⟩
    simp [hanchor, hparts, List.isPrefixOf_iff_prefix]

theorem display_of_resolve? (h : base.resolve? = some b) (f : Path) :
    display b f = display base f := by
  simp [display, h, (resolved_of_resolve? h).resolve?_eq]

/-- **A displayed path read back** is the way from the base, or the file itself. -/
theorem parse_display (hf : f.Resolved) (hseg : ∀ n ∈ f.parts, Segment n) (base : Path) :
    parse (display base f) = match base.resolve?.bind (·.below? f) with
      | some parts => ⟨.relative, parts⟩
      | none => f := by
  cases hway : base.resolve?.bind (·.below? f) with
  | none =>
    have hdisplay : display base f = f.render := by
      simp [display, hf.resolve?_eq, hway, isAbsolute, hf.anchor]
    rw [hdisplay]
    exact parse_render hseg
  | some parts =>
    have hdisplay : display base f = "./" ++ render ⟨.relative, parts⟩ := by
      simp [display, hf.resolve?_eq, hway]
    obtain ⟨b, -, hbelow⟩ := Option.bind_eq_some_iff.mp hway
    obtain ⟨-, hparts⟩ := below?_eq_some_iff.mp hbelow
    rw [hdisplay]
    exact parse_dot_render fun n hn => hseg n (hparts ▸ List.mem_append_right _ hn)

/-- **Distinct files are displayed by distinct paths**: the way from the base tells two files below
it apart, and the full path two others; only the latter starts at the root. -/
theorem display_inj (hf : f.Resolved) (hfseg : ∀ n ∈ f.parts, Segment n) (hg : g.Resolved)
    (hgseg : ∀ n ∈ g.parts, Segment n) (h : display base f = display base g) : f = g := by
  have hread := (parse_display hf hfseg base).symm.trans (h ▸ parse_display hg hgseg base)
  have hfroot := hf.anchor
  have hgroot := hg.anchor
  cases hb : base.resolve? with
  | none => simpa [hb] using hread
  | some b =>
    simp only [hb, Option.bind_some] at hread
    cases hbf : b.below? f with
    | none =>
      cases hbg : b.below? g with
      | none => simpa [hbf, hbg] using hread
      | some m =>
        simp only [hbf, hbg] at hread
        simp [hread] at hfroot
    | some l =>
      cases hbg : b.below? g with
      | none =>
        simp only [hbf, hbg] at hread
        simp [← hread] at hgroot
      | some m =>
        simp only [hbf, hbg, Path.mk.injEq, true_and] at hread
        subst hread
        obtain ⟨hfa, hfp⟩ := below?_eq_some_iff.mp hbf
        obtain ⟨hga, hgp⟩ := below?_eq_some_iff.mp hbg
        exact congrArg₂ Path.mk (hfa.symm.trans hga) (hfp.trans hgp.symm)

end Path

end ReducerAtlas
