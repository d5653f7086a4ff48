import Mathlib.Logic.Relation
import ReducerAtlas.Proofs.Apart
import ReducerAtlas.Proofs.References

/-!
# Spellings of a module name

A module name is a way from a folder, one name after the other. It can be written with blanks
around it, with slashes in front, with slashes or backslashes between its names and any number of
them, and a way can be made longer by steps that lead nowhere. All these texts stand for the same
paths: those that the way leads to from the folder of the source and from the base folder.

* `Spelling`: a module name as it is written; `Path.walk`: the path that a way leads to.
* `Detour`: a way with a step that leads nowhere; `Path.walk_of_detours`: where it leads.
* `Path.normalize_append`: a normal form as a walk; `Spelling.parse_plainSpecifier`,
  `Spelling.normalize_joinText`: what is read from a spelling, and where it leads.
* **`candidates_spelling`**: the paths that all spellings of a way stand for.
-/

namespace ReducerAtlas

open ReducerAtlas.Text ReducerAtlas.Source

/-! ## Ways -/

namespace Path

/-- The path one step further: a dot stays, two dots lead up, and any other name leads down. Nothing
is above the root. -/
def enter (p : Path) (name : String) : Path :=
  if name = "." then p else if name = up then p.parent else ⟨p.anchor, p.parts ++ [name]⟩

/-- The path that some steps lead to. -/
def walk (p : Path) (names : List String) : Path := names.foldl enter p

theorem enter_dot (p : Path) : p.enter "." = p := rfl

theorem enter_enter_up {name : String} (hdot : name ≠ ".") (hup : name ≠ up) (p : Path) :
    (p.enter name).enter up = p := by
  have hdown : p.enter name = ⟨p.anchor, p.parts ++ [name]⟩ := by
    rw [enter, if_neg hdot, if_neg hup]
  rw [hdown, enter, if_neg (by decide), if_pos rfl, parent, List.dropLast_concat]

end Path

/-- A way with one more step that stays, or with a step down and one up again. -/
inductive Detour : List String → List String → Prop
  | stay (front back : List String) : Detour (front ++ back) (front ++ "." :: back)
  | turn (front back : List String) (name : String) (hdot : name ≠ ".") (hup : name ≠ Path.up) :
    Detour (front ++ back) (front ++ name :: Path.up :: back)

namespace Path

theorem walk_of_detour {names names' : List String} (h : Detour names names') (p : Path) :
    p.walk names = p.walk names' := by
  cases h with
  | stay front back => simp only [walk, List.foldl_append, List.foldl_cons, enter_dot]
  | turn front back name hdot hup =>
    simp only [walk, List.foldl_append, List.foldl_cons, enter_enter_up hdot hup]

/-- **Detours do not change where a way leads**, however many are made or left out. -/
theorem walk_of_detours {names names' : List String} (h : Relation.EqvGen Detour names names')
    (p : Path) : p.walk names = p.walk names' := by
  induction h with
  | rel names names' h => exact walk_of_detour h p
  | refl names => rfl
  | symm names names' _ ih => exact ih.symm
  | trans names names' names'' _ _ ih ih' => exact ih.trans ih'

/-! ## Normal forms as walks -/

variable {p : Path}

theorem normalize_concat (hp : p.anchor = .root) {name : String} (hdot : name ≠ ".") :
    normalize ⟨.root, p.parts ++ [name]⟩ = p.normalize.enter name := by
  have hup : up ∉ p.parts.foldl (push true) [] := (foldl_push p.parts [] List.not_mem_nil).1
  rw [normalize_of_root hp, normalize_of_root rfl]
  dsimp only
  rw [List.foldl_append, List.foldl_cons, List.foldl_nil, enter, if_neg hdot]
  generalize p.parts.foldl (push true) [] = stack at *
  by_cases hname : name = up
  · rw [if_pos hname, hname, parent]
    cases stack with
    | nil => rfl
    | cons top rest =>
      have htop : top ≠ up := fun e => hup (e ▸ List.mem_cons_self)
      simp [push, htop]
  · rw [if_neg hname, push_of_ne hname, List.reverse_cons]

/-- **The normal form of a longer path** is where its further names lead from the normal form. -/
theorem normalize_append (hp : p.anchor = .root) (names : List String) :
    normalize ⟨.root, p.parts ++ names.filter (· ≠ ".")⟩ = p.normalize.walk names := by
  induction names generalizing p with
  | nil =>
    rw [List.filter_nil, List.append_nil, ← hp]
    rfl
  | cons name names ih =>
    by_cases hdot : name = "."
    · rw [List.filter_cons_of_neg (by simpa using hdot), ih hp, hdot]
      rfl
    · have hstep := ih (p := ⟨.root, p.parts ++ [name]⟩) rfl
      rw [List.filter_cons_of_pos (by simpa using hdot), List.append_cons, hstep,
        normalize_concat hp hdot]
      rfl

end Path

/-! ## Spellings -/

/-- A slash of either kind. -/
def isSlash (c : Char) : Bool := c == '/' || c == '\\'

/-- Slashes of either kind. -/
structure Slashes where
  text : List Char
  slashes : ∀ c ∈ text, isSlash c = true

/-- At least one slash of either kind. -/
structure Separator extends Slashes where
  ne_nil : text ≠ []

/-- A name between separators: not empty, and without blanks at its ends. -/
structure Piece where
  text : List Char
  ne_nil : text ≠ []
  no_slash : ∀ c ∈ text, isSlash c = false
  head_not_blank : ∀ c ∈ text.head?, isBlank c = false
  last_not_blank : ∀ c ∈ text.getLast?, isBlank c = false

/-- A module name as it is written. -/
structure Spelling where
  before : Gap
  leading : Slashes
  first : Piece
  rest : List (Separator × Piece)
  after : Gap

namespace Spelling

/-- The names with what separates them. -/
def body (s : Spelling) : List Char := s.first.text ++ s.rest.flatMap fun e => e.1.text ++ e.2.text

/-- The text of a spelling. -/
def text (s : Spelling) : String :=
  String.ofList (s.before.text ++ ((s.leading.text ++ s.body) ++ s.after.text))

/-- The way that is spelled. -/
def names (s : Spelling) : List String :=
  (s.first :: s.rest.map Prod.snd).map fun piece => String.ofList piece.text

/-- The two spell the same way, up to detours. They may differ in all else: in blanks, in slashes in
front, and in the kind and number of slashes between names. -/
def Respells (s t : Spelling) : Prop := Relation.EqvGen Detour s.names t.names

end Spelling

/-! ## Reading a spelling -/

/-- Backslashes count as slashes. -/
def asSlash (c : Char) : Char := if c = '\\' then '/' else c

theorem asSlash_of_isSlash {c : Char} (h : isSlash c = true) : asSlash c = '/' := by
  obtain rfl | rfl : c = '/' ∨ c = '\\' := by simpa [isSlash] using h
  · rfl
  · rfl

theorem asSlash_of_not {c : Char} (h : isSlash c = false) : asSlash c = c := by
  apply if_neg
  rintro rfl
  cases h

theorem isBlank_of_isSlash {c : Char} (h : isSlash c = true) : isBlank c = false := by
  obtain rfl | rfl : c = '/' ∨ c = '\\' := by simpa [isSlash] using h
  · decide
  · decide

theorem Slashes.map_asSlash (l : Slashes) : ∀ c ∈ l.text.map asSlash, (c == '/') = true := by
  intro c hc
  obtain ⟨d, hd, rfl⟩ := List.mem_map.mp hc
  rw [asSlash_of_isSlash (l.slashes d hd)]
  rfl

theorem Piece.map_asSlash (piece : Piece) : piece.text.map asSlash = piece.text := by
  conv_rhs => rw [← List.map_id piece.text]
  exact List.map_congr_left fun c hc => asSlash_of_not (piece.no_slash c hc)

theorem Piece.not_slash (piece : Piece) : ∀ c ∈ piece.text, (c == '/') = false := by
  intro c hc
  rw [beq_eq_false_iff_ne]
  rintro rfl
  exact absurd (piece.no_slash _ hc) (by decide)

namespace Path

theorem partsOf_append_slashes {sep : List Char} (hsep : ∀ c ∈ sep, (c == '/') = true)
    (hne : sep ≠ []) (l rest : List Char) :
    partsOf (l ++ (sep ++ rest)) = partsOf l ++ partsOf rest := by
  have hslashes : ∀ sep : List Char, (∀ c ∈ sep, (c == '/') = true) →
      partsOf (sep ++ rest) = partsOf rest := by
    intro sep hsep
    induction sep with
    | nil => rfl
    | cons c sep ih =>
      obtain ⟨hc, hsep⟩ := List.forall_mem_cons.mp hsep
      rw [eq_of_beq hc, List.cons_append, partsOf_slash, ih hsep]
  obtain ⟨c, sep, rfl⟩ := List.exists_cons_of_ne_nil hne
  obtain ⟨hc, hsep⟩ := List.forall_mem_cons.mp hsep
  rw [← hslashes sep hsep, partsOf, partsOf, partsOf, List.cons_append,
    splitBy_append_cons (p := (· == '/')) hc, List.filter_append, List.map_append]

theorem partsOf_piece (piece : Piece) :
    partsOf piece.text = [String.ofList piece.text].filter (· ≠ ".") := by
  have hdot : String.ofList piece.text = "." ↔ piece.text = ['.'] := by
    rw [← String.toList_inj, String.toList_ofList]
    rfl
  have hne : piece.text.isEmpty = false := List.isEmpty_eq_false_iff.mpr piece.ne_nil
  rw [partsOf, splitBy_of_forall piece.not_slash]
  by_cases h : piece.text = ['.']
  · rw [List.filter_cons_of_neg (by simp [h]), List.filter_cons_of_neg (by simp [h])]
    rfl
  · rw [List.filter_cons_of_pos (by simp [h, hne]), List.filter_cons_of_pos (by simp [hdot, h])]
    rfl

end Path

namespace Spelling

open ReducerAtlas.Path

theorem last_not_blank (s : Spelling) : ∀ c ∈ s.body.getLast?, isBlank c = false := by
  obtain ⟨before, leading, first, rest, after⟩ := s
  obtain rfl | ⟨rest, e, rfl⟩ := List.eq_nil_or_concat rest
  · simpa [body] using first.last_not_blank
  · simpa [body, List.getLast?_append_of_ne_nil, e.2.ne_nil] using e.2.last_not_blank

theorem trim_text (s : Spelling) : trim s.text.toList = s.leading.text ++ s.body := by
  have hfirst : s.body.head? = s.first.text.head? := List.head?_append_of_ne_nil _ s.first.ne_nil
  have hne : s.body ≠ [] := List.append_ne_nil_of_left_ne_nil s.first.ne_nil _
  rw [text, String.toList_ofList]
  apply trim_append s.before.blank s.after.blank
  · intro c hc
    cases hleading : s.leading.text with
    | nil =>
      rw [hleading, List.nil_append, hfirst] at hc
      exact s.first.head_not_blank c hc
    | cons d l =>
      rw [hleading] at hc
      cases hc
      exact isBlank_of_isSlash (s.leading.slashes c (by simp [hleading]))
  · rw [List.getLast?_append_of_ne_nil _ hne]
    exact s.last_not_blank

/-- Only the names are left of a spelling, and what separates them. -/
theorem plainSpecifier_text (s : Spelling) : plainSpecifier s.text = s.body.map asSlash := by
  have hhead : ∀ c ∈ (s.body.map asSlash).head?, (c == '/') = false := by
    rw [body, List.map_append, s.first.map_asSlash, List.head?_append_of_ne_nil _ s.first.ne_nil]
    exact fun c hc => s.first.not_slash c (List.mem_of_mem_head? hc)
  rw [plainSpecifier, trim_text]
  change ((s.leading.text ++ s.body).map asSlash).dropWhile (· == '/') = _
  rw [List.map_append]
  exact dropWhile_append_of_head s.leading.map_asSlash hhead

theorem partsOf_body (first : Piece) (rest : List (Separator × Piece)) :
    partsOf ((first.text ++ rest.flatMap fun e => e.1.text ++ e.2.text).map asSlash) =
      ((first :: rest.map Prod.snd).map fun piece => String.ofList piece.text).filter (· ≠ ".") := by
  induction rest generalizing first with
  | nil =>
    rw [List.flatMap_nil, List.append_nil, first.map_asSlash, partsOf_piece]
    rfl
  | cons e rest ih =>
    have hne : e.1.text.map asSlash ≠ [] := by simpa using e.1.ne_nil
    rw [List.flatMap_cons, List.append_assoc, List.map_append, List.map_append, first.map_asSlash,
      partsOf_append_slashes e.1.map_asSlash hne, ih, partsOf_piece, ← List.filter_append]
    rfl

/-- **What is read from a spelling** are its names, without dots. -/
theorem parse_plainSpecifier (s : Spelling) :
    parse (String.ofList (plainSpecifier s.text)) = ⟨.relative, s.names.filter (· ≠ ".")⟩ := by
  have hparts : (parse (String.ofList (plainSpecifier s.text))).parts =
      s.names.filter (· ≠ ".") := by
    rw [parse, String.toList_ofList, plainSpecifier_text]
    exact partsOf_body s.first s.rest
  have hanchor : (parse (String.ofList (plainSpecifier s.text))).anchor = .relative := by
    simpa [isAbsolute] using Lookup.isAbsolute_plainSpecifier s.text
  rw [← hparts, ← hanchor]

/-- **From a folder, a spelling leads where its way does.** -/
theorem normalize_joinText {folder : Path} (hfolder : folder.anchor = .root) (s : Spelling) :
    (folder.joinText (String.ofList (plainSpecifier s.text))).normalize =
      folder.normalize.walk s.names := by
  rw [← normalize_append hfolder, joinText, parse_plainSpecifier, join,
    if_neg (by simp [isAbsolute]), hfolder]

end Spelling

/-! ## The paths of a spelling -/

/-- A path from the root as it is read: its names are proper ones, but some may lead up. -/
structure Path.Rooted (p : Path) : Prop where
  anchor : p.anchor = .root
  segment : ∀ n ∈ p.parts, Segment n

variable {source base : Path}

theorem candidates_text (hsource : source.anchor = .root) (hbase : base.anchor = .root)
    (s : Spelling) :
    candidates source s.text base =
      if base.normalize.walk s.names = source.parent.normalize.walk s.names then
        [source.parent.normalize.walk s.names]
      else [source.parent.normalize.walk s.names, base.normalize.walk s.names] := by
  have hplain : (plainSpecifier s.text).isEmpty = false := by
    rw [s.plainSpecifier_text, List.isEmpty_eq_false_iff]
    exact fun h => s.first.ne_nil (List.append_eq_nil_iff.mp (List.map_eq_nil_iff.mp h)).1
  have hparent : source.parent.anchor = .root := hsource
  simp only [candidates, hplain, Bool.false_eq_true, if_false, s.normalize_joinText hbase,
    s.normalize_joinText hparent]

theorem normal_of_mem_candidates (hsource : source.Rooted) (hbase : base.Rooted)
    {specifier : String} {p : Path} (hp : p ∈ candidates source specifier base) :
    p.anchor = .root ∧ p.Normal := by
  obtain ⟨⟨hanchor, hup⟩, hnames⟩ := Lookup.of_mem_candidates hsource.anchor hbase.anchor hp
  refine ⟨hanchor, by simp [Path.isAbsolute, hanchor], fun n hn => ?_, hup⟩
  obtain (hn | hn) | hn := hnames n hn
  · exact hsource.segment n hn
  · exact hbase.segment n hn
  · exact Path.segment_of_mem_parse hn

/-- **All spellings of a way stand for the same paths.** These are absolute and in normal form, one
or two of them and distinct: where the way leads from the folder of the source, and then where it
leads from the base folder. -/
theorem candidates_spelling (source base : Path) (hsource : source.Rooted) (hbase : base.Rooted)
    (s : Spelling) :
    (∀ t : Spelling, s.Respells t → candidates source t.text base = candidates source s.text base) ∧
    (∀ p ∈ candidates source s.text base, p.anchor = .root ∧ p.Normal) ∧
    (candidates source s.text base).Nodup ∧
    ((candidates source s.text base).length = 1 ∨ (candidates source s.text base).length = 2) ∧
    (candidates source s.text base).head? = some (source.parent.normalize.walk s.names) ∧
    ∀ p, p ∈ candidates source s.text base ↔
      p = source.parent.normalize.walk s.names ∨ p = base.normalize.walk s.names := by
  have htext := candidates_text hsource.anchor hbase.anchor
  refine ⟨fun t ht => ?_, fun p hp => normal_of_mem_candidates hsource hbase hp, ?_⟩
  · have hway : ∀ p : Path, p.walk s.names = p.walk t.names := Path.walk_of_detours ht
    simp only [htext, hway]
  · rw [htext s]
    split_ifs with hsame
    · rw [hsame]
      simp
    · simp [Ne.symm hsame]

/-- Blanks, slashes of both kinds, a dot and a detour change nothing. From the folder of the source
the way leads up and down again, from the base folder it leads out of it. -/
theorem candidates_twisted :
    candidates (Path.parse "/app/pages/home.js") " \t/\\..\\lib/\\./old\\../\\cart\n"
        (Path.parse "/app") =
      candidates (Path.parse "/app/pages/home.js") "../lib/cart" (Path.parse "/app") ∧
    (candidates (Path.parse "/app/pages/home.js") "../lib/cart" (Path.parse "/app")).head? =
      some (Path.parse "/app/lib/cart") ∧
    Path.parse "/lib/cart" ∈
      candidates (Path.parse "/app/pages/home.js") "../lib/cart" (Path.parse "/app") := by
  let piece (cs : List Char) (hne : cs ≠ []) (hslash : (cs.all fun c => !isSlash c) = true)
      (hhead : (cs.head?.all fun c => !isBlank c) = true)
      (hlast : (cs.getLast?.all fun c => !isBlank c) = true) : Piece :=
    ⟨cs, hne, by simpa using hslash, fun c hc => by simpa [Option.mem_def.mp hc] using hhead,
      fun c hc => by simpa [Option.mem_def.mp hc] using hlast⟩
  let slashes (cs : List Char) (h : cs.all isSlash = true) : Slashes := ⟨cs, List.all_eq_true.mp h⟩
  let blanks (cs : List Char) (h : cs.all isBlank = true) : Gap := ⟨cs, List.all_eq_true.mp h⟩
  let up := piece ['.', '.'] (by decide) rfl rfl rfl
  let dot := piece ['.'] (by decide) rfl rfl rfl
  let lib := piece ['l', 'i', 'b'] (by decide) rfl rfl rfl
  let old := piece ['o', 'l', 'd'] (by decide) rfl rfl rfl
  let cart := piece ['c', 'a', 'r', 't'] (by decide) rfl rfl rfl
  let slash : Separator := ⟨slashes ['/'] rfl, by simp [slashes]⟩
  let backslash : Separator := ⟨slashes ['\\'] rfl, by simp [slashes]⟩
  let both : Separator := ⟨slashes ['/', '\\'] rfl, by simp [slashes]⟩
  let plain : Spelling :=
    ⟨blanks [] rfl, slashes [] rfl, up, [(slash, lib), (slash, cart)], blanks [] rfl⟩
  let twisted : Spelling :=
    ⟨blanks [' ', '\t'] rfl, slashes ['/', '\\'] rfl, up,
      [(backslash, lib), (both, dot), (slash, old), (backslash, up), (both, cart)],
      blanks ['\n'] rfl⟩
  have hplain : plain.text = "../lib/cart" := by decide
  have htwisted : twisted.text = " \t/\\..\\lib/\\./old\\../\\cart\n" := by decide
  have hnames : plain.names = ["..", "lib", "cart"] := by decide
  have hrespells : plain.Respells twisted :=
    .trans _ ["..", "lib", "old", "..", "cart"] _
      (.rel _ _ (.turn ["..", "lib"] ["cart"] "old" (by decide) (by decide)))
      (.rel _ _ (.stay ["..", "lib"] ["old", "..", "cart"]))
  have hsource : (Path.parse "/app/pages/home.js").Rooted := ⟨by decide, by decide⟩
  have hbase : (Path.parse "/app").Rooted := ⟨by decide, by decide⟩
  obtain ⟨hsame, -, -, -, hhead, hmem⟩ := candidates_spelling _ _ hsource hbase plain
  have hfirst := hsame twisted hrespells
  rw [hplain, htwisted] at hfirst
  rw [hplain, hnames] at hhead hmem
  exact ⟨hfirst, hhead.trans (by decide), (hmem _).mpr (.inr (by decide))⟩

end ReducerAtlas
