import ReducerAtlas.Artifact.Reference
import ReducerAtlas.Proofs.ClauseText
import ReducerAtlas.Proofs.GrownDisk

/-!
# References lead back

The reference of a file climbs out of a folder, goes down to the file and leaves its extension off.
Read from the same folder, it gives the path of the file up to that extension. A lookup then tries
the path itself and the two extensions, so it comes back to the file unless another one is in the
way.

* `Path.foldl_push_way`: climbing to what two paths share, and down again.
* `nameWithoutExtension_cases`: a name and its extension; `Path.withoutExtension_render`: the text
  of a path without it.
* `Artifact.parse_moduleReference`: the names of a reference; `Artifact.normalize_moduleReference`:
  where it leads.
* `Lookup.find_extended_iff`: the file that a bare path stands for.
* **`Artifact.find_moduleReference`**: which file a lookup finds there.
-/

namespace ReducerAtlas

/-! ## The way between two folders -/

namespace Path

variable {start target l : List String} {k : Nat}

theorem take_commonLength (start target : List String) :
    start.take (commonLength start target) = target.take (commonLength start target) := by
  induction start generalizing target with
  | nil => cases target <;> simp [commonLength]
  | cons a start ih =>
    cases target with
    | nil => simp [commonLength]
    | cons b target =>
      by_cases hab : a = b
      · simp [commonLength, hab, ih]
      · simp [commonLength, hab]

theorem commonLength_le (start target : List String) :
    commonLength start target ≤ start.length := by
  induction start generalizing target with
  | nil => simp [commonLength]
  | cons a start ih =>
    cases target with
    | nil => simp [commonLength]
    | cons b target =>
      by_cases hab : a = b
      · simpa [commonLength, hab] using ih target
      · simp [commonLength, hab]

/-- What two paths share is shorter than the second, unless the first goes on from it. -/
theorem commonLength_lt (h : ¬ target <+: start) : commonLength start target < target.length := by
  by_contra hle
  apply h
  have htake := take_commonLength start target
  rw [List.take_of_length_le (not_lt.mp hle)] at htake
  rw [← htake]
  exact List.take_prefix _ _

theorem foldl_push_ups (hl : up ∉ l) (k : Nat) :
    (List.replicate k up).foldl (push true) l = l.drop k := by
  induction k generalizing l with
  | zero => rfl
  | succ k ih =>
    cases l with
    | nil =>
      have hstep : push true [] up = [] := rfl
      rw [List.replicate_succ, List.foldl_cons, hstep, ih hl]
      simp
    | cons top rest =>
      rw [List.mem_cons, not_or] at hl
      have hstep : push true (top :: rest) up = rest := by simp [push, Ne.symm hl.1]
      rw [List.replicate_succ, List.foldl_cons, hstep, ih hl.2]
      rfl

/-- **Climbing to what two paths share and down again** leads from the one to the other. -/
theorem foldl_push_way (hstart : up ∉ start) (htarget : up ∉ target) (hk : k ≤ start.length)
    (hshared : start.take k = target.take k) :
    (start ++ (List.replicate (start.length - k) up ++ target.drop k)).foldl (push true) [] =
      target.reverse := by
  have hclimbed : start.reverse.drop (start.length - k) = (target.take k).reverse := by
    rw [← hshared, List.drop_reverse]
    congr 2
    omega
  rw [List.foldl_append, List.foldl_append, foldl_push_of_not_mem _ hstart, List.append_nil,
    foldl_push_ups (by simpa using hstart), hclimbed,
    foldl_push_of_not_mem _ fun h => htarget (List.mem_of_mem_drop h), ← List.reverse_append,
    List.take_append_drop]

end Path

/-! ## Extensions -/

open ReducerAtlas.Source (takeWhile_append_of_head dropWhile_append_of_head takeWhile_ne_append)

/-- The extension of the last name of a text, with its dot. -/
def extensionOf (cs : List Char) : List Char :=
  cs.drop (withoutExtension cs).length

/-- The name without its extension. -/
def bareName (name : String) : String :=
  String.ofList (nameWithoutExtension name.toList)

section Names

variable {dots body stem tail : List Char}

theorem nameWithoutExtension_dots (hdots : ∀ c ∈ dots, (c == '.') = true)
    (hbody : ∀ c ∈ body.head?, (c == '.') = false) :
    nameWithoutExtension (dots ++ body) =
      if (body.reverse.takeWhile (· != '.')).length = body.length then dots ++ body
      else dots ++ body.take (body.length - (body.reverse.takeWhile (· != '.')).length - 1) := by
  unfold nameWithoutExtension
  simp only [takeWhile_append_of_head hdots hbody, List.drop_left, List.length_reverse]

theorem nameWithoutExtension_of_not_mem (hdots : ∀ c ∈ dots, (c == '.') = true)
    (hbody : '.' ∉ body) : nameWithoutExtension (dots ++ body) = dots ++ body := by
  have hhead : ∀ c ∈ body.head?, (c == '.') = false := by
    intro c hc
    rw [beq_eq_false_iff_ne]
    rintro rfl
    exact hbody (List.mem_of_mem_head? hc)
  have hall : body.reverse.takeWhile (· != '.') = body.reverse := by
    apply List.takeWhile_eq_self_iff.mpr
    intro c hc
    rw [bne_iff_ne]
    rintro rfl
    exact hbody (List.mem_reverse.mp hc)
  rw [nameWithoutExtension_dots hdots hhead, hall, List.length_reverse, if_pos rfl]

theorem nameWithoutExtension_append (hdots : ∀ c ∈ dots, (c == '.') = true) (hne : stem ≠ [])
    (hstem : ∀ c ∈ stem.head?, (c == '.') = false) (htail : '.' ∉ tail) :
    nameWithoutExtension (dots ++ (stem ++ '.' :: tail)) = dots ++ stem := by
  have hhead : ∀ c ∈ (stem ++ '.' :: tail).head?, (c == '.') = false := by
    rwa [List.head?_append_of_ne_nil _ hne]
  have hback : (stem ++ '.' :: tail).reverse.takeWhile (· != '.') = tail.reverse := by
    rw [List.reverse_append, List.reverse_cons, List.append_assoc, List.singleton_append]
    exact takeWhile_ne_append (by simpa using htail)
  rw [nameWithoutExtension_dots hdots hhead, hback, List.length_reverse, if_neg]
  · congr 1
    apply List.take_left'
    rw [List.length_append, List.length_cons]
    omega
  · rw [List.length_append, List.length_cons]
    omega

end Names

/-- **A name has no extension, or it is a stem, a dot and the rest.** The stem is not only dots. -/
theorem nameWithoutExtension_cases (cs : List Char) :
    nameWithoutExtension cs = cs ∨
      ∃ stem tail, cs = stem ++ '.' :: tail ∧ nameWithoutExtension cs = stem ∧
        ∃ c ∈ stem, c ≠ '.' := by
  obtain ⟨dots, body, hcs, hdots, hbody⟩ : ∃ dots body, cs = dots ++ body ∧
      (∀ c ∈ dots, (c == '.') = true) ∧ ∀ c ∈ body.head?, (c == '.') = false := by
    refine ⟨cs.takeWhile (· == '.'), cs.dropWhile (· == '.'),
      List.takeWhile_append_dropWhile.symm, ?_, ?_⟩
    · intro c hc
      exact List.mem_takeWhile_imp (p := (· == '.')) hc
    intro c hc
    have hhead := List.head?_dropWhile_not (· == '.') cs
    rw [Option.mem_def.mp hc] at hhead
    exact hhead
  by_cases hdot : '.' ∈ body
  · right
    -- the last dot of the body
    obtain ⟨tail, stem, hsplit, htail⟩ := List.eq_append_cons_of_mem (List.mem_reverse.mpr hdot)
    have hbodySplit : body = stem.reverse ++ '.' :: tail.reverse := by
      rw [← List.reverse_reverse body, hsplit]
      simp
    have hne : stem.reverse ≠ [] := by
      intro hnil
      rw [hbodySplit, hnil] at hbody
      simpa using hbody '.' rfl
    have hstem : ∀ c ∈ stem.reverse.head?, (c == '.') = false := by
      rwa [hbodySplit, List.head?_append_of_ne_nil _ hne] at hbody
    obtain ⟨c, rest, hc⟩ := List.exists_cons_of_ne_nil hne
    refine ⟨dots ++ stem.reverse, tail.reverse, by rw [hcs, hbodySplit, List.append_assoc], ?_, c,
      by simp [hc], ?_⟩
    · rw [hcs, hbodySplit]
      exact nameWithoutExtension_append hdots hne hstem (by simpa using htail)
    · rw [hc] at hstem
      simpa using hstem c rfl
  · left
    rw [hcs]
    exact nameWithoutExtension_of_not_mem hdots hdot

/-- The extension is that of the name behind the last slash. -/
theorem withoutExtension_append {front last : List Char} (hfront : ∀ c ∈ front.getLast?, c = '/')
    (hlast : '/' ∉ last) :
    withoutExtension (front ++ last) = front ++ nameWithoutExtension last := by
  have hback : (front ++ last).reverse.takeWhile (· != '/') = last.reverse := by
    rw [List.reverse_append]
    apply takeWhile_append_of_head
    · intro c hc
      rw [bne_iff_ne]
      rintro rfl
      exact hlast (List.mem_reverse.mp hc)
    · intro c hc
      rw [List.head?_reverse] at hc
      simp [hfront c hc]
  unfold withoutExtension
  simp only [hback, List.reverse_reverse, List.length_append, Nat.add_sub_cancel, List.take_left]

theorem nameWithoutExtension_begins (cs : List Char) : nameWithoutExtension cs <+: cs := by
  obtain h | ⟨stem, tail, hcs, hstem, -⟩ := nameWithoutExtension_cases cs
  · exact ⟨[], by rw [h, List.append_nil]⟩
  · rw [hstem, hcs]
    exact List.prefix_append _ _

namespace Path

variable {anchor : Anchor} {l : List String} {name : String}

theorem exists_front_joinWith (l : List String) :
    ∃ front : List Char, (front = [] ∨ front.getLast? = some '/') ∧
      ∀ name, (Text.joinWith "/" (l ++ [name])).toList = front ++ name.toList := by
  induction l with
  | nil => exact ⟨[], .inl rfl, fun name => by simp [Text.joinWith]⟩
  | cons n l ih =>
    obtain ⟨front, hfront, hjoin⟩ := ih
    refine ⟨n.toList ++ '/' :: front, .inr ?_, fun name => ?_⟩
    · obtain rfl | hfront := hfront <;> simp [List.getLast?_cons, *]
    · obtain ⟨t, rest, hrest⟩ := List.exists_cons_of_ne_nil (List.concat_ne_nil name l)
      rw [List.cons_append, hrest, Text.toList_joinWith_cons, ← hrest, hjoin]
      simp

theorem exists_front (anchor : Anchor) (l : List String) :
    ∃ front : List Char, (∀ c ∈ front.getLast?, c = '/') ∧
      ∀ name, (render ⟨anchor, l ++ [name]⟩).toList = front ++ name.toList := by
  obtain ⟨front, hfront, hjoin⟩ := exists_front_joinWith l
  refine ⟨(Anchor.render anchor).toList ++ front, ?_, fun name => ?_⟩
  · obtain rfl | hfront := hfront
    · cases anchor <;> simp [Anchor.render]
    · simp [hfront]
  · have hrender : (render ⟨anchor, l ++ [name]⟩).toList =
        (Anchor.render anchor).toList ++ (Text.joinWith "/" (l ++ [name])).toList := by
      simp [render]
    rw [hrender, hjoin, List.append_assoc]

theorem withoutExtension_render (hname : '/' ∉ name.toList) :
    withoutExtension (render ⟨anchor, l ++ [name]⟩).toList =
      (render ⟨anchor, l ++ [bareName name]⟩).toList := by
  obtain ⟨front, hfront, hrender⟩ := exists_front anchor l
  rw [hrender, hrender, withoutExtension_append hfront hname, bareName, String.toList_ofList]

/-- A name with an extension is a bare name, which is again a proper one, and the extension. -/
theorem of_extensionOf {extension : String} (hname : Segment name) (hne : extension ≠ "")
    (h : extensionOf (render ⟨anchor, l ++ [name]⟩).toList = extension.toList) :
    name = bareName name ++ extension ∧ Segment (bareName name) ∧ bareName name ≠ up := by
  obtain ⟨front, hfront, hrender⟩ := exists_front anchor l
  have hdrop : name.toList.drop (nameWithoutExtension name.toList).length = extension.toList := by
    rw [← h, extensionOf, hrender, withoutExtension_append hfront hname.2.2, List.length_append,
      List.drop_length_add_append]
  obtain hwhole | ⟨stem, tail, hsplit, hstem, c, hc, hdot⟩ := nameWithoutExtension_cases name.toList
  · rw [hwhole, List.drop_length] at hdrop
    exact absurd (String.toList_eq_nil_iff.mp hdrop.symm) hne
  · have hbare : (bareName name).toList = stem := by rw [bareName, String.toList_ofList, hstem]
    have hne' : ∀ s : String, (∀ d ∈ s.toList, d = '.') → bareName name ≠ s := by
      rintro s hs rfl
      exact hdot (hs c (hbare ▸ hc))
    refine ⟨?_, ⟨hne' _ (by simp), hne' _ (by simp), ?_⟩, hne' _ (by simp [up])⟩
    · rw [← String.toList_inj, String.toList_append, hbare, ← hdrop, hstem, hsplit, List.drop_left]
    · rw [hbare]
      exact fun hslash => hname.2.2 (by rw [hsplit]; exact List.mem_append_left _ hslash)

end Path

/-! ## The characters of a reference -/

theorem withoutExtension_begins (cs : List Char) : withoutExtension cs <+: cs := by
  have hcs : cs = (cs.reverse.dropWhile (· != '/')).reverse ++
      (cs.reverse.takeWhile (· != '/')).reverse := by
    rw [← List.reverse_append, List.takeWhile_append_dropWhile, List.reverse_reverse]
  have hfront : ∀ c ∈ (cs.reverse.dropWhile (· != '/')).reverse.getLast?, c = '/' := by
    intro c hc
    rw [List.getLast?_reverse] at hc
    have hhead := List.head?_dropWhile_not (· != '/') cs.reverse
    rw [Option.mem_def.mp hc] at hhead
    simpa using hhead
  have hlast : '/' ∉ (cs.reverse.takeWhile (· != '/')).reverse := by
    intro h
    have hslash := List.mem_takeWhile_imp (p := (· != '/')) (List.mem_reverse.mp h)
    simp at hslash
  have hbare := withoutExtension_append hfront hlast
  rw [← hcs] at hbare
  rw [hbare]
  nth_rewrite 3 [hcs]
  exact (List.prefix_append_right_inj _).mpr (nameWithoutExtension_begins _)

namespace Path

variable {p target folder : Path} {c : Char}

theorem mem_joinWith {l : List String} (h : c ∈ (Text.joinWith "/" l).toList) :
    c = '/' ∨ ∃ n ∈ l, c ∈ n.toList := by
  induction l with
  | nil => simp [Text.joinWith] at h
  | cons s l ih =>
    cases l with
    | nil => exact .inr ⟨s, List.mem_cons_self, by simpa [Text.joinWith] using h⟩
    | cons t l =>
      rw [Text.toList_joinWith_cons, List.mem_append, List.mem_cons] at h
      obtain h | h | h := h
      · exact .inr ⟨s, List.mem_cons_self, h⟩
      · exact .inl h
      · obtain h | ⟨n, hn, hc⟩ := ih h
        · exact .inl h
        · exact .inr ⟨n, List.mem_cons_of_mem s hn, hc⟩

theorem mem_joinWith_of_mem {l : List String} {n : String} (hn : n ∈ l) (hc : c ∈ n.toList) :
    c ∈ (Text.joinWith "/" l).toList := by
  induction l with
  | nil => cases hn
  | cons s l ih =>
    cases l with
    | nil =>
      rw [List.mem_singleton] at hn
      simpa [Text.joinWith, ← hn] using hc
    | cons t l =>
      rw [Text.toList_joinWith_cons, List.mem_append, List.mem_cons]
      obtain rfl | hn := List.mem_cons.mp hn
      · exact .inl hc
      · exact .inr (.inr (ih hn))

theorem mem_render_of_mem {n : String} (hn : n ∈ p.parts) (hc : c ∈ n.toList) :
    c ∈ p.render.toList := by
  have hne : p.parts ≠ [] := List.ne_nil_of_mem hn
  simp [render, hne, mem_joinWith_of_mem hn hc]

theorem mem_relativeFrom (h : c ∈ (relativeFrom target folder).toList) :
    c = '.' ∨ c = '/' ∨ c ∈ target.render.toList := by
  unfold relativeFrom at h
  dsimp only at h
  split_ifs at h
  · exact .inl (by simpa using h)
  · obtain h | ⟨n, hn, hc⟩ := mem_joinWith h
    · exact .inr (.inl h)
    · obtain hn | hn := List.mem_append.mp hn
      · rw [List.eq_of_mem_replicate hn] at hc
        exact .inl (by simpa [up] using hc)
      · have hpart := mem_of_mem_normalize rfl (List.mem_of_mem_drop hn)
        exact .inr (.inr (mem_render_of_mem hpart hc))

end Path

namespace Artifact

open ReducerAtlas.Path

variable {target folder : Path} {c : Char}

/-- **The characters of a reference** are those of the file that it is for, besides dots and
slashes: nothing of the folder is in it. -/
theorem mem_moduleReference (h : c ∈ (moduleReference target folder).toList) :
    c = '.' ∨ c = '/' ∨ c ∈ target.render.toList := by
  have hplain : ∀ d ∈ withoutExtension ((relativeFrom target folder).toList.map fun c =>
      if c = '\\' then '/' else c), d = '.' ∨ d = '/' ∨ d ∈ target.render.toList := by
    intro d hd
    obtain ⟨e, he, rfl⟩ := List.mem_map.mp ((withoutExtension_begins _).subset hd)
    split_ifs
    · exact .inr (.inl rfl)
    · exact mem_relativeFrom he
  unfold moduleReference at h
  dsimp only at h
  rw [String.toList_ofList] at h
  split_ifs at h
  · exact hplain c h
  · obtain rfl | h := List.mem_cons.mp h
    · exact .inl rfl
    · obtain rfl | h := List.mem_cons.mp h
      · exact .inr (.inl rfl)
      · exact hplain c h

theorem isRelative_moduleReference (target folder : Path) :
    isRelative (moduleReference target folder).toList = true := by
  unfold moduleReference
  dsimp only
  rw [String.toList_ofList]
  split_ifs with h
  · exact h
  · rfl

end Artifact

/-! ## Where a reference leads -/

namespace Path

/-- An absolute path in normal form: its names are proper ones, and none of them leads up. -/
structure Normal (p : Path) : Prop where
  absolute : p.isAbsolute = true
  segment : ∀ n ∈ p.parts, Segment n
  not_up : up ∉ p.parts

theorem normalize_eq_self {p : Path} (h : up ∉ p.parts) : p.normalize = p := by
  simp [normalize, foldl_push_of_not_mem _ h]

end Path

namespace Artifact

open ReducerAtlas.Path

section Way

variable {target folder : Path} {l : List String} {name : String}

/-- The names that lead from a folder to the folder of a file. -/
def climb (folder target : Path) (l : List String) : List String :=
  let shared := commonLength folder.parts target.parts
  List.replicate (folder.parts.length - shared) up ++ l.drop shared

variable (hparts : target.parts = l ++ [name]) (htarget : target.Normal) (hfolder : folder.Normal)
  (hapart : ¬ target.parts <+: folder.parts)

include hparts hapart

theorem shared_le : commonLength folder.parts target.parts ≤ l.length := by
  have hlt := commonLength_lt hapart
  rw [hparts, List.length_append, List.length_singleton] at hlt
  rw [hparts]
  omega

include htarget hfolder

theorem relativeFrom_eq_render :
    relativeFrom target folder = render ⟨.relative, climb folder target l ++ [name]⟩ := by
  have hsteps : stepsBetween folder.parts target.parts = climb folder target l ++ [name] := by
    unfold stepsBetween climb
    dsimp only
    rw [List.append_assoc, ← List.drop_append_of_le_length (shared_le hparts hapart), ← hparts]
  have hseen : ∀ p : Path, p.Normal → (normalize ⟨.root, p.parts⟩).parts = p.parts := by
    intro p hp
    rw [normalize_eq_self (p := ⟨.root, p.parts⟩) hp.not_up]
  simp only [relativeFrom, hseen target htarget, hseen folder hfolder, hsteps]
  simp [render, Anchor.render]

/-- **The names of a reference**: those of the way, and at its end the bare name. -/
theorem parse_moduleReference (hslash : '\\' ∉ target.render.toList)
    (hbare : Segment (bareName name)) :
    parse (moduleReference target folder) =
      ⟨.relative, climb folder target l ++ [bareName name]⟩ := by
  have hname : Segment name := htarget.segment name (by simp [hparts])
  have hmap : (relativeFrom target folder).toList.map (fun c => if c = '\\' then '/' else c) =
      (relativeFrom target folder).toList := by
    conv_rhs => rw [← List.map_id (relativeFrom target folder).toList]
    apply List.map_congr_left
    intro c hc
    apply if_neg
    rintro rfl
    obtain h | h | h := mem_relativeFrom hc
    · exact absurd h (by decide)
    · exact absurd h (by decide)
    · exact hslash h
  have hsegment : ∀ n ∈ climb folder target l ++ [bareName name], Segment n := by
    intro n hn
    obtain hn | hn := List.mem_append.mp hn
    · obtain hn | hn := List.mem_append.mp hn
      · rw [List.eq_of_mem_replicate hn]
        decide
      · exact htarget.segment n (by simp [hparts, List.mem_of_mem_drop hn])
    · rw [List.mem_singleton.mp hn]
      exact hbare
  unfold moduleReference
  dsimp only
  rw [hmap, relativeFrom_eq_render hparts htarget hfolder hapart,
    withoutExtension_render hname.2.2]
  split_ifs
  · rw [String.ofList_toList]
    exact parse_render hsegment
  · have hdot : ∀ s : String, String.ofList ('.' :: '/' :: s.toList) = "./" ++ s := by
      intro s
      rw [← String.toList_inj]
      simp
    rw [hdot]
    exact parse_dot_render hsegment

/-- **A reference leads to the bare path of its file**, from the root of the folder. -/
theorem normalize_moduleReference (hslash : '\\' ∉ target.render.toList)
    (hbare : Segment (bareName name)) (hup : bareName name ≠ up) :
    (folder.joinText (moduleReference target folder)).normalize =
      ⟨folder.anchor, l ++ [bareName name]⟩ := by
  have hupBare : up ∉ l ++ [bareName name] := by
    have hold := htarget.not_up
    rw [hparts] at hold
    simp only [List.mem_append, List.mem_singleton, not_or] at hold ⊢
    exact ⟨hold.1, Ne.symm hup⟩
  have hle := shared_le hparts hapart
  have hshared : folder.parts.take (commonLength folder.parts target.parts) =
      (l ++ [bareName name]).take (commonLength folder.parts target.parts) := by
    rw [take_commonLength, List.take_append_of_le_length hle]
    nth_rewrite 2 [hparts]
    rw [List.take_append_of_le_length hle]
  have hway := foldl_push_way hfolder.not_up hupBare (commonLength_le _ _) hshared
  rw [List.drop_append_of_le_length hle] at hway
  have hjoin : folder.joinText (moduleReference target folder) =
      ⟨folder.anchor, folder.parts ++ (climb folder target l ++ [bareName name])⟩ := by
    rw [joinText, parse_moduleReference hparts htarget hfolder hapart hslash hbare]
    rfl
  have habsolute : isAbsolute
      ⟨folder.anchor, folder.parts ++ (climb folder target l ++ [bareName name])⟩ = true :=
    hfolder.absolute
  rw [hjoin, Path.normalize, habsolute]
  unfold climb
  dsimp only
  rw [List.append_assoc, hway, List.reverse_reverse]

end Way

end Artifact

/-! ## Looking a reference up -/

namespace Path

variable {anchor : Anchor} {l : List String} {stem tail : String}

theorem render_append (anchor : Anchor) (l : List String) (stem tail : String) :
    render ⟨anchor, l ++ [stem]⟩ ++ tail = render ⟨anchor, l ++ [stem ++ tail]⟩ := by
  obtain ⟨front, -, hrender⟩ := exists_front anchor l
  rw [← String.toList_inj, String.toList_append, hrender, hrender, String.toList_append,
    List.append_assoc]

theorem parse_render_append (hl : ∀ n ∈ l, Segment n) (hstem : Segment stem)
    (htail : '/' ∉ tail.toList) :
    parse (render ⟨anchor, l ++ [stem]⟩ ++ tail) = ⟨anchor, l ++ [stem ++ tail]⟩ := by
  rw [render_append]
  apply parse_render
  intro n hn
  obtain hn | hn := List.mem_append.mp hn
  · exact hl n hn
  · rw [List.mem_singleton.mp hn]
    exact hstem.append htail

theorem extend?_concat (h : Segment (stem ++ tail)) :
    extend? ⟨anchor, l ++ [stem]⟩ tail = some ⟨anchor, l ++ [stem ++ tail]⟩ := by
  have hname : name ⟨anchor, l ++ [stem]⟩ = stem := List.getLastD_concat ..
  rw [← hname] at h
  rw [extend?_of_segment (by simp) h, hname, List.dropLast_concat]

theorem Fits.of_append (h : Fits ⟨anchor, l ++ [stem ++ tail]⟩) : Fits ⟨anchor, l ++ [stem]⟩ := by
  obtain ⟨hpath, hnames⟩ := h
  rw [← render_append, String.utf8ByteSize_append] at hpath
  refine ⟨by omega, fun n hn => ?_⟩
  obtain hn | hn := List.mem_append.mp hn
  · exact hnames n (List.mem_append_left _ hn)
  · have hlong := hnames (stem ++ tail) (by simp)
    rw [String.utf8ByteSize_append] at hlong
    rw [List.mem_singleton.mp hn]
    omega

/-- A path with its root written as that of another one. -/
def rootedAs (p other : Path) : Path := ⟨other.anchor, p.parts⟩

theorem rootedAs_of_anchor_eq {p other : Path} (h : other.anchor = p.anchor) :
    p.rootedAs other = p := by
  rw [rootedAs, h]

end Path

namespace Disk

variable {disk : Disk} {p other : Path}

/-- The two ways to write the root lead to one file. -/
theorem isFile_rootedAs (h : disk.isFile p = .ok true)
    (hpath : (p.rootedAs other).render.utf8ByteSize < maxPath) :
    disk.isFile (p.rootedAs other) = .ok true := by
  obtain ⟨content, hlocate⟩ := isFile_eq_true_iff.mp h
  apply isFile_eq_true_iff.mpr
  refine ⟨content, ?_⟩
  unfold locate at hlocate ⊢
  split_ifs at hlocate with hnull hlong
  have hnull' : ¬ (p.rootedAs other).hasNull = true := hnull
  rw [if_neg hnull', if_neg (not_le.mpr hpath)]
  exact hlocate

end Disk

namespace Lookup

open ReducerAtlas.Path

variable {disk : Disk} {anchor : Anchor} {l : List String} {stem : String}

theorem find_of_jsx (hstem : Segment stem)
    (hhere : disk.isFile ⟨anchor, l ++ [stem]⟩ = .ok false)
    (hjsx : disk.isFile ⟨anchor, l ++ [stem ++ ".jsx"]⟩ = .ok true) :
    find {} disk ⟨anchor, l ++ [stem]⟩ = .ok (some ⟨anchor, l ++ [stem ++ ".jsx"]⟩) := by
  have hextend : extend? ⟨anchor, l ++ [stem]⟩ ".jsx" = some ⟨anchor, l ++ [stem ++ ".jsx"]⟩ :=
    extend?_concat (hstem.append (by decide))
  simp [find, findExtended, hhere, hjsx, hextend, liftIo, bind, Except.bind, pure, Except.pure]

theorem find_of_js (hstem : Segment stem)
    (hhere : disk.isFile ⟨anchor, l ++ [stem]⟩ = .ok false)
    (hjsx : disk.isFile ⟨anchor, l ++ [stem ++ ".jsx"]⟩ = .ok false)
    (hjs : disk.isFile ⟨anchor, l ++ [stem ++ ".js"]⟩ = .ok true) :
    find {} disk ⟨anchor, l ++ [stem]⟩ = .ok (some ⟨anchor, l ++ [stem ++ ".js"]⟩) := by
  have hextendJsx : extend? ⟨anchor, l ++ [stem]⟩ ".jsx" = some ⟨anchor, l ++ [stem ++ ".jsx"]⟩ :=
    extend?_concat (hstem.append (by decide))
  have hextendJs : extend? ⟨anchor, l ++ [stem]⟩ ".js" = some ⟨anchor, l ++ [stem ++ ".js"]⟩ :=
    extend?_concat (hstem.append (by decide))
  simp [find, findExtended, hhere, hjsx, hjs, hextendJsx, hextendJs, liftIo, bind, Except.bind,
    pure, Except.pure]

/-- **What a bare path stands for**: the file with an extension, unless one comes before it. -/
theorem find_extended_iff {extension : String} (hstem : Segment stem)
    (hkind : extension = ".js" ∨ extension = ".jsx")
    (hfile : disk.isFile ⟨anchor, l ++ [stem ++ extension]⟩ = .ok true)
    (hfits : Fits ⟨anchor, l ++ [stem ++ ".jsx"]⟩) :
    find {} disk ⟨anchor, l ++ [stem]⟩ = .ok (some ⟨anchor, l ++ [stem ++ extension]⟩) ↔
      disk.isFile ⟨anchor, l ++ [stem]⟩ ≠ .ok true ∧
        (extension = ".js" → disk.isFile ⟨anchor, l ++ [stem ++ ".jsx"]⟩ ≠ .ok true) := by
  obtain ⟨here, hhere⟩ : ∃ b, disk.isFile ⟨anchor, l ++ [stem]⟩ = .ok b :=
    Disk.exists_test_eq_ok hfits.of_append
  obtain ⟨first, hfirst⟩ : ∃ b, disk.isFile ⟨anchor, l ++ [stem ++ ".jsx"]⟩ = .ok b :=
    Disk.exists_test_eq_ok hfits
  cases here with
  | true =>
    have hne : stem ≠ stem ++ extension := by
      rw [ne_eq, ← String.toList_inj]
      obtain rfl | rfl := hkind <;> simp
    simp [find_of_isFile hhere, hhere, hne]
  | false =>
    obtain rfl | rfl := hkind
    · cases first with
      | true => simp [find_of_jsx hstem hhere hfirst, hfirst]
      | false => simp [find_of_js hstem hhere hfirst hfile, hhere, hfirst]
    · simp [find_of_jsx hstem hhere hfile, hhere]

end Lookup

namespace Artifact

open ReducerAtlas.Path

/-- **A reference leads back to its file.** Read from the folder that it was made for, it gives the
path of the file without its last extension. A lookup of that path finds the file unless there is
another one at the path itself or, for the second extension, at the first one. The answer writes the
root as the folder does, which is as the file does unless only one of them begins with `//`. -/
theorem find_moduleReference (disk : Disk) (target folder q : Path) (extension : String)
    (hfile : disk.isFile target = .ok true) (htarget : target.Normal) (hfolder : folder.Normal)
    (hapart : ¬ target.parts <+: folder.parts) (hslash : '\\' ∉ target.render.toList)
    (hkind : extension = ".js" ∨ extension = ".jsx")
    (hends : extensionOf target.render.toList = extension.toList)
    (hq : q = (folder.joinText (moduleReference target folder)).normalize)
    (hfits : (parse (q.render ++ ".jsx")).Fits) :
    (folder.anchor = target.anchor → target.rootedAs folder = target) ∧
    q.render ++ extension = (target.rootedAs folder).render ∧
    q.render.toList = withoutExtension (target.rootedAs folder).render.toList ∧
    ("./".toList <+: (moduleReference target folder).toList ∨
      "../".toList <+: (moduleReference target folder).toList) ∧
    (Lookup.find {} disk q = .ok (some (target.rootedAs folder)) ↔
      disk.isFile q ≠ .ok true ∧
        (extension = ".js" → disk.isFile (parse (q.render ++ ".jsx")) ≠ .ok true)) := by
  obtain ⟨l, name, hparts⟩ : ∃ l name, target.parts = l ++ [name] := by
    have hne : target.parts ≠ [] := fun hnil => hapart (by simp [hnil])
    exact ⟨_, _, (List.dropLast_append_getLast hne).symm⟩
  have hname : Segment name := htarget.segment name (by simp [hparts])
  have hnames : ∀ n ∈ l, Segment n := fun n hn => htarget.segment n (by simp [hparts, hn])
  have hne : extension ≠ "" := by
    obtain rfl | rfl := hkind <;> decide
  have htext : target = ⟨target.anchor, l ++ [name]⟩ := by rw [← hparts]
  rw [htext] at hends
  obtain ⟨hsplit, hbare, hup⟩ := of_extensionOf hname hne hends
  rw [normalize_moduleReference hparts htarget hfolder hapart hslash hbare hup] at hq
  generalize hstem : bareName name = stem at *
  have hfound : target.rootedAs folder = ⟨folder.anchor, l ++ [stem ++ extension]⟩ := by
    rw [rootedAs, hparts, hsplit]
  refine ⟨rootedAs_of_anchor_eq, ?_, ?_, ?_, ?_⟩
  · rw [hq, hfound, render_append]
  · rw [hq, hfound, ← hsplit, withoutExtension_render hname.2.2, hstem]
  · have hrelative := isRelative_moduleReference target folder
    simpa [isRelative, List.isPrefixOf_iff_prefix] using hrelative
  · have hparse : parse (q.render ++ ".jsx") = ⟨folder.anchor, l ++ [stem ++ ".jsx"]⟩ := by
      rw [hq]
      exact parse_render_append hnames hbare (by decide)
    rw [hparse] at hfits ⊢
    have hshort : (target.rootedAs folder).render.utf8ByteSize < Disk.maxPath := by
      have hpath := hfits.path
      rw [hfound]
      rw [← render_append, String.utf8ByteSize_append] at hpath ⊢
      obtain rfl | rfl := hkind
      · have hsize : ".js".utf8ByteSize < ".jsx".utf8ByteSize := by decide
        omega
      · exact hpath
    have hthere := Disk.isFile_rootedAs hfile hshort
    rw [hfound] at hthere
    rw [hq, hfound]
    exact Lookup.find_extended_iff hbare hkind hthere hfits

/-- Two files with one bare path, in a folder whose name has a dot. -/
def shadowDisk : Disk where
  root :=
    .folder "lib.v2"
      (.file "cart.test.js" [] <| .file "cart.test.jsx" [] .empty)
    .empty

/-- The reference climbs out of two folders. It leads to the file with the first extension only. -/
theorem find_moduleReference_shadowDisk :
    moduleReference (parse "/lib.v2/cart.test.js") (parse "/lib.v2/old/deep") =
      "../../cart.test" ∧
    moduleReference (parse "/lib.v2/cart.test.jsx") (parse "/lib.v2/old/deep") =
      "../../cart.test" ∧
    (parse "/lib.v2/cart.test").render ++ ".js" = "/lib.v2/cart.test.js" ∧
    Lookup.find {} shadowDisk (parse "/lib.v2/cart.test") ≠
      .ok (some (parse "/lib.v2/cart.test.js")) ∧
    Lookup.find {} shadowDisk (parse "/lib.v2/cart.test") =
      .ok (some (parse "/lib.v2/cart.test.jsx")) := by
  have hfolder : (parse "/lib.v2/old/deep").Normal := ⟨by decide, by decide, by decide⟩
  have hsecond := find_moduleReference shadowDisk (parse "/lib.v2/cart.test.js")
    (parse "/lib.v2/old/deep") (parse "/lib.v2/cart.test") ".js" (by decide)
    ⟨by decide, by decide, by decide⟩ hfolder (by decide) (by decide) (by decide) (by decide)
    (by decide) (by decide)
  have hfirst := find_moduleReference shadowDisk (parse "/lib.v2/cart.test.jsx")
    (parse "/lib.v2/old/deep") (parse "/lib.v2/cart.test") ".jsx" (by decide)
    ⟨by decide, by decide, by decide⟩ hfolder (by decide) (by decide) (by decide) (by decide)
    (by decide) (by decide)
  refine ⟨by decide, by decide, hsecond.2.1, ?_, ?_⟩
  · intro hfound
    exact (hsecond.2.2.2.2.mp hfound).2 rfl (by decide)
  · exact hfirst.2.2.2.2.mpr ⟨by decide, by decide⟩

end Artifact

end ReducerAtlas
