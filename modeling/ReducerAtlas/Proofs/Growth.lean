import Mathlib.Data.String.Basic
import ReducerAtlas.Proofs.Unread

/-!
# Growing trees

A tree grows when an entry is set in one of its folders: a file that was not there or held something
else, or a new folder that is empty. All other files stay as they are, and all folders stay.

* `Folder.get?_set`, `Folder.getAt?_setAt_self`: what stands at a name afterwards.
* `Folder.Ordered.setAt`, `Folder.setAt_eq_self`, `Folder.setAt_setAt`: the order of names, an entry
  that is there already, and an entry set twice.
* `Folder.Extends`: a tree with all files and folders of another, apart from some files;
  **`Folder.Extends.setAt`**: setting an entry extends a tree.
* `Folder.pairwise_walk`, **`Disk.pairwise_listing`**: the files of a walk are in order.
-/

namespace ReducerAtlas

/-- The entry at the end of some names that go on from an entry. -/
def Entry.getAt? (names : List String) : Entry → Option Entry
  | .file content => if names = [] then some (.file content) else none
  | .folder inner => inner.getAt? names

namespace Folder

variable {f g inner inner' rest : Folder} {n k : String} {l m names above : List String}
  {e d : Entry} {refused : List String → Bool}

/-! ## Entries one after the other -/

theorem cons_induction {P : Folder → Prop} (empty : P .empty)
    (cons : ∀ n e rest, P rest → P (Folder.cons n e rest)) (f : Folder) : P f := by
  induction f with
  | empty => exact empty
  | file n content rest ih => exact cons n (.file content) rest ih
  | folder n inner rest _ ih => exact cons n (.folder inner) rest ih

theorem getAt?_cons (n : String) (l : List String) (f : Folder) :
    f.getAt? (n :: l) = (f.get? n).bind (Entry.getAt? l) := by
  cases hget : f.get? n with
  | none => cases l <;> simp [getAt?, hget]
  | some entry =>
    cases entry with
    | file content => cases l <;> simp [getAt?, hget, Entry.getAt?]
    | folder inner => exact getAt?_of_folder hget

theorem names_cons (n : String) (e : Entry) (rest : Folder) :
    (cons n e rest).names = n :: rest.names := by
  cases e <;> rfl

theorem set_cons (n k : String) (e d : Entry) (rest : Folder) :
    (cons n d rest).set k e =
      if k < n then cons k e (cons n d rest)
      else if k = n then cons k e rest
      else cons n d (rest.set k e) := by
  cases d <;> rfl

theorem ordered_cons : (cons n e rest).Ordered ↔
    (∀ m ∈ rest.names, n < m) ∧ (∀ inner, e = .folder inner → inner.Ordered) ∧ rest.Ordered := by
  cases e <;> simp [cons, Ordered]

/-! ## Setting an entry -/

theorem get?_set (n k : String) (e : Entry) (f : Folder) :
    (f.set n e).get? k = if n = k then some e else f.get? k := by
  induction f using cons_induction with
  | empty => exact get?_cons k e .empty
  | cons m d rest ih =>
    rw [set_cons]
    by_cases hk : n = k
    · subst hk
      rw [if_pos rfl] at ih ⊢
      split_ifs with hlt heq
      · rw [get?_cons, if_pos rfl]
      · rw [get?_cons, if_pos rfl]
      · rw [get?_cons, if_neg (Ne.symm heq), ih]
    · rw [if_neg hk] at ih ⊢
      split_ifs with hlt heq
      · rw [get?_cons, if_neg hk]
      · rw [get?_cons, if_neg hk, get?_cons, if_neg (heq ▸ hk)]
      · rw [get?_cons, get?_cons, ih]

theorem getAt?_set_self (n : String) (l : List String) (e : Entry) (f : Folder) :
    (f.set n e).getAt? (n :: l) = e.getAt? l := by
  rw [getAt?_cons, get?_set, if_pos rfl, Option.bind_some]

theorem getAt?_set_of_ne (h : n ≠ k) (l : List String) (e : Entry) (f : Folder) :
    (f.set n e).getAt? (k :: l) = f.getAt? (k :: l) :=
  getAt?_congr (by rw [get?_set, if_neg h])

theorem mem_names_set (h : k ∈ (f.set n e).names) : k = n ∨ k ∈ f.names := by
  induction f using cons_induction with
  | empty =>
    rw [set, names_cons] at h
    exact .inl (List.mem_singleton.mp h)
  | cons m d rest ih =>
    rw [set_cons] at h
    rw [names_cons]
    split_ifs at h with hlt heq
    · rwa [names_cons, names_cons, List.mem_cons] at h
    · rw [names_cons, List.mem_cons] at h
      exact h.imp_right (List.mem_cons_of_mem m)
    · rw [names_cons, List.mem_cons] at h
      obtain rfl | h := h
      · exact .inr List.mem_cons_self
      · exact (ih h).imp_right (List.mem_cons_of_mem m)

theorem Ordered.set (hf : f.Ordered) (he : ∀ inner, e = .folder inner → inner.Ordered) :
    (f.set n e).Ordered := by
  induction f using cons_induction with
  | empty => exact ordered_cons.mpr ⟨by simp [names], he, trivial⟩
  | cons m d rest ih =>
    obtain ⟨hlt, hd, hrest⟩ := ordered_cons.mp hf
    rw [set_cons]
    split_ifs with hn heq
    · refine ordered_cons.mpr ⟨fun k hk => ?_, he, hf⟩
      rw [names_cons, List.mem_cons] at hk
      obtain rfl | hk := hk
      · exact hn
      · exact hn.trans (hlt k hk)
    · exact ordered_cons.mpr ⟨heq ▸ hlt, he, hrest⟩
    · refine ordered_cons.mpr ⟨fun k hk => ?_, hd, ih hrest⟩
      obtain rfl | hk := mem_names_set hk
      · exact lt_of_le_of_ne (not_lt.mp hn) (Ne.symm heq)
      · exact hlt k hk

theorem set_eq_self (hf : f.Ordered) (h : f.get? n = some e) : f.set n e = f := by
  induction f using cons_induction with
  | empty => cases h
  | cons m d rest ih =>
    obtain ⟨hlt, -, hrest⟩ := ordered_cons.mp hf
    rw [get?_cons] at h
    rw [set_cons]
    split_ifs at h with hm
    · cases h
      rw [if_neg (hm ▸ lt_irrefl n), if_pos hm.symm, hm]
    · have hmem : n ∈ rest.names := by
        by_contra hn
        rw [get?_eq_none hn] at h
        cases h
      rw [if_neg (not_lt.mpr (hlt n hmem).le), if_neg (Ne.symm hm), ih hrest h]

theorem set_set (n : String) (e d : Entry) (f : Folder) : (f.set n d).set n e = f.set n e := by
  induction f using cons_induction with
  | empty =>
    rw [set, set_cons, if_neg (lt_irrefl n), if_pos rfl]
    rfl
  | cons m c rest ih =>
    simp only [set_cons]
    split_ifs with hlt heq
    · rw [set_cons, if_neg (lt_irrefl n), if_pos rfl]
    · rw [set_cons, if_neg (lt_irrefl n), if_pos rfl]
    · rw [set_cons, if_neg hlt, if_neg heq, ih]

/-! ## Setting an entry further down -/

theorem setAt_cons (h : l ≠ []) (n : String) (e : Entry) (f : Folder) :
    f.setAt (n :: l) e = f.set n (.folder ((f.inside n).setAt l e)) := by
  cases l with
  | nil => exact absurd rfl h
  | cons k l => rfl

theorem inside_of_get? (h : f.get? n = some (.folder inner)) : f.inside n = inner := by
  simp [inside, h]

theorem inside_set (n : String) (inner f : Folder) : (f.set n (.folder inner)).inside n = inner :=
  inside_of_get? (by rw [get?_set, if_pos rfl])

theorem getAt?_setAt_self (h : names ≠ []) (e : Entry) (f : Folder) :
    (f.setAt names e).getAt? names = some e := by
  induction names generalizing f with
  | nil => exact absurd rfl h
  | cons n l ih =>
    cases l with
    | nil =>
      show (f.set n e).get? n = some e
      rw [get?_set, if_pos rfl]
    | cons k l =>
      rw [setAt_cons (by simp), getAt?_of_folder (by rw [get?_set, if_pos rfl])]
      exact ih (by simp) _

/-- What stands somewhere after an entry was set stood there before, or is that entry. -/
theorem getAt?_of_setAt {x : Entry} (hl : f.getAt? l = some (.folder inner))
    (he : ∀ names, names ≠ [] → e.getAt? names = none)
    (h : (f.setAt (l ++ [n]) e).getAt? names = some x) :
    names = l ++ [n] ∨ ∃ y, f.getAt? names = some y := by
  induction l generalizing f names with
  | nil =>
    cases names with
    | nil => exact .inr ⟨_, rfl⟩
    | cons k names =>
      change (f.set n e).getAt? (k :: names) = some x at h
      by_cases hk : n = k
      · subst hk
        rw [getAt?_set_self] at h
        by_cases hnil : names = []
        · exact .inl (by rw [hnil, List.nil_append])
        · rw [he names hnil] at h
          cases h
      · exact .inr ⟨x, (getAt?_set_of_ne hk names e f).symm.trans h⟩
  | cons m l ih =>
    obtain ⟨mid, hget, hat⟩ | ⟨-, content, hfile, -⟩ := getAt?_cons_eq_some_iff.mp hl
    · rw [List.cons_append, setAt_cons (by simp), inside_of_get? hget] at h
      cases names with
      | nil => exact .inr ⟨_, rfl⟩
      | cons k names =>
        by_cases hk : m = k
        · subst hk
          rw [getAt?_set_self] at h
          rw [getAt?_of_folder hget, List.cons_append, List.cons_inj_right]
          exact ih hat h
        · exact .inr ⟨x, (getAt?_set_of_ne hk names _ f).symm.trans h⟩
    · cases hfile

theorem Ordered.setAt (hf : f.Ordered) (he : ∀ inner, e = .folder inner → inner.Ordered) :
    (f.setAt names e).Ordered := by
  induction names generalizing f with
  | nil => exact hf
  | cons n l ih =>
    cases l with
    | nil => exact hf.set he
    | cons k l =>
      have hinside : (f.inside n).Ordered := by
        cases hget : f.get? n with
        | none => simp [inside, hget, Ordered]
        | some entry =>
          cases entry with
          | file content => simp [inside, hget, Ordered]
          | folder inner =>
            rw [inside_of_get? hget]
            exact hf.of_get? hget
      rw [setAt_cons (by simp)]
      refine hf.set ?_
      rintro _ ⟨⟩
      exact ih hinside

theorem setAt_eq_self (hf : f.Ordered) (h : f.getAt? names = some e) : f.setAt names e = f := by
  induction names generalizing f with
  | nil => rfl
  | cons n l ih =>
    cases l with
    | nil => exact set_eq_self hf h
    | cons k l =>
      obtain ⟨inner, hget, hat⟩ | ⟨hnil, -⟩ := getAt?_cons_eq_some_iff.mp h
      · rw [setAt_cons (by simp), inside_of_get? hget, ih (hf.of_get? hget) hat]
        exact set_eq_self hf hget
      · cases hnil

theorem setAt_setAt (names : List String) (e d : Entry) (f : Folder) :
    (f.setAt names d).setAt names e = f.setAt names e := by
  induction names generalizing f with
  | nil => rfl
  | cons n l ih =>
    cases l with
    | nil => exact set_set n e d f
    | cons k l =>
      have hne : k :: l ≠ [] := by simp
      rw [setAt_cons hne, setAt_cons hne, setAt_cons hne, inside_set, ih, set_set]

/-! ## Trees with all that another has -/

/-- **A tree with all that another has**: all folders, and the same files with the same contents,
apart from those at the given places. -/
structure Extends (outs : List (List String)) (f g : Folder) : Prop where
  file_iff : ∀ names, names ∉ outs → ∀ content,
    g.getAt? names = some (.file content) ↔ f.getAt? names = some (.file content)
  folder : ∀ names inner, f.getAt? names = some (.folder inner) →
    ∃ inner', g.getAt? names = some (.folder inner')

namespace Extends

variable {outs outs' : List (List String)} {h : Folder}

theorem refl (f : Folder) : Extends [] f f :=
  ⟨fun _ _ _ => Iff.rfl, fun _ inner hat => ⟨inner, hat⟩⟩

theorem mono (hfg : Extends outs f g) (hsub : ∀ x ∈ outs, x ∈ outs') : Extends outs' f g :=
  ⟨fun names hnames => hfg.file_iff names fun hin => hnames (hsub names hin), hfg.folder⟩

theorem trans (hfg : Extends outs f g) (hgh : Extends outs g h) : Extends outs f h where
  file_iff names hnames content :=
    (hgh.file_iff names hnames content).trans (hfg.file_iff names hnames content)
  folder names inner hat := by
    obtain ⟨inner', hat'⟩ := hfg.folder names inner hat
    exact hgh.folder names inner' hat'

theorem set (hfile : ∀ l, n :: l ∉ outs → ∀ content,
      e.getAt? l = some (.file content) ↔ f.getAt? (n :: l) = some (.file content))
    (hfolder : ∀ l inner, f.getAt? (n :: l) = some (.folder inner) →
      ∃ inner', e.getAt? l = some (.folder inner')) : Extends outs f (f.set n e) := by
  constructor
  · intro names hnames content
    cases names with
    | nil => simp [getAt?]
    | cons k l =>
      by_cases hk : n = k
      · subst hk
        rw [getAt?_set_self]
        exact hfile l hnames content
      · rw [getAt?_set_of_ne hk]
  · intro names inner h
    cases names with
    | nil => exact ⟨_, rfl⟩
    | cons k l =>
      by_cases hk : n = k
      · subst hk
        rw [getAt?_set_self]
        exact hfolder l inner h
      · rw [getAt?_set_of_ne hk]
        exact ⟨inner, h⟩

theorem set_file (hn : ∀ inner, f.get? n ≠ some (.folder inner)) (content : List UInt8) :
    Extends [[n]] f (f.set n (.file content)) := by
  have hbelow : ∀ k l, f.getAt? (n :: k :: l) = none := by
    intro k l
    rw [getAt?_cons]
    cases hget : f.get? n with
    | none => rfl
    | some entry =>
      cases entry with
      | file content => rfl
      | folder inner => exact absurd hget (hn inner)
  refine .set (fun l hl content => ?_) fun l inner h => ?_
  · cases l with
    | nil => exact absurd (List.mem_singleton.mpr rfl) hl
    | cons k l =>
      rw [hbelow]
      exact Iff.rfl
  · cases l with
    | nil => exact absurd h (hn inner)
    | cons k l =>
      rw [hbelow] at h
      cases h

theorem set_empty (hn : f.get? n = none) : Extends [] f (f.set n (.folder .empty)) := by
  have hbelow : ∀ l, f.getAt? (n :: l) = none := by
    intro l
    rw [getAt?_cons, hn]
    rfl
  refine .set (fun l _ content => ?_) fun l inner h => ?_
  · rw [hbelow]
    cases l with
    | nil => simp [Entry.getAt?, getAt?]
    | cons k l => simp [Entry.getAt?, getAt?_cons, get?]
  · rw [hbelow] at h
    cases h

theorem set_folder (hn : f.get? n = some (.folder inner)) (hin : Extends outs inner inner') :
    Extends (outs.map (n :: ·)) f (f.set n (.folder inner')) := by
  have hbelow : ∀ l, f.getAt? (n :: l) = inner.getAt? l := fun l => getAt?_of_folder hn
  refine .set (fun l hl content => ?_) fun l g h => ?_
  · rw [hbelow]
    exact hin.file_iff l (fun hmem => hl (List.mem_map_of_mem hmem)) content
  · rw [hbelow] at h
    exact hin.folder l g h

/-- **Setting an entry in a folder of a tree** extends the tree as it extends that folder. -/
theorem setAt (hl : f.getAt? l = some (.folder inner)) (hin : Extends outs inner (inner.set n e)) :
    Extends (outs.map (l ++ ·)) f (f.setAt (l ++ [n]) e) := by
  induction l generalizing f with
  | nil =>
    cases hl
    simpa [Folder.setAt] using hin
  | cons k l ih =>
    obtain ⟨mid, hget, hat⟩ | ⟨-, content, hfile, -⟩ := getAt?_cons_eq_some_iff.mp hl
    · rw [List.cons_append, setAt_cons (by simp), inside_of_get? hget]
      have hstep := (ih hat).set_folder hget
      rwa [List.map_map] at hstep
    · cases hfile

end Extends

/-! ## Walks in order -/

theorem exists_prefix_of_mem_walk {x : List String × Bool} (h : x ∈ f.walk refused above) :
    ∃ n ∈ f.names, above ++ [n] <+: x.1 := by
  induction f generalizing above with
  | empty => cases h
  | file n content rest ih =>
    rw [walk, List.mem_append] at h
    obtain h | h := h
    · split_ifs at h
      · cases h
      · exact ⟨n, List.mem_cons_self, (List.mem_singleton.mp h).symm ▸ List.prefix_rfl⟩
    · obtain ⟨k, hk, hx⟩ := ih h
      exact ⟨k, List.mem_cons_of_mem n hk, hx⟩
  | folder n inner rest ihInner ihRest =>
    rw [walk, List.mem_append] at h
    obtain h | h := h
    · split_ifs at h
      · cases h
      · obtain rfl | h := List.mem_cons.mp h
        · exact ⟨n, List.mem_cons_self, List.prefix_rfl⟩
        · obtain ⟨k, -, hx⟩ := ihInner h
          exact ⟨n, List.mem_cons_self, (List.prefix_append _ _).trans hx⟩
    · obtain ⟨k, hk, hx⟩ := ihRest h
      exact ⟨k, List.mem_cons_of_mem n hk, hx⟩

/-- Names that part after a common way are in the order of the first two that differ. -/
theorem lt_of_prefix {x y : List String} (hnk : n < k) (hx : above ++ [n] <+: x)
    (hy : above ++ [k] <+: y) : x < y := by
  obtain ⟨s, rfl⟩ := hx
  obtain ⟨t, rfl⟩ := hy
  induction above with
  | nil => exact List.cons_lt_cons_iff.mpr (.inl hnk)
  | cons m above ih => exact List.cons_lt_cons_iff.mpr (.inr ⟨rfl, ih⟩)

theorem lt_of_prefix_append {x : List String} (hx : above ++ [n] <+: x) : above < x := by
  obtain ⟨s, rfl⟩ := hx
  induction above with
  | nil => exact List.nil_lt_cons n s
  | cons m above ih => exact List.cons_lt_cons_iff.mpr (.inr ⟨rfl, ih⟩)

/-- **The entries of a walk are in order**, a folder before what is inside it. -/
theorem pairwise_walk (hf : f.Ordered) :
    (f.walk refused above).Pairwise fun x y => x.1 < y.1 := by
  induction f generalizing above with
  | empty => exact .nil
  | file n content rest ih =>
    obtain ⟨hlt, hrest⟩ := hf
    rw [walk, List.pairwise_append]
    refine ⟨by split_ifs <;> simp, ih hrest, fun x hx y hy => ?_⟩
    obtain ⟨k, hk, hy⟩ := exists_prefix_of_mem_walk hy
    split_ifs at hx
    · cases hx
    · rw [List.mem_singleton.mp hx]
      exact lt_of_prefix (hlt k hk) List.prefix_rfl hy
  | folder n inner rest ihInner ihRest =>
    obtain ⟨hlt, hinner, hrest⟩ := hf
    rw [walk, List.pairwise_append]
    refine ⟨?_, ihRest hrest, fun x hx y hy => ?_⟩
    · split_ifs
      · exact .nil
      · refine List.pairwise_cons.mpr ⟨fun x hx => ?_, ihInner hinner⟩
        obtain ⟨k, -, hx⟩ := exists_prefix_of_mem_walk hx
        exact lt_of_prefix_append hx
    · obtain ⟨k, hk, hy⟩ := exists_prefix_of_mem_walk hy
      have hx : above ++ [n] <+: x.1 := by
        split_ifs at hx
        · cases hx
        · obtain rfl | hx := List.mem_cons.mp hx
          · exact List.prefix_rfl
          · obtain ⟨j, -, hx⟩ := exists_prefix_of_mem_walk hx
            exact (List.prefix_append _ _).trans hx
      exact lt_of_prefix (hlt k hk) hx hy

end Folder

/-! ## Listings in order -/

namespace Disk

variable {disk : Disk} {refused : String → Bool} {base : Option Path} {folder : Path}

theorem pairwise_entriesBelow (hroot : disk.root.Ordered) {entries : List (List String × Bool)}
    (h : disk.entriesBelow refused base folder = .ok entries) :
    entries.Pairwise fun x y => x.1 < y.1 := by
  obtain ⟨start, inner, hstart, hlist, rfl⟩ := entriesBelow_ok h
  exact Folder.pairwise_walk
    (hroot.of_getAt? (getAt?_of_list (Path.resolved_of_resolve? hstart) hlist))

/-- **The files of a listing are in order**, also if it ends early. -/
theorem pairwise_listing (hroot : disk.root.Ordered) :
    (disk.listing refused base folder).files.Pairwise fun f g => f.parts < g.parts := by
  cases h : disk.entriesBelow refused base folder with
  | error failure =>
    rw [listing, listingBy, h]
    exact .nil
  | ok entries =>
    rw [listing_of_entries h]
    refine List.Pairwise.sublist Listing.files_ofEntries_sublist ?_
    exact List.pairwise_map.mpr ((pairwise_entriesBelow hroot h).filter _)

theorem pairwise_filesBelow (hroot : disk.root.Ordered) {files : List Path}
    (h : disk.filesBelow refused base folder = .ok files) :
    files.Pairwise fun f g => f.parts < g.parts := by
  obtain ⟨-, rfl⟩ := Listing.all_eq_ok_iff.mp h
  exact pairwise_listing hroot

end Disk

end ReducerAtlas
