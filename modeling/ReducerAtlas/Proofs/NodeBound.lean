import Mathlib.Algebra.Order.BigOperators.Group.List
import Mathlib.Algebra.Order.Ring.Nat
import ReducerAtlas.Proofs.Graph
import ReducerAtlas.Proofs.Lookup
import ReducerAtlas.Usage.Scan

/-!
# Enough levels for every scan

There are only so many nodes that a scan of a disk can come to: a path that leads to a file is an
anchor and a list of at most `Disk.maxPath` names, each the name of some entry or the one that leads
up, and what is asked of a file stands in the text of some file, or is everything, or what the scan
started with.

* `Folder.allNames`, `Folder.contents`: the names of all entries, and the contents of all files.
* `Source.length_references_le`: a text has no more references than the file has bytes.
* `Disk.nodes`: the nodes of a disk; **`Disk.length_nodes_le`**: there are no more of them than the
  levels of a scan.
* **`Surveyor.mem_nodes_of_leads`**: references lead only to these nodes.
-/

namespace ReducerAtlas

/-! ## The references of a text -/

namespace Text.Utf8

/-- What an unfinished character can still give. -/
def State.owed : State → Nat
  | .idle => 0
  | .inside .. => 1

theorem owed_start (b : Nat) : (start b).1.length + (start b).2.owed ≤ 1 := by
  unfold start
  split_ifs <;> simp [State.owed]

theorem owed_step (state : State) (b : Nat) :
    (step state b).1.length + (step state b).2.owed ≤ state.owed + 1 := by
  have hstart := owed_start b
  cases state with
  | idle => simpa [step, State.owed] using hstart
  | inside more low high acc =>
    simp only [step]
    split_ifs
    · simp [State.owed]
    · simp [State.owed]
    · change _ ≤ 1 + 1
      simp only [List.length_cons]
      omega

theorem length_decodeFrom_le (state : State) (bytes : List UInt8) :
    (decodeFrom state bytes).length ≤ state.owed + bytes.length := by
  induction bytes generalizing state with
  | nil => cases state <;> simp [decodeFrom, finish, State.owed]
  | cons b rest ih =>
    have hstep := owed_step state b.toNat
    have hrest := ih (step state b.toNat).2
    simp only [decodeFrom, List.length_append, List.length_cons]
    omega

theorem length_unifyNewlines_le (cs : List Char) : (unifyNewlines cs).length ≤ cs.length := by
  fun_induction unifyNewlines cs with
  | case1 => exact Nat.le_refl _
  | case2 cs ih =>
    simp only [List.length_cons]
    omega
  | case3 c cs h ih =>
    simp only [List.length_cons]
    omega

theorem length_text_le (bytes : List UInt8) :
    (unifyNewlines (decodeLossy bytes)).length ≤ bytes.length := by
  have hdecode := length_decodeFrom_le .idle bytes
  have hunify := length_unifyNewlines_le (decodeLossy bytes)
  simp only [decodeLossy, decode, List.length_map, State.owed] at hdecode hunify ⊢
  omega

end Text.Utf8

namespace Source

theorem length_lexemesFrom_le (skip : Nat) (before : Option Char) (cs : List Char) :
    (lexemesFrom skip before cs).length ≤ cs.length := by
  induction cs generalizing skip before with
  | nil => simp [lexemesFrom]
  | cons c rest ih =>
    cases skip with
    | succ skip => exact Nat.le_succ_of_le (ih skip (some c))
    | zero => exact Nat.succ_le_succ (ih _ (some c))

theorem length_references_le (content : List Char) :
    (Summary.of content).references.length ≤ content.length :=
  calc (Summary.of content).references.length
    _ ≤ (tokens content).length := List.length_filterMap_le _ _
    _ ≤ (lexemes content).length := List.length_filterMap_le _ _
    _ ≤ content.length := length_lexemesFrom_le 0 none content

end Source

/-! ## The entries of a tree -/

namespace Folder

variable {f inner : Folder} {name : String}

/-- The names of all entries, at all depths. -/
def allNames : Folder → List String
  | .empty => []
  | .file n _ rest => n :: allNames rest
  | .folder n inner rest => n :: (allNames inner ++ allNames rest)

/-- The contents of all files, at all depths. -/
def contents : Folder → List (List UInt8)
  | .empty => []
  | .file _ content rest => content :: contents rest
  | .folder _ inner rest => contents inner ++ contents rest

theorem length_allNames (f : Folder) : f.allNames.length = f.entryCount := by
  induction f with
  | empty => rfl
  | file n content rest ih => simp [allNames, entryCount, ih]
  | folder n inner rest ihi ihr => simp [allNames, entryCount, ihi, ihr]

theorem sum_length_contents (f : Folder) : (f.contents.map List.length).sum = f.byteCount := by
  induction f with
  | empty => rfl
  | file n content rest ih => simp [contents, byteCount, ih]
  | folder n inner rest ihi ihr => simp [contents, byteCount, ihi, ihr]

/-- A tree is a part of another, as far as its names and contents go. -/
def PartOf (f root : Folder) : Prop :=
  f.allNames ⊆ root.allNames ∧ f.contents ⊆ root.contents

theorem PartOf.trans {root : Folder} (h : inner.PartOf f) (h' : f.PartOf root) :
    inner.PartOf root :=
  ⟨List.Subset.trans h.1 h'.1, List.Subset.trans h.2 h'.2⟩

theorem partOf_of_get? {entry : Entry} (h : f.get? name = some entry) :
    name ∈ f.allNames ∧ (∀ content, entry = .file content → content ∈ f.contents) ∧
      ∀ inner, entry = .folder inner → inner.PartOf f := by
  induction f with
  | empty => cases h
  | file n content rest ih =>
    simp only [get?] at h
    split_ifs at h with hn
    · cases h
      simp [allNames, contents, hn]
    · obtain ⟨hname, hfile, hfolder⟩ := ih h
      refine ⟨List.mem_cons_of_mem _ hname, fun c hc => List.mem_cons_of_mem _ (hfile c hc), ?_⟩
      intro inner hinner
      refine (hfolder inner hinner).trans ⟨?_, ?_⟩
      · exact List.subset_cons_self _ _
      · exact List.subset_cons_self _ _
  | folder n g rest _ ih =>
    simp only [get?] at h
    split_ifs at h with hn
    · cases h
      refine ⟨hn ▸ List.mem_cons_self, by simp, ?_⟩
      rintro _ ⟨⟩
      refine ⟨?_, List.subset_append_left _ _⟩
      exact List.Subset.trans (List.subset_append_left _ _) (List.subset_cons_self _ _)
    · obtain ⟨hname, hfile, hfolder⟩ := ih h
      refine ⟨List.mem_cons_of_mem _ (List.mem_append_right _ hname),
        fun c hc => List.mem_append_right _ (hfile c hc), ?_⟩
      intro inner hinner
      refine (hfolder inner hinner).trans ⟨?_, List.subset_append_right _ _⟩
      exact List.Subset.trans (List.subset_append_right _ _) (List.subset_cons_self _ _)

end Folder

namespace Disk

variable {disk : Disk} {p : Path}

/-- Names that lead somewhere are those of entries or lead up, and a file at their end is one of the
tree. -/
theorem follow_ok {root here : Folder} {above : List Folder} {names : List String} {entry : Entry}
    (h : follow above here names = .ok entry) (hhere : here.PartOf root)
    (habove : ∀ f ∈ above, f.PartOf root) :
    (∀ n ∈ names, n ∈ Path.up :: root.allNames) ∧
      ∀ content, entry = .file content → content ∈ root.contents := by
  induction names generalizing above here with
  | nil =>
    cases h
    simp
  | cons name rest ih =>
    unfold follow at h
    by_cases hup : name = Path.up
    · have hname : name ∈ Path.up :: root.allNames := hup ▸ List.mem_cons_self
      rw [if_pos hup] at h
      cases above with
      | nil =>
        obtain ⟨hnames, hfile⟩ := ih h hhere habove
        exact ⟨List.forall_mem_cons.mpr ⟨hname, hnames⟩, hfile⟩
      | cons top above =>
        obtain ⟨htop, habove⟩ := List.forall_mem_cons.mp habove
        obtain ⟨hnames, hfile⟩ := ih h htop habove
        exact ⟨List.forall_mem_cons.mpr ⟨hname, hnames⟩, hfile⟩
    · rw [if_neg hup] at h
      by_cases hlong : maxName < name.utf8ByteSize
      · rw [if_pos hlong] at h
        cases h
      · rw [if_neg hlong] at h
        cases hget : here.get? name with
        | none => simp [hget] at h
        | some e =>
          obtain ⟨hname, hfile, hfolder⟩ := Folder.partOf_of_get? hget
          have hname' : name ∈ Path.up :: root.allNames := List.mem_cons_of_mem _ (hhere.1 hname)
          rw [hget] at h
          cases e with
          | folder inner =>
            have hinner := (hfolder inner rfl).trans hhere
            obtain ⟨hnames, hfile⟩ := ih h hinner (List.forall_mem_cons.mpr ⟨hhere, habove⟩)
            exact ⟨List.forall_mem_cons.mpr ⟨hname', hnames⟩, hfile⟩
          | file content =>
            simp only at h
            split_ifs at h with hempty
            cases h
            rw [List.isEmpty_iff.mp hempty]
            refine ⟨by simpa using hname', ?_⟩
            rintro _ ⟨⟩
            exact hhere.2 (hfile content rfl)

end Disk

/-! ## Paths that are not too long -/

namespace Path

theorem length_le_joinWith (parts : List String) :
    parts.length ≤ (Text.joinWith "/" parts).utf8ByteSize + 1 := by
  induction parts with
  | nil => simp
  | cons s rest ih =>
    cases rest with
    | nil => simp
    | cons t rest =>
      simp only [Text.joinWith, String.utf8ByteSize_append, List.length_cons] at ih ⊢
      have hslash : "/".utf8ByteSize = 1 := rfl
      omega

theorem length_parts_le (p : Path) : p.parts.length ≤ p.render.utf8ByteSize + 1 := by
  unfold render
  split_ifs with h
  · simp [h.2]
  · have hjoin := length_le_joinWith p.parts
    rw [String.utf8ByteSize_append]
    omega

end Path

namespace Disk

/-- A path that leads to a file has few names, all of them known; the content is one of the tree. -/
theorem locate_file {disk : Disk} {p : Path} {content : List UInt8}
    (h : disk.locate p = .ok (.file content)) :
    p.parts.length ≤ maxPath ∧ (∀ n ∈ p.parts, n ∈ Path.up :: disk.root.allNames) ∧
      content ∈ disk.root.contents := by
  unfold locate at h
  split_ifs at h with hnull hlong
  have hlength := p.length_parts_le
  have hroot : disk.root.PartOf disk.root := ⟨List.Subset.refl _, List.Subset.refl _⟩
  obtain ⟨hnames, hfile⟩ := follow_ok h hroot (by simp)
  exact ⟨by omega, hnames, hfile content rfl⟩

/-! ## The nodes of a disk -/

/-- The lists of at most so many of some names. -/
def lists (letters : List String) : Nat → List (List String)
  | 0 => [[]]
  | n + 1 => [] :: letters.flatMap fun a => (lists letters n).map (a :: ·)

theorem mem_lists {letters l : List String} {n : Nat} (hlength : l.length ≤ n)
    (hmem : ∀ a ∈ l, a ∈ letters) : l ∈ lists letters n := by
  induction n generalizing l with
  | zero =>
    rw [List.length_eq_zero_iff.mp (Nat.le_zero.mp hlength)]
    exact List.mem_singleton.mpr rfl
  | succ n ih =>
    cases l with
    | nil => exact List.mem_cons_self
    | cons a rest =>
      obtain ⟨ha, hrest⟩ := List.forall_mem_cons.mp hmem
      refine List.mem_cons_of_mem _ (List.mem_flatMap.mpr ⟨a, ha, ?_⟩)
      exact List.mem_map_of_mem (ih (Nat.le_of_succ_le_succ hlength) hrest)

theorem length_lists_le (letters : List String) (n : Nat) :
    (lists letters n).length ≤ (letters.length + 1) ^ n := by
  induction n with
  | zero => exact Nat.le_refl _
  | succ n ih =>
    have hpos : 1 ≤ (letters.length + 1) ^ n := Nat.one_le_pow _ _ (Nat.succ_pos _)
    have hmul : letters.length * (lists letters n).length ≤
        letters.length * (letters.length + 1) ^ n := Nat.mul_le_mul_left _ ih
    calc (lists letters (n + 1)).length = letters.length * (lists letters n).length + 1 := by
          simp [lists, List.length_flatMap]
      _ ≤ letters.length * (letters.length + 1) ^ n + (letters.length + 1) ^ n := by omega
      _ = (letters.length + 1) ^ (n + 1) := by rw [Nat.pow_succ, Nat.mul_succ, Nat.mul_comm]

/-- The sets of names that the references in some bytes ask for. -/
def askedIn (bytes : List UInt8) : List (Option (List String)) :=
  (Source.Summary.of (Text.Utf8.unifyNewlines (Text.Utf8.decodeLossy bytes))).references.map
    fun reference => reference.clause.restriction.map NameSet.ofList

/-- The paths that can lead to a file. -/
def paths (disk : Disk) : List Path :=
  [Anchor.relative, .root, .doubleRoot].flatMap fun anchor =>
    (lists (Path.up :: disk.root.allNames) maxPath).map fun parts => ⟨anchor, parts⟩

/-- **The nodes that a scan of a disk can come to**, if it starts with the given names asked. -/
def nodes (disk : Disk) (start : Option (List String)) : List Node :=
  disk.paths.flatMap fun file =>
    (none :: start :: disk.root.contents.flatMap askedIn).map fun asked => ⟨file, asked⟩

theorem length_asked_le (f : Folder) : (f.contents.flatMap askedIn).length ≤ f.byteCount := by
  rw [← f.sum_length_contents, List.length_flatMap]
  refine List.sum_le_sum fun bytes _ => ?_
  rw [askedIn, List.length_map]
  exact Nat.le_trans (Source.length_references_le _) (Text.Utf8.length_text_le bytes)

theorem length_paths_le (disk : Disk) :
    disk.paths.length ≤ 3 * (disk.root.entryCount + 2) ^ maxPath := by
  have hlists : (lists (Path.up :: disk.root.allNames) maxPath).length ≤
      (disk.root.entryCount + 2) ^ maxPath := by
    have h := length_lists_le (Path.up :: disk.root.allNames) maxPath
    rw [List.length_cons, Folder.length_allNames] at h
    exact h
  simp only [paths, List.flatMap_cons, List.flatMap_nil, List.append_nil, List.length_append,
    List.length_map]
  omega

/-- **A scan has as many levels as there can be nodes.** -/
theorem length_nodes_le (disk : Disk) (start : Option (List String)) :
    (disk.nodes start).length ≤ disk.nodeBound := by
  have hasked := length_asked_le disk.root
  have hpaths := disk.length_paths_le
  have hlength : (disk.nodes start).length =
      disk.paths.length * ((disk.root.contents.flatMap askedIn).length + 2) := by
    simp [nodes, List.length_flatMap]
  rw [hlength, nodeBound]
  exact Nat.mul_le_mul hpaths (by omega)

theorem mem_paths {disk : Disk} {p : Path} (h : disk.isFile p = .ok true) : p ∈ disk.paths := by
  obtain ⟨content, hlocate⟩ := isFile_eq_true_iff.mp h
  obtain ⟨hlength, hnames, -⟩ := locate_file hlocate
  refine List.mem_flatMap.mpr ⟨p.anchor, ?_, List.mem_map.mpr ⟨p.parts, ?_, rfl⟩⟩
  · cases p.anchor <;> simp
  · exact mem_lists hlength hnames

theorem readText_ok {disk : Disk} {p : Path} {content : List Char}
    (h : disk.readText p = .ok content) :
    ∃ bytes ∈ disk.root.contents,
      content = Text.Utf8.unifyNewlines (Text.Utf8.decodeLossy bytes) := by
  unfold readText readBytes at h
  split at h
  · cases h
  · split at h
    · next bytes hlocate =>
      cases h
      exact ⟨bytes, (locate_file hlocate).2.2, rfl⟩
    · cases h
    · cases h

end Disk

namespace Surveyor

variable {surveyor : Surveyor} {disk : Disk} {excluded : List String} {blocked : List Path}

theorem node_asked (file : Path) (restriction : Option NameSet) :
    (surveyor.node file restriction).asked = none ∨
      (surveyor.node file restriction).asked = restriction.map NameSet.ofList := by
  unfold node Lookup.incoming
  split_ifs
  · exact .inr rfl
  · exact .inl rfl

theorem node_mem_nodes {file : Path} {restriction : Option NameSet} {start : Option (List String)}
    (hfile : disk.isFile file = .ok true)
    (hasked : restriction.map NameSet.ofList ∈ start :: disk.root.contents.flatMap Disk.askedIn) :
    surveyor.node file restriction ∈ disk.nodes start := by
  refine List.mem_flatMap.mpr ⟨file, Disk.mem_paths hfile, List.mem_map.mpr
    ⟨(surveyor.node file restriction).asked, ?_, rfl⟩⟩
  rcases surveyor.node_asked file restriction with h | h
  · rw [h]
    exact List.mem_cons_self
  · rw [h]
    exact List.mem_cons_of_mem _ hasked

/-- **References lead only to nodes of the disk.** -/
theorem mem_nodes_of_leads (start : Option (List String)) (a b : Node)
    (h : Leads (surveyor.read disk excluded blocked) a b) : b ∈ disk.nodes start := by
  obtain ⟨content, hread, reference, href, -, specifier, -, targets, htargets, target, htarget, -,
    rfl⟩ := leads_read_iff.mp h
  obtain ⟨p, -, hp⟩ := Lookup.find_of_mem_targets htargets htarget
  obtain ⟨bytes, hbytes, rfl⟩ := Disk.readText_ok hread
  refine node_mem_nodes (Lookup.isFile_of_find hp) (List.mem_cons_of_mem _ ?_)
  exact List.mem_flatMap.mpr ⟨bytes, hbytes, List.mem_map.mpr ⟨reference, href, rfl⟩⟩

end Surveyor

end ReducerAtlas
