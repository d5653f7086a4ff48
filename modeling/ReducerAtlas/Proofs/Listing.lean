import ReducerAtlas.Proofs.NodeBound
import ReducerAtlas.Proofs.Path
import ReducerAtlas.Reducer.Registry

/-!
# The files below a folder

A listing of a folder holds the files below it that are not refused, neither themselves nor by a
folder on the way. On a tree whose names are in order and can stand in a path, each of them is where
its path says, and is told apart by its displayed path.

* `Folder.getAt?_append`: one way through a tree after another.
* `Folder.Reaches`: an entry that can be reached without a refused one; **`Folder.mem_walk_iff`**:
  the walk through a folder comes to exactly these.
* `Disk.WellFormed`: a tree with ordered names that can stand in a path.
* `Disk.Lists`, `Disk.Meets`: a file and an entry below a folder that is not refused.
* `Disk.Listing.mem_files_ofEntries_iff`, `Disk.Listing.ending_ofEntries_eq_error_iff`: a listing up
  to the first entry that fails a test.
* `Disk.exists_filesBelow_iff`, **`Disk.mem_filesBelow_iff`**: the listing of a folder;
  `Area.filesBelow_of_listing`: that of an area.
-/

namespace ReducerAtlas

/-- The entry is a file. -/
def Entry.isFile : Entry → Bool
  | .file _ => true
  | .folder _ => false

theorem Entry.isFile_eq_true_iff {e : Entry} : e.isFile = true ↔ ∃ content, e = .file content := by
  cases e <;> simp [isFile]

namespace Folder

variable {f inner rest : Folder} {n : String} {l m names above : List String} {e : Entry}
  {refused : List String → Bool}

/-! ## Ways through a tree -/

theorem getAt?_cons_eq_some_iff : f.getAt? (n :: l) = some e ↔
    (∃ inner, f.get? n = some (.folder inner) ∧ inner.getAt? l = some e) ∨
      l = [] ∧ ∃ content, e = .file content ∧ f.get? n = some (.file content) := by
  cases l with
  | nil =>
    cases hget : f.get? n with
    | none => simp [getAt?, hget]
    | some entry => cases entry <;> simp [getAt?, hget, eq_comm]
  | cons k l =>
    cases hget : f.get? n with
    | none => simp [getAt?, hget]
    | some entry => cases entry <;> simp [getAt?, hget]

theorem getAt?_append (h : f.getAt? l = some (.folder inner)) :
    f.getAt? (l ++ m) = inner.getAt? m := by
  induction l generalizing f with
  | nil =>
    cases h
    rfl
  | cons n l ih =>
    rcases getAt?_cons_eq_some_iff.mp h with ⟨g, hget, hg⟩ | ⟨-, content, hfile, -⟩
    · rw [← ih hg]
      cases l with
      | nil =>
        cases hg
        cases m <;> simp [getAt?, hget]
      | cons k l => simp [getAt?, hget]
    · cases hfile

theorem mem_allNames_of_getAt? (h : f.getAt? l = some e) : ∀ n ∈ l, n ∈ f.allNames := by
  induction l generalizing f with
  | nil => simp
  | cons n l ih =>
    rcases getAt?_cons_eq_some_iff.mp h with ⟨g, hget, hg⟩ | ⟨rfl, content, -, hget⟩
    · obtain ⟨hname, -, hfolder⟩ := partOf_of_get? hget
      exact List.forall_mem_cons.mpr ⟨hname, fun k hk => (hfolder g rfl).1 (ih hg k hk)⟩
    · simpa using (partOf_of_get? hget).1

theorem Ordered.of_get? (hf : f.Ordered) (h : f.get? n = some (.folder inner)) : inner.Ordered := by
  induction f with
  | empty => cases h
  | file k content rest ih =>
    simp only [get?] at h
    split_ifs at h
    · cases h
    · exact ih hf.2 h
  | folder k g rest _ ih =>
    simp only [get?] at h
    split_ifs at h
    · cases h
      exact hf.2.1
    · exact ih hf.2.2 h

theorem Ordered.of_getAt? (hf : f.Ordered) (h : f.getAt? l = some (.folder inner)) :
    inner.Ordered := by
  induction l generalizing f with
  | nil =>
    cases h
    exact hf
  | cons n l ih =>
    rcases getAt?_cons_eq_some_iff.mp h with ⟨g, hget, hg⟩ | ⟨-, content, hfile, -⟩
    · exact ih (hf.of_get? hget) hg
    · cases hfile

/-! ## Walks -/

/-- The names lead to an entry, and neither it nor a folder on the way is refused. -/
def Reaches (refused : List String → Bool) (above : List String) (f : Folder) (names : List String)
    (e : Entry) : Prop :=
  names ≠ [] ∧ f.getAt? names = some e ∧ ∀ p, p ≠ [] → p <+: names → refused (above ++ p) = false

theorem not_reaches_nil : ¬ f.Reaches refused above [] e :=
  fun h => h.1 rfl

theorem forall_prefix_cons_iff {P : List String → Prop} :
    (∀ p, p ≠ [] → p <+: n :: l → P p) ↔ P [n] ∧ ∀ p, p ≠ [] → p <+: l → P (n :: p) := by
  constructor
  · intro h
    refine ⟨h [n] (by simp) (by simp), fun p _ hp => h (n :: p) (by simp) ?_⟩
    exact List.cons_prefix_cons.mpr ⟨rfl, hp⟩
  · rintro ⟨hn, h⟩ p hne hp
    cases p with
    | nil => exact absurd rfl hne
    | cons k p =>
      obtain ⟨rfl, hrest⟩ := List.cons_prefix_cons.mp hp
      by_cases hempty : p = []
      · exact hempty ▸ hn
      · exact h p hempty hrest

theorem reaches_cons_iff : f.Reaches refused above (n :: l) e ↔
    refused (above ++ [n]) = false ∧ (l = [] ∧ f.get? n = some e ∨
      ∃ inner, f.get? n = some (.folder inner) ∧ inner.Reaches refused (above ++ [n]) l e) := by
  simp only [Reaches, forall_prefix_cons_iff, List.append_assoc, List.singleton_append]
  cases l with
  | nil => simp +contextual [getAt?, and_comm]
  | cons k l =>
    simp only [getAt?_cons_eq_some_iff (l := k :: l)]
    constructor
    · rintro ⟨-, ⟨inner, hget, hat⟩ | ⟨hnil, -⟩, hn, hp⟩
      · exact ⟨hn, .inr ⟨inner, hget, by simp, hat, hp⟩⟩
      · cases hnil
    · rintro ⟨hn, ⟨hnil, -⟩ | ⟨inner, hget, -, hat, hp⟩⟩
      · cases hnil
      · exact ⟨by simp, .inl ⟨inner, hget, hat⟩, hn, hp⟩

theorem get?_eq_none (h : n ∉ f.names) : f.get? n = none := by
  induction f with
  | empty => rfl
  | file k content rest ih =>
    simp only [Folder.names, List.mem_cons, not_or] at h
    simp [get?, Ne.symm h.1, ih h.2]
  | folder k inner rest _ ih =>
    simp only [Folder.names, List.mem_cons, not_or] at h
    simp [get?, Ne.symm h.1, ih h.2]

theorem not_mem_names_of_lt (h : ∀ m ∈ f.names, n < m) : n ∉ f.names :=
  fun hn => String.lt_irrefl n (h n hn)

theorem reaches_file_iff {content : List UInt8} (h : ∀ m ∈ rest.names, n < m) :
    (Folder.file n content rest).Reaches refused above names e ↔
      (names = [n] ∧ refused (above ++ [n]) = false ∧ e = .file content) ∨
        rest.Reaches refused above names e := by
  cases names with
  | nil => simp [not_reaches_nil]
  | cons k l =>
    rw [reaches_cons_iff, reaches_cons_iff]
    by_cases hk : n = k
    · subst hk
      have hcomm : Entry.file content = e ↔ e = .file content := eq_comm
      simp [get?, get?_eq_none (not_mem_names_of_lt h), hcomm, and_left_comm]
    · simp [get?, hk, Ne.symm hk]

theorem reaches_folder_iff (h : ∀ m ∈ rest.names, n < m) :
    (Folder.folder n inner rest).Reaches refused above names e ↔
      (refused (above ++ [n]) = false ∧ (names = [n] ∧ e = .folder inner ∨
        ∃ l, names = n :: l ∧ inner.Reaches refused (above ++ [n]) l e)) ∨
        rest.Reaches refused above names e := by
  cases names with
  | nil => simp [not_reaches_nil]
  | cons k l =>
    rw [reaches_cons_iff, reaches_cons_iff]
    by_cases hk : n = k
    · subst hk
      have hcomm : Entry.folder inner = e ↔ e = .folder inner := eq_comm
      simp [get?, get?_eq_none (not_mem_names_of_lt h), hcomm]
    · simp [get?, hk, Ne.symm hk]

/-- **A walk comes to exactly the entries that are not refused.** -/
theorem mem_walk_iff (hf : f.Ordered) {x : List String × Bool} :
    x ∈ f.walk refused above ↔
      ∃ names e, x = (above ++ names, e.isFile) ∧ f.Reaches refused above names e := by
  induction f generalizing above with
  | empty =>
    have hno : ∀ names e, ¬ Folder.empty.Reaches refused above names e := by
      intro names e h
      cases names with
      | nil => exact not_reaches_nil h
      | cons n l => simpa [get?] using (reaches_cons_iff.mp h).2
    simp [walk, hno]
  | file n content rest ih =>
    obtain ⟨hlt, hrest⟩ := hf
    simp only [walk, List.mem_append, ih hrest, reaches_file_iff hlt, and_or_left, exists_or]
    refine or_congr_left ?_
    by_cases hr : refused (above ++ [n]) = true <;> simp [hr, Entry.isFile]
  | folder n inner rest ihInner ihRest =>
    obtain ⟨hlt, hinner, hrest⟩ := hf
    simp only [walk, List.mem_append, ihRest hrest, reaches_folder_iff hlt]
    by_cases hr : refused (above ++ [n]) = true
    · simp [hr]
    · have hkept : refused (above ++ [n]) = false := by simpa using hr
      rw [if_neg hr, List.mem_cons, ihInner hinner]
      constructor
      · rintro ((rfl | ⟨l, e, rfl, hl⟩) | ⟨names, e, rfl, h⟩)
        · exact ⟨[n], .folder inner, rfl, .inl ⟨hkept, .inl ⟨rfl, rfl⟩⟩⟩
        · exact ⟨n :: l, e, by simp, .inl ⟨hkept, .inr ⟨l, rfl, hl⟩⟩⟩
        · exact ⟨names, e, rfl, .inr h⟩
      · rintro ⟨names, e, rfl, ⟨-, ⟨rfl, rfl⟩ | ⟨l, rfl, hl⟩⟩ | h⟩
        · exact .inl (.inl rfl)
        · exact .inl (.inr ⟨l, e, by simp, hl⟩)
        · exact .inr ⟨names, e, rfl, h⟩

end Folder

/-! ## Following a path -/

namespace Disk

variable {disk : Disk} {f : Path} {here inner : Folder} {above : List Folder} {names : List String}
  {e : Entry}

section Follow

variable {n : String} (hn : n ≠ Path.up)

include hn

theorem follow_of_long (hlong : maxName < n.utf8ByteSize) :
    follow above here (n :: names) = .error .nameTooLong := by
  simp [follow, hn, hlong]

theorem follow_of_missing (hshort : ¬ maxName < n.utf8ByteSize) (hget : here.get? n = none) :
    follow above here (n :: names) = .error .missing := by
  simp [follow, hn, hshort, hget]

theorem follow_of_folder (hshort : ¬ maxName < n.utf8ByteSize)
    (hget : here.get? n = some (.folder inner)) :
    follow above here (n :: names) = follow (here :: above) inner names := by
  simp [follow, hn, hshort, hget]

theorem follow_of_file (hshort : ¬ maxName < n.utf8ByteSize) {content : List UInt8}
    (hget : here.get? n = some (.file content)) : follow above here (n :: names) =
      if names.isEmpty then .ok (.file content) else .error .notFolder := by
  simp [follow, hn, hshort, hget]

end Follow

theorem getAt?_of_follow (hup : Path.up ∉ names) (h : follow above here names = .ok e) :
    here.getAt? names = some e := by
  induction names generalizing above here with
  | nil =>
    cases h
    rfl
  | cons n names ih =>
    rw [List.mem_cons, not_or] at hup
    have hn : n ≠ Path.up := Ne.symm hup.1
    rw [Folder.getAt?_cons_eq_some_iff]
    by_cases hlong : maxName < n.utf8ByteSize
    · cases (follow_of_long hn hlong).symm.trans h
    · cases hget : here.get? n with
      | none => cases (follow_of_missing hn hlong hget).symm.trans h
      | some entry =>
        cases entry with
        | folder inner =>
          rw [follow_of_folder hn hlong hget] at h
          exact .inl ⟨inner, rfl, ih hup.2 h⟩
        | file content =>
          rw [follow_of_file hn hlong hget] at h
          split_ifs at h with hempty
          cases h
          exact .inr ⟨List.isEmpty_iff.mp hempty, content, rfl, rfl⟩

/-- A path that does not lead up can be followed where its names lead, unless one is too long. -/
theorem follow_of_getAt? (hup : Path.up ∉ names) (h : here.getAt? names = some e) :
    follow above here names = .ok e ∨ follow above here names = .error .nameTooLong := by
  induction names generalizing above here with
  | nil =>
    cases h
    exact .inl rfl
  | cons n names ih =>
    rw [List.mem_cons, not_or] at hup
    have hn : n ≠ Path.up := Ne.symm hup.1
    by_cases hlong : maxName < n.utf8ByteSize
    · exact .inr (follow_of_long hn hlong)
    · rcases Folder.getAt?_cons_eq_some_iff.mp h with ⟨inner, hget, hat⟩ | ⟨rfl, content, rfl, hget⟩
      · rw [follow_of_folder hn hlong hget]
        exact ih hup.2 hat
      · exact .inl (follow_of_file hn hlong hget)

theorem getAt?_of_list {p : Path} (hp : p.Resolved) (h : disk.list p = .ok inner) :
    disk.root.getAt? p.parts = some (.folder inner) := by
  unfold list at h
  split at h
  · next hlocate =>
    cases h
    unfold locate at hlocate
    split_ifs at hlocate
    exact getAt?_of_follow hp.not_up hlocate
  · cases h
  · cases h

/-- A path in absolute form to a file of the tree passes the test for files, unless it is too long
for any test. -/
theorem isFile_of_getAt? (hf : f.Resolved) {content : List UInt8}
    (h : disk.root.getAt? f.parts = some (.file content)) {answer : Bool}
    (htest : disk.isFile f = .ok answer) : answer = true := by
  unfold isFile test locate at htest
  simp only [hf.not_null, Bool.false_eq_true, if_false] at htest
  by_cases hlong : maxPath ≤ f.render.utf8ByteSize
  · simp [hlong] at htest
  · rw [if_neg hlong] at htest
    have hfollow : follow [] disk.root f.parts = .ok (.file content) ∨
        follow [] disk.root f.parts = .error .nameTooLong :=
      follow_of_getAt? hf.not_up h
    rcases hfollow with he | he
    · simpa [he, eq_comm] using htest
    · simp [he] at htest

/-! ## Listings -/

/-- A name that an entry of a folder can have. -/
def FileName (name : String) : Prop :=
  Path.Segment name ∧ name ≠ Path.up ∧ '\x00' ∉ name.toList

instance : DecidablePred FileName := fun _ => inferInstanceAs (Decidable (_ ∧ _ ∧ _))

/-- The order of names can be checked. -/
instance decidableOrdered : DecidablePred Folder.Ordered
  | .empty => .isTrue trivial
  | .file _ _ rest =>
    have := decidableOrdered rest
    inferInstanceAs (Decidable (_ ∧ _))
  | .folder _ inner rest =>
    have := decidableOrdered inner
    have := decidableOrdered rest
    inferInstanceAs (Decidable (_ ∧ _ ∧ _))

/-- **A tree as a file system has it**: names are in order, so each stands for one entry, and each
can stand in a path. -/
structure WellFormed (disk : Disk) : Prop where
  ordered : disk.root.Ordered
  names : ∀ n ∈ disk.root.allNames, FileName n

/-- **A file below a folder** that is not refused: the file is in the tree, its path goes on from
the absolute form of the folder, and neither the displayed path of the file nor that of a folder in
between is refused. -/
def Lists (disk : Disk) (refused : String → Bool) (base folder file : Path) : Prop :=
  ∃ start names, folder.resolve? = some start ∧ names ≠ [] ∧ file = ⟨.root, start.parts ++ names⟩ ∧
    (∃ content, disk.root.getAt? file.parts = some (.file content)) ∧
      ∀ p, p ≠ [] → p <+: names →
        refused (Path.display base ⟨.root, start.parts ++ p⟩) = false

/-- **An entry below a folder** that is not refused, file or folder: what `Lists` says of a file. -/
def Meets (disk : Disk) (refused : String → Bool) (base folder p : Path) (e : Entry) : Prop :=
  ∃ start names, folder.resolve? = some start ∧ names ≠ [] ∧ p = ⟨.root, start.parts ++ names⟩ ∧
    disk.root.getAt? p.parts = some e ∧
      ∀ way, way ≠ [] → way <+: names →
        refused (Path.display base ⟨.root, start.parts ++ way⟩) = false

theorem lists_iff_meets {refused : String → Bool} {base folder file : Path} :
    disk.Lists refused base folder file ↔
      ∃ content, disk.Meets refused base folder file (.file content) := by
  constructor
  · rintro ⟨start, names, hstart, hne, hfile, ⟨content, hat⟩, hway⟩
    exact ⟨content, start, names, hstart, hne, hfile, hat, hway⟩
  · rintro ⟨content, start, names, hstart, hne, hfile, hat, hway⟩
    exact ⟨start, names, hstart, hne, hfile, ⟨content, hat⟩, hway⟩

theorem Meets.unrefused {refused : String → Bool} {base folder p : Path} {e : Entry}
    (h : disk.Meets refused base folder p e) : disk.Meets (fun _ => false) base folder p e := by
  obtain ⟨start, names, hstart, hne, hp, hat, -⟩ := h
  exact ⟨start, names, hstart, hne, hp, hat, fun _ _ _ => rfl⟩

/-! ## Entries one after the other -/

namespace Listing

variable {test : Path → Except Failure Unit} {entries : List (List String × Bool)}
  {x : List String × Bool} {failure : Failure} {listing : Listing} {files : List Path}

theorem all_eq_ok_iff :
    listing.all = .ok files ↔ listing.ending = .ok () ∧ listing.files = files := by
  unfold all
  cases listing.ending <;> simp [Except.map]

theorem ofEntries_of_error (h : test ⟨.root, x.1⟩ = .error failure) :
    ofEntries test (x :: entries) = ⟨[], .error failure⟩ := by
  obtain ⟨names, isFile⟩ := x
  simp only [ofEntries, h]

theorem ending_ofEntries_of_ok (h : test ⟨.root, x.1⟩ = .ok ()) :
    (ofEntries test (x :: entries)).ending = (ofEntries test entries).ending := by
  obtain ⟨names, isFile⟩ := x
  cases isFile <;> simp only [ofEntries, h] <;> rfl

theorem files_ofEntries_of_ok (h : test ⟨.root, x.1⟩ = .ok ()) :
    (ofEntries test (x :: entries)).files =
      (if x.2 then [⟨.root, x.1⟩] else []) ++ (ofEntries test entries).files := by
  obtain ⟨names, isFile⟩ := x
  cases isFile <;> simp only [ofEntries, h] <;> rfl

theorem ending_ofEntries_eq_ok_iff :
    (ofEntries test entries).ending = .ok () ↔ ∀ x ∈ entries, test ⟨.root, x.1⟩ = .ok () := by
  induction entries with
  | nil => simp [ofEntries]
  | cons x entries ih =>
    rw [List.forall_mem_cons]
    cases htest : test ⟨.root, x.1⟩ with
    | error failure => simp [ofEntries_of_error htest]
    | ok => simp [ending_ofEntries_of_ok htest, ih]

/-- A listing ends early with the first test that fails. -/
theorem ending_ofEntries_eq_error_iff : (ofEntries test entries).ending = .error failure ↔
    ∃ before x after, entries = before ++ x :: after ∧
      (∀ y ∈ before, test ⟨.root, y.1⟩ = .ok ()) ∧ test ⟨.root, x.1⟩ = .error failure := by
  induction entries with
  | nil => simp [ofEntries]
  | cons x entries ih =>
    cases htest : test ⟨.root, x.1⟩ with
    | error cause =>
      rw [ofEntries_of_error htest]
      constructor
      · rintro ⟨⟩
        exact ⟨[], x, entries, rfl, by simp, htest⟩
      · rintro ⟨_ | ⟨y, before⟩, z, after, heq, hbefore, hz⟩
        · cases heq
          exact congrArg _ (Except.error.inj (htest.symm.trans hz))
        · cases heq
          cases htest.symm.trans (hbefore x List.mem_cons_self)
    | ok =>
      rw [ending_ofEntries_of_ok htest, ih]
      constructor
      · rintro ⟨before, z, after, rfl, hbefore, hz⟩
        exact ⟨x :: before, z, after, rfl, List.forall_mem_cons.mpr ⟨htest, hbefore⟩, hz⟩
      · rintro ⟨_ | ⟨y, before⟩, z, after, heq, hbefore, hz⟩
        · cases heq
          cases htest.symm.trans hz
        · cases heq
          exact ⟨before, z, after, rfl, (List.forall_mem_cons.mp hbefore).2, hz⟩

/-- It has the files up to there. -/
theorem mem_files_ofEntries_iff {f : Path} : f ∈ (ofEntries test entries).files ↔
    ∃ before names after, entries = before ++ (names, true) :: after ∧ f = ⟨.root, names⟩ ∧
      (∀ y ∈ before, test ⟨.root, y.1⟩ = .ok ()) ∧ test f = .ok () := by
  induction entries with
  | nil => simp [ofEntries]
  | cons x entries ih =>
    cases htest : test ⟨.root, x.1⟩ with
    | error cause =>
      rw [ofEntries_of_error htest]
      refine iff_of_false (by simp) ?_
      rintro ⟨_ | ⟨y, before⟩, names, after, heq, rfl, hbefore, hf⟩
      · cases heq
        cases htest.symm.trans hf
      · cases heq
        cases htest.symm.trans (hbefore x List.mem_cons_self)
    | ok =>
      rw [files_ofEntries_of_ok htest, List.mem_append, ih]
      constructor
      · rintro (hx | ⟨before, names, after, rfl, rfl, hbefore, hf⟩)
        · obtain ⟨names, _ | _⟩ := x
          · cases hx
          · obtain rfl := List.mem_singleton.mp hx
            exact ⟨[], names, entries, rfl, rfl, by simp, htest⟩
        · exact ⟨x :: before, names, after, rfl, rfl,
            List.forall_mem_cons.mpr ⟨htest, hbefore⟩, hf⟩
      · rintro ⟨_ | ⟨y, before⟩, names, after, heq, rfl, hbefore, hf⟩
        · cases heq
          exact .inl List.mem_cons_self
        · cases heq
          exact .inr ⟨before, names, after, rfl, rfl, (List.forall_mem_cons.mp hbefore).2, hf⟩

theorem files_ofEntries (h : ∀ x ∈ entries, test ⟨.root, x.1⟩ = .ok ()) :
    (ofEntries test entries).files = (entries.filter (·.2)).map fun x => ⟨.root, x.1⟩ := by
  induction entries with
  | nil => rfl
  | cons x entries ih =>
    obtain ⟨hx, hentries⟩ := List.forall_mem_cons.mp h
    rw [files_ofEntries_of_ok hx, ih hentries]
    cases hfile : x.2 <;> simp [hfile]

theorem files_ofEntries_sublist :
    (ofEntries test entries).files.Sublist ((entries.filter (·.2)).map fun x => ⟨.root, x.1⟩) := by
  induction entries with
  | nil => exact List.Sublist.slnil
  | cons x entries ih =>
    cases htest : test ⟨.root, x.1⟩ with
    | error failure =>
      rw [ofEntries_of_error htest]
      exact List.nil_sublist _
    | ok =>
      rw [files_ofEntries_of_ok htest]
      cases hfile : x.2 with
      | false => simpa [hfile] using ih
      | true => simpa [hfile] using ih

end Listing

section FilesBelow

variable {refused : String → Bool} {base : Option Path} {folder file p q : Path} {files : List Path}
  {entries : List (List String × Bool)} {failure : Failure}

theorem resolve_eq_ok_iff : resolve p = .ok q ↔ p.resolve? = some q := by
  unfold resolve
  cases p.resolve? <;> simp

theorem entriesBelow_ok (h : disk.entriesBelow refused base folder = .ok entries) :
    ∃ start inner, folder.resolve? = some start ∧ disk.list start = .ok inner ∧
      entries = inner.walk (fun parts => refused (Path.display (base.getD folder) ⟨.root, parts⟩))
        start.parts := by
  unfold entriesBelow at h
  obtain ⟨start, hstart, h⟩ := bind_eq_ok h
  have hstart' := resolve_eq_ok_iff.mp hstart
  cases hlist : disk.list start with
  | error e =>
    rw [hlist] at h
    cases base with
    | none => cases h
    | some c =>
      obtain ⟨b, -, h⟩ := bind_eq_ok h
      cases h
  | ok inner =>
    rw [hlist] at h
    refine ⟨start, inner, hstart', hlist, ?_⟩
    -- paths are displayed from the base, or from the folder if there is none
    cases base with
    | none =>
      cases h
      simp only [Function.comp_def, Path.display_of_resolve? hstart', Option.getD_none]
    | some c =>
      obtain ⟨b, hb, h⟩ := bind_eq_ok h
      cases h
      simp only [Function.comp_def, Path.display_of_resolve? (resolve_eq_ok_iff.mp hb),
        Option.getD_some]

theorem exists_entriesBelow_iff :
    (∃ entries, disk.entriesBelow refused base folder = .ok entries) ↔
      (∀ b ∈ base, ∃ q, b.resolve? = some q) ∧
        ∃ start inner, folder.resolve? = some start ∧ disk.list start = .ok inner := by
  constructor
  · rintro ⟨entries, h⟩
    obtain ⟨start, inner, hstart, hlist, -⟩ := entriesBelow_ok h
    refine ⟨?_, start, inner, hstart, hlist⟩
    rintro b ⟨⟩
    obtain ⟨start, -, h⟩ := bind_eq_ok h
    obtain ⟨q, hq, -⟩ := bind_eq_ok h
    exact ⟨q, resolve_eq_ok_iff.mp hq⟩
  · rintro ⟨hbase, start, inner, hstart, hlist⟩
    unfold entriesBelow
    rw [resolve_eq_ok_iff.mpr hstart]
    cases base with
    | none =>
      simp only [hlist, bind, Except.bind]
      exact ⟨_, rfl⟩
    | some c =>
      obtain ⟨b, hb⟩ := hbase c rfl
      simp only [resolve_eq_ok_iff.mpr hb, hlist, bind, Except.bind]
      exact ⟨_, rfl⟩

/-- **The entries of a folder** are exactly those below it that are not refused. -/
theorem mem_entriesBelow_iff (hroot : disk.root.Ordered)
    (h : disk.entriesBelow refused base folder = .ok entries) {x : List String × Bool} :
    x ∈ entries ↔ ∃ e : Entry, x.2 = e.isFile ∧
      disk.Meets refused (base.getD folder) folder ⟨.root, x.1⟩ e := by
  obtain ⟨start, inner, hstart, hlist, rfl⟩ := entriesBelow_ok h
  have hinner := getAt?_of_list (Path.resolved_of_resolve? hstart) hlist
  simp only [Folder.mem_walk_iff (hroot.of_getAt? hinner), Meets, hstart, Option.some.injEq]
  constructor
  · rintro ⟨names, e, rfl, hne, hat, hway⟩
    refine ⟨e, rfl, start, names, rfl, hne, rfl, ?_, hway⟩
    rw [Folder.getAt?_append hinner, hat]
  · rintro ⟨e, hfile, _, names, rfl, hne, hx, hat, hway⟩
    obtain ⟨_, isFile⟩ := x
    obtain rfl : _ = start.parts ++ names := congrArg Path.parts hx
    refine ⟨names, e, Prod.ext rfl hfile, hne, ?_, hway⟩
    rw [← Folder.getAt?_append hinner, hat]

theorem visit_eq_error_iff : disk.visit p = .error failure ↔
    disk.locate p = .error .nameTooLong ∧ failure = .io ⟨.nameTooLong, p⟩ := by
  unfold visit isFolder test
  cases disk.locate p with
  | error cause => cases cause <;> simp [eq_comm]
  | ok e => simp

theorem visit_eq_ok_iff : disk.visit p = .ok () ↔ disk.locate p ≠ .error .nameTooLong := by
  unfold visit isFolder test
  cases disk.locate p with
  | error cause => cases cause <;> simp
  | ok e => simp

theorem listing_of_entries (h : disk.entriesBelow refused base folder = .ok entries) :
    disk.listing refused base folder = .ofEntries disk.visit entries := by
  simp only [listing, listingBy, h]

theorem ending_listingBy_eq_ok_iff {test : Path → Except Failure Unit} :
    (disk.listingBy test refused base folder).ending = .ok () ↔
      ∃ entries, disk.entriesBelow refused base folder = .ok entries ∧
        ∀ x ∈ entries, test ⟨.root, x.1⟩ = .ok () := by
  unfold listingBy
  cases disk.entriesBelow refused base folder with
  | error failure => simp
  | ok entries => simp [Listing.ending_ofEntries_eq_ok_iff]

theorem filesBelow_eq_ok_iff : disk.filesBelow refused base folder = .ok files ↔
    ∃ entries, disk.entriesBelow refused base folder = .ok entries ∧
      (∀ x ∈ entries, disk.locate ⟨.root, x.1⟩ ≠ .error .nameTooLong) ∧
      files = (entries.filter (·.2)).map fun x => ⟨.root, x.1⟩ := by
  rw [filesBelow, Listing.all_eq_ok_iff, listing, ending_listingBy_eq_ok_iff]
  simp only [← visit_eq_ok_iff]
  constructor
  · rintro ⟨⟨entries, hentries, hfits⟩, rfl⟩
    refine ⟨entries, hentries, hfits, ?_⟩
    rw [← listing, listing_of_entries hentries, Listing.files_ofEntries hfits]
  · rintro ⟨entries, hentries, hfits, rfl⟩
    refine ⟨⟨entries, hentries, hfits⟩, ?_⟩
    rw [← listing, listing_of_entries hentries, Listing.files_ofEntries hfits]

theorem exists_filesBelow_iff (hroot : disk.root.Ordered) :
    (∃ files, disk.filesBelow refused base folder = .ok files) ↔
      (∃ entries, disk.entriesBelow refused base folder = .ok entries) ∧
        ∀ p e, disk.Meets refused (base.getD folder) folder p e →
          disk.locate p ≠ .error .nameTooLong := by
  constructor
  · rintro ⟨files, h⟩
    obtain ⟨entries, hentries, hfits, -⟩ := filesBelow_eq_ok_iff.mp h
    refine ⟨⟨entries, hentries⟩, fun p e hp => ?_⟩
    obtain ⟨start, names, hstart, hne, rfl, hat, hway⟩ := hp
    exact hfits (start.parts ++ names, e.isFile) ((mem_entriesBelow_iff hroot hentries).mpr
      ⟨e, rfl, start, names, hstart, hne, rfl, hat, hway⟩)
  · rintro ⟨⟨entries, hentries⟩, hfits⟩
    refine ⟨_, filesBelow_eq_ok_iff.mpr ⟨entries, hentries, fun x hx => ?_, rfl⟩⟩
    obtain ⟨e, -, hmeets⟩ := (mem_entriesBelow_iff hroot hentries).mp hx
    exact hfits _ e hmeets

/-- **The listing of a folder** holds exactly the files below it that are not refused. -/
theorem mem_filesBelow_iff (hroot : disk.root.Ordered)
    (h : disk.filesBelow refused base folder = .ok files) :
    file ∈ files ↔ disk.Lists refused (base.getD folder) folder file := by
  obtain ⟨entries, hentries, -, rfl⟩ := filesBelow_eq_ok_iff.mp h
  rw [lists_iff_meets]
  simp only [List.mem_map, List.mem_filter, mem_entriesBelow_iff hroot hentries]
  constructor
  · rintro ⟨x, ⟨⟨e, hx, hmeets⟩, hfile⟩, rfl⟩
    obtain ⟨content, rfl⟩ := Entry.isFile_eq_true_iff.mp (hx.symm.trans hfile)
    exact ⟨content, hmeets⟩
  · rintro ⟨content, hmeets⟩
    obtain ⟨start, names, -, -, rfl, -⟩ := id hmeets
    exact ⟨(start.parts ++ names, true), ⟨⟨.file content, rfl, hmeets⟩, rfl⟩, rfl⟩

end FilesBelow

/-- A file of the tree, given by its absolute form, with names between slashes. -/
structure Has (disk : Disk) (f : Path) : Prop where
  resolved : f.Resolved
  segment : ∀ n ∈ f.parts, Path.Segment n
  file : ∃ content, disk.root.getAt? f.parts = some (.file content)

theorem Has.eq_of_display_eq {base g : Path} (hf : disk.Has f) (hg : disk.Has g)
    (h : Path.display base f = Path.display base g) : f = g :=
  Path.display_inj hf.resolved hf.segment hg.resolved hg.segment h

theorem Has.fileName_name (hf : disk.Has f) : FileName f.name := by
  obtain ⟨content, hat⟩ := hf.file
  have hne : f.parts ≠ [] := by
    intro hnil
    rw [hnil] at hat
    cases hat
  have hmem := Path.name_mem hne
  exact ⟨hf.segment _ hmem, fun hup => hf.resolved.not_up (hup ▸ hmem),
    Path.hasNull_eq_false_iff.mp hf.resolved.not_null _ hmem⟩

theorem Lists.has {refused : String → Bool} {base folder : Path} (hdisk : disk.WellFormed)
    (h : disk.Lists refused base folder f) : disk.Has f := by
  obtain ⟨start, names, -, -, rfl, ⟨content, hat⟩, -⟩ := h
  have hname : ∀ n ∈ start.parts ++ names, FileName n := fun n hn =>
    hdisk.names n (Folder.mem_allNames_of_getAt? hat n hn)
  refine ⟨⟨rfl, fun hup => (hname _ hup).2.1 rfl, ?_⟩, fun n hn => (hname n hn).1, content, hat⟩
  rw [Path.hasNull_eq_false_iff]
  exact fun n hn => (hname n hn).2.2

end Disk

/-! ## The files of an area -/

namespace Area

variable {area : Area} {disk : Disk} {folder : Path}

theorem listing_of_seeing (h : area.blind = false) :
    area.listing disk folder = disk.listing area.refused area.base folder := by
  simp [listing, h]

theorem listing_eq_iff_of_seeing (h : area.blind = false) {files : List Path} :
    area.listing disk folder = ⟨files, .ok ()⟩ ↔
      disk.filesBelow area.refused area.base folder = .ok files := by
  rw [Disk.filesBelow, Disk.Listing.all_eq_ok_iff, listing_of_seeing h]
  obtain ⟨listed, ending⟩ := disk.listing area.refused area.base folder
  simp [and_comm]

/-- Nothing comes before the first entry, where a pattern of bytes fails. -/
theorem files_listing_of_blind (h : area.blind = true) (disk : Disk) (folder : Path) :
    (area.listing disk folder).files = [] := by
  unfold listing Disk.listingBy
  rw [if_pos h]
  cases disk.entriesBelow (fun _ => false) area.base folder with
  | error failure => rfl
  | ok entries =>
    cases entries with
    | nil => rfl
    | cons x entries => exact congrArg Disk.Listing.files (Disk.Listing.ofEntries_of_error rfl)

/-- **Nothing that a walk comes to stops it**: no path of an entry that is not left out is too long,
and where what to leave out is a pattern of bytes, there is no entry at all. -/
structure EntriesFit (area : Area) (disk : Disk) (folder : Path) : Prop where
  short : ∀ p e, disk.Meets area.refused (area.base.getD folder) folder p e →
    disk.locate p ≠ .error .nameTooLong
  seen : area.blind = true → ∀ p e, ¬ disk.Meets (fun _ => false) (area.base.getD folder) folder p e

/-- **The listing of an area comes to its end** if the folder and the base are there and no entry
stops the walk. -/
theorem ending_listing_eq_ok_iff (hroot : disk.root.Ordered) :
    (area.listing disk folder).ending = .ok () ↔
      (∃ entries, disk.entriesBelow area.refused area.base folder = .ok entries) ∧
        area.EntriesFit disk folder := by
  cases hblind : area.blind with
  | false =>
    have hall : (area.listing disk folder).ending = .ok () ↔
        ∃ files, disk.filesBelow area.refused area.base folder = .ok files := by
      simp [listing_of_seeing hblind, Disk.filesBelow, Disk.Listing.all_eq_ok_iff]
    rw [hall, Disk.exists_filesBelow_iff hroot]
    refine and_congr_right fun _ => ⟨fun h => ⟨h, by simp [hblind]⟩, EntriesFit.short⟩
  | true =>
    rw [listing, if_pos hblind, Disk.ending_listingBy_eq_ok_iff]
    constructor
    · rintro ⟨entries, hentries, hnone⟩
      have hmeets : ∀ p e, ¬ disk.Meets (fun _ => false) (area.base.getD folder) folder p e := by
        rintro _ e ⟨start, names, hstart, hne, rfl, hat, hway⟩
        cases hnone (start.parts ++ names, e.isFile)
          ((Disk.mem_entriesBelow_iff hroot hentries).mpr
            ⟨e, rfl, start, names, hstart, hne, rfl, hat, hway⟩)
      refine ⟨Disk.exists_entriesBelow_iff.mpr (Disk.exists_entriesBelow_iff.mp ⟨_, hentries⟩),
        ⟨?_, fun _ => hmeets⟩⟩
      exact fun p e hp => absurd hp.unrefused (hmeets p e)
    · rintro ⟨hentries, hfits⟩
      obtain ⟨entries, hentries⟩ := Disk.exists_entriesBelow_iff.mpr
        (Disk.exists_entriesBelow_iff.mp hentries)
      refine ⟨entries, hentries, fun x hx => ?_⟩
      obtain ⟨e, -, hmeets⟩ := (Disk.mem_entriesBelow_iff hroot hentries).mp hx
      exact absurd hmeets (hfits.seen hblind _ e)

/-- A listing that comes to its end has all files, also if a pattern of bytes met no entry. -/
theorem filesBelow_of_listing (hroot : disk.root.Ordered) {files : List Path}
    (h : area.listing disk folder = ⟨files, .ok ()⟩) :
    disk.filesBelow area.refused area.base folder = .ok files := by
  cases hblind : area.blind with
  | false => exact (listing_eq_iff_of_seeing hblind).mp h
  | true =>
    obtain ⟨hentries, hfits⟩ :=
      (ending_listing_eq_ok_iff hroot).mp (congrArg Disk.Listing.ending h)
    obtain ⟨files', hfiles⟩ := (Disk.exists_filesBelow_iff hroot).mpr ⟨hentries, hfits.short⟩
    obtain rfl : files = [] := by
      rw [← files_listing_of_blind hblind disk folder, h]
    obtain rfl : files' = [] := by
      refine List.eq_nil_iff_forall_not_mem.mpr fun f hf => ?_
      obtain ⟨content, hmeets⟩ :=
        Disk.lists_iff_meets.mp ((Disk.mem_filesBelow_iff hroot hfiles).mp hf)
      exact hfits.seen hblind f _ hmeets.unrefused
    exact hfiles

/-- The files of a listing are not left out, also if it ends early. -/
theorem lists_of_mem_listing (hroot : disk.root.Ordered) {file : Path}
    (h : file ∈ (area.listing disk folder).files) :
    disk.Lists area.refused (area.base.getD folder) folder file := by
  cases hblind : area.blind with
  | true =>
    rw [files_listing_of_blind hblind disk folder] at h
    cases h
  | false =>
    rw [listing_of_seeing hblind] at h
    cases hentries : disk.entriesBelow area.refused area.base folder with
    | error failure =>
      rw [Disk.listing, Disk.listingBy, hentries] at h
      cases h
    | ok entries =>
      rw [Disk.listing_of_entries hentries] at h
      obtain ⟨before, names, after, rfl, rfl, -⟩ := Disk.Listing.mem_files_ofEntries_iff.mp h
      obtain ⟨e, he, hmeets⟩ := (Disk.mem_entriesBelow_iff hroot hentries
        (x := (names, true))).mp (by simp)
      obtain ⟨content, rfl⟩ := Entry.isFile_eq_true_iff.mp he.symm
      exact Disk.lists_iff_meets.mpr ⟨content, hmeets⟩

theorem exists_listing_eq (h : (area.listing disk folder).ending = .ok ()) :
    ∃ files, area.listing disk folder = ⟨files, .ok ()⟩ := by
  rw [← h]
  exact ⟨_, rfl⟩

end Area

end ReducerAtlas
