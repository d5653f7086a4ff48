import ReducerAtlas.Proofs.Growth

/-!
# Where paths lead on a grown disk

On a disk that has all that another has, a path leads to the same file unless the file is one of
those that were added. A test can fail on the grown disk alone, since a name that is too long is
only noticed in a folder that exists; a path whose names fit stays clear of that.

* `Folder.Overruns`: a name on the way is too long; `Disk.follow_eq_tooLong_iff`: the one reason why
  following a path is refused.
* `Disk.Extends`: the grown disk; `Disk.Extends.locate_eq_of_file`, `Disk.Extends.readBytes_eq`,
  `Disk.Extends.isFile_eq_of_parent`, `Disk.Extends.filesBelow_eq`: what stays.
* `Lookup.tried`: the files that a path may stand for; **`Disk.Extends.find_eq`**,
  **`Disk.Extends.targets_eq`**: what a path and a module name stand for.
-/

namespace ReducerAtlas

/-! ## Names that are too long -/

/-- A path that any file system can follow: neither it nor a name in it is too long. -/
structure Path.Fits (p : Path) : Prop where
  path : p.render.utf8ByteSize < Disk.maxPath
  names : ∀ n ∈ p.parts, n.utf8ByteSize ≤ Disk.maxName

instance : DecidablePred Path.Fits := fun p =>
  decidable_of_iff (p.render.utf8ByteSize < Disk.maxPath ∧
    ∀ n ∈ p.parts, n.utf8ByteSize ≤ Disk.maxName) ⟨fun h => ⟨h.1, h.2⟩, fun h => ⟨h.path, h.names⟩⟩

namespace Folder

variable {f g : Folder} {n : String} {l names : List String}

theorem exists_folder_of_getAt? {rest : List String} {e : Entry}
    (h : f.getAt? (l ++ n :: rest) = some e) : ∃ inner, f.getAt? l = some (.folder inner) := by
  induction l generalizing f with
  | nil => exact ⟨f, rfl⟩
  | cons k l ih =>
    obtain ⟨mid, hget, hat⟩ | ⟨hnil, -⟩ := getAt?_cons_eq_some_iff.mp h
    · rw [getAt?_of_folder hget]
      exact ih hat
    · simp at hnil

theorem exists_folder_of_dropLast {rest : List String} {inner : Folder}
    (h : f.getAt? (l ++ n :: rest).dropLast = some (.folder inner)) :
    ∃ inner', f.getAt? l = some (.folder inner') := by
  cases rest with
  | nil =>
    rw [List.dropLast_concat] at h
    exact ⟨inner, h⟩
  | cons k rest =>
    rw [List.dropLast_append_cons, List.dropLast_cons_of_ne_nil (by simp)] at h
    exact exists_folder_of_getAt? h

theorem exists_parent {content : List UInt8} (h : f.getAt? names = some (.file content)) :
    ∃ inner, f.getAt? names.dropLast = some (.folder inner) := by
  have hne : names ≠ [] := by
    rintro rfl
    cases h
  rw [← List.dropLast_append_getLast hne] at h
  exact exists_folder_of_getAt? h

/-- A name on the way is too long, and stands in a folder of the tree. -/
def Overruns (f : Folder) (names : List String) : Prop :=
  ∃ l n rest inner, names = l ++ n :: rest ∧ Disk.maxName < n.utf8ByteSize ∧
    f.getAt? l = some (.folder inner)

theorem not_overruns (h : ∀ n ∈ names, n.utf8ByteSize ≤ Disk.maxName) : ¬ f.Overruns names := by
  rintro ⟨l, n, rest, inner, rfl, hlong, -⟩
  exact absurd (h n (by simp)) (not_le.mpr hlong)

/-- A name that is too long is noticed wherever the folder of the last one exists. -/
theorem Overruns.of_parent {inner : Folder} (h : g.Overruns names)
    (hparent : f.getAt? names.dropLast = some (.folder inner)) : f.Overruns names := by
  obtain ⟨l, n, rest, -, rfl, hlong, -⟩ := h
  obtain ⟨inner', hat⟩ := exists_folder_of_dropLast hparent
  exact ⟨l, n, rest, inner', rfl, hlong, hat⟩

theorem Overruns.of_entry {e : Entry} (h : g.Overruns names) (hat : f.getAt? names = some e) :
    f.Overruns names := by
  obtain ⟨l, n, rest, -, rfl, hlong, -⟩ := h
  obtain ⟨inner, hl⟩ := exists_folder_of_getAt? hat
  exact ⟨l, n, rest, inner, rfl, hlong, hl⟩

theorem overruns_cons_iff : f.Overruns (n :: l) ↔
    Disk.maxName < n.utf8ByteSize ∨
      ∃ inner, f.get? n = some (.folder inner) ∧ inner.Overruns l := by
  constructor
  · rintro ⟨l', k, rest, inner, hsplit, hlong, hat⟩
    cases l' with
    | nil =>
      cases hsplit
      exact .inl hlong
    | cons m l' =>
      cases hsplit
      obtain ⟨mid, hget, hmid⟩ | ⟨-, content, hfile, -⟩ := getAt?_cons_eq_some_iff.mp hat
      · exact .inr ⟨mid, hget, l', k, rest, inner, rfl, hlong, hmid⟩
      · cases hfile
  · rintro (hlong | ⟨mid, hget, l', k, rest, inner, rfl, hlong, hat⟩)
    · exact ⟨[], n, l, f, rfl, hlong, rfl⟩
    · exact ⟨n :: l', k, rest, inner, rfl, hlong, by rwa [getAt?_of_folder hget]⟩

end Folder

namespace Disk

variable {disk left : Disk} {outs : List (List String)} {p : Path} {above : List Folder}
  {here : Folder} {names : List String} {e : Entry}

/-- **Following a path is refused exactly for a name that is too long.** -/
theorem follow_eq_tooLong_iff (hup : Path.up ∉ names) :
    follow above here names = .error .nameTooLong ↔ here.Overruns names := by
  induction names generalizing above here with
  | nil =>
    constructor
    · intro h
      cases h
    · rintro ⟨l, n, rest, inner, hsplit, -⟩
      simp at hsplit
  | cons n l ih =>
    rw [List.mem_cons, not_or] at hup
    have hn : n ≠ Path.up := Ne.symm hup.1
    rw [Folder.overruns_cons_iff]
    by_cases hlong : maxName < n.utf8ByteSize
    · exact ⟨fun _ => .inl hlong, fun _ => follow_of_long hn hlong⟩
    · rw [or_iff_right hlong]
      cases hget : here.get? n with
      | none => simp [follow_of_missing hn hlong hget]
      | some entry =>
        cases entry with
        | folder inner =>
          rw [follow_of_folder hn hlong hget, ih hup.2]
          simp
        | file content =>
          rw [follow_of_file hn hlong hget]
          cases l <;> simp

theorem locate_eq_ok_iff (hup : Path.up ∉ p.parts) : disk.locate p = .ok e ↔
    p.hasNull = false ∧ p.render.utf8ByteSize < maxPath ∧ ¬ disk.root.Overruns p.parts ∧
      disk.root.getAt? p.parts = some e := by
  unfold locate
  split_ifs with hnull hlong
  · simp [hnull]
  · simp [hnull, not_lt.mpr hlong]
  · have hover : follow [] disk.root p.parts = .error .nameTooLong ↔ disk.root.Overruns p.parts :=
      follow_eq_tooLong_iff hup
    simp only [hnull, not_le.mp hlong, true_and, ← hover]
    constructor
    · intro h
      exact ⟨by simp [h], getAt?_of_follow hup h⟩
    · rintro ⟨hfits, hat⟩
      exact (follow_of_getAt? hup hat).resolve_right hfits

theorem exists_file_of_isFile (hup : Path.up ∉ p.parts) (h : disk.isFile p = .ok true) :
    p.hasNull = false ∧ ∃ content, disk.root.getAt? p.parts = some (.file content) := by
  obtain ⟨content, hlocate⟩ := isFile_eq_true_iff.mp h
  obtain ⟨hnull, -, -, hat⟩ := (locate_eq_ok_iff hup).mp hlocate
  exact ⟨hnull, content, hat⟩

theorem has_of_isFile (hdisk : disk.WellFormed)
    (hroot : p.anchor = .root) (hup : Path.up ∉ p.parts) (h : disk.isFile p = .ok true) :
    disk.Has p := by
  obtain ⟨hnull, content, hat⟩ := exists_file_of_isFile hup h
  exact ⟨⟨hroot, hup, hnull⟩,
    fun n hn => (hdisk.names n (Folder.mem_allNames_of_getAt? hat n hn)).1, content, hat⟩

theorem locate_eq_tooLong_iff (hup : Path.up ∉ p.parts) : disk.locate p = .error .nameTooLong ↔
    p.hasNull = false ∧ (maxPath ≤ p.render.utf8ByteSize ∨ disk.root.Overruns p.parts) := by
  unfold locate
  split_ifs with hnull hlong
  · simp [hnull]
  · simp [hnull, hlong]
  · simp [hnull, hlong, follow_eq_tooLong_iff hup]

theorem follow_ne_tooLong (h : ∀ n ∈ names, n.utf8ByteSize ≤ maxName) :
    follow above here names ≠ .error .nameTooLong := by
  induction names generalizing above here with
  | nil => simp [follow]
  | cons n names ih =>
    obtain ⟨hn, hnames⟩ := List.forall_mem_cons.mp h
    have hlong : ¬ maxName < n.utf8ByteSize := not_lt.mpr hn
    by_cases hup : n = Path.up
    · simp only [follow, if_pos hup]
      cases above with
      | nil => exact ih hnames
      | cons top rest => exact ih hnames
    · cases hget : here.get? n with
      | none => simp [follow_of_missing hup hlong hget]
      | some entry =>
        cases entry with
        | folder inner =>
          rw [follow_of_folder hup hlong hget]
          exact ih hnames
        | file content =>
          rw [follow_of_file hup hlong hget]
          split_ifs <;> simp

theorem locate_ne_tooLong (hp : p.Fits) : disk.locate p ≠ .error .nameTooLong := by
  unfold locate
  split_ifs with hnull hlong
  · simp
  · exact absurd hp.path (not_lt.mpr hlong)
  · exact follow_ne_tooLong hp.names

theorem fits_of_locate (hup : Path.up ∉ p.parts) (h : disk.locate p = .ok e) :
    ∀ n ∈ p.parts, n.utf8ByteSize ≤ maxName := by
  obtain ⟨-, -, hfits, hat⟩ := (locate_eq_ok_iff hup).mp h
  intro n hn
  by_contra hlong
  obtain ⟨l, rest, hsplit⟩ := List.append_of_mem hn
  rw [hsplit] at hat hfits
  obtain ⟨inner, hl⟩ := Folder.exists_folder_of_getAt? hat
  exact hfits ⟨l, n, rest, inner, rfl, not_le.mp hlong, hl⟩

theorem isFile_eq_error_iff {cause : IoError} : disk.isFile p = .error cause ↔
    disk.locate p = .error .nameTooLong ∧ cause = ⟨.nameTooLong, p⟩ := by
  unfold isFile test
  cases disk.locate p with
  | error c => cases c <;> simp [eq_comm]
  | ok e => simp

/-- The test for a file sees whether there is one, and whether a name is too long. -/
theorem isFile_congr (hup : Path.up ∉ p.parts)
    (hover : disk.root.Overruns p.parts ↔ left.root.Overruns p.parts)
    (hfile : ∀ content, disk.root.getAt? p.parts = some (.file content) ↔
      left.root.getAt? p.parts = some (.file content)) : disk.isFile p = left.isFile p := by
  have hlong : disk.locate p = .error .nameTooLong ↔ left.locate p = .error .nameTooLong := by
    rw [locate_eq_tooLong_iff hup, locate_eq_tooLong_iff hup, hover]
  have herror : ∀ cause, disk.isFile p = .error cause ↔ left.isFile p = .error cause := by
    intro cause
    rw [isFile_eq_error_iff, isFile_eq_error_iff, hlong]
  have htrue : disk.isFile p = .ok true ↔ left.isFile p = .ok true := by
    simp only [isFile_eq_true_iff, locate_eq_ok_iff hup, hover, hfile]
  cases hleft : left.isFile p with
  | error cause => exact (herror cause).mpr hleft
  | ok answer =>
    cases answer with
    | true => exact htrue.mpr hleft
    | false =>
      cases hdisk : disk.isFile p with
      | error cause => cases hleft.symm.trans ((herror cause).mp hdisk)
      | ok answer =>
        cases answer with
        | true => cases hleft.symm.trans (htrue.mp hdisk)
        | false => rfl

/-! ## Grown disks -/

/-- **A disk with all that another has**, apart from the files at the given places. -/
structure Extends (outs : List (List String)) (disk left : Disk) : Prop where
  root : disk.root.Extends outs left.root
  ordered : disk.root.Ordered → left.root.Ordered
  faults : left.faults = disk.faults
  /-- The path of what was added is not too long. -/
  fits : ∀ names e, left.root.getAt? names = some e →
    (∃ e', disk.root.getAt? names = some e') ∨ (Path.mk .root names).Fits

namespace Extends

variable (h : disk.Extends outs left)

include h

theorem overruns (hover : disk.root.Overruns names) : left.root.Overruns names := by
  obtain ⟨l, n, rest, inner, hsplit, hlong, hat⟩ := hover
  obtain ⟨inner', hat'⟩ := h.root.folder l inner hat
  exact ⟨l, n, rest, inner', hsplit, hlong, hat'⟩

theorem locate_eq_of_file (hup : Path.up ∉ p.parts) (hout : p.parts ∉ outs) {content : List UInt8}
    (hat : disk.root.getAt? p.parts = some (.file content)) : left.locate p = disk.locate p := by
  have hat' := (h.root.file_iff p.parts hout content).mpr hat
  have hlong : follow [] disk.root p.parts = .error .nameTooLong ↔
      follow [] left.root p.parts = .error .nameTooLong := by
    rw [follow_eq_tooLong_iff hup, follow_eq_tooLong_iff hup]
    exact ⟨h.overruns, fun hover => hover.of_entry hat⟩
  unfold locate
  split_ifs
  · rfl
  · rfl
  · by_cases hrefused : follow [] disk.root p.parts = .error .nameTooLong
    · rw [hrefused, hlong.mp hrefused]
    · rw [(follow_of_getAt? hup hat).resolve_right hrefused,
        (follow_of_getAt? hup hat').resolve_right (hrefused ∘ hlong.mpr)]

theorem locate_file (hup : Path.up ∉ p.parts) (hout : p.parts ∉ outs) {content : List UInt8}
    (hp : disk.locate p = .ok (.file content)) : left.locate p = .ok (.file content) :=
  (h.locate_eq_of_file hup hout ((locate_eq_ok_iff hup).mp hp).2.2.2).trans hp

theorem locate_folder (hup : Path.up ∉ p.parts) {inner : Folder}
    (hp : disk.locate p = .ok (.folder inner)) :
    ∃ inner', left.locate p = .ok (.folder inner') := by
  have hfits := Folder.not_overruns (f := left.root) (fits_of_locate hup hp)
  simp only [locate_eq_ok_iff hup] at hp ⊢
  obtain ⟨inner', hat⟩ := h.root.folder p.parts inner hp.2.2.2
  exact ⟨inner', hp.1, hp.2.1, hfits, hat⟩

theorem readBytes_eq (hup : Path.up ∉ p.parts) (hout : p.parts ∉ outs) {content : List UInt8}
    (hat : disk.root.getAt? p.parts = some (.file content)) :
    left.readBytes p = disk.readBytes p := by
  rw [readBytes, readBytes, h.faults, h.locate_eq_of_file hup hout hat]

theorem isFile_eq_of_file (hup : Path.up ∉ p.parts) (hout : p.parts ∉ outs) {content : List UInt8}
    (hat : disk.root.getAt? p.parts = some (.file content)) : left.isFile p = disk.isFile p := by
  rw [isFile, isFile, test, test, h.locate_eq_of_file hup hout hat]

/-- A path in a folder that was there before leads to a file only if it did before. -/
theorem isFile_eq_of_parent {inner : Folder} (hup : Path.up ∉ p.parts) (hout : p.parts ∉ outs)
    (hparent : disk.root.getAt? p.parent.parts = some (.folder inner)) :
    left.isFile p = disk.isFile p := by
  have hover : disk.root.Overruns p.parts ↔ left.root.Overruns p.parts :=
    ⟨h.overruns, fun hover => hover.of_parent hparent⟩
  exact (isFile_congr hup hover fun content => (h.root.file_iff _ hout content).symm).symm

theorem isFile_eq_of_fits (hup : Path.up ∉ p.parts) (hout : p.parts ∉ outs)
    (hfits : ∀ n ∈ p.parts, n.utf8ByteSize ≤ maxName) : left.isFile p = disk.isFile p := by
  refine (isFile_congr hup ?_ fun content => (h.root.file_iff _ hout content).symm).symm
  exact iff_of_false (Folder.not_overruns hfits) (Folder.not_overruns hfits)

end Extends

end Disk

/-! ## Listings -/

/-- A place below a folder that is not left out, whatever stands there. -/
def Area.Covers (area : Area) (folder file : Path) : Prop :=
  ∃ start names, folder.resolve? = some start ∧ names ≠ [] ∧ file = ⟨.root, start.parts ++ names⟩ ∧
    ∀ p, p ≠ [] → p <+: names →
      area.refused (Path.display (area.base.getD folder) ⟨.root, start.parts ++ p⟩) = false

namespace Disk

variable {disk left : Disk} {outs : List (List String)} {area : Area} {folder : Path}
  {files : List Path}

theorem lists_iff_covers {file : Path} :
    disk.Lists area.refused (area.base.getD folder) folder file ↔
      area.Covers folder file ∧ ∃ content, disk.root.getAt? file.parts = some (.file content) := by
  constructor
  · rintro ⟨start, names, hstart, hne, hfile, hat, hp⟩
    exact ⟨⟨start, names, hstart, hne, hfile, hp⟩, hat⟩
  · rintro ⟨⟨start, names, hstart, hne, hfile, hp⟩, hat⟩
    exact ⟨start, names, hstart, hne, hfile, hat, hp⟩

theorem list_eq_ok_iff {p : Path} {inner : Folder} :
    disk.list p = .ok inner ↔ disk.locate p = .ok (.folder inner) := by
  unfold list
  cases disk.locate p with
  | error cause => simp
  | ok e => cases e <;> simp

/-- What a walk comes to on a grown disk is not too long if it came to no such thing before. -/
theorem Extends.locate_ne_tooLong_of_meets (h : disk.Extends outs left) (hdisk : disk.WellFormed)
    {refused : String → Bool} {base p : Path} {e : Entry}
    (hfits : ∀ p e, disk.Meets refused base folder p e → disk.locate p ≠ .error .nameTooLong)
    (hp : left.Meets refused base folder p e) : left.locate p ≠ .error .nameTooLong := by
  obtain ⟨start, names, hstart, hne, rfl, hat, hway⟩ := hp
  obtain ⟨e', hat'⟩ | hnew := h.fits _ e hat
  · have hup : Path.up ∉ start.parts ++ names := fun hmem =>
      (hdisk.names _ (Folder.mem_allNames_of_getAt? hat' _ hmem)).2.1 rfl
    have hshort := hfits _ e' ⟨start, names, hstart, hne, rfl, hat', hway⟩
    rw [ne_eq, locate_eq_tooLong_iff hup] at hshort ⊢
    exact fun hlong => hshort (hlong.imp_right fun hor => hor.imp_right fun hover =>
      hover.of_entry hat')
  · exact locate_ne_tooLong hnew

theorem Extends.exists_filesBelow (h : disk.Extends outs left) (hdisk : disk.WellFormed)
    (hok : disk.filesBelow area.refused area.base folder = .ok files) :
    ∃ files', left.filesBelow area.refused area.base folder = .ok files' := by
  obtain ⟨hentries, hfits⟩ := (exists_filesBelow_iff hdisk.ordered).mp ⟨files, hok⟩
  obtain ⟨hbase, start, inner, hstart, hlist⟩ := exists_entriesBelow_iff.mp hentries
  obtain ⟨inner', hlocate⟩ := h.locate_folder (Path.resolved_of_resolve? hstart).not_up
    (list_eq_ok_iff.mp hlist)
  refine (exists_filesBelow_iff (h.ordered hdisk.ordered)).mpr ⟨?_, fun p e hp => ?_⟩
  · exact exists_entriesBelow_iff.mpr ⟨hbase, start, inner', hstart, list_eq_ok_iff.mpr hlocate⟩
  · exact h.locate_ne_tooLong_of_meets hdisk hfits hp

/-- **The listing of a folder on a grown disk** is the same up to the added files. -/
theorem Extends.filesBelow_eq (h : disk.Extends outs left) (hdisk : disk.WellFormed)
    {q : Path → Bool}
    (hout : ∀ file, q file = true → area.Covers folder file → file.parts ∉ outs)
    (hok : disk.filesBelow area.refused area.base folder = .ok files) :
    ∃ files', left.filesBelow area.refused area.base folder = .ok files' ∧
      files'.filter q = files.filter q := by
  obtain ⟨files', hok'⟩ := h.exists_filesBelow hdisk hok
  have hleft := h.ordered hdisk.ordered
  have hmem : ∀ file, file ∈ files'.filter q ↔ file ∈ files.filter q := by
    intro file
    rw [List.mem_filter, List.mem_filter, mem_filesBelow_iff hleft hok',
      mem_filesBelow_iff hdisk.ordered hok, lists_iff_covers, lists_iff_covers]
    refine and_congr_left fun hq => and_congr_right fun hcovers => exists_congr fun content => ?_
    exact h.root.file_iff file.parts (hout file hq hcovers) content
  -- both are in order, so they are the same list
  have hsorted := (pairwise_filesBelow hdisk.ordered hok).filter q
  have hsorted' := (pairwise_filesBelow hleft hok').filter q
  have hne : ∀ f g : Path, f.parts < g.parts → f ≠ g := by
    rintro f g hlt rfl
    exact lt_irrefl _ hlt
  have hperm := (List.perm_ext_iff_of_nodup (hsorted'.imp (hne _ _)) (hsorted.imp (hne _ _))).mpr
    hmem
  exact ⟨files', hok',
    hperm.eq_of_pairwise (fun _ _ _ _ h1 h2 => absurd h1 h2.asymm) hsorted' hsorted⟩

end Disk

/-! ## Lookups -/

/-- The files that a path may stand for. -/
def Lookup.tried (lookup : Lookup) (p : Path) : List Path :=
  p :: lookup.extensions.filterMap p.extend? ++ [p.joinText lookup.indexName]

namespace Lookup

variable {disk left : Disk} {p : Path}

theorem joinText_index (p : Path) : p.joinText "index.js" = ⟨p.anchor, p.parts ++ ["index.js"]⟩ :=
  Path.joinText_of_segment (by decide) p

theorem findExtended_congr {extensions : List String}
    (hfile : ∀ q ∈ extensions.filterMap p.extend?, left.isFile q = disk.isFile q) :
    findExtended left p extensions = findExtended disk p extensions := by
  induction extensions with
  | nil => rfl
  | cons extension rest ih =>
    simp only [findExtended]
    cases hextend : p.extend? extension with
    | none => rfl
    | some q =>
      rw [List.filterMap_cons_some hextend] at hfile
      obtain ⟨hq, hrest⟩ := List.forall_mem_cons.mp hfile
      simp only [hq, ih hrest]

theorem up_not_mem_of_extend? {extension : String} {q : Path} (hup : Path.up ∉ p.parts)
    (hextension : extension ∈ ({} : Lookup).extensions) (h : p.extend? extension = some q) :
    Path.up ∉ q.parts := by
  have hname : p.name ++ extension ≠ Path.up := by
    intro heq
    have hlast := congrArg (fun s => s.toList.getLast?) heq
    simp only [String.toList_append, Path.up] at hlast
    simp only [List.mem_cons, List.not_mem_nil, or_false] at hextension
    obtain rfl | rfl := hextension <;> simp at hlast
  unfold Path.extend? at h
  dsimp only at h
  split_ifs at h
  cases h
  rw [List.mem_append, List.mem_singleton, not_or]
  exact ⟨fun hin => hup (List.dropLast_subset _ hin), hname.symm⟩

theorem up_not_mem_tried (hup : Path.up ∉ p.parts) : ∀ q ∈ tried {} p, Path.up ∉ q.parts := by
  intro q hq
  simp only [tried, List.cons_append, List.mem_cons, List.mem_append, List.mem_filterMap,
    List.not_mem_nil, or_false] at hq
  obtain rfl | ⟨extension, hextension, hq⟩ | rfl := hq
  · exact hup
  · exact up_not_mem_of_extend? hup (by simpa using hextension) hq
  · rw [joinText_index, List.mem_append, List.mem_singleton, not_or]
    exact ⟨hup, by decide⟩

end Lookup

namespace Disk

variable {disk left : Disk} {outs : List (List String)} {p : Path} {good : Entry → Bool}

theorem exists_test_eq_ok (hp : p.Fits) : ∃ b, disk.test p good = .ok b := by
  have hfits : disk.locate p ≠ .error .nameTooLong := locate_ne_tooLong hp
  unfold test
  cases hlocate : disk.locate p with
  | ok e => exact ⟨_, rfl⟩
  | error cause => cases cause <;> first | exact absurd hlocate hfits | exact ⟨_, rfl⟩

theorem isFolder_eq_true_iff :
    disk.isFolder p = .ok true ↔ ∃ inner, disk.locate p = .ok (.folder inner) := by
  unfold isFolder test
  cases disk.locate p with
  | error cause => cases cause <;> simp
  | ok entry => cases entry <;> simp

/-- The index of a folder is the same: a folder that was added holds no index but an added one. -/
theorem Extends.findIndex_eq (h : disk.Extends outs left) (hup : Path.up ∉ p.parts) (hp : p.Fits)
    (hindex : (p.joinText "index.js").Fits) (hout : (p.joinText "index.js").parts ∉ outs) :
    Lookup.findIndex {} left p = Lookup.findIndex {} disk p := by
  have hupIndex : Path.up ∉ (p.joinText "index.js").parts := by
    simp only [Lookup.joinText_index, List.mem_append, List.mem_singleton, not_or]
    exact ⟨hup, by decide⟩
  have hfile := h.isFile_eq_of_fits hupIndex hout hindex.names
  obtain ⟨b, hb⟩ : ∃ b, disk.isFolder p = .ok b := exists_test_eq_ok hp
  obtain ⟨b', hb'⟩ : ∃ b, left.isFolder p = .ok b := exists_test_eq_ok hp
  have hgrown : b = true → b' = true := by
    rintro rfl
    obtain ⟨inner, hlocate⟩ := isFolder_eq_true_iff.mp hb
    have htrue := isFolder_eq_true_iff.mpr (h.locate_folder hup hlocate)
    exact Except.ok.inj (hb'.symm.trans htrue)
  have hempty : b = false → disk.isFile (p.joinText "index.js") = .ok false := by
    rintro rfl
    obtain ⟨c, hc⟩ : ∃ c, disk.isFile (p.joinText "index.js") = .ok c :=
      exists_test_eq_ok hindex
    cases c with
    | false => exact hc
    | true =>
      obtain ⟨hnull, content, hat⟩ := exists_file_of_isFile hupIndex hc
      rw [Lookup.joinText_index] at hat
      obtain ⟨inner, hfolder⟩ := Folder.exists_folder_of_getAt? hat
      have htrue : disk.isFolder p = .ok true := by
        refine isFolder_eq_true_iff.mpr ⟨inner, ?_⟩
        refine (locate_eq_ok_iff hup).mpr ⟨?_, hp.path, ?_, hfolder⟩
        · rw [Lookup.joinText_index, Path.hasNull_eq_false_iff] at hnull
          exact Path.hasNull_eq_false_iff.mpr fun n hn => hnull n (List.mem_append_left _ hn)
        · exact Folder.not_overruns hp.names
      cases hb.symm.trans htrue
  cases b with
  | true =>
    simp only [Lookup.findIndex, hb, hb', hgrown rfl, hfile]
  | false =>
    simp only [Lookup.findIndex, hb, hb', hfile, hempty rfl, liftIo]
    cases b' <;> rfl

/-- **What a path stands for is the same** if it may stand for no added file. -/
theorem Extends.find_eq (h : disk.Extends outs left) (hup : Path.up ∉ p.parts)
    (htried : ∀ q ∈ Lookup.tried {} p, q.Fits ∧ q.parts ∉ outs) :
    Lookup.find {} left p = Lookup.find {} disk p := by
  have hfile : ∀ q ∈ Lookup.tried {} p, left.isFile q = disk.isFile q := fun q hq =>
    h.isFile_eq_of_fits (Lookup.up_not_mem_tried hup q hq) (htried q hq).2 (htried q hq).1.names
  have hself : p ∈ Lookup.tried {} p := List.mem_cons_self
  have hindex : p.joinText "index.js" ∈ Lookup.tried {} p := by simp [Lookup.tried]
  have hextended : Lookup.findExtended left p ({} : Lookup).extensions =
      Lookup.findExtended disk p ({} : Lookup).extensions := by
    refine Lookup.findExtended_congr fun q hq => hfile q ?_
    exact List.mem_cons_of_mem _ (List.mem_append_left _ hq)
  simp only [Lookup.find, hfile p hself, hextended,
    h.findIndex_eq hup (htried p hself).1 (htried _ hindex).1 (htried _ hindex).2]

/-- **The files that a module name leads to are the same** if it may lead to no added file. -/
theorem Extends.targets_eq (h : disk.Extends outs left) {source base : Path} {specifier : String}
    (hup : ∀ p ∈ candidates source specifier base, Path.up ∉ p.parts)
    (htried : ∀ p ∈ candidates source specifier base, ∀ q ∈ Lookup.tried {} p,
      q.Fits ∧ q.parts ∉ outs) :
    Lookup.targets {} left source specifier base =
      Lookup.targets {} disk source specifier base := by
  unfold Lookup.targets
  generalize candidates source specifier base = paths at hup htried
  generalize ([] : List Path) = found
  induction paths generalizing found with
  | nil => rfl
  | cons p rest ih =>
    obtain ⟨hupHead, hupRest⟩ := List.forall_mem_cons.mp hup
    obtain ⟨hhead, hrest⟩ := List.forall_mem_cons.mp htried
    simp only [Lookup.findAll, h.find_eq hupHead hhead]
    cases Lookup.find {} disk p with
    | error failure => rfl
    | ok target => cases target <;> exact ih hupRest hrest _

end Disk

end ReducerAtlas
