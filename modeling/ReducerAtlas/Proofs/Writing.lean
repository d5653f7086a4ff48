import ReducerAtlas.Command.Run
import ReducerAtlas.Proofs.GrownDisk

/-!
# Writing the generated files

Making folders and writing a file let a disk grow, and where they find what they would make they
change nothing. So a run that ends well leaves a grown disk with both generated files on it, and
writing them once more leaves it alone.

* `Disk.makeFoldersUpTo_keeps`: what is kept by making folders; `Disk.Extends.makeFoldersUpTo`,
  `Disk.makeFolders_eq_self`: that the disk grows, and where it stays the same.
* `Disk.writeFile_eq_ok_iff`, `Disk.writeFile_ok`: writing a file.
* **`Command.Run.finish_ok`**: what a run leaves that wrote both files;
  **`Command.Run.finish_again`**: writing them again.
-/

namespace ReducerAtlas

open ReducerAtlas.Text

namespace Disk

variable {disk disk' left : Disk} {outs : List (List String)} {p : Path} {e : Entry}

/-! ## Paths and their folders -/

theorem utf8ByteSize_joinWith_dropLast (l : List String) :
    (joinWith "/" l.dropLast).utf8ByteSize ≤ (joinWith "/" l).utf8ByteSize := by
  induction l with
  | nil => exact Nat.le_refl _
  | cons s l ih =>
    cases l with
    | nil => simp [joinWith]
    | cons t l =>
      cases l with
      | nil =>
        simp only [List.dropLast_cons_cons, List.dropLast_singleton, joinWith,
          String.utf8ByteSize_append]
        omega
      | cons u l =>
        simp only [List.dropLast_cons_cons, joinWith, String.utf8ByteSize_append] at ih ⊢
        omega

theorem locate_parent (hp : p.Resolved) (hne : p.parts ≠ []) (h : disk.locate p = .ok e) :
    ∃ inner, disk.locate p.parent = .ok (.folder inner) := by
  have hfits := fits_of_locate hp.not_up h
  obtain ⟨-, hpath, -, hat⟩ := (locate_eq_ok_iff hp.not_up).mp h
  rw [← List.dropLast_append_getLast hne] at hat
  obtain ⟨inner, hparent⟩ := Folder.exists_folder_of_getAt? hat
  have hparentPath : p.parent.render.utf8ByteSize < maxPath := by
    refine lt_of_le_of_lt ?_ hpath
    have hjoin := utf8ByteSize_joinWith_dropLast p.parts
    simp only [Path.render, Path.parent, hp.anchor, reduceCtorEq, false_and, if_false,
      String.utf8ByteSize_append]
    omega
  have hupParent := hp.parent.not_up
  refine ⟨inner, (locate_eq_ok_iff hupParent).mpr ⟨hp.parent.not_null, hparentPath, ?_,
    hparent⟩⟩
  exact Folder.not_overruns fun n hn => hfits n (List.dropLast_subset _ hn)

/-! ## Making folders -/

namespace Extends

theorem refl (disk : Disk) : disk.Extends outs disk :=
  ⟨(Folder.Extends.refl disk.root).mono (by simp), id, rfl, fun _ e hat => .inl ⟨e, hat⟩⟩

theorem trans (h : disk.Extends outs disk') (h' : disk'.Extends outs left) :
    disk.Extends outs left where
  root := h.root.trans h'.root
  ordered := h'.ordered ∘ h.ordered
  faults := h'.faults.trans h.faults
  fits names e hat := by
    obtain ⟨e', hat'⟩ | hnew := h'.fits names e hat
    · exact h.fits names e' hat'
    · exact .inr hnew

theorem mono {outs' : List (List String)} (h : disk.Extends outs left)
    (hsub : ∀ x ∈ outs, x ∈ outs') : disk.Extends outs' left :=
  ⟨h.root.mono hsub, h.ordered, h.faults, h.fits⟩

end Extends

theorem locate_of_getAt? (hp : p.Resolved) (h : disk.root.getAt? p.parts = some e) :
    disk.locate p = .ok e ∨ disk.locate p = .error .nameTooLong := by
  rw [locate_eq_ok_iff hp.not_up, locate_eq_tooLong_iff hp.not_up]
  by_cases hlong : maxPath ≤ p.render.utf8ByteSize ∨ disk.root.Overruns p.parts
  · exact .inr ⟨hp.not_null, hlong⟩
  · rw [not_or] at hlong
    exact .inl ⟨hp.not_null, not_le.mp hlong.1, hlong.2, h⟩

theorem getAt?_of_missing (hp : p.Resolved) (h : disk.locate p = .error .missing) :
    disk.root.getAt? p.parts = none := by
  cases hat : disk.root.getAt? p.parts with
  | none => rfl
  | some e =>
    obtain hfound | hlong := locate_of_getAt? hp hat
    · cases hfound.symm.trans h
    · cases hlong.symm.trans h

theorem exists_split (hp : p.Resolved) (hne : p.parts ≠ []) {inner : Folder}
    (h : disk.locate p.parent = .ok (.folder inner)) :
    ∃ l n, p.parts = l ++ [n] ∧ disk.root.getAt? l = some (.folder inner) ∧
      disk.root.getAt? p.parts = inner.get? n := by
  have hat := ((locate_eq_ok_iff hp.parent.not_up).mp h).2.2.2
  have hsplit : p.parts = p.parent.parts ++ [p.parts.getLast hne] :=
    (List.dropLast_append_getLast hne).symm
  generalize p.parts.getLast hne = n at hsplit
  have hlast : disk.root.getAt? (p.parent.parts ++ [n]) = inner.get? n := Folder.getAt?_append hat
  rw [← hsplit] at hlast
  exact ⟨_, n, hsplit, hat, hlast⟩

theorem fits_of_parent (hp : p.Resolved) {inner : Folder}
    (hparent : disk.locate p.parent = .ok (.folder inner))
    (h : disk.locate p ≠ .error .nameTooLong) : p.Fits := by
  have hat := ((locate_eq_ok_iff hp.parent.not_up).mp hparent).2.2.2
  have hshort : ¬ (maxPath ≤ p.render.utf8ByteSize ∨ disk.root.Overruns p.parts) := fun hlong =>
    h ((locate_eq_tooLong_iff hp.not_up).mpr ⟨hp.not_null, hlong⟩)
  rw [not_or] at hshort
  refine ⟨not_le.mp hshort.1, fun n hn => not_lt.mp fun hlong => hshort.2 ?_⟩
  obtain ⟨l, rest, hsplit⟩ := List.append_of_mem hn
  change disk.root.getAt? p.parts.dropLast = _ at hat
  rw [hsplit] at hat ⊢
  obtain ⟨inner', hl⟩ := Folder.exists_folder_of_dropLast hat
  exact ⟨l, n, rest, inner', rfl, hlong, hl⟩

theorem makeFolder_eq_ok (hp : p.Resolved) (h : disk.makeFolder p = .ok disk') :
    ∃ l n inner, p.parts = l ++ [n] ∧ disk.root.getAt? l = some (.folder inner) ∧
      inner.get? n = none ∧ p.Fits ∧
      disk' = { disk with root := disk.root.setAt (l ++ [n]) (.folder .empty) } := by
  unfold Disk.makeFolder at h
  cases hlocate : disk.locate p with
  | ok e => simp [hlocate] at h
  | error cause =>
    cases cause <;> simp only [hlocate, reduceCtorEq] at h
    cases hparent : disk.locate p.parent with
    | error cause => simp [hparent] at h
    | ok e =>
      cases e with
      | file content => simp [hparent] at h
      | folder inner =>
        simp only [hparent, Except.ok.injEq] at h
        have hne : p.parts ≠ [] := by
          intro hnil
          have hself : p.parent = p := by
            obtain ⟨anchor, parts⟩ := p
            cases hnil
            rfl
          rw [hself, hlocate] at hparent
          cases hparent
        obtain ⟨l, n, hsplit, hl, hn⟩ := exists_split hp hne hparent
        rw [getAt?_of_missing hp hlocate] at hn
        exact ⟨l, n, inner, hsplit, hl, hn.symm, fits_of_parent hp hparent (by simp [hlocate]),
          hsplit ▸ h.symm⟩

theorem Extends.makeFolder (hp : p.Resolved) (h : disk.makeFolder p = .ok disk') :
    disk.Extends [] disk' := by
  obtain ⟨l, n, inner, hsplit, hl, hn, hfits, rfl⟩ := makeFolder_eq_ok hp h
  refine ⟨Folder.Extends.setAt hl (Folder.Extends.set_empty hn), fun hordered => hordered.setAt ?_,
    rfl, fun names e hat => ?_⟩
  · rintro _ ⟨⟩
    trivial
  · have hbelow : ∀ names, names ≠ [] → (Entry.folder .empty).getAt? names = none := by
      rintro (_ | ⟨k, names⟩) hne
      · exact absurd rfl hne
      · simp [Entry.getAt?, Folder.getAt?_cons, Folder.get?]
    obtain rfl | hold := Folder.getAt?_of_setAt hl hbelow hat
    · have hself : Path.mk .root p.parts = p := Path.eq_of_parts_eq rfl hp.anchor rfl
      rw [← hsplit, hself]
      exact .inr hfits
    · exact .inl hold

/-- What is kept when one folder is made on the way is kept when all are, whether or not this comes
to an end. -/
theorem makeFoldersUpTo_keeps {P : Disk → Prop} (n : Nat) (hp : p.Resolved)
    (hmake : ∀ disk disk' q, q.Resolved → q.parts <+: p.parts → disk.makeFolder q = .ok disk' →
      P disk → P disk') (h : P disk) : P (disk.makeFoldersUpTo n p).1 := by
  induction n generalizing p with
  | zero => exact h
  | succ n ih =>
    rw [Disk.makeFoldersUpTo]
    cases hfirst : disk.makeFolder p with
    | ok disk' => exact hmake _ _ p hp List.prefix_rfl hfirst h
    | error e =>
      dsimp only
      split_ifs
      · have hparent : P (disk.makeFoldersUpTo n p.parent).1 := by
          refine ih hp.parent fun disk disk' q hq hprefix => hmake disk disk' q hq ?_
          exact hprefix.trans (List.dropLast_prefix _)
        rcases hup : disk.makeFoldersUpTo n p.parent with ⟨middle, _ | _⟩
        · rw [hup] at hparent
          exact hparent
        · rw [hup] at hparent
          dsimp only
          cases hagain : middle.makeFolder p with
          | ok disk' => exact hmake _ _ p hp List.prefix_rfl hagain hparent
          | error e => exact hparent
      · exact h

/-- **Making folders lets a disk grow**, whether or not it comes to an end. -/
theorem Extends.makeFoldersUpTo (n : Nat) (hp : p.Resolved) :
    disk.Extends [] (disk.makeFoldersUpTo n p).1 :=
  makeFoldersUpTo_keeps n hp (fun _ _ _ hq _ hmade h => h.trans (Extends.makeFolder hq hmade))
    (.refl disk)

theorem makeFolders_eq_self {inner : Folder} (h : disk.locate p = .ok (.folder inner)) :
    disk.makeFolders p = (disk, .ok ()) := by
  have hmake : disk.makeFolder p = .error ⟨.taken, p⟩ := by
    rw [makeFolder, h]
  have hfolder : disk.isFolder p = .ok true := isFolder_eq_true_iff.mpr ⟨inner, h⟩
  simp [makeFolders, makeFoldersUpTo, hmake, unlessFolder, hfolder]

/-! ## Writing a file -/

/-- The disk with a file set. -/
def withFile (disk : Disk) (p : Path) (text : String) : Disk :=
  { disk with root := disk.root.setAt p.parts (.file (Utf8.encode text.toList)) }

/-- What a written file needs: a folder that it lies in, and no folder in its place. -/
theorem writeFile_eq_ok_iff {text : String} : disk.writeFile p text = .ok disk' ↔
    disk' = disk.withFile p text ∧ ((∃ content, disk.locate p = .ok (.file content)) ∨
      disk.locate p = .error .missing ∧ ∃ inner, disk.locate p.parent = .ok (.folder inner)) := by
  unfold writeFile withFile
  cases disk.locate p with
  | ok e => cases e <;> simp [eq_comm]
  | error cause =>
    cases cause <;> simp
    cases disk.locate p.parent with
    | error cause => simp
    | ok e => cases e <;> simp [eq_comm]

/-- A written file is an entry of a folder that is there, and takes no folder's place. -/
theorem exists_split_of_writeFile (hp : p.Resolved) {text : String}
    (h : disk.writeFile p text = .ok disk') :
    ∃ l n inner, p.parts = l ++ [n] ∧ disk.root.getAt? l = some (.folder inner) ∧
      (∀ g, inner.get? n ≠ some (.folder g)) ∧ p.Fits := by
  obtain ⟨-, hplace⟩ := writeFile_eq_ok_iff.mp h
  have hfile : ∀ g, disk.root.getAt? p.parts ≠ some (.folder g) := by
    intro g hg
    obtain ⟨content, hfound⟩ | ⟨hmissing, -⟩ := hplace
    · cases ((locate_eq_ok_iff hp.not_up).mp hfound).2.2.2.symm.trans hg
    · cases (getAt?_of_missing hp hmissing).symm.trans hg
  have hne : p.parts ≠ [] := fun hnil => hfile disk.root (by rw [hnil]; rfl)
  obtain ⟨inner, hparent⟩ : ∃ inner, disk.locate p.parent = .ok (.folder inner) := by
    obtain ⟨content, hfound⟩ | ⟨-, hparent⟩ := hplace
    · exact locate_parent hp hne hfound
    · exact hparent
  have hfits : p.Fits := by
    refine fits_of_parent hp hparent fun hlong => ?_
    obtain ⟨content, hfound⟩ | ⟨hmissing, -⟩ := hplace
    · cases hlong.symm.trans hfound
    · cases hlong.symm.trans hmissing
  obtain ⟨l, n, hsplit, hl, hn⟩ := exists_split hp hne hparent
  exact ⟨l, n, inner, hsplit, hl, fun g hg => hfile g (hn.trans hg), hfits⟩

/-- **A written file** lets the disk grow, and is there. -/
theorem writeFile_ok (hp : p.Resolved) {text : String} (h : disk.writeFile p text = .ok disk') :
    disk.Extends [p.parts] disk' ∧ p.parts ≠ [] ∧
      disk'.locate p = .ok (.file (Utf8.encode text.toList)) := by
  obtain ⟨l, n, inner, hsplit, hl, hn, hfits⟩ := exists_split_of_writeFile hp h
  obtain ⟨rfl, -⟩ := writeFile_eq_ok_iff.mp h
  have hne : p.parts ≠ [] := by simp [hsplit]
  refine ⟨⟨?_, fun hordered => hordered.setAt (by simp), rfl, fun names e hat => ?_⟩, hne, ?_⟩
  · have hroot := Folder.Extends.setAt hl
      (Folder.Extends.set_file hn (Utf8.encode text.toList))
    rw [← hsplit, List.map_singleton, ← hsplit] at hroot
    exact hroot
  · rw [withFile, hsplit] at hat
    have hbelow : ∀ names, names ≠ [] →
        (Entry.file (Utf8.encode text.toList)).getAt? names = none := fun _ hne => if_neg hne
    obtain rfl | hold := Folder.getAt?_of_setAt hl hbelow hat
    · have hself : Path.mk .root p.parts = p := Path.eq_of_parts_eq rfl hp.anchor rfl
      rw [← hsplit, hself]
      exact .inr hfits
    · exact .inl hold
  · exact (locate_eq_ok_iff hp.not_up).mpr ⟨hp.not_null, hfits.path,
      Folder.not_overruns hfits.names, Folder.getAt?_setAt_self hne _ _⟩

theorem locate_withFile (hp : p.Resolved) {content : List UInt8}
    (h : disk.locate p = .ok (.file content)) (text : String) :
    (disk.withFile p text).locate p = .ok (.file (Utf8.encode text.toList)) :=
  (writeFile_ok hp (writeFile_eq_ok_iff.mpr ⟨rfl, .inl ⟨content, h⟩⟩)).2.2

theorem withFile_eq_self (hdisk : disk.root.Ordered) (hp : p.Resolved) {text : String}
    (h : disk.locate p = .ok (.file (Utf8.encode text.toList))) : disk.withFile p text = disk := by
  have hat := ((locate_eq_ok_iff hp.not_up).mp h).2.2.2
  rw [withFile, Folder.setAt_eq_self hdisk hat]

theorem withFile_withFile (disk : Disk) (p : Path) (text text' : String) :
    (disk.withFile p text).withFile p text' = disk.withFile p text' := by
  simp only [withFile, Folder.setAt_setAt]

end Disk

/-! ## Runs -/

namespace Command.Run

variable {r : Run} {settings : Settings} {atlas : Atlas} {elapsed : String} {out : Path}
  {text : String} {content : List UInt8}

/-- A file is refused, and then only folders were made, or it is written in the folder that is there
then. -/
theorem write_cases (r : Run) (out : Path) (text : String) :
    (r.write out text).2 = false ∧
        (r.write out text).1.disk = (r.disk.makeFolders out.parent).1 ∨
      (r.write out text).2 = true ∧
        (r.disk.makeFolders out.parent).1.writeFile out text = .ok (r.write out text).1.disk := by
  unfold write
  rcases r.disk.makeFolders out.parent with ⟨disk, e | _⟩
  · exact .inl ⟨rfl, rfl⟩
  · dsimp only
    cases disk.writeFile out text with
    | error e => exact .inl ⟨rfl, rfl⟩
    | ok disk' => exact .inr ⟨rfl, rfl⟩

theorem write_ok (hout : out.Resolved) (h : (r.write out text).2 = true) :
    r.disk.Extends [out.parts] (r.write out text).1.disk ∧ out.parts ≠ [] ∧
      (r.write out text).1.disk.locate out = .ok (.file (Utf8.encode text.toList)) := by
  have hmade : r.disk.Extends [] (r.disk.makeFolders out.parent).1 :=
    Disk.Extends.makeFoldersUpTo _ hout.parent
  obtain ⟨hrefused, -⟩ | ⟨-, hwrite⟩ := r.write_cases out text
  · rw [hrefused] at h
    cases h
  · obtain ⟨hgrown, hne, hlocate⟩ := Disk.writeFile_ok hout hwrite
    exact ⟨(hmade.mono (by simp)).trans hgrown, hne, hlocate⟩

theorem write_refused (h : (r.write out text).2 = false) :
    (r.write out text).1.ending = .ok 1 := by
  unfold write at h ⊢
  rcases hmake : r.disk.makeFolders out.parent with ⟨disk, e | _⟩
  · rfl
  · simp only [hmake] at h ⊢
    cases hwrite : disk.writeFile out text with
    | error e => rfl
    | ok disk' => simp [hwrite] at h

theorem write_again (hout : out.Resolved) (hne : out.parts ≠ [])
    (h : r.disk.locate out = .ok (.file content)) :
    (r.write out text).2 = true ∧ (r.write out text).1.disk = r.disk.withFile out text := by
  obtain ⟨inner, hparent⟩ := Disk.locate_parent hout hne h
  have hwrite : r.disk.writeFile out text = .ok (r.disk.withFile out text) :=
    Disk.writeFile_eq_ok_iff.mpr ⟨rfl, .inl ⟨content, h⟩⟩
  simp only [write, Disk.makeFolders_eq_self hparent, hwrite, say, and_self]

/-- The text of the module of global reducers. -/
def globalsText (settings : Settings) (atlas : Atlas) : String :=
  Artifact.globalModule atlas.globals settings.globalsOutput

/-- The text of the reducer map. -/
def mapText (settings : Settings) (atlas : Atlas) : String :=
  Artifact.mapFile atlas settings.mapOutput Artifact.standardLayout

theorem written_of_finish (h : (r.finish settings atlas elapsed).ending = .ok 0) :
    (r.write settings.globalsOutput (globalsText settings atlas)).2 = true ∧
      ((r.write settings.globalsOutput (globalsText settings atlas)).1.write settings.mapOutput
        (mapText settings atlas)).2 = true := by
  unfold finish at h
  rw [← globalsText, ← mapText] at h
  rcases hglobals : r.write settings.globalsOutput (globalsText settings atlas) with ⟨r', _ | _⟩
  · have hrefused := write_refused (congrArg Prod.snd hglobals)
    rw [hglobals] at h hrefused
    cases hrefused.symm.trans h
  · rcases hmap : r'.write settings.mapOutput (mapText settings atlas) with ⟨r'', _ | _⟩
    · have hrefused := write_refused (congrArg Prod.snd hmap)
      simp only [hglobals, hmap] at h hrefused
      cases hrefused.symm.trans h
    · exact ⟨rfl, rfl⟩

theorem finish_of_written
    (hglobals : (r.write settings.globalsOutput (globalsText settings atlas)).2 = true)
    (hmap : ((r.write settings.globalsOutput (globalsText settings atlas)).1.write
      settings.mapOutput (mapText settings atlas)).2 = true) :
    (r.finish settings atlas elapsed).ending = .ok 0 ∧
      (r.finish settings atlas elapsed).disk =
        ((r.write settings.globalsOutput (globalsText settings atlas)).1.write
          settings.mapOutput (mapText settings atlas)).1.disk := by
  unfold finish
  rw [← globalsText, ← mapText]
  rcases hg : r.write settings.globalsOutput (globalsText settings atlas) with ⟨r', _ | _⟩
  · rw [hg] at hglobals
    cases hglobals
  · rw [hg] at hmap
    rcases hm : r'.write settings.mapOutput (mapText settings atlas) with ⟨r'', _ | _⟩
    · rw [hm] at hmap
      cases hmap
    · simp only [hm]
      exact ⟨rfl, rfl⟩

/-- Both generated files are on the disk. If they share a path, the map is. -/
structure Generated (settings : Settings) (atlas : Atlas) (disk : Disk) : Prop where
  globals_ne : settings.globalsOutput.parts ≠ []
  map_ne : settings.mapOutput.parts ≠ []
  globals : settings.globalsOutput ≠ settings.mapOutput →
    disk.locate settings.globalsOutput =
      .ok (.file (Utf8.encode (globalsText settings atlas).toList))
  map : disk.locate settings.mapOutput = .ok (.file (Utf8.encode (mapText settings atlas).toList))

section Finish

variable (hglobals : settings.globalsOutput.Resolved) (hmap : settings.mapOutput.Resolved)

include hglobals hmap

/-- **A run that ends well** leaves a grown disk with both files on it. -/
theorem finish_ok (h : (r.finish settings atlas elapsed).ending = .ok 0) :
    r.disk.Extends [settings.globalsOutput.parts, settings.mapOutput.parts]
        (r.finish settings atlas elapsed).disk ∧
      Generated settings atlas (r.finish settings atlas elapsed).disk := by
  obtain ⟨hg, hm⟩ := written_of_finish h
  rw [(finish_of_written hg hm).2]
  obtain ⟨hgrown, hgne, hgfile⟩ := write_ok hglobals hg
  obtain ⟨hgrown', hmne, hmfile⟩ := write_ok hmap hm
  refine ⟨(hgrown.mono (by simp)).trans (hgrown'.mono (by simp)), hgne, hmne, fun hne => ?_, hmfile⟩
  refine hgrown'.locate_file hglobals.not_up ?_ hgfile
  rw [List.mem_singleton]
  exact fun hparts => hne (Path.eq_of_parts_eq hglobals.anchor hmap.anchor hparts)

/-- **Writing both files again** changes nothing. -/
theorem finish_again (hdisk : r.disk.root.Ordered) (h : Generated settings atlas r.disk) :
    (r.finish settings atlas elapsed).ending = .ok 0 ∧
      (r.finish settings atlas elapsed).disk = r.disk := by
  obtain ⟨content, hgfile⟩ : ∃ content,
      r.disk.locate settings.globalsOutput = .ok (.file content) := by
    by_cases hsame : settings.globalsOutput = settings.mapOutput
    · exact ⟨_, hsame ▸ h.map⟩
    · exact ⟨_, h.globals hsame⟩
  obtain ⟨hg, hgdisk⟩ :
      (r.write settings.globalsOutput (globalsText settings atlas)).2 = true ∧ _ :=
    write_again hglobals h.globals_ne hgfile
  -- after the first file the second is still there, and writing it gives the disk back
  obtain ⟨⟨content', hmfile⟩, hback⟩ : (∃ content', (r.disk.withFile settings.globalsOutput
        (globalsText settings atlas)).locate settings.mapOutput = .ok (.file content')) ∧
      (r.disk.withFile settings.globalsOutput (globalsText settings atlas)).withFile
        settings.mapOutput (mapText settings atlas) = r.disk := by
    by_cases hsame : settings.globalsOutput = settings.mapOutput
    · rw [hsame, Disk.withFile_withFile, Disk.withFile_eq_self hdisk hmap h.map]
      exact ⟨⟨_, Disk.locate_withFile hmap h.map _⟩, rfl⟩
    · rw [Disk.withFile_eq_self hdisk hglobals (h.globals hsame),
        Disk.withFile_eq_self hdisk hmap h.map]
      exact ⟨⟨_, h.map⟩, rfl⟩
  rw [← hgdisk] at hmfile hback
  obtain ⟨hm, hmdisk⟩ := write_again hmap h.map_ne hmfile
  obtain ⟨hending, hdisk'⟩ := finish_of_written hg hm
  exact ⟨hending, by rw [hdisk', hmdisk, hback]⟩

end Finish

end Command.Run

end ReducerAtlas
