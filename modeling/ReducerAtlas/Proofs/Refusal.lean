import ReducerAtlas.Proofs.Rerun

/-!
# What a failed run leaves

A run writes nothing before its survey has ended well, so one that fails earlier leaves the disk as
it was. Writing is not undone: folders that were made stay when a file is refused, and so does the
module of global reducers when the map is refused.

* `Folder.MadeAt`: the places of new folders; `Disk.madeAt_makeFoldersUpTo`: they lie on the way to
  a file that is written.
* `Command.surveyOf`, `Command.run_eq`: a run is a survey, and the writing of its atlas.
* `Command.Run.Refused`: what is left by a run one of whose files is refused.
* **`Command.disk_of_exit_one`**: what a failed run leaves.
-/

namespace ReducerAtlas

/-! ## Folders that are made -/

namespace Folder

/-- **All folders of a tree are those of another, but for some at the given places.** -/
def MadeAt (places : List String → Prop) (f g : Folder) : Prop :=
  ∀ names inner, g.getAt? names = some (.folder inner) →
    (∃ inner', f.getAt? names = some (.folder inner')) ∨ places names

namespace MadeAt

variable {f g h inner : Folder} {n : String} {l : List String} {e : Entry}
  {places places' : List String → Prop}

theorem refl (f : Folder) : MadeAt places f f :=
  fun _ inner hat => .inl ⟨inner, hat⟩

theorem trans (hfg : MadeAt places f g) (hgh : MadeAt places g h) : MadeAt places f h := by
  intro names inner hat
  obtain ⟨inner', hat'⟩ | hplace := hgh names inner hat
  · exact hfg names inner' hat'
  · exact .inr hplace

theorem mono (hfg : MadeAt places f g) (hsub : ∀ names, places names → places' names) :
    MadeAt places' f g :=
  fun names inner hat => (hfg names inner hat).imp_right (hsub names)

theorem set (he : ∀ l inner, e.getAt? l = some (.folder inner) →
    (∃ inner', f.getAt? (n :: l) = some (.folder inner')) ∨ places (n :: l)) :
    MadeAt places f (f.set n e) := by
  intro names inner hat
  cases names with
  | nil => exact .inl ⟨f, rfl⟩
  | cons k l =>
    rw [getAt?_cons, get?_set] at hat
    by_cases hk : n = k
    · subst hk
      rw [if_pos rfl, Option.bind_some] at hat
      exact he l inner hat
    · rw [if_neg hk, ← getAt?_cons] at hat
      exact .inl ⟨inner, hat⟩

theorem set_file (content : List UInt8) : MadeAt places f (f.set n (.file content)) := by
  refine .set fun l inner hat => ?_
  simp only [Entry.getAt?] at hat
  split_ifs at hat
  cases hat

theorem set_empty : MadeAt (· = [n]) f (f.set n (.folder .empty)) := by
  refine .set fun l inner hat => ?_
  cases l with
  | nil => exact .inr rfl
  | cons k l => simp [Entry.getAt?, getAt?_cons, get?] at hat

theorem setAt (hl : f.getAt? l = some (.folder inner))
    (hin : MadeAt (fun names => places (l ++ names)) inner (inner.set n e)) :
    MadeAt places f (f.setAt (l ++ [n]) e) := by
  induction l generalizing f places with
  | nil =>
    cases hl
    simpa [Folder.setAt] using hin
  | cons k l ih =>
    obtain ⟨mid, hget, hat⟩ | ⟨-, content, hfile, -⟩ := getAt?_cons_eq_some_iff.mp hl
    · rw [List.cons_append, setAt_cons (by simp), inside_of_get? hget]
      have hmid : MadeAt (fun names => places (k :: names)) mid (mid.setAt (l ++ [n]) e) :=
        ih hat hin
      refine .set fun names g hg => ?_
      rw [getAt?_of_folder hget]
      exact hmid names g hg
    · cases hfile

end MadeAt

end Folder

namespace Disk

variable {disk disk' : Disk} {p : Path}

/-- New folders lie on the way to the one that is asked for. -/
theorem madeAt_makeFoldersUpTo (n : Nat) (hp : p.Resolved) :
    disk.root.MadeAt (· <+: p.parts) (disk.makeFoldersUpTo n p).1.root := by
  refine makeFoldersUpTo_keeps (P := fun made => disk.root.MadeAt (· <+: p.parts) made.root) n hp
    (fun before after q hq hprefix hmade h => h.trans ?_) (.refl _)
  obtain ⟨l, n, inner, hsplit, hl, -, -, rfl⟩ := makeFolder_eq_ok hq hmade
  refine Folder.MadeAt.setAt hl (Folder.MadeAt.set_empty.mono ?_)
  rintro _ rfl
  rw [← hsplit]
  exact hprefix

theorem madeAt_writeFile (hp : p.Resolved) {text : String}
    (h : disk.writeFile p text = .ok disk') {places : List String → Prop} :
    disk.root.MadeAt places disk'.root := by
  obtain ⟨l, n, inner, hsplit, hl, -⟩ := exists_split_of_writeFile hp h
  obtain ⟨rfl, -⟩ := writeFile_eq_ok_iff.mp h
  rw [withFile, hsplit]
  exact Folder.MadeAt.setAt hl (Folder.MadeAt.set_file _)

end Disk

namespace Command

open ReducerAtlas.Text

/-! ## Files that are refused -/

namespace Run

variable {r : Run} {settings : Settings} {atlas : Atlas} {elapsed : String} {out : Path}
  {text : String}

/-- Whether a file is written or refused, new folders lie on the way to it. -/
theorem madeAt_write (hout : out.Resolved) (text : String) :
    r.disk.root.MadeAt (· <+: out.parent.parts) (r.write out text).1.disk.root := by
  have hmade : r.disk.root.MadeAt (· <+: out.parent.parts)
      (r.disk.makeFolders out.parent).1.root := Disk.madeAt_makeFoldersUpTo _ hout.parent
  obtain ⟨-, hdisk⟩ | ⟨-, hwrite⟩ := r.write_cases out text
  · rwa [hdisk]
  · exact hmade.trans (Disk.madeAt_writeFile hout hwrite)

/-- A file that is refused leaves all files as they are. -/
theorem extends_of_refused (hout : out.Resolved) (h : (r.write out text).2 = false) :
    r.disk.Extends [] (r.write out text).1.disk := by
  obtain ⟨-, hdisk⟩ | ⟨hwritten, -⟩ := r.write_cases out text
  · rw [hdisk]
    exact Disk.Extends.makeFoldersUpTo _ hout.parent
  · rw [h] at hwritten
    cases hwritten

/-- **What a run leaves one of whose files is refused.** Nothing is removed in either case. -/
inductive Refused (settings : Settings) (atlas : Atlas) (disk left : Disk) : Prop
  /-- The module of global reducers is refused: every file is as it was, and new folders lie on the
  way to the module. -/
  | globals (grown : disk.Extends [] left)
    (made : disk.root.MadeAt (· <+: settings.globalsOutput.parent.parts) left.root)
  /-- The map is refused: the module of global reducers is there in full, every other file is as it
  was, and new folders lie on the way to one of the two. -/
  | map (apart : settings.globalsOutput ≠ settings.mapOutput)
    (grown : disk.Extends [settings.globalsOutput.parts] left)
    (made : disk.root.MadeAt (fun names => names <+: settings.globalsOutput.parent.parts ∨
      names <+: settings.mapOutput.parent.parts) left.root)
    (written : left.locate settings.globalsOutput =
      .ok (.file (Utf8.encode (globalsText settings atlas).toList)))

theorem refused_of_finish (hglobals : settings.globalsOutput.Resolved)
    (hmap : settings.mapOutput.Resolved)
    (h : (r.finish settings atlas elapsed).ending = .ok 1) :
    Refused settings atlas r.disk (r.finish settings atlas elapsed).disk := by
  unfold finish at h ⊢
  rw [← globalsText, ← mapText] at h ⊢
  have hmadeGlobals : r.disk.root.MadeAt _ _ := madeAt_write hglobals (globalsText settings atlas)
  rcases hg : r.write settings.globalsOutput (globalsText settings atlas) with ⟨r', _ | _⟩
  · have hgrown := extends_of_refused hglobals (congrArg Prod.snd hg)
    rw [hg] at hgrown hmadeGlobals
    exact .globals hgrown hmadeGlobals
  · obtain ⟨hgrown, hne, hwritten⟩ := write_ok hglobals (congrArg Prod.snd hg)
    rw [hg] at hgrown hmadeGlobals hwritten
    have hmadeMap : r'.disk.root.MadeAt _ _ := madeAt_write hmap (mapText settings atlas)
    rcases hm : r'.write settings.mapOutput (mapText settings atlas) with ⟨r'', _ | _⟩
    · have hrest := extends_of_refused hmap (congrArg Prod.snd hm)
      rw [hm] at hrest hmadeMap
      simp only [hm]
      refine .map ?_ (hgrown.trans (hrest.mono (by simp)))
        ((hmadeGlobals.mono fun _ => .inl).trans (hmadeMap.mono fun _ => .inr))
        (hrest.locate_file hglobals.not_up (by simp) hwritten)
      -- a map in the place of the module would have been written
      intro hsame
      have hagain : (r'.write settings.globalsOutput (mapText settings atlas)).2 = true :=
        (write_again hglobals hne hwritten).1
      rw [hsame, hm] at hagain
      cases hagain
    · rw [hg] at h
      simp [hm, exit] at h

end Run

/-! ## Runs -/

variable {library : Library} {disk : Disk} {arguments : List (List Letter)} {folder : Path}
  {found : Arguments}

/-- The settings of a run and the atlas of its survey, or the failure of either. -/
def surveyOf (library : Library) (disk : Disk) (found : Arguments) (folder : Path) :
    Except Failure (Settings × Atlas) := do
  let settings ← settingsOf library disk found folder
  let atlas ← (survey disk settings).2
  return (settings, atlas)

theorem surveyOf_eq_ok {settings : Settings} {atlas : Atlas}
    (h : surveyOf library disk found folder = .ok (settings, atlas)) :
    settingsOf library disk found folder = .ok settings ∧ (survey disk settings).2 = .ok atlas := by
  obtain ⟨settings', hsettings, h⟩ := bind_eq_ok h
  obtain ⟨atlas', hatlas, h⟩ := bind_eq_ok h
  cases h
  exact ⟨hsettings, hatlas⟩

/-- **A run whose arguments are read is a survey**, and the writing of its atlas. -/
theorem run_eq (library : Library) (disk : Disk) (folder : Path)
    (hread : Arguments.read arguments = .ok found) (hhelp : found.help = false) :
    ∃ r : Run, r.disk = disk ∧ ∀ elapsed, run library disk arguments folder elapsed =
      match surveyOf library disk found folder with
      | .error failure => r.fail failure
      | .ok (settings, atlas) => r.finish settings atlas elapsed := by
  cases hsettings : settingsOf library disk found folder with
  | error failure =>
    refine ⟨greeting.foldl Run.say { disk := disk }, Run.disk_foldl_say _ id greeting,
      fun elapsed => ?_⟩
    simp [run, Begun.of, hread, hhelp, beginWith, hsettings, Begun.finish, surveyOf, bind,
      Except.bind]
  | ok settings =>
    cases hsurvey : (survey disk settings).2 with
    | ok atlas =>
      obtain ⟨r, hr, hrun⟩ := run_of_survey hread hhelp hsettings hsurvey
      refine ⟨r, hr, fun elapsed => ?_⟩
      simp [hrun, surveyOf, hsettings, hsurvey, bind, Except.bind, pure, Except.pure]
    | error failure =>
      refine ⟨(greeting.foldl Run.say { disk := disk }).tell settings.verbose
        (survey disk settings).1, ?_, fun elapsed => ?_⟩
      · exact (Run.disk_foldl_say _ _ _).trans (Run.disk_foldl_say _ id greeting)
      · simp [run, Begun.of, hread, hhelp, beginWith, hsettings, hsurvey, Begun.finish, surveyOf,
          bind, Except.bind]

theorem Run.disk_fail (r : Run) (failure : Failure) : (r.fail failure).disk = r.disk := by
  cases failure <;> rfl

/-- **What a failed run leaves.** Whatever the library answers, and whatever the disk with its
faults, the arguments and the folder: a run that ends with the exit code 1 leaves the disk as it
was, unless its settings and its survey are in order and one of the two files is refused. Then
nothing is removed, new folders lie on the way to the files, and no file is new or changed but the
module of global reducers, which is there in full if the map is refused. -/
theorem disk_of_exit_one (library : Library) (disk : Disk) (arguments : List (List Letter))
    (folder : Path) (elapsed : String)
    (h : (run library disk arguments folder elapsed).ending = .ok 1) :
    (run library disk arguments folder elapsed).disk = disk ∨
      ∃ found settings atlas, Arguments.read arguments = .ok found ∧
        settingsOf library disk found folder = .ok settings ∧ (survey disk settings).2 = .ok atlas ∧
        Run.Refused settings atlas disk (run library disk arguments folder elapsed).disk := by
  cases hread : Arguments.read arguments with
  | error fault => simp [run, Begun.of, hread, Begun.finish] at h
  | ok found =>
    cases hhelp : found.help with
    | true => simp [run, Begun.of, hread, hhelp, Begun.finish] at h
    | false =>
      obtain ⟨r, rfl, hrun⟩ := run_eq library disk folder hread hhelp
      rw [hrun] at h ⊢
      cases hsurvey : surveyOf library r.disk found folder with
      | error failure => exact .inl (r.disk_fail failure)
      | ok result =>
        obtain ⟨settings, atlas⟩ := result
        obtain ⟨hsettings, hatlas⟩ := surveyOf_eq_ok hsurvey
        have habsolute := absolute_of_settingsOf hsettings
        rw [hsurvey] at h
        exact .inr ⟨found, settings, atlas, rfl, hsettings, hatlas,
          Run.refused_of_finish habsolute.globalsOutput habsolute.mapOutput h⟩

/-- Arguments that put the map in the place of a folder. -/
def misplacedArguments : List (List Letter) :=
  ["-b", ".", "-a", "app.js", "-c", "pages", "-r", "cart", "-f", "actions.js",
    "-g", "generated/globals.js", "-m", "pages"].map letters

/-- A failed run can leave a file that was not there: the map is refused, and the module of global
reducers stays. -/
theorem run_misplaced_leaves_globals :
    let left := run standard cartDisk misplacedArguments Path.root "12"
    left.ending = .ok 1 ∧
      cartDisk.locate (Path.parse "/generated/globals.js") = .error .missing ∧
      left.disk.isFile (Path.parse "/generated/globals.js") = .ok true := by
  decide +kernel

theorem run_misplaced_refused :
    let left := run standard cartDisk misplacedArguments Path.root "12"
    left.ending = .ok 1 ∧ left.disk ≠ cartDisk ∧
      ∃ settings atlas, Run.Refused settings atlas cartDisk left.disk := by
  intro left
  have hending : left.ending = .ok 1 := by decide +kernel
  have hchanged : left.disk ≠ cartDisk := by decide +kernel
  obtain ⟨-, settings, atlas, -, -, -, hrefused⟩ :=
    (disk_of_exit_one standard cartDisk misplacedArguments Path.root "12" hending).resolve_left
      hchanged
  exact ⟨hending, hchanged, settings, atlas, hrefused⟩

end Command

end ReducerAtlas
