import ReducerAtlas.Command.Standard
import ReducerAtlas.Proofs.Apart
import ReducerAtlas.Proofs.Writing

/-!
# Running again

A run that ends well leaves two more files in the tree that it surveyed, and a second run surveys
the grown tree. It may find the outputs of the first: as containers, as reducers, behind a module
name that led nowhere before. Where they stand apart from what the first run looked at, the second
finds the same project, reads the same options, makes the same atlas and leaves the disk as it is.

* `Command.settingsOf_eq`: the settings of a run on the grown disk.
* `Command.exists_of_run`, `Command.run_of_survey`: a run that ends well is a survey that ends well,
  and the writing of its atlas.
* **`Command.run_run`**: a second run changes nothing.
-/

namespace ReducerAtlas

/-! ## The project of a folder -/

section Project

variable {disk left : Disk} {outs : List (List String)} {folder : Path} {inner : Folder}
  {names : List String} {name : String}

/-- A path that leads to a folder of the tree. -/
structure Disk.Holds (disk : Disk) (folder : Path) : Prop where
  resolved : folder.Resolved
  folder : ∃ inner, disk.root.getAt? folder.parts = some (.folder inner)

theorem Disk.holds_of_isFolder (hfolder : folder.Resolved) (h : disk.isFolder folder = .ok true) :
    disk.Holds folder := by
  obtain ⟨inner, hlocate⟩ := Disk.isFolder_eq_true_iff.mp h
  exact ⟨hfolder, inner, ((Disk.locate_eq_ok_iff hfolder.not_up).mp hlocate).2.2.2⟩

theorem Disk.Holds.of_mem_ancestors (h : disk.Holds folder) {a : Path} (ha : a ∈ folder.ancestors) :
    disk.Holds a := by
  obtain ⟨n, -, rfl⟩ := List.mem_map.mp ha
  refine ⟨h.resolved.of_subset (List.take_subset n _), ?_⟩
  obtain ⟨inner, hat⟩ := h.folder
  rw [← List.take_append_drop n folder.parts] at hat
  cases hdrop : folder.parts.drop n with
  | nil =>
    rw [hdrop, List.append_nil] at hat
    exact ⟨inner, hat⟩
  | cons k rest =>
    rw [hdrop] at hat
    exact Folder.exists_folder_of_getAt? hat

/-- Each of the names can stand in a path, and none is the last name of an added file. -/
def Untaken (outs : List (List String)) (names : List String) : Prop :=
  ∀ name ∈ names, Disk.FileName name ∧ ∀ out ∈ outs, out.getLastD "" ≠ name

theorem Untaken.joinText (hnames : Untaken outs names) (hfolder : folder.Resolved)
    (hname : name ∈ names) : Path.up ∉ (folder.joinText name).parts ∧
      (folder.joinText name).parts ∉ outs ∧ (folder.joinText name).parent = folder := by
  obtain ⟨hfile, hout⟩ := hnames name hname
  rw [Path.joinText_of_segment hfile.1]
  refine ⟨?_, fun hin => hout _ hin (by simp), by simp [Path.parent]⟩
  rw [List.mem_append, List.mem_singleton, not_or]
  exact ⟨hfolder.not_up, Ne.symm hfile.2.1⟩

section Grown

variable (hleft : disk.Extends outs left)

include hleft

theorem isFile_beside (hnames : Untaken outs names) (hfolder : disk.Holds folder)
    (hname : name ∈ names) :
    left.isFile (folder.joinText name) = disk.isFile (folder.joinText name) := by
  obtain ⟨hup, hout, hparent⟩ := hnames.joinText hfolder.resolved hname
  obtain ⟨inner, hat⟩ := hfolder.folder
  rw [← hparent] at hat
  exact hleft.isFile_eq_of_parent hup hout hat

theorem firstProject_eq (hnames : Untaken outs [packageFile]) {folders : List Path}
    (hfolders : ∀ a ∈ folders, disk.Holds a) :
    firstProject left folders = firstProject disk folders := by
  induction folders with
  | nil => rfl
  | cons a rest ih =>
    obtain ⟨ha, hrest⟩ := List.forall_mem_cons.mp hfolders
    simp only [firstProject, isFile_beside hleft hnames ha (List.mem_singleton.mpr rfl), ih hrest]

theorem firstFile_eq (hnames : Untaken outs names) (hfolder : disk.Holds folder) :
    firstFile left folder names = firstFile disk folder names := by
  induction names with
  | nil => rfl
  | cons name rest ih =>
    have hhead := isFile_beside hleft hnames hfolder List.mem_cons_self
    have hrest := ih fun k hk => hnames k (List.mem_cons_of_mem _ hk)
    simp only [firstFile, hhead, hrest]

end Grown

theorem mem_of_firstProject {folders : List Path} {project : Path}
    (h : firstProject disk folders = .ok project) : project ∈ folders := by
  induction folders with
  | nil => cases h
  | cons a rest ih =>
    unfold firstProject at h
    obtain ⟨found, -, h⟩ := bind_eq_ok h
    cases found with
    | true =>
      cases h
      exact List.mem_cons_self
    | false => exact List.mem_cons_of_mem _ (ih h)

theorem of_firstFile {file : Path} (h : firstFile disk folder names = .ok (some file)) :
    disk.isFile file = .ok true ∧ ∃ name ∈ names, file = folder.joinText name := by
  induction names with
  | nil => cases h
  | cons name rest ih =>
    unfold firstFile at h
    obtain ⟨found, hfound, h⟩ := bind_eq_ok h
    cases found with
    | true =>
      cases h
      exact ⟨liftIo_eq_ok.mp hfound, name, List.mem_cons_self, rfl⟩
    | false =>
      obtain ⟨hfile, k, hk, hpath⟩ := ih h
      exact ⟨hfile, k, List.mem_cons_of_mem _ hk, hpath⟩

section Grown

variable (hleft : disk.Extends outs left)

include hleft

theorem readBytes_beside (hnames : Untaken outs names) (hfolder : disk.Holds folder)
    (hname : name ∈ names) (hfile : disk.isFile (folder.joinText name) = .ok true) :
    left.readBytes (folder.joinText name) = disk.readBytes (folder.joinText name) := by
  obtain ⟨hup, hout, -⟩ := hnames.joinText hfolder.resolved hname
  obtain ⟨-, content, hat⟩ := Disk.exists_file_of_isFile hup hfile
  exact hleft.readBytes_eq hup hout hat

/-- **The settings of a run on the grown disk**: the same folder is the project, and it has the same
configuration. -/
theorem Command.settingsOf_eq (hfolder : disk.Holds folder) (library : Library)
    (found : Command.Arguments) (hnames : Untaken outs (packageFile :: configNames)) :
    Command.settingsOf library left found folder =
      Command.settingsOf library disk found folder := by
  have hpackage : Untaken outs [packageFile] := fun k hk =>
    hnames k (List.mem_singleton.mp hk ▸ List.mem_cons_self)
  have hconfig : Untaken outs configNames := fun k hk => hnames k (List.mem_cons_of_mem _ hk)
  have hresolve : Disk.resolve folder = .ok folder :=
    Disk.resolve_eq_ok_iff.mpr hfolder.resolved.resolve?_eq
  have hancestors : ∀ a ∈ folder.ancestors, disk.Holds a := fun a => hfolder.of_mem_ancestors
  simp only [Command.settingsOf, projectRoot, hresolve, bind, Except.bind,
    firstProject_eq hleft hpackage hancestors]
  cases hproject : firstProject disk folder.ancestors with
  | error failure => rfl
  | ok project =>
    have hholds := hancestors project (mem_of_firstProject hproject)
    simp only [configFile?, firstFile_eq hleft hconfig hholds]
    cases hfile : firstFile disk project configNames with
    | error failure => rfl
    | ok file =>
      cases file with
      | none => rfl
      | some file =>
        obtain ⟨hisFile, name, hname, rfl⟩ := of_firstFile hfile
        simp only [configOptions, Disk.readStrict,
          readBytes_beside hleft hconfig hholds hname hisFile]

end Grown

end Project

/-! ## Runs that end well -/

namespace Command

open ReducerAtlas.Text

variable {library : Library} {disk left : Disk} {arguments : List (List Letter)} {folder : Path}
  {elapsed elapsed' : String} {found : Arguments} {settings : Settings} {atlas : Atlas}

theorem absolute_of_settingsOf (h : settingsOf library disk found folder = .ok settings) :
    settings.Absolute := by
  unfold settingsOf at h
  obtain ⟨project, -, h⟩ := bind_eq_ok h
  obtain ⟨config, -, h⟩ := bind_eq_ok h
  obtain ⟨options, -, h⟩ := bind_eq_ok h
  exact Settings.absolute_of_ofOptions h

theorem Run.disk_foldl_say (r : Run) {α : Type} (line : α → String) (l : List α) :
    (l.foldl (fun r a => r.say (line a)) r).disk = r.disk := by
  induction l generalizing r with
  | nil => rfl
  | cons a rest ih => exact ih (r.say (line a))

theorem Run.ending_fail_ne (r : Run) (failure : Failure) : (r.fail failure).ending ≠ .ok 0 := by
  cases failure <;> simp [Run.fail, Run.exit, Run.say]

/-- **A run is the writing of an atlas** if its survey ends well. -/
theorem run_of_survey (hread : Arguments.read arguments = .ok found) (hhelp : found.help = false)
    (hsettings : settingsOf library disk found folder = .ok settings)
    (hsurvey : (survey disk settings).2 = .ok atlas) :
    ∃ r : Run, r.disk = disk ∧
      ∀ elapsed, run library disk arguments folder elapsed = r.finish settings atlas elapsed := by
  refine ⟨(greeting.foldl Run.say { disk := disk }).tell settings.verbose (survey disk settings).1,
    ?_, fun elapsed => ?_⟩
  · exact (Run.disk_foldl_say _ _ _).trans (Run.disk_foldl_say _ id greeting)
  · simp only [run, Begun.of, hread, hhelp, beginWith, hsettings, hsurvey, Begun.finish,
      Bool.false_eq_true, if_false]

/-- A run that ends well shows the help, or has made an atlas. -/
theorem exists_of_run (h : (run library disk arguments folder elapsed).ending = .ok 0) :
    ∃ found, Arguments.read arguments = .ok found ∧ (found.help = true ∨ found.help = false ∧
      ∃ settings atlas, settingsOf library disk found folder = .ok settings ∧
        (survey disk settings).2 = .ok atlas) := by
  unfold run Begun.of at h
  cases hread : Arguments.read arguments with
  | error fault => simp [hread, Begun.finish] at h
  | ok found =>
    refine ⟨found, rfl, ?_⟩
    cases hhelp : found.help with
    | true => exact .inl rfl
    | false =>
      refine .inr ⟨rfl, ?_⟩
      simp only [hread, hhelp, beginWith, Bool.false_eq_true, if_false] at h
      cases hsettings : settingsOf library disk found folder with
      | error failure =>
        rw [hsettings] at h
        exact absurd h (Run.ending_fail_ne _ _)
      | ok settings =>
        refine ⟨settings, ?_⟩
        simp only [hsettings] at h
        cases hsurvey : (survey disk settings).2 with
        | error failure =>
          rw [hsurvey] at h
          exact absurd h (Run.ending_fail_ne _ _)
        | ok atlas => exact ⟨atlas, rfl, rfl⟩

theorem untaken_of_apart (h : settings.Apart disk) :
    Untaken (settings.outputs.map Path.parts) (packageFile :: configNames) := by
  have hfileName : ∀ name ∈ packageFile :: configNames, Disk.FileName name := by decide
  intro name hname
  refine ⟨hfileName name hname, fun parts hparts hlast => ?_⟩
  obtain ⟨out, hout, rfl⟩ := List.mem_map.mp hparts
  obtain rfl : out.name = name := hlast
  exact h.names out hout hname

/-- **A second run changes nothing**: on a tree as a file system has it, started in one of its
folders, a run that ends well and whose outputs stand apart from what it looks at leaves a disk on
which the same arguments end well again, and leave every file as it is. -/
theorem run_run (hdisk : disk.WellFormed) (hfolder : folder.Resolved)
    (hhere : disk.isFolder folder = .ok true)
    (hapart : ∀ found settings, Arguments.read arguments = .ok found →
      settingsOf library disk found folder = .ok settings → settings.Apart disk)
    (hrun : (run library disk arguments folder elapsed).ending = .ok 0) :
    let first := run library disk arguments folder elapsed
    let second := run library first.disk arguments folder elapsed'
    second.ending = .ok 0 ∧ second.disk = first.disk := by
  dsimp only
  obtain ⟨found, hread, hhelp | ⟨hhelp, settings, atlas, hsettings, hsurvey⟩⟩ := exists_of_run hrun
  · simp [run, Begun.of, hread, hhelp, Begun.finish]
  · have habs := absolute_of_settingsOf hsettings
    have h := hapart found settings hread hsettings
    obtain ⟨r, hr, hfirst⟩ := run_of_survey hread hhelp hsettings hsurvey
    rw [hfirst] at hrun ⊢
    obtain ⟨hleft, hgenerated⟩ := Run.finish_ok habs.globalsOutput habs.mapOutput hrun
    rw [hr] at hleft
    generalize (r.finish settings atlas elapsed).disk = left at hleft hgenerated ⊢
    -- the second run has the same settings and makes the same atlas
    have hsettings' := (settingsOf_eq hleft (Disk.holds_of_isFolder hfolder hhere) library found
      (untaken_of_apart h)).trans hsettings
    have hsurvey' : (survey left settings).2 = .ok atlas := by
      rw [← survey_congr (h.seesAlike habs hdisk hleft hsurvey), hsurvey]
    obtain ⟨r', hr', hsecond⟩ := run_of_survey hread hhelp hsettings' hsurvey'
    rw [← hr'] at hgenerated
    rw [hsecond, ← hr']
    exact Run.finish_again habs.globalsOutput habs.mapOutput
      (hr' ▸ hleft.ordered hdisk.ordered) hgenerated

/-- A project with one reducer, a main file and a container. -/
def cartDisk : Disk where
  root :=
    .file "app.js" (Utf8.encode "import './cart/actions';".toList) <|
    .folder "cart"
      (.file "actions.js" [] <|
        .file "index.js" (Utf8.encode "PRM_REDUCER_NAME = 'cart';".toList) .empty) <|
    .file "package.json" [] <|
    .folder "pages" (.file "home.js" (Utf8.encode "import '../app';".toList) .empty)
    .empty

/-- Arguments that put the outputs into a folder of their own. -/
def cartArguments : List (List Letter) :=
  ["-b", ".", "-a", "app.js", "-c", "pages", "-r", "cart", "-f", "actions.js",
    "-g", "generated/globals.js", "-m", "generated/map.js"].map letters

/-- The settings that these arguments make. -/
def cartSettings : Settings where
  project := Path.root
  base := Path.root
  mainApp := Path.parse "/app.js"
  containerFolders := [Path.parse "/pages"]
  reducerFolders := [Path.parse "/cart"]
  globalsOutput := Path.parse "/generated/globals.js"
  mapOutput := Path.parse "/generated/map.js"
  actionNames := some ["actions.js"]

/-- The nodes that a survey of the project comes to. -/
def cartNodes : List Node :=
  ["/app.js", "/cart/actions.js", "/pages/home.js"].map fun file => ⟨Path.parse file, none⟩

theorem mem_cartNodes {x : Node} (hx : cartSettings.Visits cartDisk x) : x ∈ cartNodes := by
  have hlisted : ∀ folder ∈ cartSettings.containerFolders,
      (cartSettings.area.listing cartDisk folder).files = [Path.parse "/pages/home.js"] := by
    decide +kernel
  have hfind : ∀ file ∈ [Path.parse "/app.js", Path.parse "/pages/home.js"],
      (cartSettings.surveyor []).lookup.find cartDisk file = .ok (some file) ∧
        (cartSettings.surveyor []).node file none ∈ cartNodes := by
    decide +kernel
  have hclosed : ∀ a ∈ cartNodes, ∀ step ∈ ((cartSettings.surveyor []).read cartDisk [] []
      a).steps, ∃ b ∈ cartNodes, step = .follow b := by
    decide +kernel
  refine hx.mem ?_ fun a ha step hstep b hb => ?_
  · intro file found hfile hfound
    have hstart : file ∈ [Path.parse "/app.js", Path.parse "/pages/home.js"] := by
      obtain rfl | ⟨-, folder, hfolder, hin⟩ := hfile
      · exact List.mem_cons_self
      · rw [hlisted folder hfolder] at hin
        exact List.mem_cons_of_mem _ hin
    cases (hfind file hstart).1.symm.trans hfound
    exact (hfind file hstart).2
  · obtain ⟨c, hc, rfl⟩ := hclosed a ha step hstep
    cases hb
    exact hc

theorem apart_cartSettings : cartSettings.Apart cartDisk where
  names := by decide +kernel
  reducers := by decide +kernel
  containers := by
    have hprefix : ∀ out ∈ cartSettings.outputs, ∀ folder ∈ cartSettings.containerFolders,
        folder.resolve? = some folder ∧ ¬ folder.parts <+: out.parts := by
      decide +kernel
    rintro out hout folder hfolder - ⟨start, names, hstart, -, rfl, -⟩
    obtain ⟨hresolve, hapart⟩ := hprefix _ hout folder hfolder
    cases hresolve.symm.trans hstart
    exact hapart (List.prefix_append _ _)
  main := by decide +kernel
  modules x hx content hcontent := by
    have hfits : ∀ x ∈ cartNodes, ∀ reference ∈
        (Source.Summary.of ((cartDisk.readText x.file).toOption.getD [])).references,
        ∀ specifier ∈ reference.specifiers, ∀ p ∈ candidates x.file specifier cartSettings.base,
          ∀ q ∈ Lookup.tried {} p, q.Fits ∧ q ∉ cartSettings.outputs := by
      decide +kernel
    have hnode := hfits x (mem_cartNodes hx)
    rw [hcontent] at hnode
    exact fun reference href _ => hnode reference href
  saga := by
    rintro name ⟨⟩

theorem run_cartDisk :
    let first := run standard cartDisk cartArguments Path.root "12"
    let second := run standard first.disk cartArguments Path.root "34"
    first.ending = .ok 0 ∧ second.ending = .ok 0 ∧ second.disk = first.disk := by
  have hsettings : (Arguments.read cartArguments).toOption.bind (fun found =>
      (settingsOf standard cartDisk found Path.root).toOption) = some cartSettings := by
    decide +kernel
  have hrun : (run standard cartDisk cartArguments Path.root "12").ending = .ok 0 := by
    decide +kernel
  refine ⟨hrun, run_run ⟨by decide +kernel, by decide +kernel⟩ ⟨rfl, by decide, rfl⟩
    (by decide +kernel) (fun found settings hread hof => ?_) hrun⟩
  have heq : settings = cartSettings := by simpa [hread, hof, Except.toOption] using hsettings
  exact heq ▸ apart_cartSettings

end Command

end ReducerAtlas
