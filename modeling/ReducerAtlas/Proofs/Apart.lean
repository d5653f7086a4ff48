import ReducerAtlas.Command.Run
import ReducerAtlas.Proofs.Registry

/-!
# Outputs apart from what is read

The generated files are written into the tree that a survey looks at. Where they stand apart from
all that the survey lists, tests and reads, the grown tree looks to it as the tree did before.

* `Settings.MadeFrom`: how settings are made of options; `Settings.Absolute`: that all paths are
  absolute then.
* `Lookup.mem_tried_of_find`: a path stands for one of the files that are tried for it.
* `Settings.Absolute.has_of_visits`: the files that a survey comes to are in the tree.
* `Settings.Apart`: the outputs stand apart from what is looked at; `Settings.Stays`,
  `Settings.Apart.stays_of_visits`: the files that a survey comes to are none of them.
* **`Settings.Apart.seesAlike`**: a survey cannot tell the grown disk from the disk before.
-/

namespace ReducerAtlas

open ReducerAtlas.Text

/-! ## Settings -/

/-- All paths of some settings are in absolute form. -/
structure Settings.Absolute (settings : Settings) : Prop where
  base : settings.base.Resolved
  mainApp : settings.mainApp.Resolved
  containerFolders : ∀ folder ∈ settings.containerFolders, folder.Resolved
  reducerFolders : ∀ folder ∈ settings.reducerFolders, folder.Resolved
  globalsOutput : settings.globalsOutput.Resolved
  mapOutput : settings.mapOutput.Resolved

theorem resolved_of_resolve {p q : Path} (h : Disk.resolve p = .ok q) : q.Resolved :=
  Path.resolved_of_resolve? (Disk.resolve_eq_ok_iff.mp h)

theorem resolved_of_pathFrom {folder p : Path} {ls : List Letter}
    (h : pathFrom folder ls = .ok p) : p.Resolved := by
  obtain ⟨text, -, h⟩ := bind_eq_ok h
  exact resolved_of_resolve h

theorem resolved_of_pathBelow {base p : Path} {ls : List Letter} (h : pathBelow base ls = .ok p) :
    p.Resolved :=
  resolved_of_pathFrom h

theorem resolved_of_pathsBelow {base : Path} {texts : List (List Letter)} {paths : List Path}
    (h : pathsBelow base texts = .ok paths) : ∀ p ∈ paths, p.Resolved := by
  induction texts generalizing paths with
  | nil =>
    cases h
    simp
  | cons text rest ih =>
    unfold pathsBelow at h
    obtain ⟨p, hp, h⟩ := bind_eq_ok h
    obtain ⟨others, hothers, h⟩ := bind_eq_ok h
    cases h
    exact List.forall_mem_cons.mpr ⟨resolved_of_pathBelow hp, ih hothers⟩

theorem Value.of_optionText_bind {α : Type} {v : Value} {f : List Letter → Except Failure α} {a : α}
    (h : (v.optionText >>= f) = .ok a) : v.hasText = true ∧ f v.asText = .ok a := by
  unfold optionText at h
  split_ifs at h with htext
  · exact ⟨htext, h⟩
  · cases h

theorem Value.of_optionItems_bind {α : Type} {v : Value}
    {f : List (List Letter) → Except Failure α} {a : α} (h : (v.optionItems >>= f) = .ok a) :
    v.hasText = true ∧ f v.items = .ok a := by
  unfold optionItems at h
  split_ifs at h with htext
  · exact ⟨htext, h⟩
  · cases h

/-- The options whose values are written out. -/
def Options.writtenOut : List String := Options.required ++ ["actionFilenames", "sagaFilename"]

/-- **How settings are made of options.** -/
structure Settings.MadeFrom (characters : CharacterNames) (options : Options) (project : Path)
    (settings : Settings) : Prop where
  complete : options.missing? = none
  ignore : IgnoreRule.ofValue characters (options.value "ignorePaths") = .ok settings.ignore
  hasText : ∀ name ∈ Options.writtenOut, (options.value name).hasText = true
  base : pathFrom project (trimLetters (options.value "basePath").asText) = .ok settings.base
  mainApp : pathBelow settings.base (options.value "mainAppPath").asText = .ok settings.mainApp
  containerFolders : pathsBelow settings.base (options.value "containerPaths").items =
    .ok settings.containerFolders
  reducerFolders : pathsBelow settings.base (options.value "reduxPaths").items =
    .ok settings.reducerFolders
  globalsOutput : pathBelow settings.base (options.value "globalReducersOutputPath").asText =
    .ok settings.globalsOutput
  mapOutput : pathBelow settings.base (options.value "reducerMapOutputPath").asText =
    .ok settings.mapOutput

section MadeFrom

variable {characters : CharacterNames} {options : Options} {project : Path} {settings : Settings}

theorem Options.hasText_of_lacks {name : String} (h : options.lacks name = true) :
    (options.value name).hasText = true := by
  unfold lacks at h
  split at h
  · next hnull => rw [hnull, Value.hasText]
  · cases h

theorem Settings.madeFrom_of_ofOptions
    (h : Settings.ofOptions characters options project = .ok settings) :
    settings.MadeFrom characters options project := by
  unfold Settings.ofOptions at h
  cases hmissing : options.missing? with
  | some name =>
    rw [hmissing] at h
    cases h
  | none =>
    simp only [hmissing] at h
    obtain ⟨ignore, hignore, h⟩ := bind_eq_ok h
    obtain ⟨hasBase, h⟩ := Value.of_optionText_bind h
    obtain ⟨base, hbase, h⟩ := bind_eq_ok h
    obtain ⟨hasNames, h⟩ := Value.of_optionItems_bind h
    obtain ⟨hasMain, h⟩ := Value.of_optionText_bind h
    obtain ⟨main, hmain, h⟩ := bind_eq_ok h
    obtain ⟨hasContainers, h⟩ := Value.of_optionItems_bind h
    obtain ⟨containers, hcontainers, h⟩ := bind_eq_ok h
    obtain ⟨hasReducers, h⟩ := Value.of_optionItems_bind h
    obtain ⟨reducers, hreducers, h⟩ := bind_eq_ok h
    obtain ⟨hasGlobals, h⟩ := Value.of_optionText_bind h
    obtain ⟨globals, hglobals, h⟩ := bind_eq_ok h
    obtain ⟨hasMap, h⟩ := Value.of_optionText_bind h
    obtain ⟨map, hmap, h⟩ := bind_eq_ok h
    have hall : (options.value "sagaFilename").hasText = true →
        ∀ name ∈ Options.writtenOut, (options.value name).hasText = true := by
      intro hasSaga
      simp [Options.writtenOut, Options.required, hasBase, hasNames, hasMain, hasContainers,
        hasReducers, hasGlobals, hasMap, hasSaga]
    split at h
    · next hlacks =>
      cases h
      exact ⟨hmissing, hignore, hall (Options.hasText_of_lacks hlacks), hbase, hmain, hcontainers,
        hreducers, hglobals, hmap⟩
    · obtain ⟨hasSaga, h⟩ := Value.of_optionText_bind h
      cases h
      exact ⟨hmissing, hignore, hall hasSaga, hbase, hmain, hcontainers, hreducers, hglobals, hmap⟩

theorem Settings.absolute_of_ofOptions
    (h : Settings.ofOptions characters options project = .ok settings) : settings.Absolute := by
  have hmade := madeFrom_of_ofOptions h
  exact ⟨resolved_of_pathFrom hmade.base, resolved_of_pathBelow hmade.mainApp,
    resolved_of_pathsBelow hmade.containerFolders, resolved_of_pathsBelow hmade.reducerFolders,
    resolved_of_pathBelow hmade.globalsOutput, resolved_of_pathBelow hmade.mapOutput⟩

end MadeFrom

/-! ## Module names -/

namespace Lookup

variable {disk : Disk} {lookup : Lookup} {p q source base : Path} {specifier : String}

theorem isAbsolute_plainSpecifier (specifier : String) :
    (Path.parse (String.ofList (plainSpecifier specifier))).isAbsolute = false := by
  have hnone : ∀ cs : List Char, (cs.dropWhile (· == '/')).takeWhile (· == '/') = [] := by
    intro cs
    induction cs with
    | nil => rfl
    | cons c cs ih =>
      by_cases hc : c = '/'
      · simpa [hc] using ih
      · simp [hc]
  simp [Path.parse, Path.anchorOf, plainSpecifier, hnone, Path.isAbsolute]

theorem anchor_joinText_plainSpecifier (folder : Path) (specifier : String) :
    (folder.joinText (String.ofList (plainSpecifier specifier))).anchor = folder.anchor := by
  rw [Path.joinText, Path.join, isAbsolute_plainSpecifier, if_neg Bool.false_ne_true]

theorem exists_of_mem_candidates (hp : p ∈ candidates source specifier base) :
    ∃ folder : Path, (folder = source.parent ∨ folder = base) ∧
      p = (folder.joinText (String.ofList (plainSpecifier specifier))).normalize := by
  unfold candidates at hp
  dsimp only at hp
  split_ifs at hp
  · cases hp
  · exact ⟨source.parent, .inl rfl, List.mem_singleton.mp hp⟩
  · obtain hp | hp := List.mem_pair.mp hp
    · exact ⟨source.parent, .inl rfl, hp⟩
    · exact ⟨base, .inr rfl, hp⟩

theorem of_mem_candidates (hsource : source.anchor = .root) (hbase : base.anchor = .root)
    (hp : p ∈ candidates source specifier base) :
    (p.anchor = .root ∧ Path.up ∉ p.parts) ∧ ∀ n ∈ p.parts,
      (n ∈ source.parts ∨ n ∈ base.parts) ∨
        n ∈ (Path.parse (String.ofList (plainSpecifier specifier))).parts := by
  obtain ⟨folder, hfolder, hpath⟩ := exists_of_mem_candidates hp
  have hroot : (folder.joinText (String.ofList (plainSpecifier specifier))).anchor = .root := by
    rw [anchor_joinText_plainSpecifier]
    obtain rfl | rfl := hfolder
    · exact hsource
    · exact hbase
  have hold : ∀ n ∈ folder.parts, n ∈ source.parts ∨ n ∈ base.parts := by
    intro n hn
    obtain rfl | rfl := hfolder
    · exact .inl (List.dropLast_subset _ hn)
    · exact .inr hn
  rw [hpath]
  refine ⟨⟨?_, Path.up_not_mem_normalize hroot⟩, fun n hn => ?_⟩
  · rw [Path.normalize_of_root hroot]
  · exact (Path.mem_of_mem_joinText (Path.mem_of_mem_normalize hroot hn)).imp_left (hold n)

theorem mem_of_findExtended {extensions : List String}
    (h : findExtended disk p extensions = .ok (some q)) : q ∈ extensions.filterMap p.extend? := by
  induction extensions with
  | nil => cases h
  | cons extension rest ih =>
    unfold findExtended at h
    cases hextend : p.extend? extension with
    | none => simp [hextend] at h
    | some candidate =>
      rw [List.filterMap_cons_some hextend]
      simp only [hextend] at h
      obtain ⟨found, -, h⟩ := bind_eq_ok h
      cases found with
      | true =>
        cases h
        exact List.mem_cons_self
      | false => exact List.mem_cons_of_mem _ (ih h)

theorem mem_tried_of_find (h : lookup.find disk p = .ok (some q)) : q ∈ lookup.tried p := by
  unfold find at h
  unfold tried
  obtain ⟨found, -, h⟩ := bind_eq_ok h
  cases found with
  | true =>
    cases h
    exact List.mem_cons_self
  | false =>
    obtain ⟨extended, hextended, h⟩ := bind_eq_ok h
    cases extended with
    | some candidate =>
      cases h
      exact List.mem_cons_of_mem _ (List.mem_append_left _ (mem_of_findExtended hextended))
    | none =>
      unfold findIndex at h
      obtain ⟨isFolder, -, h⟩ := bind_eq_ok h
      cases isFolder with
      | false => cases h
      | true =>
        obtain ⟨found, -, h⟩ := bind_eq_ok h
        cases found with
        | false => cases h
        | true =>
          cases h
          exact List.mem_cons_of_mem _ (List.mem_append_right _ (List.mem_singleton.mpr rfl))

theorem anchor_of_mem_tried (h : q ∈ tried {} p) : q.anchor = p.anchor := by
  simp only [tried, List.cons_append, List.mem_cons, List.mem_append, List.mem_filterMap,
    List.not_mem_nil, or_false] at h
  obtain rfl | ⟨extension, -, h⟩ | rfl := h
  · rfl
  · unfold Path.extend? at h
    dsimp only at h
    split_ifs at h
    cases h
    rfl
  · rw [joinText_index]

end Lookup

/-! ## What a survey that ends well has listed -/

section Listed

variable {disk : Disk} {settings : Settings} {area : Area} {atlas : Atlas} {folders : List Path}

theorem listed_of_registryFrom {sagaName : Option String} {roster roster' : Roster}
    (h : (registryFrom disk area sagaName roster folders).2 = .ok roster') :
    ∀ folder ∈ folders, ∃ listed, area.listing disk folder = ⟨listed, .ok ()⟩ := by
  intro folder hfolder
  obtain ⟨found, hfound⟩ := exists_registryFrom_iff.mp ⟨roster', h⟩ folder hfolder
  obtain ⟨listed, hlisted, -⟩ := definitions_eq_ok_iff.mp hfound
  exact ⟨listed, hlisted⟩

theorem listed_of_scanFolders {surveyor : Surveyor} {state state' : SurveyState}
    (h : (scanFolders surveyor disk area state folders).2 = .ok state') :
    ∀ folder ∈ folders, ∃ listed, area.listing disk folder = ⟨listed, .ok ()⟩ := by
  induction folders generalizing state with
  | nil => simp
  | cons folder rest ih =>
    rw [scanFolders_cons] at h
    obtain ⟨middle, -, h⟩ := bind_eq_ok h
    obtain ⟨⟨⟩, hending, h⟩ := bind_eq_ok h
    exact List.forall_mem_cons.mpr ⟨Area.exists_listing_eq hending, ih h⟩

/-- There is a reducer, so a path was compared with the pattern of what to leave out. -/
theorem seeing_of_survey (h : (survey disk settings).2 = .ok atlas) :
    settings.area.blind = false := by
  obtain ⟨roster, hregistry, h⟩ := bind_eq_ok (survey_snd ▸ h)
  by_contra hblind
  have hnone : ∀ name folder,
      firstOf? disk settings.area settings.sagaName name folder = none := by
    intro name folder
    unfold firstOf?
    cases hfound : definitions disk settings.area settings.sagaName folder with
    | error failure => rfl
    | ok found =>
      obtain ⟨listed, hlisted, -, rfl⟩ := definitions_eq_ok_iff.mp hfound
      obtain rfl : listed = [] := by
        have hfiles := Area.files_listing_of_blind (Bool.eq_true_of_not_eq_false hblind) disk
          folder
        rwa [hlisted] at hfiles
      rfl
  have hempty : roster.toList = [] := by
    refine List.eq_nil_iff_forall_not_mem.mpr fun r hr => ?_
    have hsome := Roster.find?_eq_some_iff.mpr ⟨hr, rfl⟩
    rw [find?_registryFrom hregistry, List.findSome?_eq_none_iff.mpr fun folder _ => hnone _ folder]
      at hsome
    cases hsome
  rw [hempty] at h
  cases h

theorem listed_of_survey (h : (survey disk settings).2 = .ok atlas) :
    ∀ folder ∈ settings.reducerFolders ++ settings.containerFolders,
      ∃ listed, disk.filesBelow settings.area.refused settings.area.base folder = .ok listed := by
  obtain ⟨roster, hregistry, -, huses⟩ := survey_ok h
  obtain ⟨globals, phase, -, hfolders, -⟩ := surveyUses_ok huses
  intro folder hfolder
  obtain ⟨listed, hlisted⟩ : ∃ listed, settings.area.listing disk folder = ⟨listed, .ok ()⟩ := by
    obtain hfolder | hfolder := List.mem_append.mp hfolder
    · exact listed_of_registryFrom hregistry folder hfolder
    · exact listed_of_scanFolders hfolders folder hfolder
  exact ⟨listed, (Area.listing_eq_iff_of_seeing (seeing_of_survey h)).mp hlisted⟩

end Listed

/-! ## The files that a survey comes to -/

/-- A file of the tree stands for itself. -/
theorem Disk.Has.eq_of_find {disk : Disk} {lookup : Lookup} {file found : Path}
    (h : disk.Has file) (hfind : lookup.find disk file = .ok (some found)) : found = file := by
  obtain ⟨content, hat⟩ := h.file
  obtain ⟨answer, htest, -⟩ := bind_eq_ok hfind
  have htest' := liftIo_eq_ok.mp htest
  rw [Disk.isFile_of_getAt? h.resolved hat htest'] at htest'
  rw [Lookup.find_of_isFile htest'] at hfind
  cases hfind
  rfl

namespace Settings.Absolute

variable {settings : Settings} {disk : Disk} (habs : settings.Absolute) (hdisk : disk.WellFormed)

include habs hdisk

theorem has_of_imports {x y : Node} (hx : disk.Has x.file)
    (himports : (settings.surveyor []).Imports disk [] x y) : disk.Has y.file := by
  obtain ⟨content, -, reference, -, -, specifier, -, targets, htargets, target, htarget, -, rfl⟩ :=
    himports
  obtain ⟨p, hp, hfind⟩ := Lookup.find_of_mem_targets htargets htarget
  obtain ⟨⟨hanchor, hup⟩, -⟩ := Lookup.of_mem_candidates hx.resolved.anchor habs.base.anchor hp
  have htried : target ∈ Lookup.tried {} p := Lookup.mem_tried_of_find hfind
  exact Disk.has_of_isFile hdisk ((Lookup.anchor_of_mem_tried htried).trans hanchor)
    (Lookup.up_not_mem_tried hup target htried) (Lookup.isFile_of_find hfind)

variable (hmain : disk.isFile settings.mainApp = .ok true)

include hmain

theorem has_of_starts {file : Path} (hfile : settings.Starts disk file) : disk.Has file := by
  obtain rfl | ⟨-, folder, -, hin⟩ := hfile
  · exact Disk.has_of_isFile hdisk habs.mainApp.anchor habs.mainApp.not_up hmain
  · exact (Area.lists_of_mem_listing hdisk.ordered hin).has hdisk

/-- **The files that a survey comes to** are in the tree. -/
theorem has_of_visits {x : Node} (hx : settings.Visits disk x) : disk.Has x.file := by
  obtain ⟨file, found, hstart, hfound, hreach⟩ := hx
  induction hreach with
  | refl =>
    have hfile := habs.has_of_starts hdisk hmain hstart
    rw [hfile.eq_of_find hfound]
    exact hfile
  | tail _ himports ih => exact habs.has_of_imports hdisk ih himports

end Settings.Absolute

/-! ## Outputs apart from what is read -/

/-- The generated files. -/
def Settings.outputs (settings : Settings) : List Path :=
  [settings.globalsOutput, settings.mapOutput]

/-- **The outputs stand apart from what a run looks at** before it writes them: they do not have the
name of a file that makes a project or configures one; they are not below a reducer folder, no
containers of a container folder, and not the main file; and no module name at a node that the
survey comes to may stand for one of them. The names that are looked up are not too long, and the
name of saga files is a single one. -/
structure Settings.Apart (settings : Settings) (disk : Disk) : Prop where
  names : ∀ out ∈ settings.outputs, out.name ∉ packageFile :: configNames
  reducers : ∀ out ∈ settings.outputs, ∀ folder ∈ settings.reducerFolders,
    ¬ folder.parts <+: out.parts
  containers : ∀ out ∈ settings.outputs, ∀ folder ∈ settings.containerFolders,
    isContainer out = true → ¬ settings.area.Covers folder out
  main : settings.mainApp ∉ settings.outputs
  modules : ∀ x, settings.Visits disk x → ∀ content, disk.readText x.file = .ok content →
    ∀ reference ∈ (Source.Summary.of content).references, reference.admitted x.asked = true →
      ∀ specifier ∈ reference.specifiers, ∀ p ∈ candidates x.file specifier settings.base,
        ∀ q ∈ Lookup.tried {} p, q.Fits ∧ q ∉ settings.outputs
  saga : ∀ name, settings.sagaName = some name → name = "" ∨ Disk.FileName name

namespace Settings

variable {settings : Settings} {disk left : Disk}

theorem Absolute.of_mem_outputs (habs : settings.Absolute) {out : Path}
    (h : out ∈ settings.outputs) : out.Resolved := by
  obtain rfl | rfl := List.mem_pair.mp h
  · exact habs.globalsOutput
  · exact habs.mapOutput

theorem Absolute.parts_not_mem (habs : settings.Absolute) {p : Path} (hp : p.anchor = .root)
    (hout : p ∉ settings.outputs) : p.parts ∉ settings.outputs.map Path.parts := by
  intro hin
  obtain ⟨out, hmem, hparts⟩ := List.mem_map.mp hin
  exact hout (Path.eq_of_parts_eq (habs.of_mem_outputs hmem).anchor hp hparts ▸ hmem)

/-- A file of the tree that is no output, given by its absolute form. -/
structure Stays (settings : Settings) (disk : Disk) (p : Path) : Prop where
  resolved : p.Resolved
  file : ∃ content, disk.root.getAt? p.parts = some (.file content)
  not_output : p ∉ settings.outputs

section Stays

variable {file : Path}

variable (h : settings.Stays disk file) (habs : settings.Absolute)
  (hleft : disk.Extends (settings.outputs.map Path.parts) left)

include h habs hleft

theorem Stays.isFile_eq : left.isFile file = disk.isFile file := by
  obtain ⟨content, hat⟩ := h.file
  exact hleft.isFile_eq_of_file h.resolved.not_up
    (habs.parts_not_mem h.resolved.anchor h.not_output) hat

theorem Stays.readBytes_eq : left.readBytes file = disk.readBytes file := by
  obtain ⟨content, hat⟩ := h.file
  exact hleft.readBytes_eq h.resolved.not_up
    (habs.parts_not_mem h.resolved.anchor h.not_output) hat

end Stays

namespace Apart

variable (h : settings.Apart disk) (habs : settings.Absolute)

include h habs

variable (hdisk : disk.WellFormed) (hmain : disk.isFile settings.mainApp = .ok true)

include hdisk hmain

theorem stays_of_starts {file : Path} (hfile : settings.Starts disk file) :
    settings.Stays disk file := by
  have hhas := habs.has_of_starts hdisk hmain hfile
  refine ⟨hhas.resolved, hhas.file, ?_⟩
  obtain rfl | ⟨hcontainer, folder, hfolder, hin⟩ := hfile
  · exact h.main
  · have hlists := Area.lists_of_mem_listing hdisk.ordered hin
    exact fun hout =>
      h.containers file hout folder hfolder hcontainer (Disk.lists_iff_covers.mp hlists).1

/-- **The files that a survey comes to** are no outputs. -/
theorem stays_of_visits {x : Node} (hx : settings.Visits disk x) : settings.Stays disk x.file := by
  have hhas := habs.has_of_visits hdisk hmain hx
  obtain ⟨file, found, hstart, hfound, hreach⟩ := hx
  obtain rfl | ⟨y, hy, himports⟩ := hreach.cases_tail
  · have hfile := h.stays_of_starts habs hdisk hmain hstart
    rwa [← (habs.has_of_starts hdisk hmain hstart).eq_of_find hfound] at hfile
  · refine ⟨hhas.resolved, hhas.file, ?_⟩
    obtain ⟨content, hcontent, reference, href, hadmitted, specifier, hspecifier, targets, htargets,
      target, htarget, -, rfl⟩ := himports
    obtain ⟨p, hp, hfind⟩ := Lookup.find_of_mem_targets htargets htarget
    exact (h.modules y ⟨file, found, hstart, hfound, hy⟩ content hcontent reference href hadmitted
      specifier hspecifier p hp target (Lookup.mem_tried_of_find hfind)).2

variable (hleft : disk.Extends (settings.outputs.map Path.parts) left)

include hleft

theorem read_eq {x : Node} (hx : settings.Visits disk x) (reducers : List Reducer)
    (excluded : List String) : (settings.surveyor reducers).read disk excluded [] x =
      (settings.surveyor reducers).read left excluded [] x := by
  have hstays := h.stays_of_visits habs hdisk hmain hx
  refine Surveyor.read_congr ?_
    (fun content hcontent reference href hadmitted specifier hspecifier => ?_) _ _
  · rw [Disk.readText, Disk.readText, hstays.readBytes_eq habs hleft]
  · have hroot : ∀ p ∈ candidates x.file specifier settings.base,
        p.anchor = .root ∧ Path.up ∉ p.parts := fun p hp =>
      (Lookup.of_mem_candidates hstays.resolved.anchor habs.base.anchor hp).1
    refine (hleft.targets_eq (fun p hp => (hroot p hp).2) fun p hp q hq => ?_).symm
    obtain ⟨hfits, hout⟩ :=
      h.modules x hx content hcontent reference href hadmitted specifier hspecifier p hp q hq
    have hanchor := (Lookup.anchor_of_mem_tried hq).trans (hroot p hp).1
    exact ⟨hfits, habs.parts_not_mem hanchor hout⟩

theorem find_eq {file : Path} (hfile : settings.Starts disk file) :
    Lookup.find {} disk file = Lookup.find {} left file := by
  have hstays := h.stays_of_starts habs hdisk hmain hfile
  have hsame := hstays.isFile_eq habs hleft
  obtain ⟨content, hat⟩ := hstays.file
  cases htest : disk.isFile file with
  | error e => simp only [Lookup.find, hsame, htest, liftIo, bind, Except.bind]
  | ok answer =>
    obtain rfl := Disk.isFile_of_getAt? hstays.resolved hat htest
    rw [Lookup.find_of_isFile htest, Lookup.find_of_isFile (hsame.trans htest)]

omit hmain

variable (hseeing : settings.area.blind = false)

include hseeing

theorem definitions_eq {folder : Path} {listed : List Path}
    (hfolder : folder ∈ settings.reducerFolders)
    (hlisted : disk.filesBelow settings.area.refused settings.area.base folder = .ok listed) :
    definitions disk settings.area settings.sagaName folder =
      definitions left settings.area settings.sagaName folder := by
  have hresolved := habs.reducerFolders folder hfolder
  -- nothing below the folder is an output
  have hbelow : ∀ names, folder.parts ++ names ∉ settings.outputs.map Path.parts := by
    intro names hin
    obtain ⟨out, hout, hparts⟩ := List.mem_map.mp hin
    exact h.reducers out hout folder hfolder ⟨names, hparts.symm⟩
  have hfiles : ∀ f ∈ listed, disk.Has f ∧
      ∃ names, names ≠ [] ∧ f.parts = folder.parts ++ names := by
    intro f hf
    have hlists := (Disk.mem_filesBelow_iff hdisk.ordered hlisted).mp hf
    obtain ⟨start, names, hstart, hne, rfl, -⟩ := id hlists
    obtain rfl : folder = start := Option.some.inj (hresolved.resolve?_eq.symm.trans hstart)
    exact ⟨hlists.has hdisk, names, hne, rfl⟩
  have hgrown : left.filesBelow settings.area.refused settings.area.base folder = .ok listed := by
    have hout : ∀ file, true = true → settings.area.Covers folder file →
        file.parts ∉ settings.outputs.map Path.parts := by
      rintro file - ⟨start, names, hstart, -, rfl, -⟩
      obtain rfl : folder = start := Option.some.inj (hresolved.resolve?_eq.symm.trans hstart)
      exact hbelow names
    obtain ⟨files, hgrown, heq⟩ := hleft.filesBelow_eq hdisk (q := fun _ => true) hout hlisted
    rw [List.filter_true, List.filter_true] at heq
    rw [hgrown, heq]
  have hlisting := (Area.listing_eq_iff_of_seeing hseeing).mpr hlisted
  have hlistingLeft := (Area.listing_eq_iff_of_seeing hseeing).mpr hgrown
  refine definitions_congr (hlisting.trans hlistingLeft.symm) (fun f hf => ?_)
    fun f hf name hname hne => ?_
  · rw [hlisting] at hf
    obtain ⟨hhas, names, -, hparts⟩ := hfiles f hf
    obtain ⟨content, hat⟩ := hhas.file
    rw [Disk.readText, Disk.readText,
      hleft.readBytes_eq hhas.resolved.not_up (hparts ▸ hbelow names) hat]
  · rw [hlisting] at hf hname
    obtain ⟨hhas, names, hnames, hparts⟩ := hfiles f hf
    obtain ⟨content, hat⟩ := hhas.file
    obtain ⟨inner, hparent⟩ := Folder.exists_parent hat
    have hname' : Disk.FileName name := by
      obtain hsome | ⟨g, hg, rfl⟩ := hname
      · exact (h.saga name hsome).resolve_left hne
      · exact (hfiles g hg).1.fileName_name
    have hpath : f.parent.joinText name = ⟨.root, f.parts.dropLast ++ [name]⟩ := by
      rw [Path.joinText_of_segment hname'.1, Path.parent, hhas.resolved.anchor]
    have hup : Path.up ∉ f.parts.dropLast ++ [name] := by
      rw [List.mem_append, List.mem_singleton, not_or]
      exact ⟨fun hin => hhas.resolved.not_up (List.dropLast_subset _ hin), Ne.symm hname'.2.1⟩
    have hout : f.parts.dropLast ++ [name] ∉ settings.outputs.map Path.parts := by
      rw [hparts, List.dropLast_append_of_ne_nil hnames, List.append_assoc]
      exact hbelow _
    rw [hpath]
    exact (hleft.isFile_eq_of_parent (p := ⟨.root, f.parts.dropLast ++ [name]⟩) hup hout
      (by simpa [Path.parent] using hparent)).symm

theorem offersAlike {folder : Path} {listed : List Path}
    (hfolder : folder ∈ settings.containerFolders)
    (hlisted : disk.filesBelow settings.area.refused settings.area.base folder = .ok listed) :
    settings.area.OffersAlike disk left folder := by
  have hout : ∀ file, isContainer file = true → settings.area.Covers folder file →
      file.parts ∉ settings.outputs.map Path.parts := by
    intro file hcontainer hcovers
    obtain ⟨start, names, -, -, hfile, -⟩ := id hcovers
    have hroot : file.anchor = .root := congrArg Path.anchor hfile
    exact habs.parts_not_mem hroot fun hout =>
      h.containers file hout folder hfolder hcontainer hcovers
  obtain ⟨files, hfiles, heq⟩ := hleft.filesBelow_eq hdisk hout hlisted
  rw [Area.OffersAlike, (Area.listing_eq_iff_of_seeing hseeing).mpr hlisted,
    (Area.listing_eq_iff_of_seeing hseeing).mpr hfiles]
  exact ⟨heq.symm, rfl⟩

omit hseeing

/-- **A survey that ends well cannot tell the grown disk from the disk before.** -/
theorem seesAlike {atlas : Atlas} (hsurvey : (survey disk settings).2 = .ok atlas) :
    settings.SeesAlike disk left := by
  obtain ⟨-, -, hmain, -⟩ := survey_ok hsurvey
  have hseeing := seeing_of_survey hsurvey
  have hlisted := listed_of_survey hsurvey
  refine ⟨fun folder hfolder => ?_, ?_, fun folder hfolder => ?_,
    fun file hfile => h.find_eq habs hdisk hmain hleft hfile,
    fun x hx => h.read_eq habs hdisk hmain hleft hx⟩
  · obtain ⟨listed, hok⟩ := hlisted folder (List.mem_append_left _ hfolder)
    exact h.definitions_eq habs hdisk hleft hseeing hfolder hok
  · exact ((h.stays_of_starts habs hdisk hmain (.inl rfl)).isFile_eq habs hleft).symm
  · obtain ⟨listed, hok⟩ := hlisted folder (List.mem_append_right _ hfolder)
    exact h.offersAlike habs hdisk hleft hseeing hfolder hok

end Apart

end Settings

end ReducerAtlas
