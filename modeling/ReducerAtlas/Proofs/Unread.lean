import Mathlib.Data.String.Basic
import ReducerAtlas.Proofs.Congruence
import ReducerAtlas.Proofs.Survey

/-!
# Files that are not read

Where a path leads, what a folder lists and which file a module name stands for depends on the names
in a tree, not on what its files hold. So of the contents only those matter that a survey reads: the
files of the reducer folders, and those of the nodes that it comes to.

* `Folder.bare`, `Disk.bare`: a tree with empty files; `Disk.locate_bare`, `Area.listing_bare`,
  `Lookup.targets_bare`: what does not change with it.
* `Disk.SamePaths`: two trees with the same files and folders; `Folder.bare_eq_of_samePaths`: they
  differ in the contents of their files alone.
* `definitions_congr`, `Surveyor.read_congr`: what the contents matter for.
* **`survey_eq_of_unread`**: a file that is not read has no influence on a survey.
-/

namespace ReducerAtlas

/-! ## Trees with empty files -/

namespace Folder

/-- The tree with all files emptied. -/
def bare : Folder → Folder
  | .empty => .empty
  | .file n _ rest => .file n [] rest.bare
  | .folder n inner rest => .folder n inner.bare rest.bare

end Folder

/-- The entry with all files emptied. -/
def Entry.bare : Entry → Entry
  | .file _ => .file []
  | .folder inner => .folder inner.bare

namespace Folder

variable {f g inner : Folder} {n : String} {l : List String}

theorem get?_bare (n : String) (f : Folder) : f.bare.get? n = (f.get? n).map Entry.bare := by
  induction f with
  | empty => rfl
  | file k content rest ih =>
    simp only [bare, get?, ih]
    split_ifs <;> rfl
  | folder k inner rest _ ih =>
    simp only [bare, get?, ih]
    split_ifs <;> rfl

theorem walk_bare (refused : List String → Bool) (above : List String) (f : Folder) :
    f.bare.walk refused above = f.walk refused above := by
  induction f generalizing above with
  | empty => rfl
  | file k content rest ih => simp only [bare, walk, ih]
  | folder k inner rest ihInner ihRest => simp only [bare, walk, ihInner, ihRest]

/-! ## Trees with the same paths -/

/-- Two trees have the same files and the same folders. -/
def SamePaths (f g : Folder) : Prop :=
  ∀ names, (f.getAt? names).map Entry.isFile = (g.getAt? names).map Entry.isFile

theorem getAt?_of_folder (h : f.get? n = some (.folder inner)) :
    f.getAt? (n :: l) = inner.getAt? l := by
  cases l <;> simp [getAt?, h]

theorem getAt?_congr (h : f.get? n = g.get? n) : f.getAt? (n :: l) = g.getAt? (n :: l) := by
  cases l <;> simp [getAt?, h]

theorem SamePaths.symm (h : f.SamePaths g) : g.SamePaths f := fun names => (h names).symm

theorem SamePaths.get? (h : f.SamePaths g) (n : String) :
    (f.get? n).map Entry.isFile = (g.get? n).map Entry.isFile := h [n]

theorem SamePaths.inside {inner' : Folder} (h : f.SamePaths g)
    (hf : f.get? n = some (.folder inner)) (hg : g.get? n = some (.folder inner')) :
    inner.SamePaths inner' := by
  intro names
  rw [← getAt?_of_folder hf, ← getAt?_of_folder hg]
  exact h (n :: names)

theorem get?_cons (k : String) (e : Entry) (rest : Folder) :
    (cons n e rest).get? k = if n = k then some e else rest.get? k := by
  cases e <;> rfl

section Cons

variable {m : String} {e d : Entry} {rest rest' : Folder}

/-- The first name of a tree does not come before that of another with the same paths. -/
theorem SamePaths.not_lt (h : (cons n e rest).SamePaths (cons m d rest'))
    (hrest' : ∀ k ∈ rest'.names, m < k) : ¬ n < m := by
  intro hlt
  have hnone : rest'.get? n = none := get?_eq_none fun hn =>
    String.lt_irrefl _ (String.lt_trans hlt (hrest' n hn))
  have hne : m ≠ n := fun he => String.lt_irrefl _ (he ▸ hlt)
  have hsame := h.get? n
  simp [get?_cons, hne, hnone] at hsame

/-- Two trees with the same paths start with the same name, and go on with the same paths. -/
theorem SamePaths.of_cons (h : (cons n e rest).SamePaths (cons m d rest'))
    (hrest : ∀ k ∈ rest.names, n < k) (hrest' : ∀ k ∈ rest'.names, m < k) :
    n = m ∧ e.isFile = d.isFile ∧ rest.SamePaths rest' := by
  obtain rfl : n = m := by
    rcases lt_trichotomy n m with hlt | heq | hlt
    · exact absurd hlt (h.not_lt hrest')
    · exact heq
    · exact absurd hlt (h.symm.not_lt hrest)
  have hkind := h.get? n
  simp only [get?_cons, if_true, Option.map_some, Option.some.injEq] at hkind
  refine ⟨rfl, hkind, fun names => ?_⟩
  cases names with
  | nil => rfl
  | cons k l =>
    by_cases hk : n = k
    · subst hk
      have hnone := get?_eq_none (not_mem_names_of_lt hrest)
      rw [getAt?_congr (hnone.trans (get?_eq_none (not_mem_names_of_lt hrest')).symm)]
    · have hleft : (cons n e rest).get? k = rest.get? k := by rw [get?_cons, if_neg hk]
      have hright : (cons n d rest').get? k = rest'.get? k := by rw [get?_cons, if_neg hk]
      rw [← getAt?_congr hleft, ← getAt?_congr hright]
      exact h (k :: l)

theorem not_samePaths_empty : ¬ (cons n e rest).SamePaths .empty := by
  intro h
  have hn := h.get? n
  simp [get?_cons, Folder.get?] at hn

end Cons

/-- **Two trees with the same paths differ in the contents of their files alone.** -/
theorem bare_eq_of_samePaths (hf : f.Ordered) (hg : g.Ordered) (h : f.SamePaths g) :
    f.bare = g.bare := by
  induction f generalizing g with
  | empty =>
    cases g with
    | empty => rfl
    | file m c rest => exact absurd h.symm (not_samePaths_empty (e := .file c))
    | folder m inner rest => exact absurd h.symm (not_samePaths_empty (e := .folder inner))
  | file n c rest ih =>
    cases g with
    | empty => exact absurd h (not_samePaths_empty (e := .file c))
    | file m c' rest' =>
      obtain ⟨rfl, -, hrest⟩ := SamePaths.of_cons (e := .file c) (d := .file c') h hf.1 hg.1
      simp only [bare, ih hf.2 hg.2 hrest]
    | folder m inner' rest' =>
      obtain ⟨-, hkind, -⟩ := SamePaths.of_cons (e := .file c) (d := .folder inner') h hf.1 hg.1
      cases hkind
  | folder n inner rest ihInner ihRest =>
    cases g with
    | empty => exact absurd h (not_samePaths_empty (e := .folder inner))
    | file m c' rest' =>
      obtain ⟨-, hkind, -⟩ := SamePaths.of_cons (e := .folder inner) (d := .file c') h hf.1 hg.1
      cases hkind
    | folder m inner' rest' =>
      obtain ⟨rfl, -, hrest⟩ := SamePaths.of_cons (e := .folder inner) (d := .folder inner') h
        hf.1 hg.1
      have hinside : inner.SamePaths inner' :=
        h.inside (n := n) (by simp [Folder.get?]) (by simp [Folder.get?])
      simp only [bare, ihInner hf.2.1 hg.2.1 hinside, ihRest hf.2.2 hg.2.2 hrest]

theorem getAt?_bare (names : List String) (f : Folder) :
    f.bare.getAt? names = (f.getAt? names).map Entry.bare := by
  induction names generalizing f with
  | nil => rfl
  | cons n l ih =>
    have hbare := get?_bare n f
    cases l with
    | nil => exact hbare
    | cons k l =>
      simp only [getAt?, hbare]
      cases f.get? n with
      | none => rfl
      | some e =>
        cases e with
        | file content => rfl
        | folder inner => exact ih inner

theorem samePaths_of_bare_eq (h : f.bare = g.bare) : f.SamePaths g := by
  have hkind : ∀ e : Option Entry, (e.map Entry.bare).map Entry.isFile = e.map Entry.isFile := by
    rintro (_ | _ | _) <;> rfl
  intro names
  rw [← hkind, ← getAt?_bare, h, getAt?_bare, hkind]

end Folder

/-! ## Where a path leads -/

namespace Disk

variable {disk disk' : Disk} {p : Path}

/-- The disk with all files emptied. -/
def bare (disk : Disk) : Disk := { disk with root := disk.root.bare }

theorem follow_bare (above : List Folder) (here : Folder) (names : List String) :
    follow (above.map Folder.bare) here.bare names = (follow above here names).map Entry.bare := by
  induction names generalizing above here with
  | nil => rfl
  | cons n names ih =>
    by_cases hup : n = Path.up
    · simp only [follow, if_pos hup]
      cases above with
      | nil => exact ih [] here
      | cons top rest => exact ih rest top
    by_cases hlong : maxName < n.utf8ByteSize
    · rw [follow_of_long hup hlong, follow_of_long hup hlong]
      rfl
    have hbare := Folder.get?_bare n here
    cases hget : here.get? n with
    | none =>
      rw [hget] at hbare
      rw [follow_of_missing hup hlong hget, follow_of_missing hup hlong hbare]
      rfl
    | some e =>
      rw [hget] at hbare
      cases e with
      | folder inner =>
        rw [follow_of_folder hup hlong hget, follow_of_folder hup hlong hbare]
        exact ih (here :: above) inner
      | file content =>
        rw [follow_of_file hup hlong hget, follow_of_file hup hlong hbare]
        split_ifs <;> rfl

theorem locate_bare (p : Path) : disk.bare.locate p = (disk.locate p).map Entry.bare := by
  unfold locate
  split_ifs
  · rfl
  · rfl
  · exact follow_bare [] disk.root p.parts

theorem test_bare {good : Entry → Bool} (hgood : ∀ e, good (Entry.bare e) = good e) (p : Path) :
    disk.bare.test p good = disk.test p good := by
  unfold test
  rw [locate_bare]
  cases disk.locate p with
  | error cause => cases cause <;> rfl
  | ok e => simp [Except.map, hgood]

theorem isFile_bare (p : Path) : disk.bare.isFile p = disk.isFile p :=
  test_bare (fun e => by cases e <;> rfl) p

theorem isFolder_bare (p : Path) : disk.bare.isFolder p = disk.isFolder p :=
  test_bare (fun e => by cases e <;> rfl) p

theorem list_bare (p : Path) : disk.bare.list p = (disk.list p).map Folder.bare := by
  unfold list
  rw [locate_bare]
  cases disk.locate p with
  | error cause => rfl
  | ok e => cases e <;> rfl

theorem entriesBelow_bare (refused : String → Bool) (base : Option Path) (start : Path) :
    disk.bare.entriesBelow refused base start = disk.entriesBelow refused base start := by
  simp only [entriesBelow, list_bare]
  cases resolve start with
  | error failure => rfl
  | ok start =>
    dsimp only [bind, Except.bind]
    cases disk.list start with
    | error e => rfl
    | ok inner => simp only [Except.map, Folder.walk_bare]

end Disk

theorem Area.listing_bare (area : Area) (disk : Disk) (folder : Path) :
    area.listing disk.bare folder = area.listing disk folder := by
  have hvisit : disk.bare.visit = disk.visit := by
    funext p
    simp only [Disk.visit, Disk.isFolder_bare]
  simp only [listing, Disk.listing, Disk.listingBy, Disk.entriesBelow_bare, hvisit]

namespace Lookup

variable {disk : Disk}

theorem findExtended_bare (p : Path) (extensions : List String) :
    findExtended disk.bare p extensions = findExtended disk p extensions := by
  induction extensions with
  | nil => rfl
  | cons extension rest ih => simp only [findExtended, Disk.isFile_bare, ih]

theorem find_bare (lookup : Lookup) (p : Path) : lookup.find disk.bare p = lookup.find disk p := by
  simp only [find, findIndex, findExtended_bare, Disk.isFile_bare, Disk.isFolder_bare]

theorem targets_bare (lookup : Lookup) (source : Path) (specifier : String) (base : Path) :
    lookup.targets disk.bare source specifier base = lookup.targets disk source specifier base := by
  unfold targets
  generalize candidates source specifier base = paths
  suffices h : ∀ found, lookup.findAll disk.bare found paths = lookup.findAll disk found paths from
    h []
  induction paths with
  | nil => exact fun found => rfl
  | cons p rest ih => exact fun found => by simp only [findAll, find_bare, ih]

end Lookup

/-! ## What is read -/

section Texts

variable {disk disk' : Disk} {files : List Path}

theorem readSummary_congr {f : Path} (h : disk.readText f = disk'.readText f) :
    readSummary disk f = readSummary disk' f := by
  simp only [readSummary, h]

theorem sagaClaims_congr (h : ∀ f ∈ files, disk.readText f = disk'.readText f) :
    sagaClaims disk files = sagaClaims disk' files := by
  induction files with
  | nil => rfl
  | cons file rest ih =>
    obtain ⟨hfile, hrest⟩ := List.forall_mem_cons.mp h
    simp only [sagaClaims, readSummary_congr hfile, ih hrest]

theorem definedIn_congr {rule : SagaRule}
    (h : ∀ f ∈ files, disk.readText f = disk'.readText f)
    (hsaga : ∀ f ∈ files, ∀ reducer name, rule.fileName? reducer = some name →
      disk.isFile (f.parent.joinText name) = disk'.isFile (f.parent.joinText name)) :
    definedIn disk rule files = definedIn disk' rule files := by
  have hbeside : ∀ f ∈ files, ∀ reducer,
      sagaBeside disk rule reducer f = sagaBeside disk' rule reducer f := by
    intro f hf reducer
    unfold sagaBeside
    cases hname : rule.fileName? reducer with
    | none => rfl
    | some name => simp only [hsaga f hf reducer name hname]
  induction files with
  | nil => rfl
  | cons file rest ih =>
    obtain ⟨hhead, hrest⟩ := List.forall_mem_cons.mp h
    obtain ⟨hsagaHead, hsagaRest⟩ := List.forall_mem_cons.mp hsaga
    obtain ⟨hbesideHead, hbesideRest⟩ := List.forall_mem_cons.mp hbeside
    simp only [definedIn, definedBy, readSummary_congr hhead, hbesideHead,
      ih hrest hsagaRest hbesideRest]

theorem SagaRule.of_fileName? {rule : SagaRule} {reducer name : String}
    (h : rule.fileName? reducer = some name) : name ≠ "" ∧
      (rule = .fixed name ∨
        ∃ claims, rule = .claimed claims ∧ lastClaim? claims reducer = some name) := by
  unfold fileName? at h
  obtain ⟨hname, hne⟩ := Option.filter_eq_some_iff.mp h
  refine ⟨by simpa using hne, ?_⟩
  cases rule with
  | fixed n => exact .inl (congrArg SagaRule.fixed (Option.some.inj hname))
  | claimed claims => exact .inr ⟨claims, rfl, hname⟩

theorem exists_of_mem_sagaClaims {claims : List (String × String)}
    (h : sagaClaims disk files = .ok claims) :
    ∀ claim ∈ claims, ∃ f ∈ files, f.name = claim.2 := by
  induction files generalizing claims with
  | nil =>
    cases h
    simp
  | cons file rest ih =>
    unfold sagaClaims at h
    obtain ⟨summary, -, h⟩ := bind_eq_ok h
    obtain ⟨others, hothers, h⟩ := bind_eq_ok h
    have hrest : ∀ claim ∈ others, ∃ f ∈ file :: rest, f.name = claim.2 := fun claim hclaim => by
      obtain ⟨f, hf, hname⟩ := ih hothers claim hclaim
      exact ⟨f, List.mem_cons_of_mem _ hf, hname⟩
    cases hvalue : summary.value? Source.sagaMarker with
    | none =>
      rw [hvalue] at h
      cases h
      exact hrest
    | some reducer =>
      rw [hvalue] at h
      cases h
      exact List.forall_mem_cons.mpr ⟨⟨file, List.mem_cons_self, rfl⟩, hrest⟩

theorem mem_of_lastClaim? {claims : List (String × String)} {reducer name : String}
    (h : lastClaim? claims reducer = some name) : (reducer, name) ∈ claims := by
  obtain ⟨before, after, hsplit, -⟩ := List.lookup_eq_some_iff.mp h
  exact List.mem_reverse.mp (hsplit ▸ List.mem_append_right before List.mem_cons_self)

/-- The reducers of a folder depend on the texts of its files, and on which of the files there are
that can be sagas. -/
theorem definitions_congr {area : Area} {folder : Path} {sagaName : Option String}
    (hlisted : area.listing disk folder = area.listing disk' folder)
    (h : ∀ f ∈ (area.listing disk folder).files, disk.readText f = disk'.readText f)
    (hsaga : ∀ f ∈ (area.listing disk folder).files, ∀ name, (sagaName = some name ∨
      ∃ g ∈ (area.listing disk folder).files, g.name = name) → name ≠ "" →
        disk.isFile (f.parent.joinText name) = disk'.isFile (f.parent.joinText name)) :
    definitions disk area sagaName folder = definitions disk' area sagaName folder := by
  simp only [definitions, sagaNames, ← hlisted]
  generalize area.listing disk folder = listing at h hsaga
  have hrule : ∀ rule : SagaRule, (∀ name, rule = .fixed name → sagaName = some name) →
      (∀ claims, rule = .claimed claims → sagaClaims disk listing.files = .ok claims) →
      definedIn disk rule listing.files = definedIn disk' rule listing.files := by
    intro rule hfixed hclaimed
    refine definedIn_congr h fun f hf reducer name hname => ?_
    obtain ⟨hne, hrule | ⟨claims, hrule, hlast⟩⟩ := SagaRule.of_fileName? hname
    · exact hsaga f hf name (.inl (hfixed name hrule)) hne
    · have hsome := exists_of_mem_sagaClaims (hclaimed claims hrule) _ (mem_of_lastClaim? hlast)
      exact hsaga f hf name (.inr hsome) hne
  cases sagaName with
  | some name =>
    dsimp only [bind, Except.bind]
    rw [hrule (.fixed name) (by simp) (by simp)]
  | none =>
    rw [← sagaClaims_congr h]
    cases hclaims : sagaClaims disk listing.files with
    | error failure => rfl
    | ok claims =>
      dsimp only [bind, Except.bind]
      cases listing.ending with
      | error failure => rfl
      | ok =>
        change (definedIn disk (.claimed claims) listing.files >>= _) =
          (definedIn disk' (.claimed claims) listing.files >>= _)
        rw [hrule (.claimed claims) (by simp) (by simp [hclaims])]

/-- What stands at a node depends on the text of its file, and on where the module names of its
references lead. -/
theorem Surveyor.read_congr {surveyor : Surveyor} {x : Node}
    (htext : disk.readText x.file = disk'.readText x.file)
    (htargets : ∀ content, disk.readText x.file = .ok content →
      ∀ reference ∈ (Source.Summary.of content).references, reference.admitted x.asked = true →
        ∀ specifier ∈ reference.specifiers,
          surveyor.lookup.targets disk x.file specifier surveyor.base =
            surveyor.lookup.targets disk' x.file specifier surveyor.base)
    (excluded : List String) (blocked : List Path) :
    surveyor.read disk excluded blocked x = surveyor.read disk' excluded blocked x := by
  unfold read
  rw [← htext]
  cases hcontent : disk.readText x.file with
  | error e => rfl
  | ok content =>
    refine congrArg (Reading.source _) (List.flatMap_congr fun reference href => ?_)
    unfold referenceSteps
    split_ifs with hadmitted
    · refine List.flatMap_congr fun specifier hspecifier => ?_
      rw [specifierSteps, htargets content hcontent reference href hadmitted specifier hspecifier]
      rfl
    · rfl

end Texts

/-! ## Surveys -/

/-- **A file that is not read has no influence on a survey.** Whatever the settings: two trees with
the same files and folders and the same faults give the same survey, notes included, if they agree
on the text of every file that a reducer folder lists, and of every file at a node that the survey
comes to in the first tree. -/
theorem survey_eq_of_unread (settings : Settings) (disk disk' : Disk) (hdisk : disk.root.Ordered)
    (hdisk' : disk'.root.Ordered) (hpaths : disk.root.SamePaths disk'.root)
    (hfaults : disk.faults = disk'.faults)
    (hlisted : ∀ folder ∈ settings.reducerFolders, ∀ f ∈ (settings.area.listing disk folder).files,
      disk.readText f = disk'.readText f)
    (hvisited : ∀ x, settings.Visits disk x → disk.readText x.file = disk'.readText x.file) :
    survey disk settings = survey disk' settings := by
  have hbare : disk.bare = disk'.bare := by
    simp only [Disk.bare, Folder.bare_eq_of_samePaths hdisk hdisk' hpaths, hfaults]
  have hfile : ∀ p, disk.isFile p = disk'.isFile p := fun p => by
    rw [← disk.isFile_bare, hbare, Disk.isFile_bare]
  have hbelow : ∀ folder, settings.area.listing disk folder = settings.area.listing disk' folder :=
    fun folder => by rw [← Area.listing_bare, hbare, Area.listing_bare]
  refine survey_congr ⟨fun folder hfolder => ?_, hfile _, fun folder _ => ?_, fun file _ => ?_,
    fun x hx reducers excluded => ?_⟩
  · exact definitions_congr (hbelow folder) (hlisted folder hfolder) fun _ _ _ _ _ => hfile _
  · rw [Area.OffersAlike, hbelow]
    exact ⟨rfl, rfl⟩
  · rw [← Lookup.find_bare, hbare, Lookup.find_bare]
  · refine Surveyor.read_congr (hvisited x hx) (fun _ _ _ _ _ _ _ => ?_) _ _
    rw [← Lookup.targets_bare, hbare, Lookup.targets_bare]

/-- The small project with something else in a file that is no container. -/
def retestedDisk : Disk where
  root :=
    .file "app.js" (Text.Utf8.encode "import './user/actions';".toList) <|
    .folder "cart"
      (.file "actions.js" [] <|
        .file "reducer.js" (Text.Utf8.encode "PRM_REDUCER_NAME = 'cart';".toList) .empty) <|
    .folder "pages"
      (.file "home.js"
          (Text.Utf8.encode "import '../cart/actions'; import '../user/actions';".toList) <|
        .file "home.test.js" (Text.Utf8.encode "import './home';".toList) .empty) <|
    .folder "user"
      (.file "actions.js" [] <|
        .file "reducer.js" (Text.Utf8.encode "PRM_REDUCER_NAME = 'user';".toList) .empty)
      .empty

/-- The settings of the small project with a folder for each reducer. -/
def retestedSettings : Settings :=
  { shopSettings with reducerFolders := [Path.parse "/cart", Path.parse "/user"] }

/-- The nodes that a survey of the small project comes to. -/
def shopNodes : List Node :=
  ["/app.js", "/user/actions.js", "/pages/home.js", "/cart/actions.js"].map fun file =>
    ⟨Path.parse file, none⟩

theorem mem_shopNodes {x : Node} (hx : retestedSettings.Visits shopDisk x) : x ∈ shopNodes := by
  have hmain : (retestedSettings.surveyor []).lookup.find shopDisk retestedSettings.mainApp =
      .ok (some (Path.parse "/app.js")) := by
    decide +kernel
  have hlisted : ∀ folder ∈ retestedSettings.containerFolders,
      (retestedSettings.area.listing shopDisk folder).files =
        [Path.parse "/pages/home.js", Path.parse "/pages/home.test.js"] := by
    decide +kernel
  have hhome : ∀ f ∈ [Path.parse "/pages/home.js", Path.parse "/pages/home.test.js"],
      isContainer f = true → (retestedSettings.surveyor []).lookup.find shopDisk f =
        .ok (some (Path.parse "/pages/home.js")) := by
    decide +kernel
  have hclosed : ∀ a ∈ shopNodes, ∀ step ∈ ((retestedSettings.surveyor []).read shopDisk [] []
      a).steps, ∃ b ∈ shopNodes, step = .follow b := by
    decide +kernel
  refine hx.mem ?_ fun a ha step hstep b hb => ?_
  · rintro file found (rfl | ⟨hcontainer, folder, hfolder, hfile⟩) hfound
    · cases hmain.symm.trans hfound
      decide +kernel
    · rw [hlisted folder hfolder] at hfile
      cases (hhome file hfile hcontainer).symm.trans hfound
      decide +kernel
  · obtain ⟨c, hc, rfl⟩ := hclosed a ha step hstep
    cases hb
    exact hc

theorem survey_retestedDisk :
    (survey shopDisk retestedSettings).2 = .ok shopAtlas ∧ shopDisk ≠ retestedDisk ∧
      survey shopDisk retestedSettings = survey retestedDisk retestedSettings := by
  have hlisted : ∀ folder ∈ retestedSettings.reducerFolders,
      ∀ f ∈ (retestedSettings.area.listing shopDisk folder).files,
        shopDisk.readText f = retestedDisk.readText f := by
    decide +kernel
  have hvisited : ∀ x ∈ shopNodes, shopDisk.readText x.file = retestedDisk.readText x.file := by
    decide +kernel
  refine ⟨by decide +kernel, by decide +kernel, survey_eq_of_unread _ _ _ (by decide +kernel)
    (by decide +kernel) (Folder.samePaths_of_bare_eq (by decide +kernel)) rfl hlisted
    fun x hx => hvisited x (mem_shopNodes hx)⟩

end ReducerAtlas
