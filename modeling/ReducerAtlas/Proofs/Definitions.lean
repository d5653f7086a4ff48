import ReducerAtlas.Proofs.GrownDisk
import ReducerAtlas.Reducer.Registry

/-!
# The reducers below a folder

A file tells by constants what it is to a reducer: its definition, or its saga file. Of several
values in one file the first counts, and of several files with one value the first or the last in
the order of their paths.

* `Disk.mark?`: the value of a constant in a file.
* `Marked`: a file below a folder with such a value; `FirstMarked`, `LastMarked`: the first and the
  last of them.
* `find?_marked_iff`, `find?_reverse_marked_iff`: how a search through a listing finds them.
* `Readable`: all that is to be read can be read; `AsksFor`: the saga file that is looked for;
  `SagasFit`: no path of such a file is too long.
* **`exists_definitions_iff`**: when the reducers of a folder are found.
* **`mem_definitions_iff`**: which they are, and where their sagas are.
-/

namespace ReducerAtlas

/-! ## Marks -/

namespace Source

theorem lookup_filter {l : List (String × String)} {name other : String} (h : name ≠ other) :
    (l.filter (·.1 != other)).lookup name = l.lookup name := by
  induction l with
  | nil => rfl
  | cons pair l ih =>
    obtain ⟨n, value⟩ := pair
    by_cases hn : n = other
    · subst hn
      have hname : (name == n) = false := by simpa using h
      simp [ih, List.lookup_cons, hname]
    · simp [hn, ih, List.lookup_cons]

theorem lookup_firstValues (l : List (String × String)) (name : String) :
    (firstValues l).lookup name = l.lookup name := by
  induction l with
  | nil => rfl
  | cons pair l ih =>
    obtain ⟨n, value⟩ := pair
    by_cases hn : name = n
    · simp [firstValues, hn]
    · have hname : (name == n) = false := by simpa using hn
      simp [firstValues, List.lookup_cons, hname, lookup_filter hn, ih]

theorem Summary.value?_of (content : List Char) (name : String) :
    (Summary.of content).value? name = constantValue? content name :=
  lookup_firstValues _ name

end Source

/-- The text of a file can be read. -/
def Disk.Reads (disk : Disk) (file : Path) : Prop := ∃ text, disk.readText file = .ok text

/-- **The first value that a file gives to a constant.** -/
def Disk.mark? (disk : Disk) (marker : String) (file : Path) : Option String :=
  match disk.readText file with
  | .ok text => Source.constantValue? text marker
  | .error _ => none

theorem readSummary_eq_ok_iff {disk : Disk} {file : Path} {summary : Source.Summary} :
    readSummary disk file = .ok summary ↔
      ∃ text, disk.readText file = .ok text ∧ Source.Summary.of text = summary := by
  simp only [readSummary, bind_eq_ok_iff, liftIo_eq_ok]
  simp [pure, Except.pure]

theorem Disk.mark?_of_readText {disk : Disk} {file : Path} {text : List Char}
    (h : disk.readText file = .ok text) (marker : String) :
    disk.mark? marker file = Source.constantValue? text marker := by
  rw [mark?, h]

/-- **A file below a folder with a mark**: it is not refused, and the first value that it gives to a
constant is the given one. -/
structure Marked (disk : Disk) (area : Area) (folder : Path) (marker value : String) (file : Path) :
    Prop where
  lists : disk.Lists area.refused (area.base.getD folder) folder file
  mark : disk.mark? marker file = some value

/-- The first file below a folder with a mark: any other comes behind it in the order of paths. -/
structure FirstMarked (disk : Disk) (area : Area) (folder : Path) (marker value : String)
    (file : Path) : Prop extends Marked disk area folder marker value file where
  first : ∀ g, Marked disk area folder marker value g → g ≠ file → file.parts < g.parts

/-- The last file below a folder with a mark: any other comes before it in the order of paths. -/
structure LastMarked (disk : Disk) (area : Area) (folder : Path) (marker value : String)
    (file : Path) : Prop extends Marked disk area folder marker value file where
  last : ∀ g, Marked disk area folder marker value g → g ≠ file → g.parts < file.parts

/-! ## Searches through a listing -/

theorem find?_eq_some_iff_of_pairwise {α : Type} {r : α → α → Prop} {l : List α} {p : α → Bool}
    {x : α} (h : l.Pairwise r) (hasymm : ∀ a b, r a b → ¬ r b a) :
    l.find? p = some x ↔ x ∈ l ∧ p x = true ∧ ∀ y ∈ l, p y = true → y ≠ x → r x y := by
  induction l with
  | nil => simp
  | cons a l ih =>
    obtain ⟨ha, hl⟩ := List.pairwise_cons.mp h
    by_cases hp : p a = true
    · rw [List.find?_cons_of_pos hp, Option.some.injEq]
      constructor
      · rintro rfl
        refine ⟨List.mem_cons_self, hp, fun y hy _ hne => ?_⟩
        exact ha y ((List.mem_cons.mp hy).resolve_left hne)
      · rintro ⟨hx, -, hleast⟩
        by_contra hne
        have hxl : x ∈ l := (List.mem_cons.mp hx).resolve_left (Ne.symm hne)
        exact hasymm a x (ha x hxl) (hleast a List.mem_cons_self hp hne)
    · rw [List.find?_cons_of_neg hp, ih hl]
      have hmem : ∀ y, p y = true → (y ∈ a :: l ↔ y ∈ l) := by
        intro y hy
        rw [List.mem_cons, or_iff_right]
        rintro rfl
        exact hp hy
      constructor
      · rintro ⟨hx, hpx, hleast⟩
        exact ⟨(hmem x hpx).mpr hx, hpx, fun y hy hpy => hleast y ((hmem y hpy).mp hy) hpy⟩
      · rintro ⟨hx, hpx, hleast⟩
        exact ⟨(hmem x hpx).mp hx, hpx, fun y hy hpy => hleast y ((hmem y hpy).mpr hy) hpy⟩

section Listing

variable {disk : Disk} {area : Area} {folder f : Path} {files : List Path} {marker value : String}

/-- A search for a mark through the files of a folder, in any order. -/
theorem find?_mark_iff {r : Path → Path → Prop}
    (hmem : ∀ f, f ∈ files ↔ disk.Lists area.refused (area.base.getD folder) folder f)
    (hfiles : files.Pairwise r) (hasymm : ∀ f g, r f g → ¬ r g f) :
    files.find? (fun f => disk.mark? marker f == some value) = some f ↔
      Marked disk area folder marker value f ∧
        ∀ g, Marked disk area folder marker value g → g ≠ f → r f g := by
  simp only [find?_eq_some_iff_of_pairwise hfiles hasymm, hmem, beq_iff_eq]
  constructor
  · rintro ⟨hlists, hmark, hleast⟩
    exact ⟨⟨hlists, hmark⟩, fun g hg => hleast g hg.lists hg.mark⟩
  · rintro ⟨⟨hlists, hmark⟩, hleast⟩
    exact ⟨hlists, hmark, fun g hg hgmark => hleast g ⟨hg, hgmark⟩⟩

variable (hroot : disk.root.Ordered)
  (h : disk.filesBelow area.refused area.base folder = .ok files)

include hroot h

theorem find?_marked_iff :
    files.find? (fun f => disk.mark? marker f == some value) = some f ↔
      FirstMarked disk area folder marker value f := by
  rw [find?_mark_iff (fun _ => Disk.mem_filesBelow_iff hroot h)
    (Disk.pairwise_filesBelow hroot h) fun _ _ hlt => hlt.asymm]
  exact ⟨fun h => ⟨h.1, h.2⟩, fun h => ⟨h.toMarked, h.first⟩⟩

theorem find?_reverse_marked_iff :
    files.reverse.find? (fun f => disk.mark? marker f == some value) = some f ↔
      LastMarked disk area folder marker value f := by
  rw [find?_mark_iff (r := fun f g => g.parts < f.parts)
    (fun _ => List.mem_reverse.trans (Disk.mem_filesBelow_iff hroot h))
    (List.pairwise_reverse.mpr (Disk.pairwise_filesBelow hroot h)) fun _ _ hlt => hlt.asymm]
  exact ⟨fun h => ⟨h.1, h.2⟩, fun h => ⟨h.toMarked, h.last⟩⟩

theorem exists_lastMarked (hf : Marked disk area folder marker value f) :
    ∃ g, LastMarked disk area folder marker value g := by
  have hmem : f ∈ files.reverse :=
    List.mem_reverse.mpr ((Disk.mem_filesBelow_iff hroot h).mpr hf.lists)
  have hsome : (files.reverse.find? fun f => disk.mark? marker f == some value).isSome = true :=
    List.find?_isSome.mpr ⟨f, hmem, by simp [hf.mark]⟩
  obtain ⟨g, hg⟩ := Option.isSome_iff_exists.mp hsome
  exact ⟨g, (find?_reverse_marked_iff hroot h).mp hg⟩

end Listing

/-! ## What is found in a listing -/

/-- The claim of a file on a reducer: the reducer and the name of the file. -/
def claim? (disk : Disk) (file : Path) : Option (String × String) :=
  (disk.mark? Source.sagaMarker file).map (·, file.name)

/-- The rule for saga files in a folder with the given files. -/
def ruleFor (disk : Disk) (sagaName : Option String) (files : List Path) : SagaRule :=
  match sagaName with
  | some name => .fixed name
  | none => .claimed (files.filterMap (claim? disk))

/-- The saga file beside a definition, if it is there. -/
def saga? (disk : Disk) (rule : SagaRule) (reducer : String) (file : Path) : Option Path :=
  ((rule.fileName? reducer).map file.parent.joinText).filter
    fun candidate => disk.isFile candidate = .ok true

/-- The reducer that a file defines, if any. -/
def defined? (disk : Disk) (rule : SagaRule) (file : Path) : Option Reducer :=
  (disk.mark? Source.reducerMarker file).map fun name => ⟨name, file, saga? disk rule name file⟩

/-- The path of the saga file of a reducer is not too long to be tested. -/
def SagaPathFits (disk : Disk) (rule : SagaRule) (file : Path) : Prop :=
  ∀ reducer, disk.mark? Source.reducerMarker file = some reducer →
    ∀ saga, rule.fileName? reducer = some saga →
      disk.locate (file.parent.joinText saga) ≠ .error .nameTooLong

section Found

variable {disk : Disk} {rule : SagaRule} {file : Path} {files : List Path} {reducer : String}

theorem sagaClaims_eq_ok_iff {claims : List (String × String)} :
    sagaClaims disk files = .ok claims ↔
      (∀ f ∈ files, disk.Reads f) ∧ files.filterMap (claim? disk) = claims := by
  induction files generalizing claims with
  | nil => simp [sagaClaims]
  | cons file rest ih =>
    simp only [sagaClaims, bind_eq_ok_iff, readSummary_eq_ok_iff, ih, List.forall_mem_cons]
    constructor
    · rintro ⟨_, ⟨text, htext, rfl⟩, others, ⟨hreads, rfl⟩, h⟩
      refine ⟨⟨⟨text, htext⟩, hreads⟩, ?_⟩
      rw [Source.Summary.value?_of, ← Disk.mark?_of_readText htext] at h
      cases hmark : disk.mark? Source.sagaMarker file <;>
        simpa [claim?, hmark, pure, Except.pure] using h
    · rintro ⟨⟨⟨text, htext⟩, hreads⟩, rfl⟩
      refine ⟨_, ⟨text, htext, rfl⟩, _, ⟨hreads, rfl⟩, ?_⟩
      rw [Source.Summary.value?_of, ← Disk.mark?_of_readText htext]
      cases hmark : disk.mark? Source.sagaMarker file <;>
        simp [claim?, hmark, pure, Except.pure]

theorem sagaBeside_eq_ok_iff {saga : Option Path} :
    sagaBeside disk rule reducer file = .ok saga ↔
      (∀ name, rule.fileName? reducer = some name →
        disk.locate (file.parent.joinText name) ≠ .error .nameTooLong) ∧
      saga? disk rule reducer file = saga := by
  cases hname : rule.fileName? reducer with
  | none => simp [sagaBeside, saga?, hname, pure, Except.pure]
  | some name =>
    cases htest : disk.isFile (file.parent.joinText name) with
    | error e =>
      have hlong := (Disk.isFile_eq_error_iff.mp htest).1
      simp [sagaBeside, hname, htest, hlong, liftIo, bind, Except.bind]
    | ok answer =>
      have hfits : disk.locate (file.parent.joinText name) ≠ .error .nameTooLong := by
        intro hlong
        cases htest.symm.trans (Disk.isFile_eq_error_iff.mpr ⟨hlong, rfl⟩)
      cases answer <;>
        simp [sagaBeside, saga?, hname, htest, hfits, liftIo, bind, Except.bind, pure, Except.pure,
          Option.filter]

theorem definedBy_of_readText {text : List Char} (htext : disk.readText file = .ok text)
    {found : Option Reducer} : definedBy disk rule file = .ok found ↔
      SagaPathFits disk rule file ∧ defined? disk rule file = found := by
  have hsummary : readSummary disk file = .ok (Source.Summary.of text) :=
    readSummary_eq_ok_iff.mpr ⟨text, htext, rfl⟩
  simp only [definedBy, hsummary, bind_eq_ok_iff, Except.ok.injEq, exists_eq_left',
    Source.Summary.value?_of, ← Disk.mark?_of_readText htext]
  cases hmark : disk.mark? Source.reducerMarker file with
  | none => simp [SagaPathFits, defined?, hmark, pure, Except.pure]
  | some name =>
    simp [SagaPathFits, defined?, hmark, bind_eq_ok_iff, sagaBeside_eq_ok_iff, pure, Except.pure,
      and_assoc]

theorem definedBy_eq_ok_iff {found : Option Reducer} :
    definedBy disk rule file = .ok found ↔
      disk.Reads file ∧ SagaPathFits disk rule file ∧ defined? disk rule file = found := by
  constructor
  · intro h
    obtain ⟨summary, hsummary, -⟩ := bind_eq_ok h
    obtain ⟨text, htext, -⟩ := readSummary_eq_ok_iff.mp hsummary
    exact ⟨⟨text, htext⟩, (definedBy_of_readText htext).mp h⟩
  · rintro ⟨⟨text, htext⟩, h⟩
    exact (definedBy_of_readText htext).mpr h

theorem definedIn_eq_ok_iff {found : List Reducer} :
    definedIn disk rule files = .ok found ↔
      (∀ f ∈ files, disk.Reads f ∧ SagaPathFits disk rule f) ∧
        files.filterMap (defined? disk rule) = found := by
  induction files generalizing found with
  | nil => simp [definedIn]
  | cons file rest ih =>
    have hcons : (file :: rest).filterMap (defined? disk rule) =
        (defined? disk rule file).toList ++ rest.filterMap (defined? disk rule) := by
      rw [List.filterMap_cons]
      cases defined? disk rule file <;> rfl
    simp only [definedIn, bind_eq_ok_iff, definedBy_eq_ok_iff, ih, List.forall_mem_cons, hcons]
    constructor
    · rintro ⟨_, ⟨hreads, hfits, rfl⟩, _, ⟨hrest, rfl⟩, h⟩
      cases h
      exact ⟨⟨⟨hreads, hfits⟩, hrest⟩, rfl⟩
    · rintro ⟨⟨⟨hreads, hfits⟩, hrest⟩, rfl⟩
      exact ⟨_, ⟨hreads, hfits, rfl⟩, _, ⟨hrest, rfl⟩, rfl⟩

/-- The claim that counts is that of the last file with the mark. -/
theorem lastClaim?_filterMap :
    lastClaim? (files.filterMap (claim? disk)) reducer =
      (files.reverse.find? fun f => disk.mark? Source.sagaMarker f == some reducer).map
        (·.name) := by
  rw [lastClaim?, ← List.filterMap_reverse]
  induction files.reverse with
  | nil => rfl
  | cons f l ih =>
    cases hmark : disk.mark? Source.sagaMarker f with
    | none => simpa [claim?, hmark] using ih
    | some value =>
      by_cases hvalue : reducer = value
      · simp [claim?, hmark, hvalue]
      · have hne : (reducer == value) = false := by simpa using hvalue
        simpa [claim?, hmark, List.lookup_cons, hne, Ne.symm hvalue] using ih

theorem find?_defined (name : String) :
    (files.filterMap (defined? disk rule)).find? (·.name == name) =
      (files.find? fun f => disk.mark? Source.reducerMarker f == some name).bind
        (defined? disk rule) := by
  rw [List.find?_filterMap]
  congr 2
  funext f
  cases hmark : disk.mark? Source.reducerMarker f <;> simp [defined?, hmark]

end Found

/-! ## The reducers of a folder -/

/-- **All that is to be read can be read**: the base has an absolute form, the folder is there, and
each file below it that is not refused has a text. -/
structure Readable (disk : Disk) (area : Area) (folder : Path) : Prop where
  base : ∀ b ∈ area.base, ∃ q, b.resolve? = some q
  start : ∃ start inner, folder.resolve? = some start ∧ disk.list start = .ok inner
  read : ∀ f, disk.Lists area.refused (area.base.getD folder) folder f → disk.Reads f

/-- **The name of the saga file that is looked for** beside the definition of a reducer: the fixed
one, or that of the last file below the folder that is marked as the saga file of the reducer. -/
def AsksFor (disk : Disk) (area : Area) (sagaName : Option String) (folder : Path)
    (reducer saga : String) : Prop :=
  saga ≠ "" ∧
    match sagaName with
    | some name => saga = name
    | none => ∃ g, LastMarked disk area folder Source.sagaMarker reducer g ∧ saga = g.name

/-- No saga file that is looked for has a path that is too long to be tested. -/
def SagasFit (disk : Disk) (area : Area) (sagaName : Option String) (folder : Path) : Prop :=
  ∀ reducer file, Marked disk area folder Source.reducerMarker reducer file →
    ∀ saga, AsksFor disk area sagaName folder reducer saga →
      disk.locate (file.parent.joinText saga) ≠ .error .nameTooLong

theorem Disk.resolved_joinText {p : Path} {name : String} (hp : p.Resolved)
    (hname : FileName name) : (p.joinText name).Resolved := by
  obtain ⟨hsegment, hup, hnull⟩ := hname
  rw [Path.joinText_of_segment hsegment]
  refine ⟨hp.anchor, ?_, Path.hasNull_eq_false_iff.mpr ?_⟩
  · simpa [Ne.symm hup] using hp.not_up
  · rw [List.forall_mem_append]
    exact ⟨Path.hasNull_eq_false_iff.mp hp.not_null, by simpa using hnull⟩

section Definitions

variable {disk : Disk} {area : Area} {sagaName : Option String} {folder : Path} {files : List Path}
  {found : List Reducer}

theorem fileName?_ruleFor_iff (hroot : disk.root.Ordered)
    (h : disk.filesBelow area.refused area.base folder = .ok files) {reducer saga : String} :
    (ruleFor disk sagaName files).fileName? reducer = some saga ↔
      AsksFor disk area sagaName folder reducer saga := by
  have hempty : (!saga.isEmpty) = true ↔ saga ≠ "" := by simp
  cases sagaName with
  | some name =>
    rw [ruleFor, SagaRule.fileName?, Option.filter_eq_some_iff, hempty, AsksFor, and_comm]
    simp [eq_comm]
  | none =>
    rw [ruleFor, SagaRule.fileName?, Option.filter_eq_some_iff, hempty, AsksFor, and_comm,
      lastClaim?_filterMap, Option.map_eq_some_iff]
    simp only [find?_reverse_marked_iff hroot h, eq_comm (a := saga)]

theorem bind_ending_eq_ok_iff {α : Type} {x : Except Failure α} {ending : Except Failure Unit}
    {a : α} :
    (x >>= fun b => ending >>= fun _ => pure b) = .ok a ↔ x = .ok a ∧ ending = .ok () := by
  cases x <;> cases ending <;> simp [bind, Except.bind, pure, Except.pure]

/-- How the reducers of a folder are found. -/
theorem definitions_eq_ok_iff :
    definitions disk area sagaName folder = .ok found ↔
      ∃ files, area.listing disk folder = ⟨files, .ok ()⟩ ∧
        (∀ f ∈ files, disk.Reads f ∧ SagaPathFits disk (ruleFor disk sagaName files) f) ∧
        files.filterMap (defined? disk (ruleFor disk sagaName files)) = found := by
  cases hlisting : area.listing disk folder with
  | mk files ending =>
    simp only [definitions, sagaNames, hlisting, Disk.Listing.mk.injEq, and_assoc, exists_eq_left']
    cases sagaName with
    | some name =>
      change (definedIn disk (.fixed name) files >>= _) = _ ↔ _
      rw [bind_ending_eq_ok_iff, definedIn_eq_ok_iff, and_comm]
      rfl
    | none =>
      simp only [bind_eq_ok_iff (f := fun rule => definedIn disk rule files >>= _),
        bind_ending_eq_ok_iff, definedIn_eq_ok_iff, ruleFor]
      constructor
      · rintro ⟨rule, hrule, ⟨hfits, rfl⟩, hending⟩
        cases hclaims : sagaClaims disk files with
        | error failure => simp [hclaims, bind, Except.bind, Except.map] at hrule
        | ok claims =>
          obtain ⟨-, rfl⟩ := sagaClaims_eq_ok_iff.mp hclaims
          rw [hclaims, hending] at hrule
          cases hrule
          exact ⟨hending, hfits, rfl⟩
      · rintro ⟨rfl, hfits, rfl⟩
        refine ⟨_, ?_, ⟨hfits, rfl⟩, rfl⟩
        rw [sagaClaims_eq_ok_iff.mpr ⟨fun f hf => (hfits f hf).1, rfl⟩]
        rfl

/-- **The reducers of a folder are found** exactly if all can be read, no entry stops the walk and
no path of a saga file is too long. -/
theorem exists_definitions_iff (hroot : disk.root.Ordered) :
    (∃ found, definitions disk area sagaName folder = .ok found) ↔
      Readable disk area folder ∧ area.EntriesFit disk folder ∧
        SagasFit disk area sagaName folder := by
  have hfits : ∀ files, disk.filesBelow area.refused area.base folder = .ok files →
      ((∀ f ∈ files, SagaPathFits disk (ruleFor disk sagaName files) f) ↔
        SagasFit disk area sagaName folder) := by
    intro files hfiles
    simp only [SagaPathFits, SagasFit, fileName?_ruleFor_iff hroot hfiles,
      Disk.mem_filesBelow_iff hroot hfiles]
    exact ⟨fun h reducer f hf => h f hf.lists reducer hf.mark,
      fun h f hf reducer hmark => h reducer f ⟨hf, hmark⟩⟩
  simp only [definitions_eq_ok_iff]
  constructor
  · rintro ⟨found, files, hlisting, hfound, -⟩
    have hfiles := Area.filesBelow_of_listing hroot hlisting
    obtain ⟨hentries, hshort⟩ :=
      (Area.ending_listing_eq_ok_iff hroot).mp (congrArg Disk.Listing.ending hlisting)
    obtain ⟨hbase, hstart⟩ := Disk.exists_entriesBelow_iff.mp hentries
    refine ⟨⟨hbase, hstart, fun f hf => ?_⟩, hshort,
      (hfits files hfiles).mp fun f hf => (hfound f hf).2⟩
    exact (hfound f ((Disk.mem_filesBelow_iff hroot hfiles).mpr hf)).1
  · rintro ⟨hread, hshort, hsagas⟩
    have hending := (Area.ending_listing_eq_ok_iff hroot).mpr
      ⟨Disk.exists_entriesBelow_iff.mpr ⟨hread.base, hread.start⟩, hshort⟩
    obtain ⟨files, hlisting⟩ := Area.exists_listing_eq hending
    have hfiles := Area.filesBelow_of_listing hroot hlisting
    refine ⟨_, files, hlisting, fun f hf => ⟨?_, (hfits files hfiles).mpr hsagas f hf⟩, rfl⟩
    exact hread.read f ((Disk.mem_filesBelow_iff hroot hfiles).mp hf)

theorem saga?_ruleFor_iff (hroot : disk.root.Ordered)
    (h : disk.filesBelow area.refused area.base folder = .ok files) {reducer : String}
    {f s : Path} : saga? disk (ruleFor disk sagaName files) reducer f = some s ↔
      disk.isFile s = .ok true ∧
        ∃ saga, AsksFor disk area sagaName folder reducer saga ∧ s = f.parent.joinText saga := by
  rw [saga?, Option.filter_eq_some_iff, Option.map_eq_some_iff, decide_eq_true_iff, and_comm]
  simp only [fileName?_ruleFor_iff hroot h, eq_comm (a := s)]

/-- **The reducers of a folder**: one for each file that is marked as a definition, with the saga
file beside it that is looked for, if it is there. -/
theorem mem_definitions_iff (hroot : disk.root.Ordered)
    (h : definitions disk area sagaName folder = .ok found) {d : Reducer} :
    d ∈ found ↔ Marked disk area folder Source.reducerMarker d.name d.definition ∧
      ∀ s, d.saga = some s ↔ disk.isFile s = .ok true ∧
        ∃ saga, AsksFor disk area sagaName folder d.name saga ∧ s = d.folder.joinText saga := by
  obtain ⟨files, hlisting, -, rfl⟩ := definitions_eq_ok_iff.mp h
  have hfiles := Area.filesBelow_of_listing hroot hlisting
  have hsaga : ∀ name f s, saga? disk (ruleFor disk sagaName files) name f = some s ↔ _ :=
    fun name f s => saga?_ruleFor_iff hroot hfiles
  simp only [List.mem_filterMap, Disk.mem_filesBelow_iff hroot hfiles, defined?,
    Option.map_eq_some_iff]
  constructor
  · rintro ⟨f, hf, name, hmark, rfl⟩
    exact ⟨⟨hf, hmark⟩, hsaga name f⟩
  · rintro ⟨⟨hlists, hmark⟩, hs⟩
    refine ⟨d.definition, hlists, d.name, hmark, ?_⟩
    have heq : saga? disk (ruleFor disk sagaName files) d.name d.definition = d.saga :=
      Option.ext fun s => (hsaga d.name d.definition s).trans (hs s).symm
    rw [heq]

theorem exists_mem_definitions_iff (hroot : disk.root.Ordered)
    (h : definitions disk area sagaName folder = .ok found) {name : String} :
    (∃ d ∈ found, d.name = name) ↔
      ∃ f, Marked disk area folder Source.reducerMarker name f := by
  obtain ⟨files, hlisting, -, rfl⟩ := definitions_eq_ok_iff.mp h
  have hfiles := Area.filesBelow_of_listing hroot hlisting
  simp only [List.mem_filterMap, Disk.mem_filesBelow_iff hroot hfiles, defined?,
    Option.map_eq_some_iff]
  constructor
  · rintro ⟨-, ⟨f, hf, _, hmark, rfl⟩, rfl⟩
    exact ⟨f, hf, hmark⟩
  · rintro ⟨f, hf, hmark⟩
    exact ⟨_, ⟨f, hf, name, hmark, rfl⟩, rfl⟩

/-- The first reducer of a name comes from the first file that defines it. -/
theorem firstMarked_of_find? (hroot : disk.root.Ordered)
    (h : definitions disk area sagaName folder = .ok found) {name : String} {d : Reducer}
    (hd : found.find? (·.name == name) = some d) :
    FirstMarked disk area folder Source.reducerMarker name d.definition := by
  obtain ⟨files, hlisting, -, rfl⟩ := definitions_eq_ok_iff.mp h
  have hfiles := Area.filesBelow_of_listing hroot hlisting
  rw [find?_defined, Option.bind_eq_some_iff] at hd
  obtain ⟨f, hf, hdefined⟩ := hd
  obtain ⟨_, -, rfl⟩ := Option.map_eq_some_iff.mp hdefined
  exact (find?_marked_iff hroot hfiles).mp hf

/-- A name that is too long cannot be that of all saga files, once there is a reducer. -/
theorem not_sagasFit_of_long (hdisk : disk.WellFormed) {name reducer : String} {file : Path}
    (hname : Disk.FileName name) (hlong : Disk.maxName < name.utf8ByteSize)
    (h : Marked disk area folder Source.reducerMarker reducer file) :
    ¬ SagasFit disk area (some name) folder := by
  have hfile : disk.Has file := h.lists.has hdisk
  obtain ⟨content, hat⟩ := hfile.file
  obtain ⟨inner, hparent⟩ := Folder.exists_parent hat
  have hsaga := Disk.resolved_joinText hfile.resolved.parent hname
  intro hfits
  refine hfits reducer file h name ⟨hname.1.1, rfl⟩ ?_
  rw [Disk.locate_eq_tooLong_iff hsaga.not_up]
  refine ⟨hsaga.not_null, .inr ⟨file.parts.dropLast, name, [], inner, ?_, hlong, hparent⟩⟩
  rw [Path.joinText_of_segment hname.1]
  rfl

end Definitions

end ReducerAtlas
