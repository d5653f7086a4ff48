import ReducerAtlas.Proofs.Registry

/-!
# Which saga file goes with a reducer

Without a fixed name for saga files, a file says itself which reducer it is the saga file of. Of all
claims below a folder only the last one counts, and of that one only the name of the file is kept:
the saga file is then the file of this name beside the definition, whatever that file says. So a
claim in another folder can bring in a file that makes no claim, and can hide one that does.

* `Path.joinText_name`: a file is found again by its folder and its name.
* **`saga_eq_some_iff`**: the saga file of a reducer.
* `Belongs`: the saga file of a reducer claims it, and one that does is not left out.
* **`definitions_belongs`**: this holds where the last claim is made beside the definition.
-/

namespace ReducerAtlas

/-! ## Files beside others -/

namespace Path

variable {p : Path} {name : String}

theorem parent_joinText (h : Segment name) : (p.joinText name).parent = p := by
  rw [joinText_of_segment h, parent, List.dropLast_concat]

theorem name_joinText (h : Segment name) : (p.joinText name).name = name := by
  simp [joinText_of_segment h, Path.name]

theorem joinText_name (h : Segment p.name) : p.parent.joinText p.name = p := by
  have hne : p.parts ≠ [] := by
    intro hnil
    exact h.1 (by simp [name, hnil])
  have hname : p.name = p.parts.getLast hne := by
    rw [name, List.getLastD_eq_getLast?, List.getLast?_eq_some_getLast hne, Option.getD_some]
  rw [joinText_of_segment h, parent, hname, List.dropLast_append_getLast hne]

end Path

/-! ## The saga file of a reducer -/

/-- **The saga file of a reducer belongs to it**: it stands beside the definition and claims the
reducer, and where there is none, no file beside the definition does. -/
structure Belongs (disk : Disk) (area : Area) (folder : Path) (d : Reducer) : Prop where
  claims : ∀ s, d.saga = some s →
    Marked disk area folder Source.sagaMarker d.name s ∧ s.parent = d.folder
  unclaimed : d.saga = none →
    ∀ g, Marked disk area folder Source.sagaMarker d.name g → g.parent ≠ d.folder

section Sagas

variable {disk : Disk} {area : Area} {folder : Path} {found : List Reducer} {d : Reducer}
  (hdisk : disk.WellFormed) (h : definitions disk area none folder = .ok found) (hd : d ∈ found)

include hdisk h hd

/-- **The saga file of a reducer** is the file beside its definition that has the name of the last
file that claims the reducer. -/
theorem saga_eq_some_iff {s : Path} : d.saga = some s ↔
    disk.Has s ∧ s.parent = d.folder ∧
      ∃ g, LastMarked disk area folder Source.sagaMarker d.name g ∧ s.name = g.name := by
  obtain ⟨hdefined, hsaga⟩ := (mem_definitions_iff hdisk.ordered h).mp hd
  have hfolder : d.folder.Resolved := (hdefined.lists.has hdisk).resolved.parent
  rw [hsaga]
  constructor
  · rintro ⟨hfile, saga, ⟨-, g, hg, rfl⟩, rfl⟩
    have hname : Disk.FileName g.name := (hg.lists.has hdisk).fileName_name
    have hpath := Disk.resolved_joinText hfolder hname
    exact ⟨Disk.has_of_isFile hdisk hpath.anchor hpath.not_up hfile,
      Path.parent_joinText hname.1, g, hg, Path.name_joinText hname.1⟩
  · rintro ⟨hs, hparent, g, hg, hname⟩
    have hasks : AsksFor disk area none folder d.name s.name :=
      ⟨hs.fileName_name.1.1, g, hg, hname⟩
    have hpath : d.folder.joinText s.name = s := by
      rw [← hparent, Path.joinText_name hs.fileName_name.1]
    refine ⟨?_, s.name, hasks, hpath.symm⟩
    -- the test for the file has been made, so it is not refused
    obtain ⟨-, -, hfits⟩ := (exists_definitions_iff hdisk.ordered).mp ⟨found, h⟩
    obtain ⟨content, hat⟩ := hs.file
    cases htest : disk.isFile s with
    | error cause =>
      have hlong := (Disk.isFile_eq_error_iff.mp htest).1
      rw [← hpath] at hlong
      exact absurd hlong (hfits d.name d.definition hdefined s.name hasks)
    | ok answer => rw [Disk.isFile_of_getAt? hs.resolved hat htest]

/-- Where the last claim is made beside the definition, the saga file is the one that makes it. -/
theorem belongs_of_last (hlast : ∀ g, LastMarked disk area folder Source.sagaMarker d.name g →
    g.parent = d.folder) : Belongs disk area folder d where
  claims := by
    intro s hs
    obtain ⟨hhas, hparent, g, hg, hname⟩ := (saga_eq_some_iff hdisk h hd).mp hs
    have hghas : disk.Has g := hg.lists.has hdisk
    have heq : s = g := by
      rw [← Path.joinText_name hhas.fileName_name.1, ← Path.joinText_name hghas.fileName_name.1,
        hname, hparent, hlast g hg]
    exact ⟨heq ▸ hg.toMarked, hparent⟩
  unclaimed := by
    intro hnone f hf hparent
    obtain ⟨files, hlisting, -⟩ := definitions_eq_ok_iff.mp h
    obtain ⟨g, hg⟩ := exists_lastMarked hdisk.ordered
      (Area.filesBelow_of_listing hdisk.ordered hlisting) hf
    have hsome := (saga_eq_some_iff hdisk h hd).mpr
      ⟨hg.lists.has hdisk, hlast g hg, g, hg, rfl⟩
    rw [hnone] at hsome
    cases hsome

end Sagas

/-- **The sagas that are claimed.** Where all can be read, the reducers of a folder are found
exactly if no path is too long, neither of an entry that is not left out nor of a saga file that is
looked for. The saga file of each of them is the file beside its definition with the name of the
last file that claims it, and it belongs to the reducer if that last claim is made beside the
definition. -/
theorem definitions_belongs (disk : Disk) (area : Area) (folder : Path) (hdisk : disk.WellFormed)
    (hread : Readable disk area folder) :
    ((∃ found, definitions disk area none folder = .ok found) ↔
      area.EntriesFit disk folder ∧ SagasFit disk area none folder) ∧
    ∀ found, definitions disk area none folder = .ok found → ∀ d ∈ found,
      (∀ s, d.saga = some s ↔ disk.Has s ∧ s.parent = d.folder ∧
        ∃ g, LastMarked disk area folder Source.sagaMarker d.name g ∧ s.name = g.name) ∧
      ((∀ g, LastMarked disk area folder Source.sagaMarker d.name g → g.parent = d.folder) →
        Belongs disk area folder d) := by
  refine ⟨?_, fun found h d hd => ⟨fun s => saga_eq_some_iff hdisk h hd, ?_⟩⟩
  · rw [exists_definitions_iff hdisk.ordered, and_iff_right hread]
  · exact belongs_of_last hdisk h hd

/-! ## Claims from another folder -/

/-- Three reducers, the first two with a last claim from another folder. Beside the definition of
the first there is a file of the same name that claims nothing, beside that of the second one of
another name that does claim it. -/
def strayDisk : Disk where
  root :=
    .folder "redux"
      (.folder "cart"
        (markedFile "index.js" Source.reducerMarker "cart" <| .file "saga.js" [] .empty) <|
      .folder "menu"
        (markedFile "effects.js" Source.sagaMarker "menu" <|
          markedFile "index.js" Source.reducerMarker "menu" .empty) <|
      .folder "user"
        (markedFile "index.js" Source.reducerMarker "user" <|
          markedFile "watch.js" Source.sagaMarker "user" .empty) <|
      .folder "widgets"
        (markedFile "other.js" Source.sagaMarker "menu" <|
          markedFile "saga.js" Source.sagaMarker "cart" .empty) .empty) .empty

/-- The folder of the reducers. -/
def strayFolder : Path := Path.parse "/redux"

/-- The reducer whose saga file claims nothing. -/
def strayCart : Reducer :=
  ⟨"cart", Path.parse "/redux/cart/index.js", some (Path.parse "/redux/cart/saga.js")⟩

/-- The reducer whose saga file is left out. -/
def strayMenu : Reducer :=
  ⟨"menu", Path.parse "/redux/menu/index.js", none⟩

/-- The reducer with a saga file of its own. -/
def strayUser : Reducer :=
  ⟨"user", Path.parse "/redux/user/index.js", some (Path.parse "/redux/user/watch.js")⟩

theorem wellFormed_strayDisk : strayDisk.WellFormed := ⟨by decide, by decide⟩

/-- The files below this folder. -/
def strayFiles : List Path :=
  ["cart/index.js", "cart/saga.js", "menu/effects.js", "menu/index.js", "user/index.js",
    "user/watch.js", "widgets/other.js", "widgets/saga.js"].map strayFolder.joinText

theorem filesBelow_strayDisk :
    strayDisk.filesBelow (Area.refused {}) (Area.base {}) strayFolder = .ok strayFiles := by
  decide

theorem definitions_strayDisk :
    definitions strayDisk {} none strayFolder = .ok [strayCart, strayMenu, strayUser] := by
  decide +kernel

theorem readable_strayDisk : Readable strayDisk {} strayFolder :=
  ((exists_definitions_iff wellFormed_strayDisk.ordered).mp ⟨_, definitions_strayDisk⟩).1

/-- Of two reducers the saga file does not belong to the one, and that of the other is left out. -/
theorem not_belongs_strayDisk :
    strayDisk.WellFormed ∧ Readable strayDisk {} strayFolder ∧
    definitions strayDisk {} none strayFolder = .ok [strayCart, strayMenu, strayUser] ∧
    ¬ Belongs strayDisk {} strayFolder strayCart ∧
    ¬ Belongs strayDisk {} strayFolder strayMenu := by
  refine ⟨wellFormed_strayDisk, readable_strayDisk, definitions_strayDisk, fun h => ?_, fun h => ?_⟩
  · have hmark : strayDisk.mark? Source.sagaMarker (Path.parse "/redux/cart/saga.js") = none := by
      decide +kernel
    have hclaim := (h.claims _ rfl).1.mark
    rw [hmark] at hclaim
    cases hclaim
  · have hmarked : Marked strayDisk {} strayFolder Source.sagaMarker "menu"
        (Path.parse "/redux/menu/effects.js") := by
      have hmem : Path.parse "/redux/menu/effects.js" ∈ strayFiles := by decide
      exact ⟨(Disk.mem_filesBelow_iff wellFormed_strayDisk.ordered filesBelow_strayDisk).mp hmem,
        by decide +kernel⟩
    exact h.unclaimed rfl _ hmarked (by decide)

theorem belongs_strayUser :
    strayDisk.WellFormed ∧ Readable strayDisk {} strayFolder ∧
    definitions strayDisk {} none strayFolder = .ok [strayCart, strayMenu, strayUser] ∧
    Belongs strayDisk {} strayFolder strayUser := by
  refine ⟨wellFormed_strayDisk, readable_strayDisk, definitions_strayDisk, ?_⟩
  obtain ⟨-, hbelongs⟩ :=
    definitions_belongs strayDisk {} strayFolder wellFormed_strayDisk readable_strayDisk
  refine (hbelongs _ definitions_strayDisk strayUser (by simp)).2 fun g hg => ?_
  have hbeside : ∀ g ∈ strayFiles, strayDisk.mark? Source.sagaMarker g = some "user" →
      g.parent = strayUser.folder := by
    decide +kernel
  have hmem : g ∈ strayFiles :=
    (Disk.mem_filesBelow_iff wellFormed_strayDisk.ordered filesBelow_strayDisk).mpr hg.lists
  exact hbeside g hmem hg.mark

end ReducerAtlas
