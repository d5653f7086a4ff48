import ReducerAtlas.Proofs.Definitions
import ReducerAtlas.Proofs.Roster

/-!
# The reducers of several folders

The registry goes through the folders one after the other and keeps the first definition of each
name. So a name is looked up as if all folders were searched in their order, each in the order of
its files; a folder that is listed twice, or that lies in another one, adds nothing.

* `find?_register`: what one more folder does to a look-up; **`find?_registryFrom`**: a look-up is a
  search through the folders.
* `exists_registryFrom_iff`: the registry is there if the reducers of each folder are found.
* `FirstDefined`: the first file that defines a reducer; **`registry_firstDefined`**: the registry
  has the names that are defined, each with that file.
-/

namespace ReducerAtlas

/-! ## Look-ups -/

/-- **A reducer that is already there stays**; a new name goes to the first that has it. -/
theorem find?_register (roster : Roster) (found : List Reducer) (name : String) :
    (register roster found).1.find? name =
      (roster.find? name).or (found.find? (·.name == name)) := by
  induction found generalizing roster with
  | nil => simp [register]
  | cons r rest ih =>
    cases hkept : roster.find? r.name with
    | some kept =>
      simp only [register, hkept]
      rw [ih]
      by_cases hname : r.name = name
      · simp [← hname, hkept]
      · rw [List.find?_cons_of_neg (by simpa using hname)]
    | none =>
      simp only [register, hkept]
      rw [ih, Roster.find?_insert]
      by_cases hname : r.name = name
      · simp [← hname, hkept]
      · rw [if_neg hname, List.find?_cons_of_neg (by simpa using hname)]

/-- The first reducer of a name among those of a folder. -/
def firstOf? (disk : Disk) (area : Area) (sagaName : Option String) (name : String)
    (folder : Path) : Option Reducer :=
  match definitions disk area sagaName folder with
  | .ok found => found.find? (·.name == name)
  | .error _ => none

section Registry

variable {disk : Disk} {area : Area} {sagaName : Option String} {roster result : Roster}
  {folder : Path} {folders : List Path} {name : String}

/-- **A look-up in the registry is a search through the folders.** -/
theorem find?_registryFrom (h : (registryFrom disk area sagaName roster folders).2 = .ok result) :
    result.find? name =
      (roster.find? name).or (folders.findSome? (firstOf? disk area sagaName name)) := by
  induction folders generalizing roster with
  | nil =>
    cases h
    simp
  | cons folder rest ih =>
    unfold registryFrom at h
    cases hfound : definitions disk area sagaName folder with
    | error failure => simp [hfound] at h
    | ok found =>
      simp only [hfound] at h
      have hfirst : firstOf? disk area sagaName name folder = found.find? (·.name == name) := by
        rw [firstOf?, hfound]
      rw [ih h, find?_register, Option.or_assoc, List.findSome?_cons, hfirst]
      cases found.find? (·.name == name) <;> rfl

theorem exists_registryFrom_iff :
    (∃ result, (registryFrom disk area sagaName roster folders).2 = .ok result) ↔
      ∀ folder ∈ folders, ∃ found, definitions disk area sagaName folder = .ok found := by
  induction folders generalizing roster with
  | nil => simp [registryFrom]
  | cons folder rest ih =>
    unfold registryFrom
    cases hfound : definitions disk area sagaName folder with
    | error failure => simp [hfound]
    | ok found => simp [hfound, ih]

end Registry

/-! ## First definitions -/

/-- **The first file that defines a reducer**: the first one below its folder, and no folder before
that one has any. -/
def FirstDefined (disk : Disk) (area : Area) (folders : List Path) (name : String) (file : Path) :
    Prop :=
  ∃ before folder after, folders = before ++ folder :: after ∧
    FirstMarked disk area folder Source.reducerMarker name file ∧
    ∀ earlier ∈ before, ∀ f, ¬ Marked disk area earlier Source.reducerMarker name f

section FirstDefined

variable {disk : Disk} {area : Area} {sagaName : Option String} {folder : Path}
  {folders : List Path} {name : String}

theorem firstOf?_eq_none_iff (hroot : disk.root.Ordered)
    (h : ∃ found, definitions disk area sagaName folder = .ok found) :
    firstOf? disk area sagaName name folder = none ↔
      ∀ f, ¬ Marked disk area folder Source.reducerMarker name f := by
  obtain ⟨found, hfound⟩ := h
  rw [← not_exists, ← exists_mem_definitions_iff hroot hfound, firstOf?, hfound]
  simp

theorem firstMarked_of_firstOf? {d : Reducer} (hroot : disk.root.Ordered)
    (h : firstOf? disk area sagaName name folder = some d) :
    FirstMarked disk area folder Source.reducerMarker name d.definition := by
  unfold firstOf? at h
  cases hfound : definitions disk area sagaName folder with
  | error failure => simp [hfound] at h
  | ok found =>
    rw [hfound] at h
    exact firstMarked_of_find? hroot hfound h

theorem findSome?_firstOf?_eq_none_iff (hroot : disk.root.Ordered)
    (h : ∀ folder ∈ folders, ∃ found, definitions disk area sagaName folder = .ok found) :
    folders.findSome? (firstOf? disk area sagaName name) = none ↔
      ∀ folder ∈ folders, ∀ f, ¬ Marked disk area folder Source.reducerMarker name f := by
  rw [List.findSome?_eq_none_iff]
  exact forall₂_congr fun folder hfolder => firstOf?_eq_none_iff hroot (h folder hfolder)

theorem firstDefined_of_findSome? {d : Reducer} (hroot : disk.root.Ordered)
    (h : ∀ folder ∈ folders, ∃ found, definitions disk area sagaName folder = .ok found)
    (hd : folders.findSome? (firstOf? disk area sagaName name) = some d) :
    FirstDefined disk area folders name d.definition := by
  obtain ⟨before, folder, after, rfl, hfirst, hbefore⟩ := List.findSome?_eq_some_iff.mp hd
  refine ⟨before, folder, after, rfl, firstMarked_of_firstOf? hroot hfirst, fun earlier hmem => ?_⟩
  exact (firstOf?_eq_none_iff hroot (h earlier (by simp [hmem]))).mp (hbefore earlier hmem)

end FirstDefined

/-- **The registry keeps the first definition of each name.** Where all folders can be read, the
registry is there exactly if no path is too long, neither of an entry that is not left out nor of a
saga file that is looked for. Its names are increasing, they are those that some file defines, and
each stands with the first file that does. -/
theorem registry_firstDefined (disk : Disk) (area : Area) (sagaName : Option String)
    (folders : List Path) (hroot : disk.root.Ordered)
    (hread : ∀ folder ∈ folders, Readable disk area folder) :
    ((∃ roster, (registry disk area sagaName folders).2 = .ok roster) ↔
      ∀ folder ∈ folders, area.EntriesFit disk folder ∧ SagasFit disk area sagaName folder) ∧
    ∀ roster, (registry disk area sagaName folders).2 = .ok roster →
      roster.names.Pairwise (· < ·) ∧
      (∀ name, name ∈ roster.names ↔
        ∃ folder ∈ folders, ∃ f, Marked disk area folder Source.reducerMarker name f) ∧
      ∀ r ∈ roster.toList, FirstDefined disk area folders r.name r.definition := by
  have hfound : (∃ roster, (registry disk area sagaName folders).2 = .ok roster) ↔
      ∀ folder ∈ folders, ∃ found, definitions disk area sagaName folder = .ok found :=
    exists_registryFrom_iff
  refine ⟨?_, fun roster hroster => ?_⟩
  · rw [hfound]
    refine forall₂_congr fun folder hfolder => ?_
    rw [exists_definitions_iff hroot, and_iff_right (hread folder hfolder)]
  · have hdefined := hfound.mp ⟨roster, hroster⟩
    have hfind : ∀ name, roster.find? name =
        folders.findSome? (firstOf? disk area sagaName name) := by
      intro name
      rw [find?_registryFrom hroster]
      rfl
    refine ⟨List.pairwise_map.mpr roster.increasing, fun name => ?_, fun r hr => ?_⟩
    · rw [← not_iff_not, ← Roster.find?_eq_none_iff, hfind,
        findSome?_firstOf?_eq_none_iff hroot hdefined]
      simp only [not_exists, not_and]
    · refine firstDefined_of_findSome? hroot hdefined ?_
      rw [← hfind]
      exact Roster.find?_eq_some_iff.mpr ⟨hr, rfl⟩

/-- A file that gives a value to a constant, before others. -/
def markedFile (name marker value : String) : Folder → Folder :=
  .file name (Text.Utf8.encode (marker ++ " = '" ++ value ++ "';").toList)

/-- A reducer that is defined twice in one folder, and one that is defined in a folder inside it. -/
def nestedDisk : Disk where
  root :=
    .folder "redux"
      (markedFile "first.js" Source.reducerMarker "cart" <|
        .folder "inner" (markedFile "index.js" Source.reducerMarker "user" .empty) <|
        markedFile "second.js" Source.reducerMarker "cart" .empty) .empty

/-- The folder and the one inside it, which is listed twice. -/
def nestedFolders : List Path :=
  ["/redux/inner", "/redux", "/redux/inner"].map Path.parse

/-- The reducers that count. -/
def nestedReducers : List Reducer :=
  [⟨"cart", Path.parse "/redux/first.js", none⟩, ⟨"user", Path.parse "/redux/inner/index.js", none⟩]

theorem wellFormed_nestedDisk : nestedDisk.WellFormed := ⟨by decide, by decide⟩

theorem registry_nestedDisk :
    (registry nestedDisk {} (some "saga.js") nestedFolders).2 = .ok (.ofList nestedReducers) := by
  decide +kernel

theorem readable_nestedDisk : ∀ folder ∈ nestedFolders, Readable nestedDisk {} folder := by
  intro folder hfolder
  have hfound := exists_registryFrom_iff.mp ⟨_, registry_nestedDisk⟩ folder hfolder
  exact ((exists_definitions_iff wellFormed_nestedDisk.ordered).mp hfound).1

/-- A name of the given length. -/
def nameOfLength (n : Nat) : String := String.ofList (List.replicate n 's')

theorem fileName_nameOfLength (n : Nat) : Disk.FileName (nameOfLength (n + 1)) := by
  have hchars : (nameOfLength (n + 1)).toList = 's' :: List.replicate n 's' := String.toList_ofList
  have hne : ∀ s : String, s.toList.head? ≠ some 's' → nameOfLength (n + 1) ≠ s := by
    rintro s hs rfl
    exact hs (by rw [hchars]; rfl)
  refine ⟨⟨hne _ (by decide), hne _ (by decide), ?_⟩, hne _ (by decide), ?_⟩
  · simp [hchars, List.mem_replicate]
  · simp [hchars, List.mem_replicate]

theorem utf8ByteSize_nameOfLength (n : Nat) : (nameOfLength n).utf8ByteSize = n := by
  induction n with
  | zero => rfl
  | succ n ih =>
    have hsplit : nameOfLength (n + 1) = "s" ++ nameOfLength n := by
      rw [← String.toList_inj]
      simp [nameOfLength, List.replicate_succ]
    rw [hsplit, String.utf8ByteSize_append, ih, Nat.add_comm]
    rfl

/-- Folders one inside the other, each with a name that just fits. -/
def deepFolder : Nat → Folder
  | 0 => .empty
  | n + 1 => .folder (nameOfLength Disk.maxName) (deepFolder n) .empty

/-- A tree without files that is as deep as wanted. -/
def deepDisk (n : Nat) : Disk where
  root := .folder "redux" (deepFolder n) .empty

/-- The names that lead down to the last of these folders. -/
def deepNames (n : Nat) : List String := "redux" :: List.replicate n (nameOfLength Disk.maxName)

section Deep

variable (n : Nat)

theorem get?_deepDisk : (deepDisk n).root.get? "redux" = some (.folder (deepFolder n)) := by
  simp [deepDisk, Folder.get?]

theorem getAt?_deepDisk : (deepDisk n).root.getAt? (deepNames n) = some (.folder .empty) := by
  rw [deepNames, Folder.getAt?_of_folder (get?_deepDisk n)]
  induction n with
  | zero => rfl
  | succ n ih =>
    have hinner : (deepFolder (n + 1)).get? (nameOfLength Disk.maxName) =
        some (.folder (deepFolder n)) := by
      simp [deepFolder, Folder.get?]
    rw [List.replicate_succ, Folder.getAt?_of_folder hinner]
    exact ih

theorem ordered_deepDisk : (deepDisk n).root.Ordered := by
  have hinner : (deepFolder n).Ordered := by
    induction n with
    | zero => trivial
    | succ n ih => exact ⟨by simp [Folder.names], ih, trivial⟩
  exact ⟨by simp [Folder.names], hinner, trivial⟩

theorem no_file_deepFolder (names : List String) (content : List UInt8) :
    (deepFolder n).getAt? names ≠ some (.file content) := by
  induction n generalizing names with
  | zero =>
    cases names with
    | nil => simp [Folder.getAt?]
    | cons k names => simp [deepFolder, Folder.getAt?_cons, Folder.get?]
  | succ n ih =>
    cases names with
    | nil => simp [Folder.getAt?]
    | cons k names =>
      rw [Folder.getAt?_cons]
      by_cases hk : nameOfLength Disk.maxName = k
      · simpa [deepFolder, Folder.get?, hk, Entry.getAt?] using ih names
      · simp [deepFolder, Folder.get?, hk]

theorem not_lists_deepDisk {f : Path} :
    ¬ (deepDisk n).Lists (Area.refused {}) (Path.parse "/redux") (Path.parse "/redux") f := by
  have hstart : Path.resolve? (Path.parse "/redux") = some (Path.parse "/redux") := by decide
  have hparts : (Path.parse "/redux").parts = ["redux"] := by decide
  rintro ⟨start, names, hresolve, -, rfl, ⟨content, hat⟩, -⟩
  obtain rfl := Option.some.inj (hstart.symm.trans hresolve)
  rw [hparts, List.singleton_append, Folder.getAt?_of_folder (get?_deepDisk n)] at hat
  exact no_file_deepFolder n names content hat

theorem readable_deepDisk : Readable (deepDisk n) {} (Path.parse "/redux") where
  base := by simp
  start := by
    refine ⟨Path.parse "/redux", deepFolder n, by decide, Disk.list_eq_ok_iff.mpr ?_⟩
    have hparts : (Path.parse "/redux").parts = ["redux"] := by decide
    refine (Disk.locate_eq_ok_iff (by decide)).mpr ⟨by decide, by decide, ?_, ?_⟩
    · exact Folder.not_overruns (by decide)
    · rw [hparts, Folder.getAt?_of_folder (get?_deepDisk n)]
      rfl
  read f hf := absurd hf (not_lists_deepDisk n)

theorem utf8ByteSize_deepNames :
    (Text.joinWith "/" (deepNames n)).utf8ByteSize = 5 + n * (1 + Disk.maxName) := by
  have hsize : ∀ s t : String, (Text.joinWith "/" (s :: List.replicate n t)).utf8ByteSize =
      s.utf8ByteSize + n * (1 + t.utf8ByteSize) := by
    induction n with
    | zero => simp [Text.joinWith]
    | succ n ih =>
      intro s t
      have hslash : "/".utf8ByteSize = 1 := by decide
      have hcons : Text.joinWith "/" (s :: t :: List.replicate n t) =
        s ++ "/" ++ Text.joinWith "/" (t :: List.replicate n t) := rfl
      rw [List.replicate_succ, hcons, String.utf8ByteSize_append, String.utf8ByteSize_append, ih,
        hslash, Nat.add_mul]
      omega
  rw [deepNames, hsize, utf8ByteSize_nameOfLength]
  rfl

theorem not_entriesFit_deepDisk (h : 16 ≤ n) :
    ¬ Area.EntriesFit {} (deepDisk n) (Path.parse "/redux") := by
  have hparts : (Path.parse "/redux").parts = ["redux"] := by decide
  have hmeets : (deepDisk n).Meets (Area.refused {}) (Path.parse "/redux") (Path.parse "/redux")
      ⟨.root, deepNames n⟩ (.folder .empty) := by
    refine ⟨Path.parse "/redux", List.replicate n (nameOfLength Disk.maxName), by decide, ?_, ?_,
      getAt?_deepDisk n, fun _ _ _ => rfl⟩
    · simpa using (by omega : n ≠ 0)
    · rw [hparts]
      rfl
  have hlong : Disk.maxPath ≤ (Path.mk .root (deepNames n)).render.utf8ByteSize := by
    simp only [Path.render, reduceCtorEq, false_and, if_false, String.utf8ByteSize_append,
      utf8ByteSize_deepNames]
    simp only [Disk.maxPath, Disk.maxName]
    omega
  have hnull : (Path.mk .root (deepNames n)).hasNull = false := by
    refine Path.hasNull_eq_false_iff.mpr
      (List.forall_mem_cons.mpr ⟨by decide, fun name hname => ?_⟩)
    rw [List.eq_of_mem_replicate hname]
    exact (fileName_nameOfLength 254).2.2
  intro hfits
  refine hfits.short _ _ hmeets ?_
  rw [Disk.locate, hnull, if_neg (by simp), if_pos hlong]

end Deep

/-- All can be read, but the registry fails: in the first tree with a test for a saga file, and in
the second with a folder so far down that it cannot be tested. -/
theorem registry_overlongPaths :
    (nestedDisk.root.Ordered ∧ (∀ folder ∈ nestedFolders, Readable nestedDisk {} folder) ∧
      ∀ roster, (registry nestedDisk {} (some (nameOfLength 256)) nestedFolders).2 ≠ .ok roster) ∧
    (deepDisk 16).root.Ordered ∧ Readable (deepDisk 16) {} (Path.parse "/redux") ∧
      SagasFit (deepDisk 16) {} none (Path.parse "/redux") ∧
      ∀ roster, (registry (deepDisk 16) {} none [Path.parse "/redux"]).2 ≠ .ok roster := by
  refine ⟨⟨wellFormed_nestedDisk.ordered, readable_nestedDisk, fun roster h => ?_⟩,
    ordered_deepDisk 16, readable_deepDisk 16, fun _ _ h => absurd h.lists (not_lists_deepDisk 16),
    fun roster h => ?_⟩
  · have hfound : definitions nestedDisk {} (some "") (Path.parse "/redux") = .ok
        [⟨"cart", Path.parse "/redux/first.js", none⟩,
          ⟨"user", Path.parse "/redux/inner/index.js", none⟩,
          ⟨"cart", Path.parse "/redux/second.js", none⟩] := by
      decide +kernel
    obtain ⟨hmarked, -⟩ :=
      (mem_definitions_iff wellFormed_nestedDisk.ordered hfound).mp List.mem_cons_self
    have hlong : Disk.maxName < (nameOfLength 256).utf8ByteSize := by
      rw [utf8ByteSize_nameOfLength]
      decide
    have hdefined :=
      exists_registryFrom_iff.mp ⟨roster, h⟩ (Path.parse "/redux") (by simp [nestedFolders])
    obtain ⟨-, -, hfits⟩ := (exists_definitions_iff wellFormed_nestedDisk.ordered).mp hdefined
    exact not_sagasFit_of_long wellFormed_nestedDisk (fileName_nameOfLength 255) hlong hmarked hfits
  · have hdefined := exists_registryFrom_iff.mp ⟨roster, h⟩ (Path.parse "/redux") (by simp)
    obtain ⟨-, hfits, -⟩ := (exists_definitions_iff (ordered_deepDisk 16)).mp hdefined
    exact not_entriesFit_deepDisk 16 (by omega) hfits

theorem firstDefined_nestedReducers :
    nestedDisk.root.Ordered ∧ (∀ folder ∈ nestedFolders, Readable nestedDisk {} folder) ∧
    (registry nestedDisk {} (some "saga.js") nestedFolders).2 = .ok (.ofList nestedReducers) ∧
    (∀ folder ∈ nestedFolders, Area.EntriesFit {} nestedDisk folder ∧
      SagasFit nestedDisk {} (some "saga.js") folder) ∧
    ∀ r ∈ nestedReducers, FirstDefined nestedDisk {} nestedFolders r.name r.definition := by
  have hmem : ∀ r ∈ nestedReducers, r ∈ (Roster.ofList nestedReducers).toList := by decide
  obtain ⟨hends, hfirst⟩ := registry_firstDefined nestedDisk {} (some "saga.js") nestedFolders
    wellFormed_nestedDisk.ordered readable_nestedDisk
  obtain ⟨-, -, hdefined⟩ := hfirst _ registry_nestedDisk
  exact ⟨wellFormed_nestedDisk.ordered, readable_nestedDisk, registry_nestedDisk,
    hends.mp ⟨_, registry_nestedDisk⟩, fun r hr => hdefined r (hmem r hr)⟩

end ReducerAtlas
