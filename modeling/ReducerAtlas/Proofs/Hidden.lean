import ReducerAtlas.Proofs.Failing

/-!
# Files that are not found

A file that was there when a module name was looked up can be gone when it is read. A scan passes
over it as over an empty file that belongs to no reducer. So a scan never fails for a file that is
not found, and of two disks that differ only in such files, it fails on the poorer one only if it
fails on the other, and finds nothing there that it does not find on the other.

* `Disk.NotFound`: reading a file finds nothing; `Disk.hide`: the disk on which this holds of some
  more files.
* `Surveyor.Within.of_hide`, `Surveyor.Fails.of_hide`: what is reached and what fails there.
* **`Surveyor.scan_fails_iff`**: when a scan fails, and that files which are not found matter to
  nothing.
-/

namespace ReducerAtlas

open Relation

/-! ## Hidden files -/

namespace Disk

variable {disk : Disk} {hidden : List (Path × Fault)} {p : Path}

/-- Reading a file finds nothing: it is missing, or lies below a file. -/
def NotFound (disk : Disk) (p : Path) : Prop :=
  ∃ e, disk.readText p = .error e ∧ (e.cause = .missing ∨ e.cause = .notFolder)

/-- The disk on which some more files have faults. -/
def hide (disk : Disk) (hidden : List (Path × Fault)) : Disk :=
  { disk with faults := hidden ++ disk.faults }

/-- The faults are all that a file is not found. -/
def Hides (hidden : List (Path × Fault)) : Prop :=
  ∀ entry ∈ hidden, entry.2 = .missing ∨ entry.2 = .notFolder

theorem readText_hide (disk : Disk) (hhidden : Hides hidden) (p : Path) :
    (disk.hide hidden).readText p = disk.readText p ∨ (disk.hide hidden).NotFound p := by
  cases hlookup : hidden.lookup p with
  | none =>
    left
    simp only [readText, readBytes, hide, List.lookup_append, hlookup, Option.none_or]
    rfl
  | some fault =>
    right
    have hmem : (p, fault) ∈ hidden := by
      obtain ⟨l, r, rfl, -⟩ := List.lookup_eq_some_iff.mp hlookup
      simp
    refine ⟨⟨fault.cause, p⟩, ?_, ?_⟩
    · simp [readText, readBytes, hide, List.lookup_append, hlookup, Except.map]
    · obtain h | h := hhidden _ hmem
      · exact .inl (congrArg Fault.cause h)
      · exact .inr (congrArg Fault.cause h)

theorem NotFound.readText_ne (h : disk.NotFound p) (content : List Char) :
    disk.readText p ≠ .ok content := by
  obtain ⟨e, he, -⟩ := h
  simp [he]

theorem readText_of_hide (hhidden : Hides hidden) {content : List Char}
    (h : (disk.hide hidden).readText p = .ok content) : disk.readText p = .ok content := by
  obtain heq | hno := readText_hide disk hhidden p
  · rw [← heq, h]
  · exact absurd h (hno.readText_ne content)

end Disk

namespace Lookup

variable {disk : Disk} {hidden : List (Path × Fault)}

theorem findExtended_hide (p : Path) (extensions : List String) :
    findExtended (disk.hide hidden) p extensions = findExtended disk p extensions := by
  induction extensions with
  | nil => rfl
  | cons extension rest ih =>
    simp only [findExtended, ih]
    rfl

/-- Lookups do not read files, so they cannot tell that one is hidden. -/
theorem find_hide (lookup : Lookup) (p : Path) :
    lookup.find (disk.hide hidden) p = lookup.find disk p := by
  simp only [find, findExtended_hide]
  rfl

theorem targets_hide (lookup : Lookup) (source base : Path) (specifier : String) :
    lookup.targets (disk.hide hidden) source specifier base =
      lookup.targets disk source specifier base := by
  unfold targets
  generalize candidates source specifier base = paths
  generalize ([] : List Path) = found
  induction paths generalizing found with
  | nil => rfl
  | cons p rest ih => simp only [findAll, find_hide, ih]

end Lookup

/-! ## Scans -/

namespace Surveyor

variable {surveyor : Surveyor} {disk : Disk} {hidden : List (Path × Fault)} {stack : List Path}
  {restriction : Option NameSet} {file : Path} {x y : Node} {failure : Failure}

/-- A file that is not found leads nowhere. -/
theorem not_imports (h : disk.NotFound x.file) : ¬ surveyor.Imports disk stack x y := by
  rintro ⟨content, hcontent, -⟩
  exact h.readText_ne content hcontent

theorem not_fails (h : disk.NotFound x.file) : ¬ surveyor.Fails disk x failure := by
  obtain ⟨e, he, hcause⟩ := h
  rintro (⟨e', he', hmissing, hfolder, -⟩ | ⟨content, hcontent, -⟩)
  · rw [he, Except.error.injEq] at he'
    subst he'
    exact hcause.elim hmissing hfolder
  · simp [he] at hcontent

theorem not_claims (h : disk.NotFound x.file) (r : Reducer) : ¬ surveyor.Claims disk x r := by
  rintro ⟨content, hcontent, -⟩
  exact h.readText_ne content hcontent

section Hide

variable (hhidden : Disk.Hides hidden)

include hhidden

theorem Imports.of_hide (h : surveyor.Imports (disk.hide hidden) stack x y) :
    surveyor.Imports disk stack x y := by
  obtain ⟨content, hcontent, reference, href, hadmitted, specifier, hspecifier, targets, htargets,
    htarget⟩ := h
  rw [Lookup.targets_hide] at htargets
  exact ⟨content, Disk.readText_of_hide hhidden hcontent, reference, href, hadmitted, specifier,
    hspecifier, targets, htargets, htarget⟩

theorem Within.of_hide (h : surveyor.Within (disk.hide hidden) stack restriction file x) :
    surveyor.Within disk stack restriction file x := by
  obtain ⟨found, hfind, hstack, hreach⟩ := h
  rw [Lookup.find_hide] at hfind
  refine ⟨found, hfind, hstack, ReflTransGen.mono ?_ _ _ hreach⟩
  intro a b hab
  exact Imports.of_hide hhidden hab

theorem Fails.of_hide (h : surveyor.Fails (disk.hide hidden) x failure) :
    surveyor.Fails disk x failure := by
  obtain heq | hno := Disk.readText_hide disk hhidden x.file
  · unfold Fails at h ⊢
    simpa only [heq, Lookup.targets_hide] using h
  · exact absurd h (not_fails hno)

theorem Claims.of_hide {r : Reducer} (h : surveyor.Claims (disk.hide hidden) x r) :
    surveyor.Claims disk x r := by
  obtain ⟨content, hcontent, hbelongs⟩ := h
  exact ⟨content, Disk.readText_of_hide hhidden hcontent, hbelongs⟩

end Hide

section Scan

variable {phase : Phase} {usage : Roster}

/-- What a scan finds is claimed by a file within its reach. -/
theorem Settled.exists_claims (h : surveyor.Settled disk phase)
    (hscan : (surveyor.scan disk phase stack restriction file).outcome = .ok usage) {r : Reducer}
    (hr : r ∈ usage.toList) : r ∈ surveyor.reducers ∧ r.name ∉ phase.excluded ∧
      ∃ x, surveyor.Within disk stack restriction file x ∧ surveyor.Claims disk x r := by
  obtain ⟨found, hfind, hstack⟩ | ⟨-, _, _, hempty, hs⟩ :=
    surveyor.scan_cases disk stack restriction file
  · obtain ⟨x, hx, huses⟩ :=
      (gathers_of_scan hfind hstack (h.final_storeFor stack) hscan).sound r hr
    obtain ⟨hmem, hexcluded, hclaims⟩ := mem_uses_read_iff.mp huses
    exact ⟨hmem, hexcluded, x, ⟨found, hfind, hstack, reaches_read_iff.mp hx⟩, hclaims⟩
  · rw [hs] at hscan
    rw [hempty usage hscan] at hr
    cases hr

theorem Settled.name_mem_scan (h : surveyor.Settled disk phase)
    (hscan : (surveyor.scan disk phase stack restriction file).outcome = .ok usage) {r : Reducer}
    (hmem : r ∈ surveyor.reducers) (hexcluded : r.name ∉ phase.excluded)
    (hx : surveyor.Within disk stack restriction file x) (hclaims : surveyor.Claims disk x r) :
    r.name ∈ usage.names := by
  obtain ⟨found, hfind, hstack, hreach⟩ := hx
  exact (gathers_of_scan hfind hstack (h.final_storeFor stack) hscan).complete x
    (reaches_read_iff.mpr hreach) r (mem_uses_read_iff.mpr ⟨hmem, hexcluded, hclaims⟩)

/-- From a file that is not found, only its own node is reached. -/
theorem Within.eq_of_notFound {found : Path}
    (hfind : surveyor.lookup.find disk file = .ok (some found)) (hno : disk.NotFound found)
    (h : surveyor.Within disk stack restriction file x) : x.file = found := by
  obtain ⟨found', hfind', -, hreach⟩ := h
  obtain rfl : found = found' := by simpa [hfind] using hfind'
  obtain heq | ⟨y, himports, -⟩ := ReflTransGen.cases_head hreach
  · rw [← heq]
    rfl
  · exact absurd himports (not_imports hno)

theorem Settled.scan_of_notFound {found : Path} (h : surveyor.Settled disk phase)
    (hfind : surveyor.lookup.find disk file = .ok (some found)) (hno : disk.NotFound found) :
    (surveyor.scan disk phase stack restriction file).outcome = .ok .empty := by
  cases hout : (surveyor.scan disk phase stack restriction file).outcome with
  | error failure =>
    obtain ⟨failure', hfail⟩ | ⟨x, hx, failure', hfails⟩ :=
      (h.scan_error_iff stack restriction file).mp ⟨failure, hout⟩
    · simp [hfind] at hfail
    · exact absurd hfails (not_fails (hx.eq_of_notFound hfind hno ▸ hno))
  | ok usage =>
    congr
    apply Roster.ext_mem
    intro r
    refine iff_of_false (fun hr => ?_) (by simp)
    obtain ⟨-, -, x, hx, hclaims⟩ := h.exists_claims hout hr
    exact not_claims (hx.eq_of_notFound hfind hno ▸ hno) r hclaims

end Scan

/-- **When a scan fails.** In a fresh phase, and whatever the disk with its faults, the stack, the
restriction and the file: a scan fails exactly if the file cannot be looked up, or if some node
within reach of the scan has a file that is there and cannot be read, or a reference that is
followed and one of whose module names cannot be looked up. A file that is not found makes no scan
fail and adds nothing to it: a scan that starts at such a file finds nothing, and hiding files makes
no scan fail that did not fail before, and no scan find a reducer that it did not find before. -/
theorem scan_fails_iff (surveyor : Surveyor) (disk : Disk) (excluded : List String) (caching : Bool)
    (stack : List Path) (restriction : Option NameSet) (file : Path) :
    let outcome (disk : Disk) := (surveyor.scan disk { excluded := excluded, caching := caching }
      stack restriction file).outcome
    ((∃ failure, outcome disk = .error failure) ↔
      (∃ failure, surveyor.lookup.find disk file = .error failure) ∨
        ∃ x, surveyor.Within disk stack restriction file x ∧
          ∃ failure, surveyor.Fails disk x failure) ∧
    (∀ found, surveyor.lookup.find disk file = .ok (some found) → disk.NotFound found →
      outcome disk = .ok .empty) ∧
    ∀ hidden, Disk.Hides hidden →
      ((∃ failure, outcome (disk.hide hidden) = .error failure) →
        ∃ failure, outcome disk = .error failure) ∧
      ∀ usage usage', outcome disk = .ok usage → outcome (disk.hide hidden) = .ok usage' →
        ∀ n ∈ usage'.names, n ∈ usage.names := by
  intro outcome
  have hfresh : ∀ disk, surveyor.Settled disk { excluded := excluded, caching := caching } :=
    fun disk => settled_of_store_eq_nil rfl
  have hfails : ∀ disk, (∃ failure, outcome disk = .error failure) ↔ _ := fun disk =>
    (hfresh disk).scan_error_iff stack restriction file
  refine ⟨hfails disk, fun found hfind hno => (hfresh disk).scan_of_notFound hfind hno,
    fun hidden hhidden => ⟨fun herror => ?_, fun usage usage' husage husage' n hn => ?_⟩⟩
  · rw [hfails] at herror ⊢
    obtain hfind | ⟨x, hx, failure, hfail⟩ := herror
    · exact .inl (by rwa [Lookup.find_hide] at hfind)
    · exact .inr ⟨x, hx.of_hide hhidden, failure, hfail.of_hide hhidden⟩
  · obtain ⟨r, hr, rfl⟩ := Roster.mem_names.mp hn
    obtain ⟨hmem, hexcluded, x, hx, hclaims⟩ := (hfresh (disk.hide hidden)).exists_claims husage' hr
    exact (hfresh disk).name_mem_scan husage hmem hexcluded (hx.of_hide hhidden)
      (hclaims.of_hide hhidden)

/-- On the disk with the file that cannot be read, the scan that comes to it fails; with that file
hidden it gives what the circle uses. -/
theorem scan_fails_faultyDisk :
    let outcome (disk : Disk) := (circleSurveyor.scan disk { excluded := [], caching := true } []
      none (Path.parse "/entry.js")).outcome
    let hidden := [(Path.parse "/broken.js", Fault.missing)]
    (∃ x, circleSurveyor.Within faultyDisk [] none (Path.parse "/entry.js") x ∧
      ∃ failure, circleSurveyor.Fails faultyDisk x failure) ∧
    outcome (faultyDisk.hide hidden) = .ok (.ofList [circleReducer]) ∧
    ∃ failure, outcome faultyDisk = .error failure := by
  intro outcome hidden
  obtain ⟨hiff, -, -⟩ := scan_fails_iff circleSurveyor faultyDisk [] true [] none
    (Path.parse "/entry.js")
  have herror : outcome faultyDisk = .error (.io ⟨.denied, Path.parse "/broken.js"⟩) := by
    decide +kernel
  have hfind : circleSurveyor.lookup.find faultyDisk (Path.parse "/entry.js") =
      .ok (some (Path.parse "/entry.js")) := by
    decide +kernel
  refine ⟨?_, by decide +kernel, _, herror⟩
  refine (hiff.mp ⟨_, herror⟩).resolve_left ?_
  rintro ⟨failure, hfailure⟩
  simp [hfind] at hfailure

end Surveyor

end ReducerAtlas
