import ReducerAtlas.Module.Lookup

/-!
# What a lookup finds

A lookup only ever gives paths that lead to a file, and a path that leads to a file stands for
itself.

* `Disk.isFile_eq_true_iff`: the test for a file.
* `Lookup.isFile_of_find`, `Lookup.find_of_isFile`: the file that a path stands for.
* `Lookup.find_of_mem_targets`: the files that a module name leads to.
-/

namespace ReducerAtlas

theorem bind_eq_ok_iff {ε α β : Type} {x : Except ε α} {f : α → Except ε β} {b : β} :
    (x >>= f) = .ok b ↔ ∃ a, x = .ok a ∧ f a = .ok b := by
  cases x with
  | error e => simp [bind, Except.bind]
  | ok a => simp [bind, Except.bind]

theorem bind_eq_ok {ε α β : Type} {x : Except ε α} {f : α → Except ε β} {b : β}
    (h : (x >>= f) = .ok b) : ∃ a, x = .ok a ∧ f a = .ok b :=
  bind_eq_ok_iff.mp h

theorem liftIo_eq_ok {α : Type} {x : Except IoError α} {a : α} : liftIo x = .ok a ↔ x = .ok a := by
  cases x <;> simp [liftIo]

theorem Disk.isFile_eq_true_iff {disk : Disk} {p : Path} :
    disk.isFile p = .ok true ↔ ∃ content, disk.locate p = .ok (.file content) := by
  unfold isFile test
  cases disk.locate p with
  | error cause => cases cause <;> simp
  | ok entry => cases entry <;> simp

namespace Lookup

variable {lookup : Lookup} {disk : Disk} {p q : Path}

theorem isFile_of_findExtended {extensions : List String}
    (h : findExtended disk p extensions = .ok (some q)) : disk.isFile q = .ok true := by
  induction extensions with
  | nil => cases h
  | cons extension rest ih =>
    unfold findExtended at h
    split at h
    · cases h
    · next candidate hc =>
      obtain ⟨found, hfound, h⟩ := bind_eq_ok h
      cases found with
      | true =>
        cases h
        exact liftIo_eq_ok.mp hfound
      | false => exact ih h

theorem isFile_of_findIndex (h : lookup.findIndex disk p = .ok (some q)) :
    disk.isFile q = .ok true := by
  unfold findIndex at h
  obtain ⟨isFolder, -, h⟩ := bind_eq_ok h
  cases isFolder with
  | false => cases h
  | true =>
    obtain ⟨found, hfound, h⟩ := bind_eq_ok h
    cases found with
    | false => cases h
    | true =>
      cases h
      exact liftIo_eq_ok.mp hfound

theorem isFile_of_find (h : lookup.find disk p = .ok (some q)) : disk.isFile q = .ok true := by
  unfold find at h
  obtain ⟨found, hfound, h⟩ := bind_eq_ok h
  cases found with
  | true =>
    cases h
    exact liftIo_eq_ok.mp hfound
  | false =>
    obtain ⟨extended, hextended, h⟩ := bind_eq_ok h
    cases extended with
    | none => exact isFile_of_findIndex h
    | some found =>
      cases h
      exact isFile_of_findExtended hextended

theorem find_of_isFile (h : disk.isFile p = .ok true) : lookup.find disk p = .ok (some p) := by
  unfold find
  rw [liftIo_eq_ok.mpr h]
  rfl

theorem find_of_mem_findAll {found paths targets : List Path}
    (h : lookup.findAll disk found paths = .ok targets) :
    ∀ q ∈ targets, q ∈ found ∨ ∃ p ∈ paths, lookup.find disk p = .ok (some q) := by
  induction paths generalizing found with
  | nil =>
    cases h
    exact fun q hq => .inl hq
  | cons p rest ih =>
    intro q hq
    unfold findAll at h
    obtain ⟨target, htarget, h⟩ := bind_eq_ok h
    cases target with
    | none =>
      rcases ih h q hq with hmem | ⟨p', hp', hfind⟩
      · exact .inl hmem
      · exact .inr ⟨p', List.mem_cons_of_mem _ hp', hfind⟩
    | some target =>
      rcases ih h q hq with hmem | ⟨p', hp', hfind⟩
      · split at hmem
        · exact .inl hmem
        · rcases List.mem_append.mp hmem with hmem | hmem
          · exact .inl hmem
          · rw [List.mem_singleton.mp hmem]
            exact .inr ⟨p, List.mem_cons_self, htarget⟩
      · exact .inr ⟨p', List.mem_cons_of_mem _ hp', hfind⟩

theorem find_of_mem_targets {source base : Path} {specifier : String} {targets : List Path}
    (h : lookup.targets disk source specifier base = .ok targets) (hq : q ∈ targets) :
    ∃ p ∈ candidates source specifier base, lookup.find disk p = .ok (some q) :=
  (find_of_mem_findAll h q hq).resolve_left (List.not_mem_nil)

end Lookup

end ReducerAtlas
