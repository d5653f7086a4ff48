import Mathlib.Logic.Relation
import ReducerAtlas.Proofs.Roster
import ReducerAtlas.Usage.Node

/-!
# The import graph as a relation

A scan sees the graph as a function from nodes to readings. Here it is a relation, twice: over any
such function, which is all that the visit of a node depends on, and over the texts on a disk, which
is what an author of these texts means by an import. The two agree.

* `Leads`, `Reaches`: one step and any number of steps in the graph of a reading function.
* `Gathers`: a roster that knows all that can be reached from a node, and nothing else.
* `Surveyor.Imports`, `Surveyor.Claims`, `Surveyor.Needs`: the steps from file to file, the core
  files of a reducer, and the reducers with a core file within reach.
* **`Surveyor.find?_iff_of_gathers`**: looking up a name in such a roster.
-/

namespace ReducerAtlas

open Relation

/-! ## Readings -/

namespace Reading

/-- The reducers that the file at a node belongs to. -/
def uses : Reading → List Reducer
  | .source uses _ => uses
  | _ => []

/-- What the references at a node lead to, in order. -/
def steps : Reading → List Step
  | .source _ steps => steps
  | _ => []

/-- A failure stops a scan at a node: that of reading the file, or of looking up a module name. -/
def Raises (reading : Reading) (failure : Failure) : Prop :=
  reading = .broken failure ∨ .fail failure ∈ reading.steps

/-- Nothing stops a scan at a node. -/
def Healthy (reading : Reading) : Prop := ∀ failure, ¬ reading.Raises failure

@[simp] theorem uses_source (u : List Reducer) (l : List Step) : (source u l).uses = u := rfl

@[simp] theorem steps_source (u : List Reducer) (l : List Step) : (source u l).steps = l := rfl

theorem healthy_absent : Healthy .absent := by
  rintro failure (h | h)
  · cases h
  · cases h

theorem healthy_source {u : List Reducer} {l : List Step} (h : ∀ failure, .fail failure ∉ l) :
    Healthy (.source u l) := by
  rintro failure (hb | hf)
  · cases hb
  · exact h failure hf

end Reading

/-! ## The graph of a reading function -/

/-- The references at one node lead to another. -/
def Leads (read : Node → Reading) (a b : Node) : Prop := .follow b ∈ (read a).steps

/-- One node can be reached from another, or is the same. -/
abbrev Reaches (read : Node → Reading) : Node → Node → Prop := ReflTransGen (Leads read)

/-- **The roster of a node**: it holds only reducers in use at some node within reach, and knows the
names of all of them. -/
structure Gathers (read : Node → Reading) (node : Node) (usage : Roster) : Prop where
  sound : ∀ r ∈ usage.toList, ∃ x, Reaches read node x ∧ r ∈ (read x).uses
  complete : ∀ x, Reaches read node x → ∀ r ∈ (read x).uses, r.name ∈ usage.names

/-! ## The graph of a disk -/

namespace Surveyor

variable (surveyor : Surveyor) (disk : Disk)

/-- The file of a node can be read and is a core file of a reducer. -/
def Claims (node : Node) (r : Reducer) : Prop :=
  ∃ content, disk.readText node.file = .ok content ∧
    surveyor.belongs node.file ((Source.Summary.of content).value? Source.actionMarker) r = true

/-- **An import**: some reference in the text of the first file is followed under what is asked of
that file, one of its module names leads to the second file, which is not blocked, and what is asked
there is what the reference takes. -/
def Imports (blocked : List Path) (a b : Node) : Prop :=
  ∃ content, disk.readText a.file = .ok content ∧
    ∃ reference ∈ (Source.Summary.of content).references, reference.admitted a.asked = true ∧
      ∃ specifier ∈ reference.specifiers, ∃ targets,
        surveyor.lookup.targets disk a.file specifier surveyor.base = .ok targets ∧
          ∃ target ∈ targets, target ∉ blocked ∧
            b = surveyor.node target reference.clause.restriction

/-- **A node needs a reducer**: a core file of it is at some node within reach. -/
def Needs (blocked : List Path) (node : Node) (r : Reducer) : Prop :=
  ∃ x, ReflTransGen (surveyor.Imports disk blocked) node x ∧ surveyor.Claims disk x r

variable {surveyor disk} {excluded : List String} {blocked : List Path}

theorem follow_mem_specifierSteps {file : Path} {restriction : Option NameSet} {specifier : String}
    {b : Node} :
    .follow b ∈ surveyor.specifierSteps disk blocked file restriction specifier ↔
      ∃ targets, surveyor.lookup.targets disk file specifier surveyor.base = .ok targets ∧
        ∃ target ∈ targets, target ∉ blocked ∧ b = surveyor.node target restriction := by
  unfold specifierSteps
  split
  · next h => simp [h]
  · next targets h =>
    simp only [h, Except.ok.injEq, exists_eq_left', List.mem_map]
    refine exists_congr fun target => and_congr_right fun _ => ?_
    split_ifs with hb
    · simp [List.contains_iff_mem.mp hb]
    · simp only [List.contains_iff_mem] at hb
      simp [hb, eq_comm]

theorem follow_mem_referenceSteps {a b : Node} {reference : Source.Reference} :
    .follow b ∈ surveyor.referenceSteps disk blocked a reference ↔
      reference.admitted a.asked = true ∧ ∃ specifier ∈ reference.specifiers,
        .follow b ∈ surveyor.specifierSteps disk blocked a.file reference.clause.restriction
          specifier := by
  unfold referenceSteps
  split_ifs with h
  · simp [h, List.mem_flatMap]
  · simp [h]

theorem leads_read_iff {a b : Node} :
    Leads (surveyor.read disk excluded blocked) a b ↔ surveyor.Imports disk blocked a b := by
  unfold Leads read Imports
  cases h : disk.readText a.file with
  | error e =>
    dsimp only
    split_ifs <;> simp [Reading.steps]
  | ok content =>
    simp only [Reading.steps_source, List.mem_flatMap, follow_mem_referenceSteps,
      follow_mem_specifierSteps, Except.ok.injEq, exists_eq_left']

theorem mem_uses_read_iff {node : Node} {r : Reducer} :
    r ∈ (surveyor.read disk excluded blocked node).uses ↔
      r ∈ surveyor.reducers ∧ r.name ∉ excluded ∧ surveyor.Claims disk node r := by
  unfold read Claims
  cases h : disk.readText node.file with
  | error e =>
    dsimp only
    split_ifs <;> simp [Reading.uses]
  | ok content => simp [usesOf]

theorem reaches_read_iff {a b : Node} :
    Reaches (surveyor.read disk excluded blocked) a b ↔
      ReflTransGen (surveyor.Imports disk blocked) a b := by
  have h : Leads (surveyor.read disk excluded blocked) = surveyor.Imports disk blocked := by
    funext a b
    exact propext leads_read_iff
  rw [Reaches, h]

/-- **The answers of a node's roster.** With one reducer for each name, a name that is not excluded
is answered by its reducer exactly if the node needs that reducer. -/
theorem find?_iff_of_gathers {node : Node} {usage : Roster}
    (distinct : (surveyor.reducers.map (·.name)).Nodup)
    (h : Gathers (surveyor.read disk excluded blocked) node usage) (n : String) (r : Reducer) :
    usage.find? n = some r ↔ r ∈ surveyor.reducers ∧ r.name = n ∧ n ∉ excluded ∧
      surveyor.Needs disk blocked node r := by
  rw [Roster.find?_eq_some_iff]
  constructor
  · rintro ⟨hr, rfl⟩
    obtain ⟨x, hx, hu⟩ := h.sound r hr
    obtain ⟨hmem, hex, hc⟩ := mem_uses_read_iff.mp hu
    exact ⟨hmem, rfl, hex, x, reaches_read_iff.mp hx, hc⟩
  · rintro ⟨hmem, rfl, hex, x, hx, hc⟩
    have hn : r.name ∈ usage.names :=
      h.complete x (reaches_read_iff.mpr hx) r (mem_uses_read_iff.mpr ⟨hmem, hex, hc⟩)
    obtain ⟨r', hr', hname⟩ := Roster.mem_names.mp hn
    -- the roster knows the name; the only reducer with it is the one asked for
    obtain ⟨y, _, hu⟩ := h.sound r' hr'
    obtain ⟨hmem', -, -⟩ := mem_uses_read_iff.mp hu
    obtain rfl := List.inj_on_of_nodup_map distinct hmem' hmem hname
    exact ⟨hr', rfl⟩

theorem mem_toList_iff_of_gathers {node : Node} {usage : Roster}
    (distinct : (surveyor.reducers.map (·.name)).Nodup)
    (h : Gathers (surveyor.read disk excluded blocked) node usage) (r : Reducer) :
    r ∈ usage.toList ↔
      r ∈ surveyor.reducers ∧ r.name ∉ excluded ∧ surveyor.Needs disk blocked node r := by
  have hfind := find?_iff_of_gathers distinct h r.name r
  rw [Roster.find?_eq_some_iff] at hfind
  simpa using hfind

end Surveyor

end ReducerAtlas
