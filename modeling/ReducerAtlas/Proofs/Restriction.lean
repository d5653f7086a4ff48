import ReducerAtlas.Proofs.Failing

/-!
# Restrictions on an index

A restriction decides which references of an index are followed, and nothing else. A reference is
followed under the union of two restrictions exactly if it is followed under one of them, and
without a restriction every reference is. What can be reached splits in the same way, and with it
the names that a scan finds and the failures that stop it.

* `Joins`: what is asked for in one place is asked for in one of two others.
* `exists_reaches_iff`: what can be reached from a node whose steps are those of two others.
* `Surveyor.Settled.mem_names_scan_iff`: the names in the result of a scan.
* `Surveyor.Settled.scan_ok_iff_of_joins`, `Surveyor.Settled.mem_names_scan_of_joins`: a scan whose
  restriction joins two others ends normally if both of those do, and finds the names of both.
* **`Surveyor.names_scan_union`**: restrictions distribute over union.
-/

namespace ReducerAtlas

open Relation

/-! ## Unions of name sets -/

/-- The names that are in one of two sets. -/
def NameSet.union (names other : NameSet) : NameSet := NameSet.ofList (names ++ other)

theorem NameSet.mem_union {x : String} {names other : NameSet} :
    x ∈ names.union other ↔ x ∈ names ∨ x ∈ other := by
  rw [union, mem_ofList, List.mem_append]

theorem NameSet.meets_iff {names other : NameSet} :
    names.meets other = true ↔ ∃ n ∈ names, n ∈ other := by
  simp [meets]

/-- **What is asked for in one place is what is asked for in two others**: a reference is followed
there exactly if it is followed in one of them. -/
def Joins (asked first second : Option NameSet) : Prop :=
  ∀ reference : Source.Reference,
    reference.admitted asked = true ↔
      reference.admitted first = true ∨ reference.admitted second = true

theorem joins_none (asked : Option NameSet) : Joins none none asked := by
  intro reference
  simp [Source.Reference.admitted]

theorem joins_union (first second : NameSet) :
    Joins (some (NameSet.ofList (first.union second))) (some (NameSet.ofList first))
      (some (NameSet.ofList second)) := by
  intro reference
  unfold Source.Reference.admitted
  cases reference.clause.bindings with
  | none => simp
  | some bound =>
    simp only [NameSet.meets_iff, NameSet.mem_ofList, NameSet.mem_union, and_or_left, exists_or]

/-- Where the steps from a node are those from two others, something holds within reach of it
exactly if it holds within reach of one of the two. -/
theorem exists_reaches_iff {α : Type} {step : α → α → Prop} {P : α → Prop} {a a₁ a₂ : α}
    (hstep : ∀ b, step a b ↔ step a₁ b ∨ step a₂ b) (hP : P a ↔ P a₁ ∨ P a₂) :
    (∃ x, ReflTransGen step a x ∧ P x) ↔
      (∃ x, ReflTransGen step a₁ x ∧ P x) ∨ ∃ x, ReflTransGen step a₂ x ∧ P x := by
  -- by the first step: there is none, or it leads to a node on which the three agree
  have hhead : ∀ c, (∃ x, ReflTransGen step c x ∧ P x) ↔
      P c ∨ ∃ b, step c b ∧ ∃ x, ReflTransGen step b x ∧ P x := by
    intro c
    constructor
    · rintro ⟨x, hx, hPx⟩
      rcases hx.cases_head with rfl | ⟨b, hb, hbx⟩
      · exact .inl hPx
      · exact .inr ⟨b, hb, x, hbx, hPx⟩
    · rintro (hc | ⟨b, hb, x, hbx, hPx⟩)
      · exact ⟨c, .refl, hc⟩
      · exact ⟨x, .head hb hbx, hPx⟩
  rw [hhead a, hhead a₁, hhead a₂, hP]
  simp only [hstep, or_and_right, exists_or]
  exact or_or_or_comm

namespace Surveyor

variable {surveyor : Surveyor} {disk : Disk} {phase : Phase} {stack : List Path}
  {restriction first second : Option NameSet} {file found : Path} {usage : Roster}

/-! ## Nodes of one file -/

/-- What one restriction asks for at a file is what two others ask for. -/
def JoinsAt (surveyor : Surveyor) (found : Path) (restriction first second : Option NameSet) :
    Prop :=
  Joins (surveyor.node found restriction).asked (surveyor.node found first).asked
    (surveyor.node found second).asked

theorem joinsAt_union (surveyor : Surveyor) (found : Path) (R₁ R₂ : NameSet) :
    surveyor.JoinsAt found (some (R₁.union R₂)) (some R₁) (some R₂) := by
  unfold JoinsAt node Lookup.incoming
  split_ifs
  · exact joins_union R₁ R₂
  · exact joins_none none

theorem asked_node_none (surveyor : Surveyor) (found : Path) :
    (surveyor.node found none).asked = none := by
  unfold node Lookup.incoming
  split_ifs <;> rfl

theorem joinsAt_none (surveyor : Surveyor) (found : Path) (restriction : Option NameSet) :
    surveyor.JoinsAt found none none restriction := by
  rw [JoinsAt, asked_node_none]
  exact joins_none _

theorem JoinsAt.imports_iff (h : surveyor.JoinsAt found restriction first second)
    (blocked : List Path) (b : Node) :
    surveyor.Imports disk blocked (surveyor.node found restriction) b ↔
      surveyor.Imports disk blocked (surveyor.node found first) b ∨
        surveyor.Imports disk blocked (surveyor.node found second) b := by
  unfold JoinsAt Joins at h
  simp only [Imports, h, or_and_right, and_or_left, exists_or]
  rfl

theorem JoinsAt.fails_iff (h : surveyor.JoinsAt found restriction first second)
    (failure : Failure) :
    surveyor.Fails disk (surveyor.node found restriction) failure ↔
      surveyor.Fails disk (surveyor.node found first) failure ∨
        surveyor.Fails disk (surveyor.node found second) failure := by
  unfold JoinsAt Joins at h
  simp only [Fails, h, or_and_right, and_or_left, exists_or]
  exact or_or_distrib_left

/-! ## Scans -/

theorem exists_within_iff (hjoins : ∀ found, surveyor.JoinsAt found restriction first second)
    {P : Node → Prop} (hP : ∀ found, P (surveyor.node found restriction) ↔
      P (surveyor.node found first) ∨ P (surveyor.node found second)) :
    (∃ x, surveyor.Within disk stack restriction file x ∧ P x) ↔
      (∃ x, surveyor.Within disk stack first file x ∧ P x) ∨
        ∃ x, surveyor.Within disk stack second file x ∧ P x := by
  have hstart : ∀ restriction, (∃ x, surveyor.Within disk stack restriction file x ∧ P x) ↔
      ∃ found, (surveyor.lookup.find disk file = .ok (some found) ∧ found ∉ stack) ∧
        ∃ x, ReflTransGen (surveyor.Imports disk stack) (surveyor.node found restriction) x ∧
          P x := by
    intro restriction
    constructor
    · rintro ⟨x, ⟨found, hfind, hstack, hx⟩, hPx⟩
      exact ⟨found, ⟨hfind, hstack⟩, x, hx, hPx⟩
    · rintro ⟨found, ⟨hfind, hstack⟩, x, hx, hPx⟩
      exact ⟨x, ⟨found, hfind, hstack, hx⟩, hPx⟩
  rw [hstart, hstart, hstart, ← exists_or]
  refine exists_congr fun found => ?_
  rw [exists_reaches_iff ((hjoins found).imports_iff stack) (hP found), and_or_left]

/-- The names in the result of a scan: those of the reducers, without the excluded ones, that have a
core file within reach. -/
theorem Settled.mem_names_scan_iff (h : surveyor.Settled disk phase)
    (hscan : (surveyor.scan disk phase stack restriction file).outcome = .ok usage) (n : String) :
    n ∈ usage.names ↔ ∃ r ∈ surveyor.reducers, r.name = n ∧ r.name ∉ phase.excluded ∧
      ∃ x, surveyor.Within disk stack restriction file x ∧ surveyor.Claims disk x r := by
  rcases surveyor.scan_cases disk stack restriction file with
    ⟨found, hfind, hstack⟩ | ⟨hno, _, _, hempty, hs⟩
  · have hgathers := gathers_of_scan hfind hstack (h.final_storeFor stack) hscan
    constructor
    · intro hn
      obtain ⟨r, hr, rfl⟩ := Roster.mem_names.mp hn
      obtain ⟨x, hx, hu⟩ := hgathers.sound r hr
      obtain ⟨hmem, hex, hc⟩ := mem_uses_read_iff.mp hu
      exact ⟨r, hmem, rfl, hex, x, ⟨found, hfind, hstack, reaches_read_iff.mp hx⟩, hc⟩
    · rintro ⟨r, hmem, rfl, hex, x, ⟨found', hfind', -, hx⟩, hc⟩
      obtain rfl : found = found' := by simpa [hfind] using hfind'
      exact hgathers.complete x (reaches_read_iff.mpr hx) r
        (mem_uses_read_iff.mpr ⟨hmem, hex, hc⟩)
  · rw [hs] at hscan
    rw [hempty usage hscan, Roster.names_empty]
    refine iff_of_false List.not_mem_nil ?_
    rintro ⟨_, _, _, _, x, ⟨found, hfind, hstack, _⟩, _⟩
    exact hno ⟨found, hfind, hstack⟩

section Joined

variable (h : surveyor.Settled disk phase)
  (hjoins : ∀ found, surveyor.JoinsAt found restriction first second)

include h hjoins

/-- **A scan whose restriction joins two others fails exactly if a scan under one of them does.** -/
theorem Settled.scan_error_iff_of_joins (stack : List Path) (file : Path) :
    (∃ failure, (surveyor.scan disk phase stack restriction file).outcome = .error failure) ↔
      (∃ failure, (surveyor.scan disk phase stack first file).outcome = .error failure) ∨
        ∃ failure, (surveyor.scan disk phase stack second file).outcome = .error failure := by
  have hfails : ∀ found,
      (∃ failure, surveyor.Fails disk (surveyor.node found restriction) failure) ↔
        (∃ failure, surveyor.Fails disk (surveyor.node found first) failure) ∨
          ∃ failure, surveyor.Fails disk (surveyor.node found second) failure := by
    intro found
    simp only [(hjoins found).fails_iff, exists_or]
  rw [h.scan_error_iff, h.scan_error_iff, h.scan_error_iff, exists_within_iff hjoins hfails]
  exact or_or_distrib_left

theorem Settled.scan_ok_iff_of_joins (stack : List Path) (file : Path) :
    (∃ usage, (surveyor.scan disk phase stack restriction file).outcome = .ok usage) ↔
      (∃ usage, (surveyor.scan disk phase stack first file).outcome = .ok usage) ∧
        ∃ usage, (surveyor.scan disk phase stack second file).outcome = .ok usage := by
  have hnot : ∀ outcome : Except Failure Roster,
      (∃ usage, outcome = .ok usage) ↔ ¬ ∃ failure, outcome = .error failure := by
    intro outcome
    cases outcome <;> simp
  rw [hnot, hnot, hnot, h.scan_error_iff_of_joins hjoins, not_or]

/-- **A scan whose restriction joins two others finds what the scans under those find.** -/
theorem Settled.mem_names_scan_of_joins {usage₁ usage₂ : Roster}
    (hscan : (surveyor.scan disk phase stack restriction file).outcome = .ok usage)
    (hfirst : (surveyor.scan disk phase stack first file).outcome = .ok usage₁)
    (hsecond : (surveyor.scan disk phase stack second file).outcome = .ok usage₂) (n : String) :
    n ∈ usage.names ↔ n ∈ usage₁.names ∨ n ∈ usage₂.names := by
  rw [h.mem_names_scan_iff hscan, h.mem_names_scan_iff hfirst, h.mem_names_scan_iff hsecond]
  -- the core files of a reducer do not depend on what is asked of a file
  simp only [exists_within_iff hjoins (P := fun x => surveyor.Claims disk x _)
    fun _ => (or_self_iff).symm, and_or_left, exists_or]

end Joined

theorem scan_eq_of_not_index
    (h : ∀ found, surveyor.lookup.find disk file = .ok (some found) →
      surveyor.lookup.isIndex found = false) (restriction : Option NameSet) :
    surveyor.scan disk phase stack restriction file = surveyor.scan disk phase stack none file := by
  cases hfind : surveyor.lookup.find disk file with
  | error failure => simp only [scan, hfind]
  | ok target =>
    cases target with
    | none => simp only [scan, hfind]
    | some found =>
      have hnode : surveyor.node found restriction = surveyor.node found none := by
        simp [node, Lookup.incoming, h found hfind]
      simp only [scan, hfind, hnode]

/-- **Restrictions distribute over union.** Whatever the disk, the reducers, the excluded names, the
stack and the file, with a fresh phase for each scan:

* the scan under a union of two restrictions ends normally exactly if the scans under both do, and
  finds exactly the names that one of them finds;
* if the scan without a restriction ends normally, then so does the scan under any restriction, and
  all the names that this finds are among the names found without one;
* where the file does not stand for an index, the scans under all restrictions are the same. -/
theorem names_scan_union (surveyor : Surveyor) (disk : Disk) (excluded : List String)
    (caching : Bool) (stack : List Path) (file : Path) :
    let scan := fun restriction =>
      surveyor.scan disk { excluded := excluded, caching := caching } stack restriction file
    (∀ R₁ R₂ : NameSet,
      ((∃ usage, (scan (some (R₁.union R₂))).outcome = .ok usage) ↔
        (∃ usage, (scan (some R₁)).outcome = .ok usage) ∧
          ∃ usage, (scan (some R₂)).outcome = .ok usage) ∧
      ∀ usage usage₁ usage₂, (scan (some (R₁.union R₂))).outcome = .ok usage →
        (scan (some R₁)).outcome = .ok usage₁ → (scan (some R₂)).outcome = .ok usage₂ →
          ∀ n, n ∈ usage.names ↔ n ∈ usage₁.names ∨ n ∈ usage₂.names) ∧
    (∀ all, (scan none).outcome = .ok all → ∀ R : NameSet,
      ∃ usage, (scan (some R)).outcome = .ok usage ∧ usage.names ⊆ all.names) ∧
    ((∀ found, surveyor.lookup.find disk file = .ok (some found) →
      surveyor.lookup.isIndex found = false) → ∀ restriction, scan restriction = scan none) := by
  have hfresh : surveyor.Settled disk { excluded := excluded, caching := caching } :=
    settled_of_store_eq_nil rfl
  refine ⟨fun R₁ R₂ => ?_, fun all hall R => ?_, fun hindex => scan_eq_of_not_index hindex⟩
  · have hjoins := fun found => surveyor.joinsAt_union found R₁ R₂
    exact ⟨hfresh.scan_ok_iff_of_joins hjoins stack file, fun _ _ _ hscan hfirst hsecond =>
      hfresh.mem_names_scan_of_joins hjoins hscan hfirst hsecond⟩
  · have hjoins := fun found => surveyor.joinsAt_none found (some R)
    obtain ⟨-, usage, husage⟩ := (hfresh.scan_ok_iff_of_joins hjoins stack file).mp ⟨all, hall⟩
    refine ⟨usage, husage, fun n hn => ?_⟩
    exact (hfresh.mem_names_scan_of_joins hjoins hall hall husage n).mpr (.inr hn)

/-! ## An index of two reducers -/

/-- An index forwards the action files of two reducers, under a name each. -/
def indexDisk : Disk where
  root :=
    .folder "cart" (.file "actions.js" [] .empty) <|
    .file "index.js" (Text.Utf8.encode ("export \x7b add \x7d from './cart/actions'; ".toList ++
      "export \x7b login \x7d from './user/actions';".toList)) <|
    .folder "user" (.file "actions.js" [] .empty) .empty

/-- One of these reducers. -/
def cartReducer : Reducer := ⟨"cart", Path.parse "/cart/reducer.js", none⟩

/-- A surveyor that looks for both. -/
def indexSurveyor : Surveyor where
  reducers := [cartReducer, circleReducer]
  base := .root
  actionNames := some ["actions.js"]

theorem names_scan_indexDisk :
    let scan := fun restriction =>
      indexSurveyor.scan indexDisk { excluded := [], caching := true } [] restriction
        (Path.parse "/index")
    (∃ usage, (scan (some ["add"])).outcome = .ok usage ∧ usage.names = ["cart"]) ∧
    (∃ usage, (scan (some ["login"])).outcome = .ok usage ∧ usage.names = ["user"]) ∧
    ∃ usage, (scan (some (NameSet.union ["add"] ["login"]))).outcome = .ok usage ∧
      ∀ n, n ∈ usage.names ↔ n = "cart" ∨ n = "user" := by
  have hadd : (indexSurveyor.scan indexDisk { excluded := [], caching := true } [] (some ["add"])
      (Path.parse "/index")).outcome = .ok (.ofList [cartReducer]) := by
    decide +kernel
  have hlogin : (indexSurveyor.scan indexDisk { excluded := [], caching := true } []
      (some ["login"]) (Path.parse "/index")).outcome =
        .ok (.ofList [circleReducer]) := by
    decide +kernel
  obtain ⟨hends, hnames⟩ :=
    (names_scan_union indexSurveyor indexDisk [] true [] (Path.parse "/index")).1 ["add"] ["login"]
  obtain ⟨usage, husage⟩ := hends.mpr ⟨⟨_, hadd⟩, ⟨_, hlogin⟩⟩
  refine ⟨⟨_, hadd, by decide⟩, ⟨_, hlogin, by decide⟩, usage, husage, fun n => ?_⟩
  rw [hnames usage _ _ husage hadd hlogin n]
  simp [Roster.names, Roster.ofList, Roster.insert, Roster.insertList, cartReducer, circleReducer]

end Surveyor

end ReducerAtlas
