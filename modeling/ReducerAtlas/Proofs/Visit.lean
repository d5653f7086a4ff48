import ReducerAtlas.Proofs.Finality
import ReducerAtlas.Usage.Scan

/-!
# The visit of a node

A visit is taken apart into what one reference does to the ledger and what the closing of the node
does. Beside it stands a plain search, which only remembers the nodes it has seen: a visit opens the
same nodes in the same order and stops at the same failure, and when it does not stop, the ledger is
sound again and the node is finished or waits for its circle.

* `Search.explore`: the plain search, with the first failure if there is one.
* `Ledger.Progress`: a node some of whose references were followed; `Ledger.Visited`: a node after
  its visit.
* **`Search.visit_mirrors`**: a visit agrees with the plain search.
-/

namespace ReducerAtlas

open Relation

variable {read : Node → Reading}

/-! ## The plain search -/

namespace Search

/-- Follows some steps one after the other; nodes seen before are passed over. -/
def exploreSteps (explore : Node → List Node → List Node × Option Failure) :
    List Step → List Node → List Node × Option Failure
  | [], seen => (seen, none)
  | .notAskedFor _ :: rest, seen => exploreSteps explore rest seen
  | .blocked _ :: rest, seen => exploreSteps explore rest seen
  | .fail failure :: _, seen => (seen, some failure)
  | .follow child :: rest, seen =>
    if child ∈ seen then exploreSteps explore rest seen
    else
      match explore child seen with
      | (seen, some failure) => (seen, some failure)
      | (seen, none) => exploreSteps explore rest seen

/-- **The nodes seen by a depth-first search**, the latest first, and the failure that stopped it.
-/
def explore (read : Node → Reading) : Nat → Node → List Node → List Node × Option Failure
  | 0, _, seen => (seen, some .tooDeep)
  | fuel + 1, node, seen =>
    match read node with
    | .absent => (node :: seen, none)
    | .broken failure => (node :: seen, some failure)
    | .source _ steps => exploreSteps (explore read fuel) steps (node :: seen)

end Search

/-! ## One reference after the other -/

namespace Ledger

variable {L₀ L L' : Ledger} {node child : Node} {found usage : Roster} {followed : List Step}

/-- A node was opened and some of its references were followed: what it found comes from nodes
within its reach, what they lead to is accounted for, and all nodes opened since wait. The first
ledger is the one before the node was opened. -/
structure Progress (read : Node → Reading) (L₀ : Ledger) (node : Node) (L : Ledger) (found : Roster)
    (followed : List Step) : Prop where
  sound : L.Sound read
  base : L₀.Extends L
  fresh : ¬ L₀.Marked node
  marked : L.Marked node
  number : L.number node = L₀.marks.length
  above : ∃ new, L.pending = new ++ node :: L₀.pending ∧ L.Above read node new
  low_le : L.low node ≤ L.number node
  back : ∃ w ∈ L.pending, L.number w = L.low node ∧ Reaches read node w
  origin : ∀ r ∈ found.toList, ∃ x, Reaches read node x ∧ r ∈ (read x).uses
  covers : ∀ d, .follow d ∈ followed → L.Covers (L.low node) found d
  passed : ∀ failure, .fail failure ∉ followed

/-- What the visit of a node makes of a ledger: the older nodes are left alone, the nodes opened
since and not finished all wait, and the node is among them or has its result. -/
structure Visited (read : Node → Reading) (L : Ledger) (node : Node) (L' : Ledger)
    (usage : Roster) : Prop where
  sound : L'.Sound read
  base : L.Extends L'
  marked : L'.Marked node
  above : ∃ new, L'.pending = new ++ L.pending ∧ L'.Above read node new
  back : (∃ w ∈ L'.pending, L'.number w = L'.low node ∧ Reaches read node w) ∨
    L.marks.length ≤ L'.low node
  result : (node ∈ L'.pending ∧ L'.low node ≤ L'.number node) ∨ L'.store.find? node = some usage
  origin : ∀ r ∈ usage.toList, ∃ x, Reaches read node x ∧ r ∈ (read x).uses

theorem Progress.enter (hs : L.Sound read) (hnode : ¬ L.Known node) :
    Progress read L node (L.enter node) .empty [] where
  sound := hs.enter hnode
  base := .enter fun h => hnode (.inl h)
  fresh h := hnode (.inl h)
  marked := marked_enter.mpr (.inl rfl)
  number := number_enter_self
  above := ⟨[], rfl, by simp [Above]⟩
  low_le := by simp
  back := ⟨node, by simp, by simp, .refl⟩
  origin := by simp
  covers := by simp
  passed := by simp

theorem Progress.node_notMem {new : List Node} (h : Progress read L₀ node L found followed)
    (hp : L.pending = new ++ node :: L₀.pending) : node ∉ new ∧ node ∉ L₀.pending := by
  have hnodup := h.sound.nodup
  rw [hp, List.nodup_append, List.nodup_cons] at hnodup
  exact ⟨fun hm => hnodup.2.2 node hm node List.mem_cons_self rfl, hnodup.2.1.1⟩

theorem Progress.pass (h : Progress read L₀ node L found followed) {step : Step}
    (hstep : ∀ d, step ≠ .follow d) (hfail : ∀ failure, step ≠ .fail failure) :
    Progress read L₀ node L found (followed ++ [step]) :=
  { h with
    covers := by
      intro d hd
      rcases List.mem_append.mp hd with hd | hd
      · exact h.covers d hd
      · exact absurd (List.mem_singleton.mp hd).symm (hstep d)
    passed := by
      intro failure hf
      rcases List.mem_append.mp hf with hf | hf
      · exact h.passed failure hf
      · exact hfail failure (List.mem_singleton.mp hf).symm }

theorem Progress.passed_follow (h : Progress read L₀ node L found followed) (failure : Failure) :
    .fail failure ∉ followed ++ [.follow child] := by
  simpa using h.passed failure

theorem Progress.reuse (h : Progress read L₀ node L found followed) (hlead : Leads read node child)
    (hchild : L.store.find? child = some usage) :
    Progress read L₀ node L (found.union usage) (followed ++ [.follow child]) :=
  { h with
    origin := by
      intro r hr
      rcases Roster.mem_union hr with hr | hr
      · exact h.origin r hr
      · obtain ⟨x, hx, hu⟩ := (h.sound.final.gathers hchild).sound r hr
        exact ⟨x, .head hlead hx, hu⟩
    covers := by
      intro d hd
      rcases List.mem_append.mp hd with hd | hd
      · exact (h.covers d hd).mono (Int.le_refl _) fun n hn => Roster.mem_names_union.mpr (.inl hn)
      · cases List.mem_singleton.mp hd
        exact .inr ⟨usage, hchild, fun n hn => Roster.mem_names_union.mpr (.inr hn)⟩
    passed := h.passed_follow }

theorem Progress.link (h : Progress read L₀ node L found followed) (hlead : Leads read node child)
    (hchild : child ∈ L.pending) :
    Progress read L₀ node (L.lower node (L.number child)) found (followed ++ [.follow child]) where
  sound := h.sound.lower h.marked
  base := h.base.lower h.fresh
  fresh := h.fresh
  marked := (marked_lower h.marked).mpr h.marked
  number := by rw [number_lower, h.number]
  above := by
    obtain ⟨new, hp, hnew⟩ := h.above
    refine ⟨new, hp, fun m hm => ?_⟩
    obtain ⟨hwait, hle, hr⟩ := hnew m hm
    have hne : node ≠ m := by
      rintro rfl
      exact (h.node_notMem hp).1 hm
    refine ⟨hwait.lower hne, ?_, hr⟩
    rw [low_lower_self, low_lower_of_ne hne]
    omega
  low_le := by
    have := h.low_le
    rw [low_lower_self, number_lower]
    omega
  back := by
    obtain ⟨w, hw, hn, hr⟩ := h.back
    rw [low_lower_self]
    by_cases hlt : (L.number child : Int) < L.low node
    · exact ⟨child, hchild, by rw [number_lower]; omega, .single hlead⟩
    · exact ⟨w, hw, by rw [number_lower]; omega, hr⟩
  origin := h.origin
  covers := by
    intro d hd
    rw [low_lower_self, covers_lower]
    rcases List.mem_append.mp hd with hd | hd
    · exact (h.covers d hd).mono (by omega) fun _ hn => hn
    · cases List.mem_singleton.mp hd
      exact .inl ⟨hchild, by omega⟩
  passed := h.passed_follow

/-- A node that was not open is visited and gives its result, or what it has found so far. -/
theorem Progress.visit (h : Progress read L₀ node L found followed) (hlead : Leads read node child)
    (hv : Visited read L child L' usage) :
    Progress read L₀ node (L'.lower node (L'.low child)) (found.union usage)
      (followed ++ [.follow child]) := by
  have hmarked : L'.Marked node := hv.base.marked h.marked
  have hlow : L'.low node = L.low node := hv.base.low h.marked
  have hnumber : L'.number node = L.number node := hv.base.number h.marked
  have hbounded : L.number node < L.marks.length := h.sound.bounded node h.marked
  have hlow_le := h.low_le
  refine ⟨hv.sound.lower hmarked, (h.base.trans hv.base).lower h.fresh, h.fresh,
    (marked_lower hmarked).mpr hmarked, ?_, ?_, ?_, ?_, ?_, ?_, h.passed_follow⟩
  · rw [number_lower, hnumber, h.number]
  · obtain ⟨new, hp, hnew⟩ := h.above
    obtain ⟨new', hp', hnew'⟩ := hv.above
    have hp'' : L'.pending = (new' ++ new) ++ node :: L₀.pending := by
      rw [hp', hp, List.append_assoc]
    have hne : ∀ m ∈ new' ++ new, node ≠ m := by
      have hnodup := hv.sound.nodup
      rw [hp'', List.nodup_append] at hnodup
      exact fun m hm e => hnodup.2.2 m hm node List.mem_cons_self e.symm
    refine ⟨new' ++ new, hp'', fun m hm => ?_⟩
    rw [low_lower_self, low_lower_of_ne (hne m hm)]
    rcases List.mem_append.mp hm with hm' | hm'
    · obtain ⟨hwait, hle, hr⟩ := hnew' m hm'
      exact ⟨hwait.lower (hne m hm), by omega, .head hlead hr⟩
    · obtain ⟨hwait, hle, hr⟩ := hnew m hm'
      have hpend : m ∈ L.pending := by
        rw [hp]
        exact List.mem_append_left _ hm'
      refine ⟨(hwait.extend h.sound hv.base hpend).lower (hne m hm), ?_, hr⟩
      rw [hv.base.low (h.sound.marked hpend)]
      omega
  · rw [low_lower_self, number_lower]
    omega
  · -- the low mark of the node is its old one, or that of the visited node if it got further back
    rw [low_lower_self]
    obtain ⟨w, hw, hn, hr⟩ := h.back
    have hold : ∃ w ∈ L'.pending, L'.number w = L'.low node ∧ Reaches read node w :=
      ⟨w, hv.base.pending.subset hw, by rw [hv.base.number (h.sound.marked hw)]; omega, hr⟩
    by_cases hlt : L'.low child < L'.low node
    · rcases hv.back with ⟨w, hw, hn, hr⟩ | hle
      · exact ⟨w, hw, by rw [number_lower]; omega, .head hlead hr⟩
      · omega
    · obtain ⟨w, hw, hn, hr⟩ := hold
      exact ⟨w, hw, by rw [number_lower]; omega, hr⟩
  · intro r hr
    rcases Roster.mem_union hr with hr | hr
    · exact h.origin r hr
    · obtain ⟨x, hx, hu⟩ := hv.origin r hr
      exact ⟨x, .head hlead hx, hu⟩
  · intro d hd
    rw [low_lower_self, covers_lower]
    rcases List.mem_append.mp hd with hd | hd
    · refine ((h.covers d hd).extend h.sound hv.base).mono (by omega) fun n hn => ?_
      exact Roster.mem_names_union.mpr (.inl hn)
    · cases List.mem_singleton.mp hd
      rcases hv.result with ⟨hpend, hle⟩ | hfin
      · exact .inl ⟨hpend, by omega⟩
      · exact .inr ⟨usage, hfin, fun n hn => Roster.mem_names_union.mpr (.inr hn)⟩

/-! ## Closing -/

theorem Waiting.keep {m : Node} (h : L.Waiting read m) (hne : node ≠ m) :
    (L.keep node found).Waiting read m := by
  obtain ⟨hlt, f, hf, hx⟩ := h
  exact ⟨hlt, f, by rw [get?_partials_keep, if_neg hne, hf], hx.keep⟩

/-- An explored node that can get back to an older one waits for its circle. -/
theorem Progress.wait (h : Progress read L₀ node L found followed) {f : Roster}
    (hx : L.Explored read node f) (hlow : L.low node ≠ L.number node) :
    Visited read L₀ node (L.keep node f) f := by
  obtain ⟨new, hp, hnew⟩ := h.above
  obtain ⟨hnotin, hnotin₀⟩ := h.node_notMem hp
  have hle := h.low_le
  refine ⟨h.sound.keep, h.base.keep hnotin₀, h.marked, ⟨new ++ [node], ?_, ?_⟩, .inl hx.back,
    .inl ⟨?_, h.low_le⟩, hx.sound⟩
  · rw [pending_keep, hp, List.append_assoc, List.singleton_append]
  · intro m hm
    rcases List.mem_append.mp hm with hm | hm
    · obtain ⟨hwait, hmle, hr⟩ := hnew m hm
      have hne : node ≠ m := by
        rintro rfl
        exact hnotin hm
      exact ⟨hwait.keep hne, hmle, hr⟩
    · rw [List.mem_singleton.mp hm]
      refine ⟨⟨?_, f, by rw [get?_partials_keep, if_pos rfl], hx.keep⟩, Int.le_refl _, .refl⟩
      rw [low_keep, number_keep]
      omega
  · rw [pending_keep, hp]
    exact List.mem_append_right _ List.mem_cons_self

/-- An explored node that is the oldest of its circle is finished with all nodes opened since. -/
theorem Progress.finish (h : Progress read L₀ node L found followed) {f : Roster}
    (hx : L.Explored read node f) (hlow : L.low node = L.number node) :
    ∃ L' usage, L.close node f = (L', .ok usage) ∧ Visited read L₀ node L' usage ∧
      ∀ n, L'.Known n ↔ L.Known n := by
  obtain ⟨new, hp, hnew⟩ := h.above
  have hnodup := h.sound.nodup
  rw [hp, List.nodup_append] at hnodup
  have hparts : ∀ m ∈ new, (L.partials.get? m).isSome := by
    intro m hm
    obtain ⟨⟨-, g, hg, -⟩, -⟩ := hnew m hm
    rw [hg]
    rfl
  obtain ⟨partials, usage, hclose, hout, hnames, hmem⟩ := close_of_low_eq f h.marked hlow hp
    (h.node_notMem hp).1 hnodup.1 hparts
  have hgroup := h.sound.final_of_root hp hlow hnew hx hnames hmem
  rw [List.append_cons] at hp
  have hself : node ∈ new ++ [node] := by simp
  have hnumber := h.number
  refine ⟨_, usage, hclose, ⟨h.sound.finish partials hp hgroup,
    h.base.finish partials h.sound hp hout, h.marked, ⟨[], rfl, by simp [Above]⟩, .inr ?_,
    .inr (if_pos hself), ?_⟩, fun n => ?_⟩
  · change (L₀.marks.length : Int) ≤ L.low node
    omega
  · exact (hgroup.gathers node hself).sound
  · change L.Marked n ∨ _ ↔ L.Marked n ∨ _
    by_cases hn : n ∈ new ++ [node]
    · have hm : L.Marked n := h.sound.marked (hp ▸ List.mem_append_left _ hn)
      exact ⟨fun _ => .inl hm, fun _ => .inl hm⟩
    · rw [Store.find?, if_neg hn]

/-- **Closing an explored node** never fails, and completes its visit. -/
theorem Progress.close (h : Progress read L₀ node L found followed) {f : Roster}
    (hx : L.Explored read node f) :
    ∃ L' usage, L.close node f = (L', .ok usage) ∧ Visited read L₀ node L' usage ∧
      ∀ n, L'.Known n ↔ L.Known n := by
  by_cases hlow : L.low node = L.number node
  · exact h.finish hx hlow
  · exact ⟨_, f, close_of_low_ne h.marked hlow, h.wait hx hlow, fun n => Iff.rfl⟩

end Ledger

/-! ## A visit and the plain search -/

namespace Search

open Ledger

/-- The outcome of a visit and that of the plain search: both stopped at one failure, or both ended
and have seen the same nodes. In both cases what is in the store is final. -/
inductive Mirrors (read : Node → Reading) (post : Ledger → Roster → Prop) :
    Outcome → List Node × Option Failure → Prop
  | stopped {s : Search} {failure : Failure} {seen : List Node}
    (final : s.ledger.store.Final read) : Mirrors read post (s, .error failure) (seen, some failure)
  | ended {s : Search} {usage : Roster} {seen : List Node}
    (known : ∀ n, n ∈ seen ↔ s.ledger.Known n) (holds : post s.ledger usage) :
    Mirrors read post (s, .ok usage) (seen, none)

section Mirrors

variable {post post' : Ledger → Roster → Prop} {s : Search} {outcome : Outcome}
  {explored : List Node × Option Failure}

theorem Mirrors.of_ok {usage : Roster} (h : Mirrors read post (s, .ok usage) explored) :
    post s.ledger usage ∧ explored.2 = none := by
  cases h with
  | ended _ hpost => exact ⟨hpost, rfl⟩

theorem Mirrors.of_error {failure : Failure} (h : Mirrors read post (s, .error failure) explored) :
    s.ledger.store.Final read ∧ explored.2 = some failure := by
  cases h with
  | stopped hfinal => exact ⟨hfinal, rfl⟩

theorem Mirrors.imp (h : Mirrors read post outcome explored)
    (himp : ∀ L usage, post L usage → post' L usage) : Mirrors read post' outcome explored := by
  cases h with
  | stopped hfinal => exact .stopped hfinal
  | ended hknown hpost => exact .ended hknown (himp _ _ hpost)

end Mirrors

theorem link_of_marked {s : Search} {node : Node} {k : Int} (h : s.ledger.Marked node) :
    s.link node k = .ok { s with ledger := s.ledger.lower node k } := by
  simp [link, Ledger.link_of_marked h]

theorem close_of_ok {s : Search} {node : Node} {found usage : Roster} {L : Ledger}
    (h : s.ledger.close node found = (L, .ok usage)) :
    s.close node found = ({ s with ledger := L }, .ok usage) := by
  simp [close, h]

/-- A way to visit nodes agrees with a way to explore them. -/
def Agree (read : Node → Reading) (visit : Node → Search → Outcome)
    (explore : Node → List Node → List Node × Option Failure) : Prop :=
  ∀ child s seen, s.ledger.Sound read → ¬ s.ledger.Known child →
    (∀ n, n ∈ seen ↔ s.ledger.Known n) →
    Mirrors read (Visited read s.ledger child) (visit child s) (explore child seen)

theorem takeSteps_mirrors {visit : Node → Search → Outcome}
    {explore : Node → List Node → List Node × Option Failure} (hvisit : Agree read visit explore)
    {L₀ : Ledger} {node : Node} (depth : Nat) (steps : List Step) {followed : List Step}
    {found : Roster} {s : Search} {seen : List Node}
    (hlead : ∀ d, .follow d ∈ steps → Leads read node d)
    (h : Progress read L₀ node s.ledger found followed)
    (hseen : ∀ n, n ∈ seen ↔ s.ledger.Known n) :
    Mirrors read (fun L f => Progress read L₀ node L f (followed ++ steps))
      (takeSteps visit depth node steps found s) (exploreSteps explore steps seen) := by
  induction steps generalizing followed found s seen with
  | nil =>
    rw [List.append_nil]
    exact .ended hseen h
  | cons step rest ih =>
    have hrest : ∀ d, .follow d ∈ rest → Leads read node d :=
      fun d hd => hlead d (List.mem_cons_of_mem _ hd)
    rw [List.append_cons]
    cases step with
    | notAskedFor specifiers => exact ih hrest (h.pass (by simp) (by simp)) hseen
    | blocked target => exact ih hrest (h.pass (by simp) (by simp)) hseen
    | fail failure => exact .stopped h.sound.final
    | follow child =>
      have hchild : Leads read node child := hlead child List.mem_cons_self
      simp only [takeSteps, exploreSteps]
      cases hfind : s.ledger.store.find? child with
      | some usage =>
        have hknown : child ∈ seen := (hseen child).mpr (.inr (by simp [hfind]))
        rw [if_pos hknown]
        exact ih hrest (h.reuse hchild hfind) hseen
      | none =>
        cases hmark : s.ledger.marks.get? child with
        | some mark =>
          have hmarked : s.ledger.Marked child := by simp [Marked, hmark]
          have hpend : child ∈ s.ledger.pending :=
            (h.sound.mem_pending_iff child).mpr ⟨hmarked, hfind⟩
          have hnumber : mark.number = s.ledger.number child := by simp [number, hmark]
          rw [if_pos ((hseen child).mpr (.inl hmarked))]
          simp only [link_of_marked (s := s.tell _) h.marked, hnumber]
          refine ih hrest (h.link hchild hpend) fun n => ?_
          rw [hseen n]
          exact (or_congr_left (marked_lower h.marked)).symm
        | none =>
          have hunknown : ¬ s.ledger.Known child := by simp [Known, Marked, hmark, hfind]
          rw [if_neg fun hc => hunknown ((hseen child).mp hc)]
          have hv := hvisit child s seen h.sound hunknown hseen
          generalize visit child s = outcome at hv ⊢
          generalize explore child seen = explored at hv ⊢
          cases hv with
          | stopped hfinal => exact .stopped hfinal
          | @ended s' usage seen' hseen' hv =>
            have hmarked : s'.ledger.Marked node := hv.base.marked h.marked
            simp only [get?_of_marked hv.marked, link_of_marked hmarked]
            refine ih hrest (h.visit hchild hv) fun n => ?_
            rw [hseen' n]
            exact (or_congr_left (marked_lower hmarked)).symm

theorem explored_of_progress {L₀ L : Ledger} {node : Node} {found : Roster} {uses : List Reducer}
    {steps : List Step} (hread : read node = .source uses steps)
    (h : Progress read L₀ node L found steps) :
    L.Explored read node (found.union (.ofList uses)) where
  healthy := by
    rw [hread]
    exact Reading.healthy_source h.passed
  back := h.back
  sound := by
    intro r hr
    rcases Roster.mem_union hr with hr | hr
    · exact h.origin r hr
    · exact ⟨node, .refl, by rw [hread]; exact Roster.mem_ofList hr⟩
  own := by
    intro r hr
    rw [hread] at hr
    exact Roster.mem_names_union.mpr (.inr (Roster.mem_names_ofList.mpr ⟨r, hr, rfl⟩))
  covers := by
    intro d hd
    rw [Leads, hread] at hd
    exact (h.covers d hd).mono (Int.le_refl _) fun n hn => Roster.mem_names_union.mpr (.inl hn)

/-- **A visit agrees with the plain search**: it stops exactly where that one stops, and otherwise
it has opened the same nodes, the ledger is sound, and the node is finished or waits for its circle.
-/
theorem visit_mirrors (read : Node → Reading) (fuel depth : Nat) :
    Agree read (visit read fuel depth) (explore read fuel) := by
  induction fuel generalizing depth with
  | zero => exact fun child s seen hs _ _ => .stopped hs.final
  | succ fuel ih =>
    intro node s seen hs hnode hseen
    have henter := Progress.enter hs hnode
    have hseen' : ∀ n, n ∈ node :: seen ↔ (s.ledger.enter node).Known n := by
      intro n
      rw [List.mem_cons, hseen, Known, Known, marked_enter, store_enter, or_assoc, eq_comm]
    simp only [visit, explore]
    cases hread : read node with
    | broken failure => exact .stopped hs.final
    | absent =>
      have hx : (s.ledger.enter node).Explored read node .empty := by
        refine ⟨?_, henter.back, henter.origin, ?_, ?_⟩
        · rw [hread]
          exact Reading.healthy_absent
        · rw [hread]
          simp [Reading.uses]
        · intro d hd
          rw [Leads, hread] at hd
          simp [Reading.steps] at hd
      obtain ⟨L', usage, hclose, hv, hknown⟩ := henter.close hx
      rw [close_of_ok (by exact hclose)]
      refine .ended (fun n => ?_) hv
      rw [hseen' n, hknown n]
    | source uses steps =>
      have hlead : ∀ d, .follow d ∈ steps → Leads read node d := by
        intro d hd
        rw [Leads, hread]
        exact hd
      have hsteps := takeSteps_mirrors (ih (depth + 1)) depth steps hlead
        (s := ({ s with ledger := s.ledger.enter node }.tell (.scanning depth node.file)).count
          depth uses) henter hseen'
      dsimp only
      generalize takeSteps _ _ _ _ _ _ = outcome at hsteps ⊢
      generalize exploreSteps _ _ _ = explored at hsteps ⊢
      cases hsteps with
      | stopped hfinal => exact .stopped hfinal
      | @ended s' found seen'' hseen'' h =>
        obtain ⟨L', usage, hclose, hv, hknown⟩ := h.close (explored_of_progress hread h)
        dsimp only
        rw [close_of_ok hclose]
        refine .ended (fun n => ?_) hv
        rw [hseen'' n, hknown n]

end Search

end ReducerAtlas
