import ReducerAtlas.Proofs.Visit

/-!
# Where a search goes and where it stops

The plain search sees only nodes within reach, and with as many levels as there are nodes it stops
only at a failure of one of them. Nodes that lead to no failure can be left out: a search that takes
them as seen from the start stops at the same failure.

* `Search.explore_subset`, `Search.explore_origin`: what is seen.
* `Search.explore_raises`: a failure comes from a node within reach.
* **`Search.explore_absorb`**: leaving out a closed set of healthy nodes.
-/

namespace ReducerAtlas.Search

open Relation

variable {read : Node → Reading} {fuel : Nat} {node n : Node} {seen seen' : List Node}
  {all : List Node} {steps : List Step}

/-! ## Nodes not seen yet -/

/-- The number of nodes of a list that were not seen yet. -/
def unseen (all seen : List Node) : Nat := all.countP fun n => n ∉ seen

theorem unseen_le (h : seen ⊆ seen') : unseen all seen' ≤ unseen all seen := by
  refine List.countP_mono_left fun n _ hn => ?_
  simp only [decide_eq_true_eq] at hn ⊢
  exact fun hs => hn (h hs)

theorem unseen_cons (a : Node) (all seen : List Node) :
    unseen (a :: all) seen = unseen all seen + if a ∈ seen then 0 else 1 := by
  unfold unseen
  rw [List.countP_cons]
  by_cases h : a ∈ seen <;> simp [h]

theorem unseen_cons_lt (hnode : node ∈ all) (hseen : node ∉ seen) :
    unseen all (node :: seen) < unseen all seen := by
  induction all with
  | nil => cases hnode
  | cons a rest ih =>
    have hle : unseen rest (node :: seen) ≤ unseen rest seen :=
      unseen_le (List.subset_cons_self _ _)
    rw [unseen_cons, unseen_cons]
    rcases List.mem_cons.mp hnode with rfl | hmem
    · rw [if_pos List.mem_cons_self, if_neg hseen]
      omega
    · have hlt := ih hmem
      by_cases ha : a ∈ seen
      · rw [if_pos (List.mem_cons_of_mem _ ha), if_pos ha]
        omega
      · rw [if_neg ha]
        split_ifs <;> omega

/-! ## What is seen -/

theorem exploreSteps_subset {explore : Node → List Node → List Node × Option Failure}
    (hexplore : ∀ child seen, seen ⊆ (explore child seen).1) :
    seen ⊆ (exploreSteps explore steps seen).1 := by
  fun_induction exploreSteps explore steps seen with
  | case1 seen => exact List.Subset.refl _
  | case2 specifiers rest seen ih => exact ih
  | case3 target rest seen ih => exact ih
  | case4 failure rest seen => exact List.Subset.refl _
  | case5 child rest seen hmem ih => exact ih
  | case6 child rest seen hmem seen' failure h =>
    have := hexplore child seen
    rwa [h] at this
  | case7 child rest seen hmem seen' h ih =>
    have := hexplore child seen
    rw [h] at this
    exact List.Subset.trans this ih

theorem explore_subset (read : Node → Reading) (fuel : Nat) (node : Node) (seen : List Node) :
    seen ⊆ (explore read fuel node seen).1 := by
  induction fuel generalizing node seen with
  | zero => exact List.Subset.refl _
  | succ fuel ih =>
    unfold explore
    cases read node with
    | absent => exact List.subset_cons_self _ _
    | broken failure => exact List.subset_cons_self _ _
    | source uses steps =>
      exact List.Subset.trans (List.subset_cons_self _ _) (exploreSteps_subset ih)

theorem exploreSteps_origin {explore : Node → List Node → List Node × Option Failure}
    (hexplore : ∀ child seen, ∀ n ∈ (explore child seen).1, n ∈ seen ∨ Reaches read child n)
    (hn : n ∈ (exploreSteps explore steps seen).1) :
    n ∈ seen ∨ ∃ child, .follow child ∈ steps ∧ Reaches read child n := by
  fun_induction exploreSteps explore steps seen with
  | case1 seen => exact .inl hn
  | case2 specifiers rest seen ih =>
    exact (ih hn).imp_right fun ⟨c, hc, hr⟩ => ⟨c, List.mem_cons_of_mem _ hc, hr⟩
  | case3 target rest seen ih =>
    exact (ih hn).imp_right fun ⟨c, hc, hr⟩ => ⟨c, List.mem_cons_of_mem _ hc, hr⟩
  | case4 failure rest seen => exact .inl hn
  | case5 child rest seen hmem ih =>
    exact (ih hn).imp_right fun ⟨c, hc, hr⟩ => ⟨c, List.mem_cons_of_mem _ hc, hr⟩
  | case6 child rest seen hmem seen' failure h =>
    have := hexplore child seen n (by rw [h]; exact hn)
    exact this.imp_right fun hr => ⟨child, List.mem_cons_self, hr⟩
  | case7 child rest seen hmem seen' h ih =>
    rcases ih hn with hs | ⟨c, hc, hr⟩
    · have := hexplore child seen n (by rw [h]; exact hs)
      exact this.imp_right fun hr => ⟨child, List.mem_cons_self, hr⟩
    · exact .inr ⟨c, List.mem_cons_of_mem _ hc, hr⟩

theorem explore_origin (read : Node → Reading) (fuel : Nat) (node : Node) (seen : List Node) :
    ∀ n ∈ (explore read fuel node seen).1, n ∈ seen ∨ Reaches read node n := by
  induction fuel generalizing node seen with
  | zero => exact fun n hn => .inl hn
  | succ fuel ih =>
    intro n hn
    unfold explore at hn
    have hself : n ∈ node :: seen → n ∈ seen ∨ Reaches read node n := by
      intro hm
      rcases List.mem_cons.mp hm with rfl | hm
      · exact .inr .refl
      · exact .inl hm
    cases hread : read node with
    | absent => exact hself (by simpa [hread] using hn)
    | broken failure => exact hself (by simpa [hread] using hn)
    | source uses steps =>
      simp only [hread] at hn
      rcases exploreSteps_origin ih hn with hm | ⟨child, hc, hr⟩
      · exact hself hm
      · have hlead : Leads read node child := by
          rw [Leads, hread]
          exact hc
        exact .inr (.head hlead hr)

/-! ## Where it stops -/

/-- A search of some levels, from any node of the list that was not seen and with no more unseen
nodes than levels, stops only at a failure of a node within reach. -/
def Faithful (read : Node → Reading) (all : List Node) (fuel : Nat)
    (explore : Node → List Node → List Node × Option Failure) : Prop :=
  ∀ node seen, node ∈ all → node ∉ seen → unseen all seen ≤ fuel →
    ∀ seen' failure, explore node seen = (seen', some failure) →
      ∃ x, Reaches read node x ∧ (read x).Raises failure

/-- Some steps lead to a failure: one of them is it, or a node within reach of one raises it. -/
def StepsRaise (read : Node → Reading) (steps : List Step) (failure : Failure) : Prop :=
  .fail failure ∈ steps ∨
    ∃ child, .follow child ∈ steps ∧ ∃ x, Reaches read child x ∧ (read x).Raises failure

theorem StepsRaise.cons {failure : Failure} (h : StepsRaise read steps failure) (step : Step) :
    StepsRaise read (step :: steps) failure := by
  rcases h with hf | ⟨child, hc, hx⟩
  · exact .inl (List.mem_cons_of_mem _ hf)
  · exact .inr ⟨child, List.mem_cons_of_mem _ hc, hx⟩

theorem exploreSteps_raises {explore : Node → List Node → List Node × Option Failure}
    (hsubset : ∀ child seen, seen ⊆ (explore child seen).1)
    (hexplore : Faithful read all fuel explore)
    (hsteps : ∀ child, .follow child ∈ steps → child ∈ all) (hfuel : unseen all seen ≤ fuel)
    {failure : Failure} (h : exploreSteps explore steps seen = (seen', some failure)) :
    StepsRaise read steps failure := by
  fun_induction exploreSteps explore steps seen with
  | case1 seen => cases h
  | case2 specifiers rest seen ih =>
    exact (ih (fun c hc => hsteps c (List.mem_cons_of_mem _ hc)) hfuel h).cons _
  | case3 target rest seen ih =>
    exact (ih (fun c hc => hsteps c (List.mem_cons_of_mem _ hc)) hfuel h).cons _
  | case4 failure' rest seen =>
    cases h
    exact .inl List.mem_cons_self
  | case5 child rest seen hmem ih =>
    exact (ih (fun c hc => hsteps c (List.mem_cons_of_mem _ hc)) hfuel h).cons _
  | case6 child rest seen hmem seen' failure' hchild =>
    cases h
    have hall := hsteps child List.mem_cons_self
    exact .inr ⟨child, List.mem_cons_self, hexplore child seen hall hmem hfuel _ _ hchild⟩
  | case7 child rest seen hmem seen' hchild ih =>
    have hsub := hsubset child seen
    rw [hchild] at hsub
    have hfuel' : unseen all seen' ≤ fuel := Nat.le_trans (unseen_le hsub) hfuel
    exact (ih (fun c hc => hsteps c (List.mem_cons_of_mem _ hc)) hfuel' h).cons _

theorem explore_raises (closed : ∀ a b, Leads read a b → b ∈ all) (fuel : Nat) :
    Faithful read all fuel (explore read fuel) := by
  induction fuel with
  | zero =>
    intro node seen hnode hseen hfuel
    have := unseen_cons_lt hnode hseen
    omega
  | succ fuel ih =>
    intro node seen hnode hseen hfuel seen' failure h
    have hlt := unseen_cons_lt hnode hseen
    unfold explore at h
    cases hread : read node with
    | absent => simp [hread] at h
    | broken failure' =>
      simp only [hread, Prod.mk.injEq, Option.some.injEq] at h
      exact ⟨node, .refl, .inl (by rw [hread, h.2])⟩
    | source uses steps =>
      simp only [hread] at h
      have hlead : ∀ child, .follow child ∈ steps → Leads read node child := by
        intro child hc
        rw [Leads, hread]
        exact hc
      rcases exploreSteps_raises (explore_subset read fuel) ih
        (fun child hc => closed node child (hlead child hc)) (by omega) h with
        hf | ⟨child, hc, x, hr, hx⟩
      · exact ⟨node, .refl, .inr (by rw [hread]; exact hf)⟩
      · exact ⟨x, .head (hlead child hc) hr, hx⟩

/-! ## Leaving out quiet nodes -/

section Absorb

variable {quiet : Node → Prop} {seen₁ seen₂ : List Node}

/-- A set of nodes that no reference leads out of and at which nothing fails. -/
structure Quiet (read : Node → Reading) (quiet : Node → Prop) : Prop where
  closed : ∀ a b, quiet a → Leads read a b → quiet b
  healthy : ∀ a, quiet a → (read a).Healthy

theorem Quiet.of_reaches (h : Quiet read quiet) {a b : Node} (ha : quiet a)
    (hab : Reaches read a b) : quiet b := by
  induction hab with
  | refl => exact ha
  | tail _ hstep ih => exact h.closed _ _ ih hstep

/-- Two lists of nodes differ only in quiet nodes, all of which are in the first. -/
structure Alike (quiet : Node → Prop) (seen₁ seen₂ : List Node) : Prop where
  full : ∀ n, quiet n → n ∈ seen₁
  mem_iff : ∀ n, ¬ quiet n → (n ∈ seen₁ ↔ n ∈ seen₂)

theorem Alike.cons (h : Alike quiet seen₁ seen₂) (node : Node) :
    Alike quiet (node :: seen₁) (node :: seen₂) where
  full n hn := List.mem_cons_of_mem _ (h.full n hn)
  mem_iff n hn := by rw [List.mem_cons, List.mem_cons, h.mem_iff n hn]

/-- Two searches stopped at the same failure or not at all, and have seen the same nodes up to quiet
ones. -/
def Same (quiet : Node → Prop) (r₁ r₂ : List Node × Option Failure) : Prop :=
  r₁.2 = r₂.2 ∧ Alike quiet r₁.1 r₂.1

/-- A way to explore nodes gives the same with quiet nodes left out. -/
def Absorbs (all : List Node) (fuel : Nat) (quiet : Node → Prop)
    (explore : Node → List Node → List Node × Option Failure) : Prop :=
  ∀ node seen₁ seen₂, ¬ quiet node → node ∈ all → node ∉ seen₂ → unseen all seen₂ ≤ fuel →
    Alike quiet seen₁ seen₂ → Same quiet (explore node seen₁) (explore node seen₂)

/-- A quiet node can be explored without failure, and only adds quiet nodes to those seen. -/
theorem explore_quiet (hq : Quiet read quiet) (closed : ∀ a b, Leads read a b → b ∈ all)
    (hnode : quiet node) (hall : node ∈ all) (hseen : node ∉ seen₂)
    (hfuel : unseen all seen₂ ≤ fuel) (h : Alike quiet seen₁ seen₂) :
    ∃ seen', explore read fuel node seen₂ = (seen', none) ∧ seen₂ ⊆ seen' ∧
      Alike quiet seen₁ seen' := by
  have hsub := explore_subset read fuel node seen₂
  have horigin := explore_origin read fuel node seen₂
  cases hr : explore read fuel node seen₂ with
  | mk seen' failure =>
    rw [hr] at hsub horigin
    cases failure with
    | some failure =>
      obtain ⟨x, hx, hraise⟩ := explore_raises closed fuel node seen₂ hall hseen hfuel _ _ hr
      exact absurd hraise (hq.healthy x (hq.of_reaches hnode hx) failure)
    | none =>
      refine ⟨seen', rfl, hsub, h.full, fun n hn => ?_⟩
      rw [h.mem_iff n hn]
      refine ⟨fun hm => hsub hm, fun hm => (horigin n hm).resolve_right fun hr => ?_⟩
      exact hn (hq.of_reaches hnode hr)

theorem exploreSteps_absorb (hq : Quiet read quiet) (closed : ∀ a b, Leads read a b → b ∈ all)
    (habsorb : Absorbs all fuel quiet (explore read fuel))
    (hsteps : ∀ child, .follow child ∈ steps → child ∈ all) (hfuel : unseen all seen₂ ≤ fuel)
    (h : Alike quiet seen₁ seen₂) :
    Same quiet (exploreSteps (explore read fuel) steps seen₁)
      (exploreSteps (explore read fuel) steps seen₂) := by
  induction steps generalizing seen₁ seen₂ with
  | nil => exact ⟨rfl, h⟩
  | cons step rest ih =>
    have hrest : ∀ child, .follow child ∈ rest → child ∈ all :=
      fun child hc => hsteps child (List.mem_cons_of_mem _ hc)
    cases step with
    | notAskedFor specifiers => exact ih hrest hfuel h
    | blocked target => exact ih hrest hfuel h
    | fail failure => exact ⟨rfl, h⟩
    | follow child =>
      have hall : child ∈ all := hsteps child List.mem_cons_self
      simp only [exploreSteps]
      by_cases hchild : quiet child
      · -- the first search passes over a quiet node, the second one may have to go through it
        rw [if_pos (h.full child hchild)]
        split_ifs with hmem
        · exact ih hrest hfuel h
        · obtain ⟨seen', hr, hsub, h'⟩ := explore_quiet hq closed hchild hall hmem hfuel h
          rw [hr]
          exact ih hrest (Nat.le_trans (unseen_le hsub) hfuel) h'
      · by_cases hmem : child ∈ seen₂
        · rw [if_pos ((h.mem_iff child hchild).mpr hmem), if_pos hmem]
          exact ih hrest hfuel h
        · rw [if_neg fun hm => hmem ((h.mem_iff child hchild).mp hm), if_neg hmem]
          have hsame := habsorb child seen₁ seen₂ hchild hall hmem hfuel h
          have hsub := explore_subset read fuel child seen₂
          generalize explore read fuel child seen₁ = r₁ at hsame ⊢
          generalize explore read fuel child seen₂ = r₂ at hsame hsub ⊢
          obtain ⟨s₁, f₁⟩ := r₁
          obtain ⟨s₂, f₂⟩ := r₂
          obtain ⟨rfl, h'⟩ := hsame
          cases f₁ with
          | some failure => exact ⟨rfl, h'⟩
          | none => exact ih hrest (Nat.le_trans (unseen_le hsub) hfuel) h'

/-- **Quiet nodes can be left out.** A search that takes a closed set of healthy nodes as seen from
the start stops at the same failure, or ends as well. -/
theorem explore_absorb (hq : Quiet read quiet) (closed : ∀ a b, Leads read a b → b ∈ all)
    (fuel : Nat) : Absorbs all fuel quiet (explore read fuel) := by
  induction fuel with
  | zero => exact fun node seen₁ seen₂ _ _ _ _ h => ⟨rfl, h⟩
  | succ fuel ih =>
    intro node seen₁ seen₂ hnode hall hseen hfuel h
    have hlt := unseen_cons_lt hall hseen
    unfold explore
    cases hread : read node with
    | absent => exact ⟨rfl, h.cons node⟩
    | broken failure => exact ⟨rfl, h.cons node⟩
    | source uses steps =>
      have hsteps : ∀ child, .follow child ∈ steps → child ∈ all := by
        intro child hc
        refine closed node child ?_
        rw [Leads, hread]
        exact hc
      exact exploreSteps_absorb hq closed ih hsteps (by omega) (h.cons node)

end Absorb

end ReducerAtlas.Search
