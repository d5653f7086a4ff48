import ReducerAtlas.Proofs.Graph
import ReducerAtlas.Proofs.Ledger

/-!
# Final results

What is known of the nodes of a ledger in the middle of a scan. A finished group is final: its
members reach each other, all else that they lead to was finished before, and its roster is that of
each member. A node that is closed but not finished waits: it can get back to an older node that is
still open, and what it leads to is finished or open as well.

* `Group.Final`, `Store.Final`: finished groups, each in view of those before it.
* `Ledger.Sound`: the marks, the pending nodes and the store fit together.
* `Ledger.Extends`: what a visit leaves as it was; `Ledger.Covers`, `Ledger.Explored`,
  `Ledger.Waiting`: what the ledger holds of a node whose references were followed.
* **`Ledger.Sound.final_of_root`**: the oldest node of a circle and all nodes opened since are a
  final group.
-/

namespace ReducerAtlas

open Relation

variable {read : Node → Reading}

/-! ## Finished groups -/

/-- A finished group, in view of the groups that were finished before it. -/
structure Group.Final (read : Node → Reading) (earlier : Store) (group : Group) : Prop where
  healthy : ∀ a ∈ group.members, (read a).Healthy
  fresh : ∀ a ∈ group.members, earlier.find? a = none
  linked : ∀ a ∈ group.members, ∀ b ∈ group.members, Reaches read a b
  closed : ∀ a ∈ group.members, ∀ b, Leads read a b →
    b ∈ group.members ∨ (earlier.find? b).isSome
  gathers : ∀ a ∈ group.members, Gathers read a group.usage

namespace Store

/-- All groups of a store are final. -/
def Final (read : Node → Reading) : Store → Prop
  | [] => True
  | group :: rest => group.Final read rest ∧ Final read rest

variable {store : Store} {a b : Node}

theorem Final.gathers (h : store.Final read) {usage : Roster} (ha : store.find? a = some usage) :
    Gathers read a usage := by
  induction store with
  | nil => cases ha
  | cons group rest ih =>
    simp only [find?] at ha
    split_ifs at ha with hm
    · cases ha
      exact h.1.gathers a hm
    · exact ih h.2 ha

theorem Final.healthy (h : store.Final read) (ha : (store.find? a).isSome) :
    (read a).Healthy := by
  induction store with
  | nil => cases ha
  | cons group rest ih =>
    simp only [find?] at ha
    split_ifs at ha with hm
    · exact h.1.healthy a hm
    · exact ih h.2 ha

theorem Final.isSome_of_leads (h : store.Final read) (ha : (store.find? a).isSome)
    (hab : Leads read a b) : (store.find? b).isSome := by
  induction store with
  | nil => cases ha
  | cons group rest ih =>
    simp only [find?] at ha ⊢
    split_ifs with hb
    · rfl
    · split_ifs at ha with hm
      · exact (h.1.closed a hm b hab).resolve_left hb
      · exact ih h.2 ha

end Store

namespace Ledger

variable {L L' : Ledger} {node m d : Node} {k : Int} {found : Roster}

/-! ## Sound ledgers -/

/-- The marks, the pending nodes and the store of a ledger fit together: pending are the nodes that
were opened and are not finished, the youngest first. -/
structure Sound (read : Node → Reading) (L : Ledger) : Prop where
  final : L.store.Final read
  bounded : ∀ n, L.Marked n → L.number n < L.marks.length
  mem_pending_iff : ∀ n, n ∈ L.pending ↔ L.Marked n ∧ L.store.find? n = none
  decreasing : L.pending.Pairwise fun a b => L.number b < L.number a

theorem Sound.nodup (h : L.Sound read) : L.pending.Nodup := by
  refine h.decreasing.imp fun {a b} hlt => ?_
  rintro rfl
  exact Nat.lt_irrefl _ hlt

theorem Sound.marked (h : L.Sound read) (hm : m ∈ L.pending) : L.Marked m :=
  ((h.mem_pending_iff m).mp hm).1

theorem Sound.enter (h : L.Sound read) (hnode : ¬ L.Known node) : (L.enter node).Sound read := by
  have hunmarked : ¬ L.Marked node := fun hm => hnode (.inl hm)
  have hunfinished : L.store.find? node = none := by
    simpa using fun hf => hnode (.inr hf)
  have hne : ∀ n, L.Marked n → node ≠ n := fun n hn e => hunmarked (e ▸ hn)
  refine ⟨h.final, ?_, ?_, ?_⟩
  · intro n hn
    rw [length_marks_enter hunmarked]
    rcases marked_enter.mp hn with rfl | hn
    · rw [number_enter_self]
      exact Nat.lt_succ_self _
    · rw [number_enter_of_ne (hne n hn)]
      exact Nat.lt_succ_of_lt (h.bounded n hn)
  · intro n
    rw [pending_enter, List.mem_cons, store_enter, marked_enter, h.mem_pending_iff]
    constructor
    · rintro (rfl | ⟨hn, hs⟩)
      · exact ⟨.inl rfl, hunfinished⟩
      · exact ⟨.inr hn, hs⟩
    · rintro ⟨rfl | hn, hs⟩
      · exact .inl rfl
      · exact .inr ⟨hn, hs⟩
  · rw [pending_enter, List.pairwise_cons]
    refine ⟨fun b hb => ?_, h.decreasing.imp_of_mem fun {a b} ha hb hlt => ?_⟩
    · rw [number_enter_self, number_enter_of_ne (hne b (h.marked hb))]
      exact h.bounded b (h.marked hb)
    · rw [number_enter_of_ne (hne a (h.marked ha)), number_enter_of_ne (hne b (h.marked hb))]
      exact hlt

theorem Sound.lower (h : L.Sound read) (hnode : L.Marked node) :
    (L.lower node k).Sound read := by
  refine ⟨h.final, ?_, ?_, ?_⟩
  · intro n hn
    rw [length_marks_lower hnode, number_lower]
    exact h.bounded n ((marked_lower hnode).mp hn)
  · intro n
    rw [pending_lower, store_lower, marked_lower hnode]
    exact h.mem_pending_iff n
  · simpa using h.decreasing

theorem Sound.keep (h : L.Sound read) : (L.keep node found).Sound read :=
  ⟨h.final, h.bounded, h.mem_pending_iff, h.decreasing⟩

theorem Sound.number_lt_of_below (h : L.Sound read) {new below : List Node}
    (hp : L.pending = new ++ node :: below) (hd : d ∈ below) : L.number d < L.number node := by
  have hdec := h.decreasing
  rw [hp] at hdec
  exact (List.pairwise_cons.mp (List.pairwise_append.mp hdec).2.1).1 d hd

/-! ## What a visit leaves as it was -/

/-- The second ledger knows all that the first one does, and has left its pending nodes alone. -/
structure Extends (L L' : Ledger) : Prop where
  marks : ∀ n mark, L.marks.get? n = some mark → L'.marks.get? n = some mark
  pending : L.pending <:+ L'.pending
  store : ∀ n u, L.store.find? n = some u → L'.store.find? n = some u
  partials : ∀ n ∈ L.pending, L'.partials.get? n = L.partials.get? n

theorem Extends.trans {L'' : Ledger} (h : L.Extends L') (h' : L'.Extends L'') : L.Extends L'' where
  marks n mark hn := h'.marks n mark (h.marks n mark hn)
  pending := h.pending.trans h'.pending
  store n u hn := h'.store n u (h.store n u hn)
  partials n hn := by rw [h'.partials n (h.pending.subset hn), h.partials n hn]

theorem Extends.get?_marks (h : L.Extends L') (hm : L.Marked m) :
    L'.marks.get? m = L.marks.get? m := by
  rw [get?_of_marked hm]
  exact h.marks m _ (get?_of_marked hm)

theorem Extends.number (h : L.Extends L') (hm : L.Marked m) : L'.number m = L.number m := by
  rw [Ledger.number, h.get?_marks hm, Ledger.number]

theorem Extends.low (h : L.Extends L') (hm : L.Marked m) : L'.low m = L.low m := by
  rw [Ledger.low, h.get?_marks hm, Ledger.low]

theorem Extends.marked (h : L.Extends L') (hm : L.Marked m) : L'.Marked m := by
  rw [Marked, h.get?_marks hm]
  exact hm

theorem Extends.enter (hnode : ¬ L.Marked node) : L.Extends (L.enter node) where
  marks n mark hn := by
    rw [get?_marks_enter, if_neg]
    · exact hn
    · rintro rfl
      exact hnode (by simp [Marked, hn])
  pending := List.suffix_cons _ _
  store _ _ hn := hn
  partials _ _ := rfl

theorem Extends.lower (h : L.Extends L') (hnode : ¬ L.Marked node) :
    L.Extends (L'.lower node k) where
  marks n mark hn := by
    rw [get?_marks_lower, if_neg]
    · exact h.marks n mark hn
    · rintro rfl
      exact hnode (by simp [Marked, hn])
  pending := h.pending
  store := h.store
  partials := h.partials

theorem Extends.keep (h : L.Extends L') (hnode : node ∉ L.pending) :
    L.Extends (L'.keep node found) where
  marks := h.marks
  pending := h.pending
  store := h.store
  partials n hn := by
    have hne : node ≠ n := by
      rintro rfl
      exact hnode hn
    rw [get?_partials_keep, if_neg hne]
    exact h.partials n hn

/-! ## Closed nodes -/

/-- What is led to is accounted for: it is open and no older than the given number, or finished, and
then the findings know all names of its result. -/
def Covers (L : Ledger) (k : Int) (found : Roster) (d : Node) : Prop :=
  (d ∈ L.pending ∧ k ≤ L.number d) ∨
    ∃ u, L.store.find? d = some u ∧ ∀ n ∈ u.names, n ∈ found.names

theorem Covers.mono (h : L.Covers k found d) {k' : Int} (hk : k' ≤ k) {found' : Roster}
    (hf : ∀ n ∈ found.names, n ∈ found'.names) : L.Covers k' found' d := by
  rcases h with ⟨hd, hle⟩ | ⟨u, hu, hn⟩
  · exact .inl ⟨hd, Int.le_trans hk hle⟩
  · exact .inr ⟨u, hu, fun n hun => hf n (hn n hun)⟩

theorem Covers.extend (h : L.Covers k found d) (hs : L.Sound read) (he : L.Extends L') :
    L'.Covers k found d := by
  rcases h with ⟨hd, hle⟩ | ⟨u, hu, hn⟩
  · refine .inl ⟨he.pending.subset hd, ?_⟩
    rw [he.number (hs.marked hd)]
    exact hle
  · exact .inr ⟨u, he.store d u hu, hn⟩

@[simp] theorem covers_lower {k' : Int} :
    (L.lower node k).Covers k' found d ↔ L.Covers k' found d := by
  simp [Covers]

/-- The references of a node were all followed, with the given findings. -/
structure Explored (read : Node → Reading) (L : Ledger) (m : Node) (found : Roster) : Prop where
  healthy : (read m).Healthy
  back : ∃ w ∈ L.pending, L.number w = L.low m ∧ Reaches read m w
  sound : ∀ r ∈ found.toList, ∃ x, Reaches read m x ∧ r ∈ (read x).uses
  own : ∀ r ∈ (read m).uses, r.name ∈ found.names
  covers : ∀ d, Leads read m d → L.Covers (L.low m) found d

/-- A node is closed and waits for its circle: its findings are kept, and it can get back to an
older node. -/
def Waiting (read : Node → Reading) (L : Ledger) (m : Node) : Prop :=
  L.low m < L.number m ∧ ∃ found, L.partials.get? m = some found ∧ L.Explored read m found

theorem Explored.extend (h : L.Explored read m found) (hs : L.Sound read) (he : L.Extends L')
    (hm : L.Marked m) : L'.Explored read m found where
  healthy := h.healthy
  back := by
    obtain ⟨w, hw, hn, hr⟩ := h.back
    refine ⟨w, he.pending.subset hw, ?_, hr⟩
    rw [he.number (hs.marked hw), he.low hm]
    exact hn
  sound := h.sound
  own := h.own
  covers d hd := by
    rw [he.low hm]
    exact (h.covers d hd).extend hs he

theorem Waiting.extend (h : L.Waiting read m) (hs : L.Sound read) (he : L.Extends L')
    (hm : m ∈ L.pending) : L'.Waiting read m := by
  obtain ⟨hlt, found, hf, hx⟩ := h
  have hmarked := hs.marked hm
  refine ⟨?_, found, ?_, hx.extend hs he hmarked⟩
  · rw [he.low hmarked, he.number hmarked]
    exact hlt
  · rw [he.partials m hm]
    exact hf

theorem Waiting.lower (h : L.Waiting read m) (hne : node ≠ m) :
    (L.lower node k).Waiting read m := by
  obtain ⟨hlt, found, hf, hx⟩ := h
  have hlow : (L.lower node k).low m = L.low m := low_lower_of_ne hne
  refine ⟨by rwa [hlow, number_lower], found, hf, hx.healthy, ?_, hx.sound, hx.own, ?_⟩
  · obtain ⟨w, hw, hn, hr⟩ := hx.back
    exact ⟨w, hw, by rwa [hlow, number_lower], hr⟩
  · intro d hd
    rw [hlow, covers_lower]
    exact hx.covers d hd

theorem Explored.keep {f : Roster} (h : L.Explored read m f) :
    (L.keep node found).Explored read m f :=
  ⟨h.healthy, h.back, h.sound, h.own, h.covers⟩

/-! ## Finishing a circle -/

section Root

variable {new below : List Node}

/-- The nodes opened since a node all wait, can be reached from it, and get back to nothing older
than it does. -/
def Above (read : Node → Reading) (L : Ledger) (node : Node) (new : List Node) : Prop :=
  ∀ m ∈ new, L.Waiting read m ∧ L.low node ≤ L.low m ∧ Reaches read node m

theorem Sound.mem_of_number_le (hs : L.Sound read) (hp : L.pending = new ++ node :: below)
    (hd : d ∈ L.pending) (hle : L.number node ≤ L.number d) : d ∈ new ++ [node] := by
  rw [hp, List.mem_append, List.mem_cons] at hd
  rw [List.mem_append, List.mem_singleton]
  rcases hd with hd | rfl | hd
  · exact .inl hd
  · exact .inr rfl
  · have := hs.number_lt_of_below hp hd
    omega

/-- From each node opened since the oldest of its circle, one gets back to that one. -/
theorem Sound.reaches_root (hs : L.Sound read) (hp : L.pending = new ++ node :: below)
    (hlow : L.low node = L.number node) (hnew : L.Above read node new) :
    ∀ m ∈ new ++ [node], Reaches read m node := by
  -- by induction on the number: the low mark of a waiting node is that of an older member
  suffices h : ∀ i, ∀ m ∈ new ++ [node], L.number m = i → Reaches read m node from
    fun m hm => h _ m hm rfl
  intro i
  induction i using Nat.strongRecOn with
  | ind i ih =>
    intro m hm hi
    rcases List.mem_append.mp hm with hm | hm
    · obtain ⟨⟨hlt, f, -, hx⟩, hle, -⟩ := hnew m hm
      obtain ⟨w, hw, hwn, hr⟩ := hx.back
      have hwm : w ∈ new ++ [node] := hs.mem_of_number_le hp hw (by omega)
      exact hr.trans (ih _ (by omega) w hwm rfl)
    · rw [List.mem_singleton.mp hm]

/-- Each node of the circle was explored, with findings that are kept when the oldest is closed. -/
theorem Above.explored (hnew : L.Above read node new) (hnotin : node ∉ new)
    (hnode : L.Explored read node found) (hm : m ∈ new ++ [node]) :
    ∃ f, (L.keep node found).partials.get? m = some f ∧ L.Explored read m f ∧
      L.low node ≤ L.low m := by
  rw [get?_partials_keep]
  rcases List.mem_append.mp hm with hm | hm
  · obtain ⟨⟨-, f, hf, hx⟩, hle, -⟩ := hnew m hm
    have hne : node ≠ m := by
      rintro rfl
      exact hnotin hm
    exact ⟨f, by rw [if_neg hne, hf], hx, hle⟩
  · rw [List.mem_singleton.mp hm]
    exact ⟨found, if_pos rfl, hnode, Int.le_refl _⟩

theorem Sound.mem_or_finished (hs : L.Sound read) (hp : L.pending = new ++ node :: below)
    (hlow : L.low node = L.number node) (hx : L.Explored read m found) (hle : L.low node ≤ L.low m)
    (hmd : Leads read m d) :
    d ∈ new ++ [node] ∨ ∃ u, L.store.find? d = some u ∧ ∀ x ∈ u.names, x ∈ found.names := by
  refine (hx.covers d hmd).imp_left ?_
  rintro ⟨hd, hdn⟩
  exact hs.mem_of_number_le hp hd (by omega)

/-- **A circle is finished.** When the oldest node of a circle has been explored, it and all nodes
opened since are a final group, if the result is put together from what they found. -/
theorem Sound.final_of_root (hs : L.Sound read) (hp : L.pending = new ++ node :: below)
    (hlow : L.low node = L.number node) (hnew : L.Above read node new)
    (hnode : L.Explored read node found) {usage : Roster}
    (hnames : ∀ x, x ∈ usage.names ↔
      ∃ m ∈ new ++ [node], ∃ f, (L.keep node found).partials.get? m = some f ∧ x ∈ f.names)
    (hmem : ∀ r ∈ usage.toList,
      ∃ m ∈ new ++ [node], ∃ f, (L.keep node found).partials.get? m = some f ∧ r ∈ f.toList) :
    Group.Final read L.store ⟨new ++ [node], usage⟩ := by
  have hnotin : node ∉ new := by
    have hnodup := hs.nodup
    rw [hp, List.nodup_append] at hnodup
    exact fun h => hnodup.2.2 node h node List.mem_cons_self rfl
  have hto : ∀ m ∈ new ++ [node], Reaches read m node := hs.reaches_root hp hlow hnew
  have hfrom : ∀ m ∈ new ++ [node], Reaches read node m := by
    intro m hm
    rcases List.mem_append.mp hm with hm | hm
    · exact (hnew m hm).2.2
    · rw [List.mem_singleton.mp hm]
  refine ⟨?_, ?_, fun a ha b hb => (hto a ha).trans (hfrom b hb), ?_, fun a ha => ⟨?_, ?_⟩⟩
  · intro a ha
    obtain ⟨f, -, hx, -⟩ := hnew.explored hnotin hnode ha
    exact hx.healthy
  · intro a ha
    have hpend : a ∈ L.pending := by
      rw [hp, List.append_cons]
      exact List.mem_append_left _ ha
    exact ((hs.mem_pending_iff a).mp hpend).2
  · intro a ha b hab
    obtain ⟨f, -, hx, hle⟩ := hnew.explored hnotin hnode ha
    refine (hs.mem_or_finished hp hlow hx hle hab).imp_right ?_
    rintro ⟨u, hu, -⟩
    rw [hu]
    rfl
  · intro r hr
    obtain ⟨m, hm, f, hf, hrf⟩ := hmem r hr
    obtain ⟨f', hf', hx, -⟩ := hnew.explored hnotin hnode hm
    obtain rfl : f = f' := Option.some.inj (hf.symm.trans hf')
    obtain ⟨x, hmx, hrx⟩ := hx.sound r hrf
    exact ⟨x, ((hto a ha).trans (hfrom m hm)).trans hmx, hrx⟩
  · -- a path either stays in the circle or leaves it for a finished node, whose result is known
    intro x hax r hr
    induction hax using ReflTransGen.head_induction_on with
    | refl =>
      obtain ⟨f, hf, hx, -⟩ := hnew.explored hnotin hnode ha
      exact (hnames _).mpr ⟨x, ha, f, hf, hx.own r hr⟩
    | @head a b hab hbx ih =>
      obtain ⟨f, hf, hx, hle⟩ := hnew.explored hnotin hnode ha
      rcases hs.mem_or_finished hp hlow hx hle hab with hb | ⟨u, hu, hsub⟩
      · exact ih hb
      · have hknown := (hs.final.gathers hu).complete x hbx r hr
        exact (hnames _).mpr ⟨a, ha, f, hf, hsub _ hknown⟩

end Root

section Finish

variable {group : Group} {below : List Node} (kept : Table Node Roster)

/-- The ledger stays sound when a final group leaves the pending nodes. -/
theorem Sound.finish (hs : L.Sound read) (hp : L.pending = group.members ++ below)
    (hgroup : group.Final read L.store) : Sound read
      { L with store := group :: L.store, pending := below, partials := kept } := by
  have hnodup := hs.nodup
  have hdec := hs.decreasing
  rw [hp] at hnodup hdec
  refine ⟨⟨hgroup, hs.final⟩, hs.bounded, fun n => ?_, (List.pairwise_append.mp hdec).2.1⟩
  have hiff := hs.mem_pending_iff n
  rw [hp, List.mem_append] at hiff
  by_cases hn : n ∈ group.members
  · have hnot : n ∉ below := fun hb => (List.nodup_append.mp hnodup).2.2 n hn n hb rfl
    simp [Store.find?, hn, hnot]
  · rw [Store.find?, if_neg hn]
    exact ⟨fun hb => hiff.mp (.inr hb), fun hb => (hiff.mpr hb).resolve_left hn⟩

theorem Extends.finish (h : L'.Extends L) (hs : L.Sound read)
    (hp : L.pending = group.members ++ L'.pending)
    (hout : ∀ m ∉ group.members, kept.get? m = L.partials.get? m) : L'.Extends
      { L with store := group :: L.store, pending := L'.pending, partials := kept } := by
  have hnodup := hs.nodup
  rw [hp] at hnodup
  refine ⟨h.marks, List.suffix_rfl, fun n u hn => ?_, fun n hn => ?_⟩
  · have hstore := h.store n u hn
    have hnot : n ∉ group.members := by
      intro hm
      have hpend : n ∈ L.pending := by
        rw [hp]
        exact List.mem_append_left _ hm
      rw [((hs.mem_pending_iff n).mp hpend).2] at hstore
      cases hstore
    rw [Store.find?, if_neg hnot]
    exact hstore
  · have hnot : n ∉ group.members := fun hm => (List.nodup_append.mp hnodup).2.2 n hm n hn rfl
    rw [hout n hnot]
    exact h.partials n hn

end Finish

end Ledger

end ReducerAtlas
