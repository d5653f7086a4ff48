import Mathlib.Data.List.Forall2
import ReducerAtlas.Artifact.GlobalModule
import ReducerAtlas.Artifact.MapFile
import ReducerAtlas.Proofs.Sorting

/-!
# What is written does not depend on what was found first

Both artifacts put their reducers and containers in order. Where keys are distinct there is only
one such order, so what a scan found first cannot be seen in them. This has to hold on three levels:
the global reducers, the containers, and the reducers of each container.

* `InKeyOrder.eq_of_perm`: the order of distinct keys does not depend on the given one.
* `Atlas.Rearranged`: the same entries in another order on all levels; `Atlas.Distinct`: names and
  keys that occur once.
* `reducersDocument_of_perm`, `containerFields_of_rearranged`: what is written on each level.
* **`artifacts_of_rearranged`**: both artifacts are the same.
-/

namespace ReducerAtlas

/-! ## One order for distinct keys -/

section Order

variable {α : Type*} {key : α → String} {given given' sorted sorted' : List α}

/-- Two lists of the same entries in the order of distinct keys are equal. -/
theorem eq_of_perm_of_rises (hperm : sorted.Perm sorted') (hkeys : (sorted.map key).Nodup)
    (hrises : sorted.Pairwise fun a b => key a ≤ key b)
    (hrises' : sorted'.Pairwise fun a b => key a ≤ key b) : sorted = sorted' := by
  refine hperm.eq_of_pairwise (fun a b ha hb hab hba => ?_) hrises hrises'
  exact List.inj_on_of_nodup_map hkeys ha (hperm.mem_iff.mpr hb) (le_antisymm hab hba)

theorem InKeyOrder.eq_of_perm (h : InKeyOrder key given sorted)
    (h' : InKeyOrder key given' sorted') (hperm : given.Perm given')
    (hkeys : (given.map key).Nodup) : sorted = sorted' :=
  eq_of_perm_of_rises (h.perm.trans (hperm.trans h'.perm.symm))
    ((h.perm.map key).nodup_iff.mpr hkeys) h.rises h'.rises

end Order

theorem Reducer.sortByName_of_perm {reducers reducers' : List Reducer}
    (hperm : reducers.Perm reducers') (hnames : (reducers.map Reducer.name).Nodup) :
    sortByName reducers = sortByName reducers' :=
  (inKeyOrder_sortByName reducers).eq_of_perm (inKeyOrder_sortByName reducers') hperm hnames

/-! ## Rearranged atlases -/

/-- The same container with its reducers in another order. -/
structure Container.Rearranged (c d : Container) : Prop where
  key : c.key = d.key
  path : c.path = d.path
  reducers : c.reducers.Perm d.reducers

namespace Atlas

/-- The same global reducers and the same containers in another order, and in each container the
same reducers in another order. What was counted may differ. -/
structure Rearranged (atlas other : Atlas) : Prop where
  globals : atlas.globals.Perm other.globals
  containers : ∃ l, atlas.containers.Perm l ∧
    List.Forall₂ Container.Rearranged l other.containers

/-- No name occurs twice among the global reducers or in one container, and no key twice. -/
structure Distinct (atlas : Atlas) : Prop where
  globals : (atlas.globals.map Reducer.name).Nodup
  keys : (atlas.containers.map Container.key).Nodup
  reducers : ∀ c ∈ atlas.containers, c.reducerNames.Nodup

end Atlas

namespace Artifact

open scoped List

variable {atlas other : Atlas} (folder : Path)

theorem reducersDocument_of_perm {reducers reducers' : List Reducer}
    (hperm : reducers.Perm reducers') (hnames : (reducers.map Reducer.name).Nodup) :
    reducersDocument folder reducers = reducersDocument folder reducers' := by
  rw [reducersDocument, reducersDocument, entries, entries,
    Reducer.sortByName_of_perm hperm hnames]

/-- What is written for a container, under its key. -/
def containerField (c : Container) : String × Json.Doc := (c.key, containerDocument folder c)

theorem containerField_of_rearranged {c d : Container} (h : c.Rearranged d)
    (hnames : c.reducerNames.Nodup) : containerField folder c = containerField folder d := by
  rw [containerField, containerField, containerDocument, containerDocument, h.key, h.path,
    reducersDocument_of_perm folder h.reducers hnames]

theorem perm_containerFields (h : atlas.Rearranged other) (hdistinct : atlas.Distinct) :
    (atlas.containers.map (containerField folder)).Perm
      (other.containers.map (containerField folder)) := by
  obtain ⟨l, hperm, hsame⟩ := h.containers
  have hnames : ∀ c ∈ l, c.reducerNames.Nodup := fun c hc =>
    hdistinct.reducers c (hperm.mem_iff.mpr hc)
  have hfields : l.map (containerField folder) = other.containers.map (containerField folder) := by
    rw [← List.forall₂_eq_eq_eq, List.forall₂_map_left_iff, List.forall₂_map_right_iff]
    exact ((List.forall₂_and_left _ _).mpr ⟨hnames, hsame⟩).imp fun c d hcd =>
      containerField_of_rearranged folder hcd.2 hcd.1
  rw [← hfields]
  exact hperm.map _

/-- The fields of rearranged containers are written in one order: their keys are distinct. -/
theorem containerFields_of_rearranged (h : atlas.Rearranged other) (hdistinct : atlas.Distinct) :
    (Container.sortByKey atlas.containers).map (containerField folder) =
      (Container.sortByKey other.containers).map (containerField folder) := by
  have horder := Container.inKeyOrder_sortByKey atlas.containers
  have horder' := Container.inKeyOrder_sortByKey other.containers
  have hkeys : (((Container.sortByKey atlas.containers).map (containerField folder)).map
      Prod.fst).Nodup := by
    rw [List.map_map]
    exact (horder.perm.map Container.key).nodup_iff.mpr hdistinct.keys
  refine eq_of_perm_of_rises ?_ hkeys (List.pairwise_map.mpr horder.rises)
    (List.pairwise_map.mpr horder'.rises)
  calc (Container.sortByKey atlas.containers).map (containerField folder)
    _ ~ atlas.containers.map (containerField folder) := horder.perm.map _
    _ ~ other.containers.map (containerField folder) := perm_containerFields folder h hdistinct
    _ ~ (Container.sortByKey other.containers).map (containerField folder) :=
      (horder'.perm.map _).symm

/-- **Artifacts do not depend on the order in which things were found.** Two atlases with the same
entries, in any order on all levels, have the same map file, at every place and in every layout,
and the same module of global reducers. -/
theorem artifacts_of_rearranged (atlas other : Atlas) (h : atlas.Rearranged other)
    (hdistinct : atlas.Distinct) :
    (∀ output layout, mapFile atlas output layout = mapFile other output layout) ∧
    ∀ output, globalModule atlas.globals output = globalModule other.globals output := by
  refine ⟨fun output layout => ?_, fun output => ?_⟩
  · have hdocument : mapDocument output.parent atlas = mapDocument output.parent other := by
      have hfields := containerFields_of_rearranged output.parent h hdistinct
      unfold containerField at hfields
      rw [mapDocument, mapDocument, hfields,
        reducersDocument_of_perm output.parent h.globals hdistinct.globals]
    rw [mapFile, mapFile, hdocument]
  · rw [globalModule, globalModule, Reducer.sortByName_of_perm h.globals hdistinct.globals]

-- of two reducers with one name, the one that was found first comes first
example :
    globalModule [⟨"a", ⟨.root, ["b.js"]⟩, none⟩, ⟨"a", ⟨.root, ["c.js"]⟩, none⟩] .root ≠
      globalModule [⟨"a", ⟨.root, ["c.js"]⟩, none⟩, ⟨"a", ⟨.root, ["b.js"]⟩, none⟩] .root := by
  decide

/-- A reducer of a name, defined in a folder of that name. -/
def reducerOf (name : String) : Reducer := ⟨name, ⟨.root, ["lib", name, "index.js"]⟩, none⟩

/-- Two containers, one of them with two reducers. -/
def homeFirst : Atlas where
  globals := [reducerOf "user", reducerOf "cart"]
  containers := [
    ⟨"./home.js", Path.parse "/app/home.js", [reducerOf "news", reducerOf "menu"]⟩,
    ⟨"./shop.js", Path.parse "/app/shop.js", [reducerOf "menu"]⟩]

/-- The same entries the other way around on all three levels. -/
def shopFirst : Atlas where
  globals := [reducerOf "cart", reducerOf "user"]
  containers := [
    ⟨"./shop.js", Path.parse "/app/shop.js", [reducerOf "menu"]⟩,
    ⟨"./home.js", Path.parse "/app/home.js", [reducerOf "menu", reducerOf "news"]⟩]
  filesRead := 5

theorem artifacts_of_shopFirst :
    homeFirst.Rearranged shopFirst ∧ homeFirst.Distinct ∧
    mapFile homeFirst (Path.parse "/out/map.js") standardLayout =
      mapFile shopFirst (Path.parse "/out/map.js") standardLayout ∧
    globalModule homeFirst.globals (Path.parse "/out/globals.js") =
      globalModule shopFirst.globals (Path.parse "/out/globals.js") := by
  have hrearranged : homeFirst.Rearranged shopFirst := by
    refine ⟨List.Perm.swap .., homeFirst.containers.reverse, (List.reverse_perm _).symm, ?_⟩
    exact .cons ⟨rfl, rfl, .refl _⟩ (.cons ⟨rfl, rfl, .swap ..⟩ .nil)
  have hdistinct : homeFirst.Distinct := ⟨by decide, by decide, by decide⟩
  obtain ⟨hmap, hmodule⟩ := artifacts_of_rearranged homeFirst shopFirst hrearranged hdistinct
  exact ⟨hrearranged, hdistinct, hmap _ _, hmodule _⟩

end Artifact

end ReducerAtlas
