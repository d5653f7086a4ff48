import Mathlib.Data.Finset.Card
import Mathlib.Data.Finset.Dedup
import ReducerAtlas.Proofs.Apart
import ReducerAtlas.Proofs.Congruence
import ReducerAtlas.Proofs.Reads

/-!
# How deep a scan goes

Every level of a visit opens a node that was not open before, so there are no more levels than nodes
to open, whatever the ledger holds at the start. From an absolute path, references lead to files of
the tree by the one normal path that each of them has, so these nodes are pairs of a file and of a
set of names that some reference asks for. Only the start can be written in another way.

* `Search.visit_ne_tooDeep`: a visit with as many levels as there are nodes does not run out of
  them; `Search.scanning_lt`: the levels that a visit tells of.
* `Path.Plain`: an absolute path of proper names; `Lookup.plain_of_mem_tried`: what it stands for.
* `Disk.pairs`: the pairs of a file and a signature; `Surveyor.mem_pairs_of_leads`: references lead
  to these.
* **`Surveyor.levels_of_scan`**: every scan ends, and goes no deeper than there are pairs.
-/

namespace ReducerAtlas

/-! ## Levels of a visit -/

namespace Search

open Ledger

variable {read : Node → Reading} {all : List Node}

theorem close_ne_tooDeep (s : Search) (node : Node) (found : Roster) :
    (s.close node found).2 ≠ .error .tooDeep := by
  unfold close
  split <;> simp

/-- **A visit does not run out of levels** if there are as many of them as unopened nodes. -/
theorem visit_ne_tooDeep (closed : ∀ a ∈ all, ∀ b, Leads read a b → b ∈ all)
    (hread : ∀ x, ¬ (read x).Raises .tooDeep) (fuel depth : Nat) (node : Node) (s : Search)
    (hall : node ∈ all) (hnode : ¬ s.ledger.Marked node)
    (hfuel : unseen all s.ledger.opened ≤ fuel) :
    (visit read fuel depth node s).2 ≠ .error .tooDeep := by
  induction fuel generalizing depth node s with
  | zero =>
    have hlt := unseen_enter_lt hall hnode
    omega
  | succ fuel ih =>
    have hlt := unseen_enter_lt hall hnode
    have hraises := hread node
    simp only [visit]
    cases hnow : read node with
    | absent => exact close_ne_tooDeep _ _ _
    | broken failure =>
      rintro ⟨⟩
      exact hraises (.inl hnow)
    | source uses steps =>
      have hsteps : .fail .tooDeep ∉ steps := fun hmem =>
        hraises (.inr (by rw [hnow]; exact hmem))
      have htaken : (takeSteps (visit read fuel (depth + 1)) depth node steps .empty
          (({ s with ledger := s.ledger.enter node }.tell (.scanning depth node.file)).count
            depth uses)).2 ≠ .error .tooDeep := by
        refine takeSteps_induct (P := fun s' => unseen all s'.ledger.opened ≤ fuel)
          (Q := fun outcome => outcome.2 ≠ .error .tooDeep) (by simp) ?_ (by simp)
          (fun _ _ _ h => h) (fun _ _ _ h hlink => (opened_of_link hlink).symm ▸ h) ?_ depth
          .empty ?_
        · rintro s' failure hmem - ⟨⟩
          exact hsteps hmem
        · intro child hchild s' hs' hnew
          have hlead : Leads read node child := by
            rw [Leads, hnow]
            exact hchild
          have hmem : child ∈ all := closed node hall child hlead
          have hchildren := ih (depth + 1) child s' hmem (mt .inl hnew) hs'
          have hfewer := unseen_visit_le read fuel (depth + 1) all hnew
          refine ⟨fun s'' usage heq => ?_, fun s'' failure heq => ?_⟩
          · rw [heq] at hfewer
            exact Nat.le_trans hfewer hs'
          · rwa [heq] at hchildren
        · change unseen all (s.ledger.enter node).opened ≤ fuel
          omega
      dsimp only
      generalize takeSteps _ _ _ _ _ _ = outcome at htaken ⊢
      obtain ⟨s', result⟩ := outcome
      cases result with
      | error failure => exact htaken
      | ok found => exact close_ne_tooDeep _ _ _

/-- A visit tells of no level beyond its last one. -/
theorem scanning_lt {node : Node} {s : Search} (hnew : ¬ s.ledger.Known node)
    (hnotes : s.notes = []) (read : Node → Reading) (fuel depth : Nat) :
    ∀ d file, .scanning d file ∈ (visit read fuel depth node s).1.notes → d < depth + fuel := by
  refine visit_keeps (P := fun s => ∀ d file, .scanning d file ∈ s.notes → d < depth + fuel)
    ?_ ?_ ?_ ?_ fuel depth le_rfl .refl hnew (by simp [hnotes])
  · intro s note hnote h d file hmem
    rcases List.mem_cons.mp hmem with heq | hmem
    · exact absurd heq.symm (hnote d file)
    · exact h d file hmem
  · intro s n k s' h hlink
    obtain ⟨L, -, rfl⟩ := link_eq_ok hlink
    exact h
  · intro s n found h
    rwa [close_fst]
  · intro s n d' hd' _ _ h d file hmem
    obtain ⟨told, heq, htold⟩ := notes_opening read d' n s
    rw [heq, List.mem_append, List.mem_cons] at hmem
    rcases hmem with hmem | heq | hmem
    · exact absurd rfl (htold _ hmem d file)
    · cases heq
      exact hd'
    · exact h d file hmem

end Search

/-! ## Plain paths -/

namespace Path

/-- **A path from the root whose names are proper ones**, as every absolute path is that is read
from a text. Names that lead up may be among them. -/
def Plain (p : Path) : Prop := p.anchor = .root ∧ ∀ n ∈ p.parts, n ≠ "" ∧ n ≠ "."

instance : DecidablePred Plain := fun _ => inferInstanceAs (Decidable (_ ∧ _))

theorem append_ne_dots {name tail : String} (hempty : name ≠ "") (hdot : name ≠ ".")
    (hup : name ≠ up) : name ++ tail ≠ up := by
  intro h
  have hlist : name.toList ++ tail.toList = ['.', '.'] := by
    rw [← String.toList_append, h]
    rfl
  rcases hname : name.toList with _ | ⟨c, _ | ⟨d, rest⟩⟩
  · exact hempty (String.toList_eq_nil_iff.mp hname)
  · rw [hname, List.singleton_append, List.cons.injEq] at hlist
    refine hdot (String.toList_inj.mp ?_)
    rw [hname, hlist.1]
    rfl
  · rw [hname] at hlist
    simp only [List.cons_append, List.cons.injEq, List.append_eq_nil_iff] at hlist
    refine hup (String.toList_inj.mp ?_)
    rw [hname, hlist.1, hlist.2.1, hlist.2.2.1]
    rfl

theorem Plain.extend? {p q : Path} {tail : String} (hp : p.Plain) (h : p.extend? tail = some q) :
    q.Plain ∧ (up ∉ p.parts → up ∉ q.parts) := by
  unfold Path.extend? at h
  dsimp only at h
  split_ifs at h with hno
  cases h
  have hmem : p.name ∈ p.parts := name_mem fun hnil => hno (.inl hnil)
  obtain ⟨hempty, hdot⟩ := hp.2 p.name hmem
  refine ⟨⟨hp.1, fun n hn => ?_⟩, fun hup hin => ?_⟩
  · rcases List.mem_append.mp hn with hn | hn
    · exact hp.2 n (List.dropLast_subset _ hn)
    · rw [List.mem_singleton.mp hn]
      exact ⟨by simp [hempty], append_ne_dot hempty hdot⟩
  · rcases List.mem_append.mp hin with hin | hin
    · exact hup (List.dropLast_subset _ hin)
    · have hname : p.name ≠ up := fun hname => hup (hname ▸ hmem)
      exact append_ne_dots hempty hdot hname (List.mem_singleton.mp hin).symm

end Path

namespace Lookup

variable {lookup : Lookup} {p q : Path}

/-- What a plain path may stand for is plain, and leads up only if the path does. -/
theorem plain_of_mem_tried (hindex : Path.Segment lookup.indexName)
    (hup : lookup.indexName ≠ Path.up) (hp : p.Plain) (hq : q ∈ lookup.tried p) :
    q.Plain ∧ (Path.up ∉ p.parts → Path.up ∉ q.parts) := by
  simp only [tried, List.cons_append, List.mem_cons, List.mem_append, List.mem_filterMap,
    List.not_mem_nil, or_false] at hq
  obtain rfl | ⟨extension, -, hq⟩ | rfl := hq
  · exact ⟨hp, id⟩
  · exact hp.extend? hq
  · rw [Path.joinText_of_segment hindex]
    refine ⟨⟨hp.1, fun n hn => ?_⟩, fun hnot hin => ?_⟩
    · rcases List.mem_append.mp hn with hn | hn
      · exact hp.2 n hn
      · rw [List.mem_singleton.mp hn]
        exact ⟨hindex.1, hindex.2.1⟩
    · rcases List.mem_append.mp hin with hin | hin
      · exact hnot hin
      · exact hup (List.mem_singleton.mp hin).symm

theorem plain_of_mem_candidates {source base : Path} {specifier : String} (hsource : source.Plain)
    (hbase : base.Plain) (hp : p ∈ candidates source specifier base) :
    p.Plain ∧ Path.up ∉ p.parts := by
  obtain ⟨⟨hanchor, hup⟩, hnames⟩ := of_mem_candidates hsource.1 hbase.1 hp
  refine ⟨⟨hanchor, fun n hn => ?_⟩, hup⟩
  rcases hnames n hn with (hn | hn) | hn
  · exact hsource.2 n hn
  · exact hbase.2 n hn
  · have hsegment := Path.segment_of_mem_parse hn
    exact ⟨hsegment.1, hsegment.2.1⟩

end Lookup

/-! ## Files and signatures -/

theorem Folder.mem_files {f : Folder} {names : List String} {content : List UInt8}
    (h : f.getAt? names = some (.file content)) (above : List String) :
    (above ++ names, content) ∈ f.files above := by
  cases names with
  | nil => cases h
  | cons k l =>
    induction f generalizing above k l with
    | empty =>
      rw [getAt?_cons] at h
      cases h
    | file n c rest ih =>
      rw [getAt?_cons, get?] at h
      rw [files, List.mem_cons]
      split_ifs at h with hn
      · obtain rfl := hn
        left
        cases l with
        | nil =>
          cases h
          rfl
        | cons m l => cases h
      · exact .inr (ih above k l (by rw [getAt?_cons, h]))
    | folder n inner rest ihInner ihRest =>
      rw [getAt?_cons, get?] at h
      rw [files, List.mem_append]
      split_ifs at h with hn
      · obtain rfl := hn
        left
        cases l with
        | nil => cases h
        | cons m l =>
          have hinner := ihInner (above ++ [n]) m l h
          rwa [List.append_assoc, List.singleton_append] at hinner
      · exact .inr (ihRest above k l (by rw [getAt?_cons, h]))

namespace Disk

/-- The paths of the files in a tree, each in normal form. -/
def filePaths (disk : Disk) : List Path :=
  (disk.root.files []).map fun (names, _) => ⟨.root, names⟩

/-- The signatures that a node can have: none, that of the start, and those of the restrictions that
are written in some file. -/
def signatures (disk : Disk) (start : Option (List String)) : List (Option (List String)) :=
  none :: start :: disk.root.contents.flatMap askedIn

/-- **The pairs of a file and a signature.** -/
def pairs (disk : Disk) (start : Option (List String)) : Finset Node :=
  (disk.filePaths.flatMap fun file =>
    (disk.signatures start).map fun asked => ⟨file, asked⟩).toFinset

variable {disk : Disk} {start : Option (List String)} {x : Node} {p : Path}

theorem mem_pairs_iff :
    x ∈ disk.pairs start ↔ x.file ∈ disk.filePaths ∧ x.asked ∈ disk.signatures start := by
  simp only [pairs, List.mem_toFinset, List.mem_flatMap, List.mem_map]
  constructor
  · rintro ⟨file, hfile, asked, hasked, rfl⟩
    exact ⟨hfile, hasked⟩
  · rintro ⟨hfile, hasked⟩
    exact ⟨x.file, hfile, x.asked, hasked, rfl⟩

theorem mem_filePaths (hp : p.Plain) (hup : Path.up ∉ p.parts) (h : disk.isFile p = .ok true) :
    p ∈ disk.filePaths := by
  obtain ⟨-, content, hat⟩ := exists_file_of_isFile hup h
  refine List.mem_map.mpr ⟨(p.parts, content), Folder.mem_files hat [], ?_⟩
  rw [← hp.1]

theorem asked_mem_signatures (h : x ∈ disk.nodes start) : x.asked ∈ disk.signatures start := by
  obtain ⟨file, -, hx⟩ := List.mem_flatMap.mp h
  obtain ⟨asked, hasked, rfl⟩ := List.mem_map.mp hx
  exact hasked

end Disk

/-! ## Scans -/

namespace Surveyor

variable {surveyor : Surveyor} {disk : Disk} {phase : Phase} {stack : List Path}
  {restriction : Option NameSet} {file found : Path} {excluded : List String}

theorem not_raises_tooDeep (x : Node) :
    ¬ (surveyor.read disk excluded stack x).Raises .tooDeep := by
  have hkind : ∀ failure, surveyor.Fails disk x failure → failure ≠ .tooDeep := by
    intro failure h
    refine @Fails.of_kind (fun failure => failure ≠ .tooDeep) disk (by simp) _ _ _ h
      fun content _ reference _ _ specifier _ => ?_
    exact Lookup.failsOnly_targets (by simp) (by simp)
  exact fun h => hkind _ (raises_read_iff.mp h) rfl

/-- **From a plain file, references lead to pairs of the disk**, and again to plain files. -/
theorem mem_pairs_of_leads (hbase : surveyor.base.Plain)
    (hindex : Path.Segment surveyor.lookup.indexName) (hup : surveyor.lookup.indexName ≠ Path.up)
    (start : Option (List String)) {a b : Node} (ha : a.file.Plain)
    (h : Leads (surveyor.read disk excluded stack) a b) :
    b.file.Plain ∧ b ∈ disk.pairs start := by
  have hasked := Disk.asked_mem_signatures (mem_nodes_of_leads start a b h)
  obtain ⟨content, -, reference, -, -, specifier, -, targets, htargets, target, htarget, -, rfl⟩ :=
    leads_read_iff.mp h
  obtain ⟨p, hp, hfind⟩ := Lookup.find_of_mem_targets htargets htarget
  obtain ⟨hplain, hnot⟩ := Lookup.plain_of_mem_candidates ha hbase hp
  obtain ⟨htarget, hkept⟩ :=
    Lookup.plain_of_mem_tried hindex hup hplain (Lookup.mem_tried_of_find hfind)
  have hfile := Disk.mem_filePaths htarget (hkept hnot) (Lookup.isFile_of_find hfind)
  exact ⟨htarget, Disk.mem_pairs_iff.mpr ⟨hfile, hasked⟩⟩

/-- The pairs of a disk, with one more for a start that is not written in normal form. -/
def levels (disk : Disk) (restriction : Option NameSet) (file : Path) : ℕ :=
  (disk.pairs (restriction.map NameSet.ofList)).card + if Path.up ∈ file.parts then 1 else 0

/-- Nodes that hold the start of a scan from a plain file, lead to no others, and are no more than
the levels. -/
theorem exists_closed (hbase : surveyor.base.Plain)
    (hindex : Path.Segment surveyor.lookup.indexName) (hup : surveyor.lookup.indexName ≠ Path.up)
    (hfile : file.Plain) (hfind : surveyor.lookup.find disk file = .ok (some found))
    (restriction : Option NameSet) (excluded : List String) (stack : List Path) :
    ∃ all : List Node, surveyor.node found restriction ∈ all ∧
      (∀ a ∈ all, ∀ b, Leads (surveyor.read disk excluded stack) a b → b ∈ all) ∧
      all.length ≤ levels disk restriction file := by
  obtain ⟨hfound, hkept⟩ :=
    Lookup.plain_of_mem_tried hindex hup hfile (Lookup.mem_tried_of_find hfind)
  have hisFile := Lookup.isFile_of_find hfind
  set pairs := disk.pairs (restriction.map NameSet.ofList) with hpairs
  have hstart : Path.up ∉ file.parts → surveyor.node found restriction ∈ pairs := fun hnot =>
    Disk.mem_pairs_iff.mpr ⟨Disk.mem_filePaths hfound (hkept hnot) hisFile,
      Disk.asked_mem_signatures (node_mem_nodes hisFile List.mem_cons_self)⟩
  -- names of the tree that no path can have are left out
  refine ⟨((insert (surveyor.node found restriction) pairs).filter fun x => x.file.Plain).toList,
    ?_, ?_, ?_⟩
  · rw [Finset.mem_toList, Finset.mem_filter]
    exact ⟨Finset.mem_insert_self _ _, hfound⟩
  · intro a ha b hlead
    rw [Finset.mem_toList, Finset.mem_filter] at ha ⊢
    obtain ⟨hb, hmem⟩ := mem_pairs_of_leads hbase hindex hup _ ha.2 hlead
    exact ⟨Finset.mem_insert_of_mem hmem, hb⟩
  · rw [Finset.length_toList]
    refine (Finset.card_filter_le _ _).trans ?_
    unfold levels
    split_ifs with hin
    · exact Finset.card_insert_le _ _
    · rw [Finset.insert_eq_of_mem (hstart hin)]
      exact le_rfl

/-- The visit that a scan begins, with some number of levels. -/
def visitOf (surveyor : Surveyor) (disk : Disk) (phase : Phase) (stack : List Path)
    (restriction : Option NameSet) (found : Path) (fuel : Nat) : Search.Outcome :=
  Search.visit (surveyor.read disk phase.excluded stack) fuel stack.length
    (surveyor.node found restriction) (phase.begin stack)

theorem scan_eq_visitOf (hfind : surveyor.lookup.find disk file = .ok (some found))
    (hstack : found ∉ stack)
    (hmiss : (phase.storeFor stack).find? (surveyor.node found restriction) = none) :
    surveyor.scan disk phase stack restriction file =
      let visited := surveyor.visitOf disk phase stack restriction found disk.nodeBound
      ⟨phase.after stack visited.1, visited.1.notes.reverse, visited.2⟩ := by
  rw [scan_eq_visit hfind hstack hmiss]
  simp only [visitOf]

theorem not_marked_begin (phase : Phase) (stack : List Path) (node : Node) :
    ¬ (phase.begin stack).ledger.Marked node := by
  simp [Phase.begin, Ledger.Marked, Table.get?]

/-- With as many levels as some nodes that hold the start and lead to no others, the visit ends by
itself, and more levels change nothing. -/
theorem visitOf_of_closed {all : List Node} (hstart : surveyor.node found restriction ∈ all)
    (closed : ∀ a ∈ all, ∀ b, Leads (surveyor.read disk phase.excluded stack) a b → b ∈ all)
    {fuel : Nat} (hfuel : all.length ≤ fuel) :
    (surveyor.visitOf disk phase stack restriction found fuel).2 ≠ .error .tooDeep ∧
      ∀ fuel' ≥ fuel, surveyor.visitOf disk phase stack restriction found fuel =
        surveyor.visitOf disk phase stack restriction found fuel' := by
  have hunseen : Search.unseen all (phase.begin stack).ledger.opened ≤ fuel :=
    List.countP_le_length.trans hfuel
  have hnode := not_marked_begin phase stack (surveyor.node found restriction)
  exact ⟨Search.visit_ne_tooDeep closed not_raises_tooDeep fuel _ _ _ hstart hnode hunseen,
    fun fuel' hle => Search.visit_of_le closed hle _ _ _ hstart hnode hunseen⟩

theorem visitOf_nodeBound (hfind : surveyor.lookup.find disk file = .ok (some found)) :
    (surveyor.visitOf disk phase stack restriction found disk.nodeBound).2 ≠ .error .tooDeep ∧
      ∀ fuel ≥ disk.nodeBound,
        surveyor.visitOf disk phase stack restriction found disk.nodeBound =
          surveyor.visitOf disk phase stack restriction found fuel :=
  visitOf_of_closed (node_mem_nodes (Lookup.isFile_of_find hfind) List.mem_cons_self)
    (fun a _ b => mem_nodes_of_leads _ a b) (disk.length_nodes_le _)

theorem visitOf_eq_nodeBound (hbase : surveyor.base.Plain)
    (hindex : Path.Segment surveyor.lookup.indexName) (hup : surveyor.lookup.indexName ≠ Path.up)
    (hfile : file.Plain) (hfind : surveyor.lookup.find disk file = .ok (some found)) {fuel : Nat}
    (hfuel : levels disk restriction file ≤ fuel) :
    surveyor.visitOf disk phase stack restriction found fuel =
      surveyor.visitOf disk phase stack restriction found disk.nodeBound := by
  obtain ⟨all, hstart, closed, hlength⟩ :=
    exists_closed hbase hindex hup hfile hfind restriction phase.excluded stack
  rw [(visitOf_of_closed hstart closed (hlength.trans hfuel)).2 _ (le_max_left fuel disk.nodeBound),
    ← (visitOf_nodeBound hfind).2 _ (le_max_right fuel disk.nodeBound)]

theorem scan_ne_tooDeep (surveyor : Surveyor) (disk : Disk) (phase : Phase) (stack : List Path)
    (restriction : Option NameSet) (file : Path) :
    (surveyor.scan disk phase stack restriction file).outcome ≠ .error .tooDeep := by
  rcases surveyor.scan_visits_or disk phase stack restriction file with
    ⟨found, hfind, hstack, hmiss⟩ | ⟨-, -, hfails⟩
  · rw [scan_eq_visitOf hfind hstack hmiss]
    dsimp only
    exact (visitOf_nodeBound hfind).1
  · intro h
    have hlookup : FailsOnly (fun failure => failure ≠ .tooDeep)
        (surveyor.lookup.find disk file) := Lookup.failsOnly_find (by simp) (by simp)
    exact hlookup _ (hfails _ h) rfl

/-- **Every scan ends, and goes no deeper than there are pairs of a file and a signature.** Whatever
the disk, the reducers, the phase with its results, the stack, the restriction and the file:

* the visit that a scan begins does not run out of levels, and would be the same with more of them;
* if the file and the base folder are given by absolute paths and the index by a single name, then
  no level that the scan tells of is beyond the number of pairs, or that number and one if the path
  of the file leads up somewhere; and the visit is the same with this number of levels. -/
theorem levels_of_scan (surveyor : Surveyor) (disk : Disk) (phase : Phase) (stack : List Path)
    (restriction : Option NameSet) (file : Path) :
    let scan := surveyor.scan disk phase stack restriction file
    let visit := surveyor.visitOf disk phase stack restriction
    scan.outcome ≠ .error .tooDeep ∧
    (∀ found, surveyor.lookup.find disk file = .ok (some found) →
      ∀ fuel ≥ disk.nodeBound, visit found disk.nodeBound = visit found fuel) ∧
    (surveyor.base.Plain → file.Plain → Path.Segment surveyor.lookup.indexName →
      surveyor.lookup.indexName ≠ Path.up →
        (∀ depth path, .scanning depth path ∈ scan.journal →
          depth < stack.length + levels disk restriction file) ∧
        ∀ found, surveyor.lookup.find disk file = .ok (some found) →
          ∀ fuel ≥ levels disk restriction file,
            visit found fuel = visit found disk.nodeBound) := by
  refine ⟨surveyor.scan_ne_tooDeep disk phase stack restriction file,
    fun found hfind => (visitOf_nodeBound hfind).2,
    fun hbase hfile hindex hup => ⟨fun depth path htold => ?_, fun found hfind fuel hfuel =>
      visitOf_eq_nodeBound hbase hindex hup hfile hfind hfuel⟩⟩
  rcases surveyor.scan_visits_or disk phase stack restriction file with
    ⟨found, hfind, hstack, hmiss⟩ | ⟨-, hscanned, -⟩
  · -- the visit is that with the smaller number of levels, and cannot tell of more
    rw [scan_eq_visitOf hfind hstack hmiss,
      ← visitOf_eq_nodeBound hbase hindex hup hfile hfind le_rfl] at htold
    exact Search.scanning_lt (Search.not_known_begin hmiss) rfl _ _ _ depth path
      (List.mem_reverse.mp htold)
  · have hmem := Journal.mem_scanned.mpr ⟨depth, htold⟩
    rw [hscanned] at hmem
    cases hmem

/-! ## A start that leads up -/

/-- One file, which imports itself, beside an empty folder. -/
def selfDisk : Disk where
  root := .folder "a" .empty <| .file "b.js" (Text.Utf8.encode "import './b';".toList) .empty

/-- A surveyor that looks for nothing. -/
def idleSurveyor : Surveyor where
  reducers := []
  base := .root
  actionNames := none

/-- A path that leads up makes a second node of the one file, and a level more than there are
pairs. -/
theorem deeper_than_pairs :
    (selfDisk.pairs none).card = 1 ∧
    .scanning 1 (Path.parse "/b.js") ∈
      (idleSurveyor.scan selfDisk {} [] none (Path.parse "/a/../b.js")).journal := by
  constructor
  · decide +kernel
  · decide +kernel

theorem levels_selfDisk :
    levels selfDisk none (Path.parse "/a/../b.js") = 2 ∧
    idleSurveyor.visitOf selfDisk {} [] none (Path.parse "/a/../b.js") 2 =
      idleSurveyor.visitOf selfDisk {} [] none (Path.parse "/a/../b.js") selfDisk.nodeBound := by
  have hlevels : levels selfDisk none (Path.parse "/a/../b.js") = 2 := by decide +kernel
  obtain ⟨-, -, hplain⟩ :=
    levels_of_scan idleSurveyor selfDisk {} [] none (Path.parse "/a/../b.js")
  obtain ⟨-, hvisit⟩ := hplain (by decide) (by decide +kernel) (by decide) (by decide)
  exact ⟨hlevels, hvisit _ (by decide +kernel) 2 hlevels.le⟩

end Surveyor

end ReducerAtlas
