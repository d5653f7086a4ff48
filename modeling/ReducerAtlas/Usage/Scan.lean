import ReducerAtlas.Usage.Ledger

/-!
# Scanning for usage

A scan visits the nodes that can be reached from a file, depth first, and collects the reducers
whose files are among them.

* `Search`: the state of a scan; `Search.visit`: the visit of a node.
* `Phase`: what several scans share; `Surveyor.scan`: the scan of a file in a phase.
-/

namespace ReducerAtlas

/-- The state of a scan: the ledger, what was counted, and what was noted, the latest first. -/
structure Search where
  ledger : Ledger := {}
  filesRead : Nat := 0
  usesFound : Nat := 0
  notes : List Note := []
  deriving DecidableEq

namespace Search

/-- A new state, and a result or the failure that stopped the scan. -/
abbrev Outcome := Search × Except Failure Roster

/-- The state with one more note. -/
def tell (s : Search) (note : Note) : Search :=
  { s with notes := note :: s.notes }

/-- The state with a link from a node. -/
def link (s : Search) (node : Node) (number : Int) : Except Failure Search :=
  match s.ledger.link node number with
  | .ok ledger => .ok { s with ledger := ledger }
  | .error fault => .error (.ledger fault)

/-- The state after a node was closed with its findings. -/
def close (s : Search) (node : Node) (found : Roster) : Outcome :=
  match s.ledger.close node found with
  | (ledger, .ok usage) => ({ s with ledger := ledger }, .ok usage)
  | (ledger, .error fault) => ({ s with ledger := ledger }, .error (.ledger fault))

/-- The state after a file with its uses was read. -/
def count (s : Search) (depth : Nat) (uses : List Reducer) : Search :=
  { s with
    filesRead := s.filesRead + 1
    usesFound := s.usesFound + uses.length
    notes := (uses.map fun r => Note.usageFound depth r.name).reverse ++ s.notes }

/-- Takes the steps from a node one after the other. A finished node gives its result, an open one a
link back to it, and any other is visited. -/
def takeSteps (visit : Node → Search → Outcome) (depth : Nat) (node : Node) :
    List Step → Roster → Search → Outcome
  | [], found, s => (s, .ok found)
  | .notAskedFor specifiers :: rest, found, s =>
    takeSteps visit depth node rest found (s.tell (.notAskedFor depth specifiers))
  | .blocked target :: rest, found, s =>
    takeSteps visit depth node rest found (s.tell (.cycle depth target))
  | .fail failure :: _, _, s => (s, .error failure)
  | .follow child :: rest, found, s =>
    match s.ledger.store.find? child with
    | some usage => takeSteps visit depth node rest (found.union usage) s
    | none =>
      match s.ledger.marks.get? child with
      | some mark =>
        let s := s.tell (.cycle depth child.file)
        match s.link node mark.number with
        | .error failure => (s, .error failure)
        | .ok s => takeSteps visit depth node rest found s
      | none =>
        match visit child s with
        | (s, .error failure) => (s, .error failure)
        | (s, .ok usage) =>
          match s.ledger.marks.get? child with
          | none => (s, .error (.ledger .unknownNode))
          | some mark =>
            match s.link node mark.low with
            | .error failure => (s, .error failure)
            | .ok s => takeSteps visit depth node rest (found.union usage) s

/-- **The visit of a node** in the graph given by `read`, at most the given number of levels deep.
-/
def visit (read : Node → Reading) : Nat → Nat → Node → Search → Outcome
  | 0, _, _, s => (s, .error .tooDeep)
  | fuel + 1, depth, node, s =>
    let s := { s with ledger := s.ledger.enter node }.tell (.scanning depth node.file)
    match read node with
    | .absent => (s.tell (.noSuchFile depth node.file)).close node .empty
    | .broken failure => (s, .error failure)
    | .source uses steps =>
      let s := s.count depth uses
      match takeSteps (visit read fuel (depth + 1)) depth node steps .empty s with
      | (s, .error failure) => (s, .error failure)
      | (s, .ok found) => s.close node (found.union (.ofList uses))

end Search

/-! ## Phases -/

/-- What the scans of one phase share: the excluded reducers, the results so far if they are kept,
and what was counted. -/
structure Phase where
  excluded : List String := []
  caching : Bool := true
  store : Store := []
  filesRead : Nat := 0
  usesFound : Nat := 0
  deriving DecidableEq

/-- A scan shares the results of its phase: they are kept, and no file counts as being visited. -/
def Phase.shares (phase : Phase) (stack : List Path) : Bool :=
  phase.caching && stack.isEmpty

/-- The results that a scan starts with. -/
def Phase.storeFor (phase : Phase) (stack : List Path) : Store :=
  if phase.shares stack then phase.store else []

/-- The state that a scan starts in. -/
def Phase.begin (phase : Phase) (stack : List Path) : Search :=
  { ledger := { store := phase.storeFor stack }
    filesRead := phase.filesRead
    usesFound := phase.usesFound }

/-- The phase after a scan. -/
def Phase.after (phase : Phase) (stack : List Path) (s : Search) : Phase :=
  { phase with
    store := if phase.shares stack then s.ledger.store else phase.store
    filesRead := s.filesRead
    usesFound := s.usesFound }

/-- What a scan leaves: the phase, its notes, and a result or the failure that stopped it. -/
structure ScanResult where
  phase : Phase
  journal : Journal
  outcome : Except Failure Roster

/-- A number of nodes that no scan of the disk exceeds. A path that leads to a file is an anchor and
a list of names, each that of an entry or the one that leads up; each path counts once for every set
of names that some reference can ask for, once for the start, and once for all names. -/
def Disk.nodeBound (disk : Disk) : Nat :=
  3 * Nat.pow (disk.root.entryCount + 2) Disk.maxPath * (disk.root.byteCount + 2)

namespace Surveyor

/-- **The scan of a file in a phase.** The file is found like a module. Files of the stack count as
being visited already. A scan with an empty stack shares the results of its phase; any other keeps
its results to itself. -/
def scan (surveyor : Surveyor) (disk : Disk) (phase : Phase) (stack : List Path)
    (restriction : Option NameSet) (file : Path) : ScanResult :=
  match surveyor.lookup.find disk file with
  | .error failure => ⟨phase, [], .error failure⟩
  | .ok none => ⟨phase, [.unresolved stack.length file], .ok .empty⟩
  | .ok (some found) =>
    if stack.contains found then ⟨phase, [], .ok .empty⟩
    else
      let node := surveyor.node found restriction
      match (phase.storeFor stack).find? node with
      | some usage => ⟨phase, [], .ok usage⟩
      | none =>
        let read := surveyor.read disk phase.excluded stack
        let (s, outcome) := Search.visit read disk.nodeBound stack.length node (phase.begin stack)
        ⟨phase.after stack s, s.notes.reverse, outcome⟩

end Surveyor

end ReducerAtlas
