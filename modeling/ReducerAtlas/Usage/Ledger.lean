import ReducerAtlas.Usage.Node

/-!
# The scan ledger

The bookkeeping of one scan. Nodes are numbered in the order in which they are opened. The low mark
of a node is the number of the oldest open node that it can get back to, so nodes that import each
other in a circle are finished together, when the oldest of them closes, and share one result.

* `Table`: values by key; `Group`: nodes that were finished together; `Store`: the finished groups.
* `Ledger.enter`, `Ledger.link`, `Ledger.close`: opening a node, lowering its mark, finishing it.
-/

namespace ReducerAtlas

/-! ## Tables -/

/-- Values by key, each key once, in the order in which the keys came. -/
abbrev Table (κ α : Type) := List (κ × α)

namespace Table

variable {κ α : Type} [DecidableEq κ]

/-- The value of a key. -/
def get? (key : κ) : Table κ α → Option α
  | [] => none
  | (k, a) :: rest => if k = key then some a else get? key rest

/-- The table with a value for a key, in place of the one it may have had. -/
def set (key : κ) (value : α) : Table κ α → Table κ α
  | [] => [(key, value)]
  | (k, a) :: rest => if k = key then (k, value) :: rest else (k, a) :: set key value rest

/-- The table without a key. -/
def erase (key : κ) : Table κ α → Table κ α
  | [] => []
  | (k, a) :: rest => if k = key then rest else (k, a) :: erase key rest

@[simp]
theorem get?_set (key k : κ) (value : α) (t : Table κ α) :
    (t.set key value).get? k = if key = k then some value else t.get? k := by
  induction t with
  | nil => simp [set, get?]
  | cons e rest ih =>
    obtain ⟨m, a⟩ := e
    by_cases h : m = key
    · subst h
      by_cases hk : m = k <;> simp [set, get?, hk]
    · by_cases hk : m = k
      · subst hk
        simp [set, get?, h, Ne.symm h]
      · simp [set, get?, h, hk, ih]

end Table

/-! ## Finished nodes -/

/-- Nodes that were finished together, the youngest first, and their common result. -/
structure Group where
  members : List Node
  usage : Roster
  deriving DecidableEq

/-- The finished groups, the latest first. -/
abbrev Store := List Group

/-- The result of a finished node. -/
def Store.find? (store : Store) (node : Node) : Option Roster :=
  match store with
  | [] => none
  | group :: rest => if node ∈ group.members then some group.usage else Store.find? rest node

/-! ## The ledger -/

/-- The number of a node, and its low mark. -/
structure Mark where
  number : Nat
  low : Int
  deriving DecidableEq, Repr

/-- The bookkeeping of one scan. -/
structure Ledger where
  /-- The finished groups. -/
  store : Store := []
  /-- The marks of all nodes that were opened. -/
  marks : Table Node Mark := []
  /-- The nodes opened and not finished yet, the youngest first. -/
  pending : List Node := []
  /-- The findings of closed nodes that are not finished yet. -/
  partials : Table Node Roster := []
  deriving DecidableEq

namespace Ledger

/-- The node was opened and is not finished yet. -/
def isOpen (ledger : Ledger) (node : Node) : Bool :=
  (ledger.marks.get? node).isSome && (ledger.store.find? node).isNone

/-- Opens a node. -/
def enter (ledger : Ledger) (node : Node) : Ledger :=
  let number := ledger.marks.length
  { ledger with
    marks := ledger.marks.set node ⟨number, number⟩
    pending := node :: ledger.pending }

/-- Notes that a node can get back to the node of a given number. -/
def link (ledger : Ledger) (node : Node) (number : Int) : Except LedgerFault Ledger :=
  match ledger.marks.get? node with
  | none => .error .unknownNode
  | some mark =>
    .ok { ledger with marks := ledger.marks.set node ⟨mark.number, min mark.low number⟩ }

/-- The nodes down to a given one, and those below it. -/
def splitAt? (node : Node) : List Node → Option (List Node × List Node)
  | [] => none
  | n :: rest =>
    if n = node then some ([n], rest)
    else (splitAt? node rest).map fun (members, below) => (n :: members, below)

/-- The union of the findings of some nodes, later ones winning, taken out of the table; the nodes
before one without findings are taken out all the same. -/
def collect : List Node → Roster → Table Node Roster → Table Node Roster × Option Roster
  | [], usage, partials => (partials, some usage)
  | node :: rest, usage, partials =>
    match partials.get? node with
    | none => (partials, none)
    | some found => collect rest (usage.union found) (partials.erase node)

/-- **Closes a node with its findings.** While the node belongs to an open circle its findings are
kept; when it is the oldest of its circle, all members are finished with the union of their
findings, the younger winning on equal names. Changes made before a fault stay. -/
def close (ledger : Ledger) (node : Node) (found : Roster) : Ledger × Except LedgerFault Roster :=
  let ledger := { ledger with partials := ledger.partials.set node found }
  match ledger.marks.get? node with
  | none => (ledger, .error .unknownNode)
  | some mark =>
    if mark.low ≠ mark.number then (ledger, .ok found)
    else
      match splitAt? node ledger.pending with
      | none => ({ ledger with pending := [] }, .error .notOpen)
      | some (members, below) =>
        match collect members.reverse .empty ledger.partials with
        | (partials, none) =>
          ({ ledger with pending := below, partials := partials }, .error .unknownNode)
        | (partials, some usage) =>
          ({ ledger with
              store := ⟨members, usage⟩ :: ledger.store
              pending := below
              partials := partials }, .ok usage)

end Ledger

end ReducerAtlas
