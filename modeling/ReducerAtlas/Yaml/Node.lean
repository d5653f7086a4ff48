import ReducerAtlas.Yaml.Scalar

/-!
# YAML documents

The tree that the tokens of a text describe, and its value. A text holds at most one document. A
node with a name stands wherever the name is referred to, and mappings can be merged into others.

* `Yaml.Node`: a tree of scalars, sequences and mappings; `Yaml.Node.value`: its value.
* `Yaml.Faults`: faults by their distance from the root, the nearest one counting.
* `Yaml.read`: the value of a text.
-/

namespace ReducerAtlas.Yaml

open ReducerAtlas.Text

/-- A tree of scalars, sequences and mappings. -/
inductive Node
  | plain (text : List Char)
  | quoted (text : List Letter)
  | sequence (items : List Node)
  | mapping (fields : List (Node × Node))

/-- A node that is not written. -/
def Node.missing : Node := .plain []

/-! ## Reading nodes -/

/-- What is left of the tokens, and the nodes that have names. A node that is being read has its
name already, but cannot be referred to yet. -/
structure Source where
  tokens : List Token
  names : List (List Char × Option Node) := []

/-- Reading with the tokens as state. -/
abbrev Compose := StateT Source (Except Fault)

/-- The next token, left in place. -/
def peekToken : Compose (Option Token) := return (← get).tokens.head?

/-- Goes on after the next token. -/
def dropToken : Compose Unit :=
  modify fun s => { s with tokens := s.tokens.drop 1 }

/-- No token fits here. Where the text itself is refused, that is the reason. -/
def misfit {α : Type} : Compose α := do
  match ← peekToken with
  | some (.broken fault) => throw fault
  | _ => throw .malformed

/-- Takes a token if it is next. -/
def acceptToken (t : Token) : Compose Bool := do
  if (← peekToken) = some t then
    dropToken
    return true
  return false

/-- One of some tokens is next. -/
def isNext (ts : List Token) : Compose Bool := do
  return (← peekToken).any ts.contains

/-- The node of a name. -/
def named (name : List Char) : Compose Node := do
  match (← get).names.lookup name with
  | some (some found) => return found
  | _ => throw .malformed

/-- Gives a name to the node that is read next; a name is given once. -/
def openName : Option (List Char) → Compose Unit
  | none => return ()
  | some name => do
    if ((← get).names.lookup name).isSome then throw .malformed
    modify fun s => { s with names := (name, none) :: s.names }

/-- Keeps a node under its name. -/
def keepName (name : Option (List Char)) (found : Node) : Compose Node := do
  if let some name := name then modify fun s => { s with names := (name, some found) :: s.names }
  return found

mutual

/-- A node. Block collections are only read where they may stand, and so are sequences that are not
indented. -/
def node : Nat → Bool → Bool → Compose Node
  | 0, _, _ => misfit
  | fuel + 1, block, flat => do
    match ← peekToken with
    | some (.reference name) =>
      dropToken
      named name
    | some (.anchor name) =>
      dropToken
      content fuel block flat (some name)
    | _ => content fuel block flat none

/-- The content of a node, which may be missing after a name. -/
def content : Nat → Bool → Bool → Option (List Char) → Compose Node
  | 0, _, _, _ => misfit
  | fuel + 1, block, flat, name => do
    match ← peekToken, block, flat with
    | some (.plain text), _, _ =>
      dropToken
      openName name
      keepName name (.plain text)
    | some (.quoted text), _, _ =>
      dropToken
      openName name
      keepName name (.quoted text)
    | some .flowSequenceStart, _, _ =>
      dropToken
      openName name
      keepName name (.sequence (← flowItems fuel true))
    | some .flowMappingStart, _, _ =>
      dropToken
      openName name
      keepName name (.mapping (← flowFields fuel true))
    | some .blockEntry, _, true =>
      openName name
      keepName name (.sequence (← flatItems fuel))
    | some .blockSequenceStart, true, _ =>
      dropToken
      openName name
      keepName name (.sequence (← blockItems fuel))
    | some .blockMappingStart, true, _ =>
      dropToken
      openName name
      keepName name (.mapping (← blockFields fuel))
    | some (.broken fault), _, _ => throw fault
    | _, _, _ =>
      if name.isNone then misfit
      openName name
      keepName name .missing

/-- A node, or a missing one before a token that ends its entry. -/
def optional : Nat → List Token → Bool → Bool → Compose Node
  | 0, _, _, _ => misfit
  | fuel + 1, ends, block, flat => do
    if ← isNext ends then return .missing
    node fuel block flat

/-- The entries of a block sequence. -/
def blockItems : Nat → Compose (List Node)
  | 0 => misfit
  | fuel + 1 => do
    if ← acceptToken .blockEntry then
      let item ← optional fuel [.blockEntry, .blockEnd] true false
      return item :: (← blockItems fuel)
    if ← acceptToken .blockEnd then return []
    misfit

/-- The entries of a sequence that is not indented. -/
def flatItems : Nat → Compose (List Node)
  | 0 => misfit
  | fuel + 1 => do
    if ← acceptToken .blockEntry then
      let item ← optional fuel [.blockEntry, .key, .value, .blockEnd] true false
      return item :: (← flatItems fuel)
    return []

/-- The fields of a block mapping. -/
def blockFields : Nat → Compose (List (Node × Node))
  | 0 => misfit
  | fuel + 1 => do
    let ends := [.key, .value, .blockEnd]
    if ← acceptToken .key then
      let key ← optional fuel ends true true
      let value ← if ← acceptToken .value then optional fuel ends true true else pure .missing
      return (key, value) :: (← blockFields fuel)
    if ← acceptToken .blockEnd then return []
    misfit

/-- A field in brackets or braces after the mark of its key, up to one of the tokens that end it. -/
def flowPair : Nat → List Token → Compose (Node × Node)
  | 0, _ => misfit
  | fuel + 1, ends => do
    let key ← optional fuel (.value :: ends) false false
    let value ← if ← acceptToken .value then optional fuel ends false false else pure .missing
    return (key, value)

/-- The entries of a sequence in brackets; a pair among them is a mapping of its own. -/
def flowItems : Nat → Bool → Compose (List Node)
  | 0, _ => misfit
  | fuel + 1, first => do
    if ← acceptToken .flowSequenceEnd then return []
    if !first && !(← acceptToken .flowEntry) then misfit
    if ← acceptToken .flowSequenceEnd then return []
    let item ←
      if ← acceptToken .key then
        pure (.mapping [← flowPair fuel [.flowEntry, .flowSequenceEnd]])
      else node fuel false false
    return item :: (← flowItems fuel false)

/-- The fields of a mapping in braces. -/
def flowFields : Nat → Bool → Compose (List (Node × Node))
  | 0, _ => misfit
  | fuel + 1, first => do
    if ← acceptToken .flowMappingEnd then return []
    if !first && !(← acceptToken .flowEntry) then misfit
    if ← acceptToken .flowMappingEnd then return []
    let field ←
      if ← acceptToken .key then flowPair fuel [.flowEntry, .flowMappingEnd]
      else
        let key ← node fuel false false
        pure (key, .missing)
    return field :: (← flowFields fuel false)

end

/-! ## Values -/

/-- Faults, each with its distance from the root. -/
abbrev Faults := List (Nat × Fault)

/-- The fault that is nearest to the root, the first one of several. -/
def Faults.nearest? (faults : Faults) : Option Fault :=
  (faults.foldl (fun best found => if best.any (·.1 ≤ found.1) then best else some found)
    (none : Option (Nat × Fault))).map (·.2)

/-- A value, and the faults that were met on the way. -/
structure Reading where
  value : Value
  faults : Faults := []

/-- A value, or a fault at a distance from the root. -/
def Reading.ofExcept (depth : Nat) : Except Fault Value → Reading
  | .ok v => ⟨v, []⟩
  | .error fault => ⟨.null, [(depth, fault)]⟩

/-- The key of a field. A collection is none, and the mark for a mapping's value is a text here. -/
def Node.keyReading (depth : Nat) : Node → Reading
  | .plain text =>
    if text == defaultMark then { value := .text (String.ofList text) }
    else .ofExcept depth (scalarValue text)
  | .quoted text => { value := .ofLetters text }
  | .sequence _ | .mapping _ => ⟨.null, [(depth, .malformed)]⟩

/-- The node stands for a merge where it is a key. -/
def Node.isMerge : Node → Bool
  | .plain text => text == mergeMark
  | .quoted _ | .sequence _ | .mapping _ => false

/-- A field of a mapping, and the faults of its key and value. -/
structure Field where
  key : Value
  value : Value
  faults : Faults

/-- The fields of a mapping: those that merges bring in, its own, and the faults of the merges. -/
structure Fields where
  brought : List Field := []
  own : List Field := []
  faults : Faults := []

/-- All fields, the ones of merges before the others. -/
def Fields.all (fs : Fields) : List Field :=
  fs.brought ++ fs.own

mutual

/-- The value of a tree. Scalars lie at the given distance from the root. -/
def Node.reading (depth : Nat) : Node → Reading
  | .plain text => .ofExcept depth (scalarValue text)
  | .quoted text => { value := .ofLetters text }
  | .sequence items =>
    let rs := Node.readings (depth + 1) items
    ⟨.list (rs.map (·.value)), rs.flatMap (·.faults)⟩
  | .mapping fields =>
    let fs := Node.fields (depth + 1) fields
    ⟨.map (fs.all.foldl (fun done f => Value.setField f.key f.value done) []),
      fs.faults ++ fs.all.flatMap (·.faults)⟩

/-- The values of the items of a sequence. -/
def Node.readings (depth : Nat) : List Node → List Reading
  | [] => []
  | item :: items => item.reading depth :: Node.readings depth items

/-- The fields of a mapping; a key given twice keeps its last value. -/
def Node.fields (depth : Nat) : List (Node × Node) → Fields
  | [] => {}
  | (key, value) :: rest =>
    let fs := Node.fields depth rest
    if key.isMerge then
      let merged := value.merged depth
      { fs with brought := merged.all ++ fs.brought, faults := merged.faults ++ fs.faults }
    else
      let k := key.keyReading depth
      let v := value.reading depth
      { fs with own := ⟨k.value, v.value, k.faults ++ v.faults⟩ :: fs.own }

/-- The fields that a merge brings in: those of a mapping, or of a sequence of mappings, the last of
them first. -/
def Node.merged (depth : Nat) : Node → Fields
  | .plain _ | .quoted _ => { faults := [(depth, .malformed)] }
  | .mapping fields => Node.fields depth fields
  | .sequence items => Node.mergedItems depth items

/-- The fields of a sequence of mappings, the last of them first. -/
def Node.mergedItems (depth : Nat) : List Node → Fields
  | [] => {}
  | .mapping fields :: items =>
    let first := Node.fields depth fields
    let fs := Node.mergedItems depth items
    { brought := fs.brought ++ first.all, faults := first.faults ++ fs.faults }
  | .plain _ :: _ | .quoted _ :: _ | .sequence _ :: _ => { faults := [(depth, .malformed)] }

end

/-- **The value of a tree.** Of several faults the nearest to the root counts. -/
def Node.value (root : Node) : Except Fault Value :=
  let r := root.reading 0
  match r.faults.nearest? with
  | some fault => .error fault
  | none => .ok r.value

/-! ## Documents -/

/-- The document of a text, which may be missing. Nothing but marks of its end follows it. -/
def document : Compose (Option Node) := do
  let ts := (← get).tokens
  if ts.isEmpty then return none
  let fuel := 4 * ts.length + 4
  let explicit ← acceptToken .documentStart
  let absent ← if explicit then isAbsent else pure false
  let root ← if absent then pure .missing else node fuel true false
  modify fun s => { s with tokens := s.tokens.dropWhile (· == .documentEnd) }
  if (← get).tokens.isEmpty then return some root
  misfit
where
  /-- A document ends right after its mark. -/
  isAbsent : Compose Bool := do
    return (← get).tokens.isEmpty || (← isNext [.documentStart, .documentEnd])

/-- **The value of a YAML text.** Without a document it is null. -/
def read (content : List Char) : Except Fault Value := do
  match ← document.run' { tokens := tokens content } with
  | none => return .null
  | some root => root.value

end ReducerAtlas.Yaml
