import ReducerAtlas.NameSet
import ReducerAtlas.Text.Split

/-!
# Clauses of imports and re-exports

A clause says which names a statement binds in its file and which names it takes from the target.

* `Clause`: the two sets, either of which may be unlimited.
* `Clause.ofImport`, `Clause.ofExport`: reading the text between the keywords.
-/

namespace ReducerAtlas.Source

open ReducerAtlas.Text

/-- The names bound by a statement, and those taken from its target; `none` stands for all. -/
structure Clause where
  bindings : Option NameSet := none
  restriction : Option NameSet := none
  deriving DecidableEq, Repr

/-- The entries of a comma list, without blanks around them; empty ones are left out. -/
def entries (cs : List Char) : List (List Char) :=
  ((splitBy (· == ',') cs).map trim).filter (!·.isEmpty)

/-- The imported and the local name of an entry: `a as b` gives the two, and any other entry its
first and its last word. -/
def aliasPair (entry : List Char) : List Char × List Char :=
  match words entry with
  | [] => ([], [])
  | first :: rest => (first, (first :: rest).getLastD first)

/-- The first brace list of a text: what is inside, and the text without it. -/
def braceList? (cs : List Char) : Option (List Char × List Char) :=
  let front := cs.takeWhile (· != '\x7b')
  match cs.drop front.length with
  | [] => none
  | _ :: rest =>
    let inner := rest.takeWhile (· != '\x7d')
    match rest.drop inner.length with
    | [] => none
    | _ :: tail => some (inner, front ++ tail)

/-- The clause without a leading `type` or `typeof` and the blanks after it. -/
def dropTypeWord (cs : List Char) : List Char :=
  if "type ".toList.isPrefixOf cs || "typeof ".toList.isPrefixOf cs then
    (cs.dropWhile (!isBlank ·)).dropWhile isBlank
  else cs

/-- The set of some of the names written in a list of entries. -/
def nameSet (names : List (List Char)) : NameSet :=
  NameSet.ofList (names.map String.ofList)

/-- **The clause of an import.** Its braces name what is taken; without braces the whole target is.
The bound names are the local ones inside the braces and the last word of each other entry. -/
def Clause.ofImport (text : List Char) : Clause :=
  let clause := dropTypeWord (trim text)
  match braceList? clause with
  | none => ⟨some (nameSet ((entries clause).map (aliasPair · |>.2))), none⟩
  | some (inner, outer) =>
    let pairs := (entries inner).map aliasPair
    let locals := pairs.map (·.2) ++ (entries outer).map (aliasPair · |>.2)
    ⟨some (nameSet locals), some (nameSet (pairs.map (·.1)))⟩

/-- **The clause of a re-export.** A star forwards everything unless it is given a name; a brace
list names what is taken and what it is called. -/
def Clause.ofExport (text : List Char) : Clause :=
  match trim text with
  | '*' :: rest =>
    match words rest with
    | [['a', 's'], name] => ⟨some [String.ofList name], none⟩
    | _ => ⟨none, none⟩
  | clause =>
    let pairs := (entries (trimWith (fun c => c == '\x7b' || c == '\x7d') clause)).map aliasPair
    ⟨some (nameSet (pairs.map (·.2))), some (nameSet (pairs.map (·.1)))⟩

end ReducerAtlas.Source
