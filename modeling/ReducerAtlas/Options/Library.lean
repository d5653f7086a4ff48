import ReducerAtlas.Failure
import ReducerAtlas.Pattern.Reader
import ReducerAtlas.Value

/-!
# What is read from outside

YAML is read by a library, and the names of characters stand in a table outside the program. Nothing
is assumed of either: whatever they answer is an answer that a run can get.

* `ReadFault`: why the library has no value for a text; `Library`: the reader and the table.
-/

namespace ReducerAtlas

/-- Why a text has no value. -/
inductive ReadFault
  /-- The reader says that the text is malformed. -/
  | malformed
  /-- The reader breaks off in another way. -/
  | broken (failure : Failure)
  deriving DecidableEq, Repr

/-- **What a run takes from outside.** -/
structure Library where
  /-- The value of a YAML text. -/
  readYaml : List Char → Except ReadFault Value
  /-- The characters that have a name. -/
  characters : CharacterNames

end ReducerAtlas
