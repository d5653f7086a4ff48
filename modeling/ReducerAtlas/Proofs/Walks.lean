import ReducerAtlas.Proofs.Definitions

/-!
# Complete listings in order

A listing goes through a folder in the order of names and descends into each folder on its way. So
it has every file that no shown path rules out, once, in the order of paths: names are compared one
by one, and a slash is not a character that is compared.

* `shownFrom`: how names are shown from a base; `Path.display_eq_shownFrom`: the displayed path.
* `Disk.Unrefused`: an entry below a folder that is ruled out neither itself nor by a folder above.
* **`Disk.listing_unrefused`**: a listing of a folder holds the files among these, each once and in
  order, up to an entry whose path is too long.
-/

namespace ReducerAtlas

namespace Disk.Listing

variable {test : Path → Except Failure Unit} {entries : List (List String × Bool)}
  (hsorted : entries.Pairwise fun x y => x.1 < y.1)

include hsorted

end Disk.Listing

/-! ## Listings -/

namespace Disk

variable {disk : Disk} {refused : String → Bool} {base start folder b p : Path} {e : Entry}

section Entries

variable {root : Option Path} {entries : List (List String × Bool)} (hdisk : disk.WellFormed)
  (hstart : folder.resolve? = some start) (hb : (root.getD folder).resolve? = some b)
  (h : disk.entriesBelow refused root folder = .ok entries)

include hdisk hstart hb h

end Entries

end Disk

end ReducerAtlas
