/-!
Keeping one item of each key.
-/

namespace ArchAtlas

/-- The items that are the first with their key, in order. -/
def firstBy {α κ : Type} [DecidableEq κ] (key : α → κ) (items : List α) : List α :=
  (items.foldl (fun acc a => if acc.any fun b => key b = key a then acc else a :: acc) []).reverse

end ArchAtlas
