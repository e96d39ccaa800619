/-!
Tables by key, and rosters: lists of items in which the place of each key is kept in a table.
-/

namespace ArchAtlas

/-- A map from keys to values. Of two entries with one key the newer one counts, which comes first. -/
structure Table (κ ν : Type) where
  entries : List (κ × ν)
  deriving DecidableEq, Repr

namespace Table

variable {κ ν : Type} [DecidableEq κ]

def empty : Table κ ν := ⟨[]⟩

def get? (t : Table κ ν) (key : κ) : Option ν :=
  t.entries.lookup key

def contains (t : Table κ ν) (key : κ) : Bool :=
  (t.get? key).isSome

def insert (t : Table κ ν) (key : κ) (value : ν) : Table κ ν :=
  ⟨(key, value) :: t.entries⟩

/-- Enters a value for a key that has none. -/
def insertNew (t : Table κ ν) (key : κ) (value : ν) : Table κ ν :=
  if t.contains key then t else t.insert key value

/-- Puts a value into the set of a key. -/
def addTo {β : Type} [DecidableEq β] (t : Table κ (List β)) (key : κ) (value : β) :
    Table κ (List β) :=
  t.insert key (((t.get? key).getD []).insert value)

@[simp] theorem get?_empty (key : κ) : (empty : Table κ ν).get? key = none := rfl

theorem get?_insert (t : Table κ ν) (key x : κ) (value : ν) :
    (t.insert key value).get? x = if x = key then some value else t.get? x := by
  by_cases same : x = key
  · simp [get?, insert, same]
  · simp [get?, insert, List.lookup_cons, beq_false_of_ne same, same]

/-- The older of two values stays. -/
theorem get?_insertNew (t : Table κ ν) (key x : κ) (value : ν) :
    (t.insertNew key value).get? x = (t.get? x).or (if x = key then some value else none) := by
  unfold insertNew contains
  by_cases same : x = key
  · subst same
    cases found : t.get? x <;> simp [found, get?_insert]
  · split <;> simp [get?_insert, same]

end Table

/-- Items in the order in which their keys came up, with the place of each key. -/
structure Roster (κ α : Type) where
  items : List α
  places : Table κ Nat
  deriving DecidableEq, Repr

namespace Roster

variable {κ α : Type} [DecidableEq κ]

def empty : Roster κ α := ⟨[], .empty⟩

/-- Changes the item of a key, or puts a new one behind the others. -/
def put (r : Roster κ α) (key : κ) (new : α) (change : α → α) : Roster κ α :=
  match r.places.get? key with
  | some i => { r with items := r.items.modify i change }
  | none => ⟨r.items ++ [new], r.places.insert key r.items.length⟩

end Roster

end ArchAtlas
