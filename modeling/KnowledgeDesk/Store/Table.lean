/-!
# Tables of keyed rows

A table holds rows in the order of their keys. Keys are handed out by the table itself, one more
than the last key it handed out, and never again after a row is deleted: a key names at most
one row in the table's whole history.

Besides looking rows up by key, a table can select, delete and change the rows whose values
satisfy a condition; those answer the rows in key order.
-/

namespace KnowledgeDesk.Store

/-- A stored row: its key and its value. -/
structure Row (α : Type) where
  id : Int
  val : α
  deriving Repr

/-- Rows in key order, and the key the next row gets. -/
structure Table (α : Type) where
  rows : List (Row α) := []
  nextId : Int := 1
  deriving Repr

namespace Table

variable {α : Type}

/-- Add a row under the next key. -/
def insert (t : Table α) (a : α) : Table α × Row α :=
  let r : Row α := ⟨t.nextId, a⟩
  ({ rows := t.rows ++ [r], nextId := t.nextId + 1 }, r)

/-- Add rows in order. -/
def insertAll (t : Table α) (as : List α) : Table α :=
  as.foldl (fun t a => (t.insert a).1) t

/-- The row under a key. -/
def find? (t : Table α) (id : Int) : Option (Row α) := t.rows.find? (·.id == id)

/-- The rows whose keys are among `ids`, in key order. -/
def byIds (t : Table α) (ids : List Int) : List (Row α) := t.rows.filter fun r => ids.contains r.id

/-- The rows whose values satisfy `p`, in key order. -/
def select (t : Table α) (p : α → Bool) : List (Row α) := t.rows.filter fun r => p r.val

/-- Give the row under a key a new value; nothing when no row has the key. -/
def replace (t : Table α) (id : Int) (a : α) : Option (Table α × Row α) :=
  if t.rows.any (·.id == id) then
    let r : Row α := ⟨id, a⟩
    some ({ t with rows := t.rows.map fun x => if x.id == id then r else x }, r)
  else none

/-- Delete the row under a key, answering it; nothing when no row has the key. -/
def remove? (t : Table α) (id : Int) : Option (Table α × Row α) :=
  match t.find? id with
  | some r => some ({ t with rows := t.rows.filter (·.id != id) }, r)
  | none => none

/-- Delete the row under a key, answering how many rows went: one, or none when no row has the
key. -/
def deleteKey (t : Table α) (id : Int) : Table α × Nat :=
  ({ t with rows := t.rows.filter (·.id != id) }, t.rows.countP (·.id == id))

/-- Delete the rows whose values satisfy `p`, answering them. -/
def deleteWhere (t : Table α) (p : α → Bool) : Table α × List (Row α) :=
  ({ t with rows := t.rows.filter fun r => !p r.val }, t.select p)

/-- Change the rows whose values satisfy `p`, answering how many there were. -/
def modifyWhere (t : Table α) (p : α → Bool) (f : α → α) : Table α × Nat :=
  ({ t with rows := t.rows.map fun r => if p r.val then ⟨r.id, f r.val⟩ else r },
    (t.select p).length)

end Table

end KnowledgeDesk.Store
