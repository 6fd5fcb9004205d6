/-!
# Tables

A table holds rows, and a workspace has at most one row with a given number. A new row gets a
sequence number above all that are in use. A row whose number is already there is overwritten where
it is, so it keeps its sequence number. Rows are read in the order of their sequence numbers.
-/

namespace CallTrace

/-- A row of a table whose columns are given by `α`. -/
structure Row (α : Type) where
  /-- Sequence number. -/
  seq : Nat
  /-- The workspace that the row belongs to. -/
  workspace : String
  /-- Number of the row within the workspace. -/
  id : Int64
  /-- The other columns. -/
  columns : α
deriving DecidableEq, Repr

/-- Whether the row is that of a number within a workspace. -/
def Row.isAt {α : Type} (row : Row α) (workspace : String) (id : Int64) : Bool :=
  row.workspace == workspace && row.id == id

/-- Rows, in no particular order. -/
structure Table (α : Type) where
  /-- The rows. -/
  rows : List (Row α)
deriving DecidableEq, Repr

namespace Table

variable {α : Type}

/-- The table without rows. -/
def empty : Table α :=
  ⟨[]⟩

/-- The sequence number of the next new row. -/
def nextSeq (table : Table α) : Nat :=
  (table.rows.foldl (fun greatest row => max greatest row.seq) 0) + 1

/-- Write the columns of a number within a workspace. -/
def write (table : Table α) (workspace : String) (id : Int64) (columns : α) : Table α :=
  if table.rows.any fun row => row.isAt workspace id then
    ⟨table.rows.map fun row => if row.isAt workspace id then { row with columns } else row⟩
  else
    ⟨table.rows ++ [{ seq := table.nextSeq, workspace, id, columns }]⟩

/-- Remove the rows of a workspace. -/
def clear (table : Table α) (workspace : String) : Table α :=
  ⟨table.rows.filter fun row => row.workspace != workspace⟩

/-- The rows of a workspace that a condition selects, by increasing sequence number. -/
def select (table : Table α) (workspace : String) (condition : Row α → Bool) : List (Row α) :=
  (table.rows.filter fun row => row.workspace == workspace && condition row).mergeSort
    fun left right => left.seq ≤ right.seq

/-- How many rows of a workspace a condition selects. -/
def count (table : Table α) (workspace : String) (condition : Row α → Bool) : Nat :=
  table.rows.countP fun row => row.workspace == workspace && condition row

/-- The row of a number within a workspace. -/
def find? (table : Table α) (workspace : String) (id : Int64) : Option (Row α) :=
  table.rows.find? fun row => row.isAt workspace id

/-- The workspaces of the rows, as often as they have rows. -/
def workspaces (table : Table α) : List String :=
  table.rows.map Row.workspace

end Table

end CallTrace
