/-!
# The rows of a deployment log

A deployment log is a list of rows in the order in which they were appended. A row has the columns
that are searched and the text of its record. Its number is its place in the list, from one on.

Main statements: a new row gets the number of rows as its own (`append_fst`), and a search without
filters finds all rows (`select_any`).
-/

namespace UpgradeGate

/-- A row of the log. -/
structure Row where
  contract : String
  network : String
  proxy : Option String
  implementation : String
  data : String
  deriving DecidableEq, Repr

/-- The rows of a log in the order of their numbers. -/
abbrev Ledger := List Row

/-- What a search asks for; a column that is not given may hold anything. -/
structure Filter where
  contract : Option String
  network : Option String
  proxy : Option String
  deriving DecidableEq, Repr

namespace Filter

/-- The filter that every row passes. -/
def any : Filter := ⟨none, none, none⟩

/-- A row has all columns that are asked for. -/
def passes (filter : Filter) (row : Row) : Bool :=
  (match filter.contract with
    | some contract => row.contract == contract
    | none => true) &&
  (match filter.network with
    | some network => row.network == network
    | none => true) &&
  (match filter.proxy with
    | some proxy => row.proxy == some proxy
    | none => true)

end Filter

namespace Ledger

/-- Append a row: its number, and the rows with it. -/
def append (rows : Ledger) (row : Row) : Nat × Ledger := (rows.length + 1, rows ++ [row])

/-- The rows with their numbers, from a number on. -/
def numbered : (first : Nat) → Ledger → List (Nat × Row)
  | _, [] => []
  | first, row :: rest => (first, row) :: numbered (first + 1) rest

/-- The rows that pass a filter, with their numbers. -/
def select (rows : Ledger) (filter : Filter) : List (Nat × Row) :=
  (numbered 1 rows).filter fun numberedRow => filter.passes numberedRow.2

/-- A new row gets the next number. -/
theorem append_fst (rows : Ledger) (row : Row) :
    (rows.append row).1 = (rows.append row).2.length := by
  simp [append]

theorem map_snd_numbered (first : Nat) (rows : Ledger) :
    (numbered first rows).map Prod.snd = rows := by
  induction rows generalizing first with
  | nil => rfl
  | cons row rest ih => simp [numbered, ih]

/-- Without filters every row is found, in order. -/
theorem select_any (rows : Ledger) : (rows.select .any).map Prod.snd = rows := by
  have all : rows.select .any = numbered 1 rows := List.filter_eq_self.2 fun _ _ => rfl
  rw [all, map_snd_numbered]

end Ledger

end UpgradeGate
