/-!
# Tables

Lists of keys with values in which a key keeps the place where it first appeared. Main statements:
a key that was just put is found with its new value (`lookup_put_self`), and putting a key leaves
the other keys alone (`lookup_put_of_ne`).
-/

namespace UpgradeGate.Table

variable {κ ν : Type} [BEq κ]

/-- Give a key a value: in place where the key is present, else at the end. -/
def put (key : κ) (value : ν) : List (κ × ν) → List (κ × ν)
  | [] => [(key, value)]
  | (other, old) :: rest =>
    if other == key then (other, value) :: rest else (other, old) :: put key value rest

variable [LawfulBEq κ]

/-- A value that was put down is found. -/
theorem lookup_put_self (key : κ) (value : ν) (table : List (κ × ν)) :
    (put key value table).lookup key = some value := by
  induction table with
  | nil => simp [put]
  | cons first rest ih =>
    obtain ⟨other, old⟩ := first
    cases same : other == key with
    | true => simp [put, eq_of_beq same]
    | false =>
      have unequal : (key == other) = false := by rw [BEq.comm]; exact same
      simpa [put, same, List.lookup_cons, unequal] using ih

/-- Putting a value down leaves those of other keys as they are. -/
theorem lookup_put_of_ne {key other : κ} (differ : other ≠ key) (value : ν)
    (table : List (κ × ν)) : (put key value table).lookup other = table.lookup other := by
  have unequal : (other == key) = false := beq_false_of_ne differ
  induction table with
  | nil => simp [put, List.lookup_cons, unequal]
  | cons first rest ih =>
    obtain ⟨name, old⟩ := first
    cases same : name == key with
    | true => simp [put, eq_of_beq same, List.lookup_cons, unequal]
    | false => cases found : other == name <;> simp_all [put, List.lookup_cons]

end UpgradeGate.Table
