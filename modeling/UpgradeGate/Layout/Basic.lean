import UpgradeGate.Text.Blank
import UpgradeGate.Text.Decimal

/-!
# Storage layouts

Where a contract keeps its variables: each entry stands at a byte offset of a storage slot. A slot
has 32 bytes, and slots are numbered without bound.

Positions are ordered by slot, then by offset. In an ordered layout each entry stands strictly
after the one before it (`Layout.Ordered`).
-/

namespace UpgradeGate

/-- A place in storage. -/
structure Position where
  slot : Nat
  offset : Nat
  deriving DecidableEq, Repr

/-- A position comes before another one. -/
def Position.Before (p q : Position) : Prop :=
  p.slot < q.slot ∨ (p.slot = q.slot ∧ p.offset < q.offset)

instance (p q : Position) : Decidable (p.Before q) :=
  inferInstanceAs (Decidable (p.slot < q.slot ∨ (p.slot = q.slot ∧ p.offset < q.offset)))

theorem Position.Before.trans {p q r : Position} (first : p.Before q) (second : q.Before r) :
    p.Before r := by
  simp only [Position.Before] at *
  omega

theorem Position.Before.irrefl (p : Position) : ¬ p.Before p := by
  simp [Position.Before]

/-- Of two positions, one comes first unless they are the same. -/
theorem Position.trichotomy (p q : Position) : p.Before q ∨ p = q ∨ q.Before p := by
  cases p
  cases q
  simp only [Position.Before, Position.mk.injEq]
  omega

/-- One variable in storage: where it stands, the name of its type and its own name. -/
structure Entry where
  slot : Nat
  offset : Nat
  type : String
  label : String
  deriving DecidableEq, Repr

namespace Entry

/-- Where an entry stands. -/
def position (entry : Entry) : Position := ⟨entry.slot, entry.offset⟩

/-- An entry in words, without a blank at the end where it has no label. -/
def describe (entry : Entry) : String :=
  Text.trimRight ("slot " ++ Text.naturalText entry.slot ++ " offset " ++
    Text.naturalText entry.offset ++ " " ++ entry.type ++ " " ++ entry.label)

end Entry

/-- The storage of one version of a contract. -/
structure Layout where
  contract : Option String
  entries : List Entry
  deriving DecidableEq, Repr

namespace Layout

/-- The layout without entries. -/
def empty (contract : Option String) : Layout := ⟨contract, []⟩

/-- The number of entries. -/
def size (layout : Layout) : Nat := layout.entries.length

/-- Where the entries stand, in order. -/
def positions (layout : Layout) : List Position := layout.entries.map Entry.position

/-- Where the last entry stands. -/
def lastPosition? (layout : Layout) : Option Position :=
  layout.entries.getLast?.map Entry.position

/-- Every entry stands before all later ones. -/
def Ordered (layout : Layout) : Prop :=
  layout.entries.Pairwise fun earlier later => earlier.position.Before later.position

/-- What an accepted entry satisfies: its offset is inside a slot. -/
def WithinSlots (layout : Layout) : Prop := ∀ entry ∈ layout.entries, entry.offset ≤ 31

end Layout

end UpgradeGate
