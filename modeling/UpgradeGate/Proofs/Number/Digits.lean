import Mathlib.Data.List.Induction
import Mathlib.Data.Nat.Digits.Defs
import UpgradeGate.Proofs.Number.Numerals

/-!
# Numerals in digits of any script

Decimal digits of any script make up a number, the first digit being worth the most
(`Literal.Denotes`), and the plain reader reads it (`Literal.plain?_of_denotes`). A text of digits
in the wider sense, not all of which are decimal, is no numeral (`Literal.plain?_eq_none_of_bare`).
-/

namespace UpgradeGate

namespace Text

variable {c : Char} {value : Nat}

/-- The code points of all digits, decimal or not, as ranges. -/
def digitRanges : List (Nat × Nat) :=
  zeroDigits.map (fun start => (start, start + 9)) ++ bareDigits

/-- The code points of spaces, signs and the underscore, as ranges. -/
def separators : List (Nat × Nat) :=
  [(0x09, 0x0d), (0x20, 0x20), (0x2b, 0x2b), (0x2d, 0x2d), (0x5f, 0x5f), (0x85, 0x85),
    (0xa0, 0xa0), (0x1680, 0x1680), (0x2000, 0x200a), (0x2028, 0x2029), (0x202f, 0x202f),
    (0x205f, 0x205f), (0x3000, 0x3000)]

/-- No range of digits meets one of separators. -/
theorem digitRanges_apart : ∀ range ∈ digitRanges, ∀ other ∈ separators,
    range.2 < other.1 ∨ other.2 < range.1 := by
  decide +kernel

/-- A decimal digit counts from the zero of its script. -/
theorem exists_start_of_decimalDigit? (read : decimalDigit? c = some value) :
    ∃ start ∈ zeroDigits, c.toNat = start + value ∧ value < 10 := by
  obtain ⟨start, found, rfl⟩ := Option.map_eq_some_iff.1 read
  have inside := List.find?_some found
  simp only [Bool.and_eq_true, decide_eq_true_eq] at inside
  exact ⟨start, List.mem_of_find?_eq_some found, by omega, by omega⟩

/-- A digit lies in one of the ranges. -/
theorem exists_range_of_isDigit (digit : isDigit c = true) :
    ∃ range ∈ digitRanges, range.1 ≤ c.toNat ∧ c.toNat ≤ range.2 := by
  rcases Bool.or_eq_true_iff.1 digit with decimal | bare
  · obtain ⟨value, read⟩ := Option.isSome_iff_exists.1 decimal
    obtain ⟨start, known, place, small⟩ := exists_start_of_decimalDigit? read
    exact ⟨_, List.mem_append_left _ (List.mem_map_of_mem known), by omega, by omega⟩
  · obtain ⟨range, known, inside⟩ := List.any_eq_true.1 bare
    simp only [Bool.and_eq_true, decide_eq_true_eq] at inside
    exact ⟨range, List.mem_append_right _ known, inside⟩

/-- A space lies in one of the ranges. -/
theorem exists_separator_of_isSpace (space : isSpace c = true) :
    ∃ range ∈ separators, range.1 ≤ c.toNat ∧ c.toNat ≤ range.2 := by
  simp only [isSpace, Bool.or_eq_true, Bool.and_eq_true, decide_eq_true_eq, beq_iff_eq] at space
  simp only [separators, List.mem_cons, List.not_mem_nil, or_false, exists_eq_or_imp,
    exists_eq_left]
  omega

/-- **A digit of any script** is no space, no sign and no underscore. -/
theorem isolated_of_isDigit (digit : isDigit c = true) :
    isSpace c = false ∧ c ≠ '-' ∧ c ≠ '+' ∧ c ≠ '_' := by
  have apart : ¬ ∃ range ∈ separators, range.1 ≤ c.toNat ∧ c.toNat ≤ range.2 := by
    rintro ⟨other, separates, low, high⟩
    obtain ⟨range, known, first, last⟩ := exists_range_of_isDigit digit
    rcases digitRanges_apart range known other separates with before | behind <;> omega
  refine ⟨Bool.eq_false_iff.2 fun space => apart (exists_separator_of_isSpace space), ?_, ?_, ?_⟩
  all_goals
    rintro rfl
    exact apart (by decide)

/-- What has a decimal value is a digit. -/
theorem isDigit_of_decimalDigit? (read : decimalDigit? c = some value) : isDigit c = true := by
  rw [isDigit, isDecimalDigit, read]
  rfl

end Text

namespace Literal

open Text

variable {base n m : Nat} {text : List Char} {values : List Nat}

/-- Decimal digits of any script, one at least, and the number that they make up. -/
def Denotes (text : List Char) (n : Nat) : Prop :=
  text ≠ [] ∧ ∃ values, List.Forall₂ (fun c value => decimalDigit? c = some value) text values ∧
    n = Nat.ofDigits 10 values.reverse

/-- The value of digits, the last one counting least. -/
theorem valueOf_eq_ofDigits (base : Nat) (values : List Nat) :
    valueOf base values = Nat.ofDigits base values.reverse := by
  induction values using List.reverseRecOn with
  | nil => rfl
  | append_singleton values value ih =>
    rw [List.reverse_append, List.reverse_singleton, List.singleton_append, Nat.ofDigits_cons, ← ih,
      valueOf, valueOf, List.foldl_append, List.foldl_cons, List.foldl_nil, Nat.add_comm]

/-- Digits have one list of values. -/
theorem values_unique {others : List Nat}
    (read : List.Forall₂ (fun c value => decimalDigit? c = some value) text values)
    (again : List.Forall₂ (fun c value => decimalDigit? c = some value) text others) :
    values = others := by
  induction read generalizing others with
  | nil => cases again; rfl
  | cons first _ ih =>
    cases again with
    | cons other rest =>
      cases first.symm.trans other
      rw [ih rest]

theorem Denotes.unique (denotes : Denotes text n) (again : Denotes text m) : n = m := by
  obtain ⟨-, values, read, rfl⟩ := denotes
  obtain ⟨-, others, read', rfl⟩ := again
  rw [values_unique read read']

/-- Decimal digits denote a number. -/
theorem exists_denotes (filled : text ≠ []) (decimal : ∀ c ∈ text, isDecimalDigit c = true) :
    ∃ n, Denotes text n := by
  suffices read :
      ∃ values, List.Forall₂ (fun c value => decimalDigit? c = some value) text values by
    obtain ⟨values, read⟩ := read
    exact ⟨_, filled, values, read, rfl⟩
  clear filled
  induction text with
  | nil => exact ⟨[], .nil⟩
  | cons c rest ih =>
    obtain ⟨here, further⟩ := List.forall_mem_cons.1 decimal
    obtain ⟨value, first⟩ := Option.isSome_iff_exists.1 here
    obtain ⟨values, others⟩ := ih further
    exact ⟨value :: values, .cons first others⟩

/-- A numeral is made of decimal digits. -/
theorem Denotes.decimal (denotes : Denotes text n) : ∀ c ∈ text, isDecimalDigit c = true := by
  obtain ⟨-, values, read, -⟩ := denotes
  induction read with
  | nil => exact List.forall_mem_nil _
  | cons first _ ih =>
    exact List.forall_mem_cons.2 ⟨Option.isSome_iff_exists.2 ⟨_, first⟩, ih⟩

/-! ## Reading -/

/-- In base ten, digits are the decimal digits of all scripts; no letter is one. -/
theorem digit?_ten : digit? 10 = decimalDigit? := by
  funext c
  unfold digit?
  cases read : decimalDigit? c with
  | some value =>
    obtain ⟨_, -, -, small⟩ := exists_start_of_decimalDigit? read
    exact Option.filter_eq_some_iff.2 ⟨rfl, decide_eq_true small⟩
  | none =>
    simp only [Bool.and_eq_true, decide_eq_true_eq, Char.le_def, UInt32.le_iff_toNat_le]
    have code : c.val.toNat = c.toNat := rfl
    rw [code]
    split
    · next lower =>
      change 97 ≤ c.toNat ∧ c.toNat ≤ 122 at lower
      exact Option.filter_eq_none_iff.2 fun value same => by simp at same ⊢; omega
    · split
      · next upper =>
        change 65 ≤ c.toNat ∧ c.toNat ≤ 90 at upper
        exact Option.filter_eq_none_iff.2 fun value same => by simp at same ⊢; omega
      · rfl

/-- Of a text of digits, the plain reader reads the digits and nothing else. -/
theorem plain?_of_isDigit {text : String} (filled : text.toList ≠ [])
    (all : ∀ c ∈ text.toList, isDigit c = true) :
    plain? text = (digits decimalDigit? 10 text.toList).map (signed false) := by
  have trimmed : trimBy isSpace text.toList = text.toList :=
    trimBy_eq_self (fun c first => (isolated_of_isDigit (all c (List.mem_of_mem_head? first))).1)
      fun c last => (isolated_of_isDigit (all c (List.mem_of_mem_getLast? last))).1
  have unsigned : splitSign text.toList = (false, text.toList) := by
    cases shape : text.toList with
    | nil => exact absurd shape filled
    | cons c rest =>
      obtain ⟨-, minus, plus, -⟩ := isolated_of_isDigit (all c (shape ▸ List.mem_cons_self))
      unfold splitSign
      split <;> simp_all
  rw [plain?, trimmed, unsigned, digit?_ten]

/-- **Digits that denote a number** are read as it. -/
theorem plain?_of_denotes {text : String} (denotes : Denotes text.toList n) :
    plain? text = some (n : Int) := by
  have decimal := denotes.decimal
  obtain ⟨filled, values, read, rfl⟩ := denotes
  have all : ∀ c ∈ text.toList, isDigit c = true := by
    intro c member
    obtain ⟨value, first⟩ := Option.isSome_iff_exists.1 (decimal c member)
    exact isDigit_of_decimalDigit? first
  have apart : ∀ c ∈ text.toList, c ≠ '_' := fun c member =>
    (isolated_of_isDigit (all c member)).2.2.2
  rw [plain?_of_isDigit filled all, digits_eq filled read apart, valueOf_eq_ofDigits]
  rfl

/-- Where a character is no digit, nothing is read. -/
theorem moreDigits_eq_none {digit : Char → Option Nat} (unread : ∃ c ∈ text, digit c = none)
    (apart : ∀ c ∈ text, c ≠ '_') (total : Nat) : moreDigits digit base total text = none := by
  induction text generalizing total with
  | nil =>
    obtain ⟨_, absent, -⟩ := unread
    cases absent
  | cons c rest ih =>
    obtain ⟨alone, further⟩ := List.forall_mem_cons.1 apart
    rw [moreDigits_cons alone]
    cases first : digit c with
    | none => rfl
    | some value =>
      obtain ⟨d, member, none⟩ := unread
      rcases List.mem_cons.1 member with rfl | behind
      · cases none.symm.trans first
      · exact ih ⟨d, behind, none⟩ further _

/-- **Digits that are not all decimal** are no numeral. -/
theorem plain?_eq_none_of_bare {text : String} (all : ∀ c ∈ text.toList, isDigit c = true)
    (bare : ∃ c ∈ text.toList, decimalDigit? c = none) : plain? text = none := by
  have filled : text.toList ≠ [] := by
    rintro empty
    obtain ⟨_, absent, -⟩ := bare
    rw [empty] at absent
    cases absent
  rw [plain?_of_isDigit filled all]
  cases shape : text.toList with
  | nil => exact absurd shape filled
  | cons c rest =>
    rw [shape] at all bare
    obtain ⟨-, further⟩ := List.forall_mem_cons.1 all
    change Option.map _
      ((decimalDigit? c).bind fun value => moreDigits decimalDigit? 10 value rest) = none
    cases first : decimalDigit? c with
    | none => rfl
    | some value =>
      obtain ⟨d, member, unread⟩ := bare
      rcases List.mem_cons.1 member with rfl | behind
      · cases unread.symm.trans first
      · rw [Option.bind_some, moreDigits_eq_none ⟨d, behind, unread⟩ fun e inside =>
          (isolated_of_isDigit (further e inside)).2.2.2]
        rfl

end Literal

end UpgradeGate
