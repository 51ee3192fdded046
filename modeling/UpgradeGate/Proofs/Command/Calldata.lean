import UpgradeGate.Command.Calldata
import UpgradeGate.Proofs.Chain.Spellings

/-!
# Spellings of calldata

Bytes are spelled by the pairs of their digits, in either letter case and with white space around
them, behind `0x` or nothing (`Calldata.IsSpelling`). What spells bytes is read as these bytes, and
nothing else is read (`Calldata.parse_eq_ok_iff`).
-/

namespace UpgradeGate.Calldata

variable {bytes : Bytes} {text : List Char} {value : String} {c : Char}

/-- Pairs of digits with white space around them, and the bytes that they are the digits of. -/
inductive Spaced : Bytes → List Char → Prop where
  | nil : Spaced [] []
  | space {c : Char} {bytes : Bytes} {text : List Char} (spacing : isSpacing c = true)
      (rest : Spaced bytes text) : Spaced bytes (c :: text)
  | pair {byte : UInt8} {high low : Char} {bytes : Bytes} {text : List Char}
      (upper : high.toLower = Text.hexDigit (byte.toNat / 16))
      (lower : low.toLower = Text.hexDigit (byte.toNat % 16)) (rest : Spaced bytes text) :
      Spaced (byte :: bytes) (high :: low :: text)

/-- **A spelling of bytes**: their digits, each in either letter case, with white space around the
pairs, and with `0x` in front or without. -/
def IsSpelling (bytes : Bytes) (value : String) : Prop :=
  ∃ front ∈ [[], ['0', 'x']], ∃ text, value.toList = front ++ text ∧ Spaced bytes text

/-! ## Reading -/

theorem hexValue?_of_isSpacing (spacing : isSpacing c = true) : Text.hexValue? c = none := by
  simp only [isSpacing, Bool.or_eq_true, beq_iff_eq] at spacing
  rcases spacing with ((((rfl | rfl) | rfl) | rfl) | rfl) | rfl <;> decide

/-- **Pairs of digits** are read as the bytes that they are the digits of. -/
theorem ofPairs?_eq_some_iff : ofPairs? text = some bytes ↔ Spaced bytes text := by
  induction text using ofPairs?.induct generalizing bytes with
  | case1 =>
    rw [ofPairs?, Option.some.injEq]
    constructor
    · rintro rfl
      exact .nil
    · rintro ⟨⟩
      rfl
  | case2 c spacing =>
    rw [ofPairs?, if_pos spacing, Option.some.injEq]
    constructor
    · rintro rfl
      exact .space spacing .nil
    · rintro (_ | ⟨-, ⟨⟩⟩)
      rfl
  | case3 c solid =>
    rw [ofPairs?, if_neg solid]
    constructor
    · nofun
    · rintro (_ | ⟨spacing, -⟩)
      exact absurd spacing solid
  | case4 high low rest spacing ih =>
    rw [ofPairs?, if_pos spacing, ih]
    constructor
    · exact .space spacing
    · intro spaced
      cases spaced with
      | space _ rest => exact rest
      | pair upper lower =>
        obtain ⟨first, _, value, -⟩ := Bytes.hexValues_iff.2 ⟨upper, lower⟩
        rw [hexValue?_of_isSpacing spacing] at value
        cases value
  | case5 high low rest solid ih =>
    rw [ofPairs?, if_neg solid]
    simp only [Option.bind_eq_bind, Option.bind_eq_some_iff, Option.pure_def, Option.some.injEq]
    constructor
    · rintro ⟨first, highValue, second, lowValue, tail, read, rfl⟩
      obtain ⟨upper, lower⟩ := Bytes.hexValues_iff.1 ⟨first, second, highValue, lowValue, rfl⟩
      exact .pair upper lower (ih.1 read)
    · intro spaced
      cases spaced with
      | space spacing => exact absurd spacing solid
      | pair upper lower rest =>
        obtain ⟨first, second, highValue, lowValue, rfl⟩ := Bytes.hexValues_iff.2 ⟨upper, lower⟩
        exact ⟨first, highValue, second, lowValue, _, ih.2 rest, rfl⟩

/-- Pairs of digits do not look as if something stood in front of them. -/
theorem Spaced.digitsOf_eq (spaced : Spaced bytes text) : digitsOf text = text := by
  unfold digitsOf
  split
  · cases spaced with
    | space spacing => cases spacing
    | pair upper lower =>
      obtain ⟨_, _, -, value, -⟩ := Bytes.hexValues_iff.2 ⟨upper, lower⟩
      cases value
  · rfl

/-- A value spells bytes where its digits do, with space between the bytes. -/
theorem isSpelling_iff : IsSpelling bytes value ↔ Spaced bytes (digitsOf value.toList) := by
  constructor
  · rintro ⟨front, allowed, text, split, spaced⟩
    simp only [List.mem_cons, List.not_mem_nil, or_false] at allowed
    rw [split]
    rcases allowed with rfl | rfl
    · rwa [List.nil_append, spaced.digitsOf_eq]
    · exact spaced
  · intro spaced
    unfold digitsOf at spaced
    split at spaced
    · next text split => exact ⟨['0', 'x'], by decide, text, split, spaced⟩
    · exact ⟨[], by decide, _, rfl, spaced⟩

/-- **Calldata is read** as the bytes that it spells. -/
theorem parse_eq_ok_iff : parse value = .ok bytes ↔ IsSpelling bytes value := by
  rw [isSpelling_iff, ← ofPairs?_eq_some_iff, parse]
  cases ofPairs? (digitsOf value.toList) <;> simp

/-- What spells no bytes is refused, and shown without its tag. -/
theorem parse_of_unspelled (unspelled : ∀ bytes, ¬ IsSpelling bytes value) :
    parse value = .error (.command (.invalidHex (String.ofList (digitsOf value.toList)))) := by
  cases read : ofPairs? (digitsOf value.toList) with
  | some bytes =>
    exact absurd (isSpelling_iff.2 (ofPairs?_eq_some_iff.1 read)) (unspelled bytes)
  | none => simp only [parse, read]

end UpgradeGate.Calldata
