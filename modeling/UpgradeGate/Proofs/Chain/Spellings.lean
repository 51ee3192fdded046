import UpgradeGate.Proofs.Chain.AddressText
import UpgradeGate.Proofs.Text.LetterCase

/-!
# Spellings of an address

A spelling of an address has the 40 digits of its bytes, each in either letter case, and in front of
them `0x`, `0X` or nothing (`Address.IsSpelling`). Spellings are all that has the form of the
address (`Address.ofForm?_eq_some_iff`), and what is read as the address are those of them that the
rule takes, which are its names (`Address.ofText?_eq_some_iff`).
-/

namespace UpgradeGate

namespace Text

/-- A hexadecimal digit is an ASCII character and has a value below 16. -/
theorem toNat_lt_of_hexValue? {c : Char} {n : Nat} (value : hexValue? c = some n) :
    c.toNat < 128 ∧ n < 16 := by
  unfold hexValue? at value
  simp only [Bool.and_eq_true, decide_eq_true_eq, Char.le_def, UInt32.le_iff_toNat_le] at value
  have code : c.val.toNat = c.toNat := rfl
  rw [code] at value
  split at value
  · next digit =>
    obtain ⟨-, high⟩ := digit
    change c.toNat ≤ 57 at high
    cases value
    omega
  · split at value
    · next lower =>
      obtain ⟨-, high⟩ := lower
      change c.toNat ≤ 102 at high
      cases value
      omega
    · split at value
      · next upper =>
        obtain ⟨-, high⟩ := upper
        change c.toNat ≤ 70 at high
        cases value
        omega
      · cases value

/-- A hexadecimal digit has, in either case, the value that it has in lower case. -/
theorem hexValue?_eq_some_iff {c : Char} {n : Nat} :
    hexValue? c = some n ↔ n < 16 ∧ c.toLower = hexDigit n := by
  have digits : ∀ n < 16, (hexDigit n).toNat < 128 := by decide
  have known : ∀ c : Char, c.toNat < 128 → ∀ n < 16,
      (hexValue? c = some n ↔ c.toLower = hexDigit n) :=
    forall_ascii (by decide +kernel)
  constructor
  · intro value
    obtain ⟨ascii, small⟩ := toNat_lt_of_hexValue? value
    exact ⟨small, (known c ascii n small).1 value⟩
  · rintro ⟨small, lower⟩
    exact (known c (ascii_of_toLower (lower ▸ digits n small)) n small).2 lower

end Text

/-- The values of two digits are the halves of a byte. -/
theorem Bytes.hexValues_iff {high low : Char} {byte : UInt8} :
    (∃ first second, Text.hexValue? high = some first ∧ Text.hexValue? low = some second ∧
      UInt8.ofNat (16 * first + second) = byte) ↔
    high.toLower = Text.hexDigit (byte.toNat / 16) ∧
      low.toLower = Text.hexDigit (byte.toNat % 16) := by
  simp only [Text.hexValue?_eq_some_iff]
  constructor
  · rintro ⟨first, second, ⟨firstSmall, upper⟩, ⟨secondSmall, lower⟩, rfl⟩
    have bound : 16 * first + second < UInt8.size := by
      unfold UInt8.size
      omega
    rw [UInt8.toNat_ofNat_of_lt' bound]
    have upperHalf : (16 * first + second) / 16 = first := by omega
    have lowerHalf : (16 * first + second) % 16 = second := by omega
    rw [upperHalf, lowerHalf]
    exact ⟨upper, lower⟩
  · rintro ⟨upper, lower⟩
    have bound := byte.toNat_lt
    have whole : 16 * (byte.toNat / 16) + byte.toNat % 16 = byte.toNat := by omega
    exact ⟨_, _, ⟨by omega, upper⟩, ⟨by omega, lower⟩, by rw [whole, UInt8.ofNat_toNat]⟩

/-- Digits are read as bytes exactly when, in lower case, they are the digits of these bytes. -/
theorem Bytes.ofHex?_eq_some_iff {digits : List Char} {bytes : Bytes} :
    ofHex? digits = some bytes ↔ digits.map Char.toLower = toHex bytes := by
  induction digits using ofHex?.induct generalizing bytes with
  | case1 => cases bytes <;> simp [ofHex?, toHex, hexPair, Text.hexFixed]
  | case2 digit => cases bytes <;> simp [ofHex?, toHex, hexPair, Text.hexFixed]
  | case3 high low rest ih =>
    simp only [ofHex?, Option.bind_eq_bind, Option.bind_eq_some_iff, Option.pure_def,
      Option.some.injEq]
    constructor
    · rintro ⟨first, highValue, second, lowValue, tail, restRead, rfl⟩
      obtain ⟨upper, lower⟩ := hexValues_iff.1 ⟨first, second, highValue, lowValue, rfl⟩
      rw [Address.toHex_cons, List.map_cons, List.map_cons, upper, lower, ih.1 restRead]
    · intro lowered
      cases bytes with
      | nil => cases lowered
      | cons byte tail =>
        rw [Address.toHex_cons, List.map_cons, List.map_cons] at lowered
        obtain ⟨upper, lowered⟩ := List.cons_eq_cons.1 lowered
        obtain ⟨lower, restLowered⟩ := List.cons_eq_cons.1 lowered
        obtain ⟨first, second, highValue, lowValue, rfl⟩ := hexValues_iff.2 ⟨upper, lower⟩
        exact ⟨first, highValue, second, lowValue, tail, ih.2 restLowered, rfl⟩

namespace Address

/-- What may stand in front of the digits of an address. -/
def fronts : List (List Char) := [[], ['0', 'x'], ['0', 'X']]

/-- **A spelling of an address**: its digits, each in either letter case, with `0x` or `0X` in front
or without. -/
def IsSpelling (address : Address) (text : String) : Prop :=
  ∃ front ∈ fronts, ∃ digits, text.toList = front ++ digits ∧
    digits.map Char.toLower = Bytes.toHex address.bytes

/-- An address is made of 20 bytes, which are its own. -/
theorem ofBytes?_eq_some_iff {bytes : Bytes} {address : Address} :
    ofBytes? bytes = some address ↔ bytes = address.bytes := by
  unfold ofBytes?
  split
  · next size =>
    rw [Option.some.injEq]
    constructor
    · rintro rfl
      rfl
    · rintro rfl
      rfl
  · next size =>
    constructor
    · intro impossible
      cases impossible
    · rintro rfl
      exact absurd address.length_bytes size

/-- A text that has the form of an address has digits of it behind what may stand in front. -/
theorem ofForm?_eq_some_iff_digitsOf {text : String} {address : Address} :
    ofForm? text = some address ↔
      (digitsOf text.toList).map Char.toLower = Bytes.toHex address.bytes := by
  rw [ofForm?, Option.bind_eq_some_iff]
  constructor
  · rintro ⟨bytes, read, same⟩
    rw [ofBytes?_eq_some_iff.1 same] at read
    exact Bytes.ofHex?_eq_some_iff.1 read
  · intro lower
    exact ⟨_, Bytes.ofHex?_eq_some_iff.2 lower, ofBytes?_eq_some_iff.2 rfl⟩

/-- What is cut off in front of digits may stand there. -/
theorem exists_front (characters : List Char) :
    ∃ front ∈ fronts, characters = front ++ digitsOf characters := by
  unfold digitsOf
  split
  · exact ⟨['0', 'x'], by decide, rfl⟩
  · exact ⟨['0', 'X'], by decide, rfl⟩
  · exact ⟨[], by decide, rfl⟩

/-- Hexadecimal digits do not look as if something stood in front of them. -/
theorem digitsOf_eq_self {digits : List Char} {bytes : Bytes}
    (lower : digits.map Char.toLower = Bytes.toHex bytes) : digitsOf digits = digits := by
  have letter : ∀ n < 16, Text.hexDigit n ≠ 'x' := by decide
  have second {first other : Char} {rest : List Char}
      (digits : first :: other :: rest = Bytes.toHex bytes) : other ≠ 'x' := by
    cases bytes with
    | nil => cases digits
    | cons byte tail =>
      rw [toHex_cons] at digits
      cases digits
      exact letter _ (Nat.mod_lt _ (by decide))
  unfold digitsOf
  split
  · exact absurd rfl (second lower)
  · exact absurd rfl (second lower)
  · rfl

/-- **The form of an address**: what has it are its spellings. -/
theorem ofForm?_eq_some_iff {text : String} {address : Address} :
    ofForm? text = some address ↔ address.IsSpelling text := by
  rw [ofForm?_eq_some_iff_digitsOf]
  constructor
  · intro lower
    obtain ⟨front, allowed, split⟩ := exists_front text.toList
    exact ⟨front, allowed, _, split, lower⟩
  · rintro ⟨front, allowed, digits, split, lower⟩
    rw [split]
    simp only [fronts, List.mem_cons, List.not_mem_nil, or_false] at allowed
    rcases allowed with rfl | rfl | rfl
    · rw [List.nil_append, digitsOf_eq_self lower]
      exact lower
    · exact lower
    · exact lower

/-- **A name of an address**: a spelling of it that the rule takes. -/
def IsNamedBy [AddressRule] (address : Address) (text : String) : Prop :=
  AddressRule.takes text = true ∧ address.IsSpelling text

/-- **Reading addresses.** What is read as an address are its names. -/
theorem ofText?_eq_some_iff [AddressRule] {text : String} {address : Address} :
    ofText? text = some address ↔ address.IsNamedBy text := by
  rw [ofText?, IsNamedBy, ← ofForm?_eq_some_iff]
  split
  · next taken => simp [taken]
  · next refused => simp [refused]

/-- A text that names an address is read as it. -/
theorem IsNamedBy.parse_eq [AddressRule] {text : String} {address : Address}
    (named : address.IsNamedBy text) : parse text = .ok address := by
  rw [parse, ofText?_eq_some_iff.2 named]

/-- The canonical text of an address names it. -/
theorem isNamedBy_text [AddressRule] (address : Address) : address.IsNamedBy address.text :=
  ofText?_eq_some_iff.1 (ofText?_text address)

end Address

/-! ## A rule that looks at the letter case -/

/-- The digits of bytes are in lower case. -/
theorem Bytes.map_toLower_toHex (bytes : Bytes) :
    (toHex bytes).map Char.toLower = toHex bytes :=
  ofHex?_eq_some_iff.1 (ofHex?_toHex bytes)

/-- **The letter case is a checksum**: of the texts in mixed case, the canonical one alone is taken.
-/
@[reducible] def AddressRule.checked : AddressRule where
  takes text :=
    let digits := Address.digitsOf text.toList
    digits.map Char.toLower == digits || digits.map Char.toUpper == digits ||
      (Address.ofForm? text).any fun address => address.text == text
  takes_text address := by
    rw [Address.ofForm?_text]
    simp
  takes_hexText address := by
    rw [Address.digitsOf_hexText]
    simp [Bytes.map_toLower_toHex]

namespace Address

/-- The account of twenty bytes `0xAB`. -/
def lettered : Address := ⟨List.replicate 20 0xAB, List.length_replicate⟩

/-- The lettered address in lower case. -/
theorem lettered_isSpelling_lower :
    lettered.IsSpelling "0xabababababababababababababababababababab" :=
  ofForm?_eq_some_iff.1 (by decide +kernel)

/-- The lettered address in both cases, without a tag. -/
theorem lettered_isSpelling_mixed :
    lettered.IsSpelling "ABabABabABabABabABabABabABabABabABabABab" :=
  ofForm?_eq_some_iff.1 (by decide +kernel)

end Address

end UpgradeGate
