import UpgradeGate.Chain.Creation

/-!
# The canonical text of an address

The letter case of a digit does not change its value, so the canonical text of an address is read
as that address, whatever rule there is (`Address.ofText?_text`), and two addresses with one
canonical text are the same (`Address.text_injective`). Texts of addresses name one account exactly
when the addresses are the same (`Address.sameAccount_text_iff`).
-/

namespace UpgradeGate.Address

/-- A digit in upper case has the same value. -/
theorem hexValue?_toUpper_hexDigit :
    ∀ n < 16, Text.hexValue? (Text.hexDigit n).toUpper = some n := by
  decide

/-- A digit keeps its value in either case. -/
theorem hexValue?_casedDigit (place : Nat) {n : Nat} (small : n < 16) :
    Text.hexValue? (casedDigit (Text.hexDigit n) place) = some n := by
  unfold casedDigit
  split
  · exact hexValue?_toUpper_hexDigit n small
  · exact Text.hexValue?_hexDigit n small

/-- The digits of a byte stand in front of those of the others. -/
theorem toHex_cons (byte : UInt8) (rest : Bytes) :
    Bytes.toHex (byte :: rest) = Text.hexDigit (byte.toNat / 16) ::
      Text.hexDigit (byte.toNat % 16) :: Bytes.toHex rest := by
  have small : byte.toNat / 16 % 16 = byte.toNat / 16 := by
    have := byte.toNat_lt
    omega
  simp [Bytes.toHex, Bytes.hexPair, Text.hexFixed, small]

/-- Digits whose case was changed here and there are read as the same bytes. -/
theorem ofHex?_zipWith_casedDigit (bytes : Bytes) (places : List Nat)
    (enough : 2 * bytes.length ≤ places.length) :
    Bytes.ofHex? ((Bytes.toHex bytes).zipWith casedDigit places) = some bytes := by
  induction bytes generalizing places with
  | nil => rfl
  | cons byte rest ih =>
    match places, enough with
    | first :: second :: others, enough =>
      have high : byte.toNat / 16 < 16 := by
        have := byte.toNat_lt
        omega
      have low : byte.toNat % 16 < 16 := Nat.mod_lt _ (by decide)
      have whole : 16 * (byte.toNat / 16) + byte.toNat % 16 = byte.toNat := by omega
      have remaining := ih others (by simp only [List.length_cons] at enough; omega)
      rw [toHex_cons]
      simp only [List.zipWith_cons_cons, Bytes.ofHex?, hexValue?_casedDigit _ high,
        hexValue?_casedDigit _ low, remaining, whole, Option.bind_eq_bind, Option.bind_some,
        Option.pure_def, UInt8.ofNat_toNat]
    | [_], enough => simp only [List.length_cons, List.length_nil] at enough; omega
    | [], enough => simp only [List.length_cons, List.length_nil] at enough; omega

theorem length_nibbles (bytes : Bytes) : (nibbles bytes).length = 2 * bytes.length := by
  induction bytes with
  | nil => rfl
  | cons byte rest ih =>
    have step : nibbles (byte :: rest) = byte.toNat / 16 :: byte.toNat % 16 :: nibbles rest := rfl
    rw [step, List.length_cons, List.length_cons, ih, List.length_cons]
    omega

/-- A text that has the form of an address is read by that form where it is taken. -/
theorem ofText?_of_takes [AddressRule] {text : String} (taken : AddressRule.takes text = true) :
    ofText? text = ofForm? text := by
  rw [ofText?, if_pos taken]

/-- The canonical text of an address has the form of the address. -/
@[simp] theorem ofForm?_text (address : Address) : ofForm? address.text = some address := by
  have read : Bytes.ofHex? address.digits = some address.bytes :=
    ofHex?_zipWith_casedDigit _ _ (by
      rw [length_nibbles, Keccak.length_digest, address.length_bytes]
      omega)
  have digits : digitsOf address.text.toList = address.digits := by
    simp [text, digitsOf]
  rw [ofForm?, digits, read, Option.bind_some, ofBytes?, dif_pos address.length_bytes]

/-- The digits behind the tag are those of the bytes. -/
theorem digitsOf_hexText (bytes : Bytes) :
    digitsOf ("0x" ++ Bytes.hexText bytes).toList = Bytes.toHex bytes := by
  simp [Bytes.hexText, digitsOf]

/-- Plain digits behind `0x` have the form of their bytes. -/
theorem ofForm?_hexText (bytes : Bytes) :
    ofForm? ("0x" ++ Bytes.hexText bytes) = ofBytes? bytes := by
  rw [ofForm?, digitsOf_hexText, Bytes.ofHex?_toHex, Option.bind_some]

/-- **Reading what was written.** The canonical text of an address is read as the address. -/
@[simp] theorem ofText?_text [AddressRule] (address : Address) :
    ofText? address.text = some address := by
  rw [ofText?_of_takes (AddressRule.takes_text address), ofForm?_text]

/-- The empty text is no address. -/
theorem ofText?_empty [AddressRule] : ofText? "" = none := by
  have formless : ofForm? "" = none := by decide
  rw [ofText?, formless, ite_self]

/-- Plain digits behind `0x` are read as their bytes. -/
theorem ofText?_hexText [AddressRule] (bytes : Bytes) :
    ofText? ("0x" ++ Bytes.hexText bytes) = ofBytes? bytes := by
  by_cases size : bytes.length = 20
  · rw [ofText?_of_takes (AddressRule.takes_hexText ⟨bytes, size⟩), ofForm?_hexText]
  · rw [ofText?, ofForm?_hexText, ofBytes?, dif_neg size, ite_self]

/-- The plain digits of an address are read as the address. -/
theorem parse_hexText [AddressRule] (address : Address) :
    parse ("0x" ++ Bytes.hexText address.bytes) = .ok address := by
  rw [parse, ofText?_hexText, ofBytes?, dif_pos address.length_bytes]

/-- The canonical text of an address is read as the address. -/
@[simp] theorem parse_text [AddressRule] (address : Address) :
    parse address.text = .ok address := by
  simp [parse]

/-- Different addresses have different canonical texts. -/
theorem text_injective {a b : Address} (same : a.text = b.text) : a = b := by
  simpa using congrArg ofForm? same

@[simp] theorem text_inj {a b : Address} : a.text = b.text ↔ a = b :=
  ⟨text_injective, congrArg text⟩

/-- Canonical texts name one account exactly when they are those of one address. -/
@[simp] theorem sameAccount_text_iff [AddressRule] {a b : Address} :
    sameAccount a.text b.text = true ↔ a = b := by
  simp [sameAccount]

/-- A text names the account of an address exactly when it is read as that address. -/
theorem sameAccount_text_right_iff [AddressRule] {given : String} {address : Address} :
    sameAccount given address.text = true ↔ parse given = .ok address := by
  cases read : ofText? given <;> simp [sameAccount, parse, read]

/-- An account has a canonical text, and that is never empty. -/
theorem text_ne_empty (address : Address) : address.text.isEmpty = false := by
  have filled : address.text ≠ "" := by
    intro empty
    have read := ofText?_text address
    rw [empty, ofText?_empty] at read
    cases read
  simpa [String.isEmpty_iff] using filled

end UpgradeGate.Address
