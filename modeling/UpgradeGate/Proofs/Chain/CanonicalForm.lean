import UpgradeGate.Proofs.Chain.Creation

/-!
# Canonical forms of addresses

A text is in the form of an address if it consists of 40 hexadecimal digits, behind `0x`, `0X` or
nothing (`Address.HasForm`). These are the texts that spell some account (`Address.hasForm_iff`).
Those of them that the rule takes are addresses (`Address.IsAddress`), and have a canonical form,
which is that of the account. Two addresses name one account where their digits are the same but for
the letter case (`Address.canonical_forms`).
-/

namespace UpgradeGate

/-- The hexadecimal digits in both letter cases. -/
def Text.hexadecimals : List Char := "0123456789abcdefABCDEF".toList

/-- The hexadecimal digits, one by one. -/
theorem Text.isHexDigit_iff {c : Char} : isHexDigit c = true ↔ c ∈ hexadecimals := by
  have known : ∀ c : Char, c.toNat < 128 → isHexDigit c = true → c ∈ hexadecimals :=
    forall_ascii (by decide +kernel)
  have digits : ∀ c ∈ hexadecimals, isHexDigit c = true := List.all_iff_forall_prop.1 (by decide)
  constructor
  · intro digit
    obtain ⟨n, value⟩ := Option.isSome_iff_exists.1 digit
    exact known c (toNat_lt_of_hexValue? value).1 digit
  · exact digits c

/-- Twice as many hexadecimal digits are read as bytes. -/
theorem Bytes.exists_ofHex? {n : Nat} {digits : List Char}
    (all : ∀ c ∈ digits, Text.isHexDigit c = true) (length : digits.length = 2 * n) :
    ∃ bytes, ofHex? digits = some bytes ∧ bytes.length = n := by
  induction digits using ofHex?.induct generalizing n with
  | case1 =>
    rw [List.length_nil] at length
    exact ⟨[], rfl, by simp only [List.length_nil]; omega⟩
  | case2 digit =>
    rw [List.length_singleton] at length
    omega
  | case3 high low rest ih =>
    simp only [List.length_cons] at length
    rw [List.forall_mem_cons, List.forall_mem_cons] at all
    obtain ⟨highDigit, lowDigit, others⟩ := all
    obtain ⟨first, highValue⟩ := Option.isSome_iff_exists.1 highDigit
    obtain ⟨second, lowValue⟩ := Option.isSome_iff_exists.1 lowDigit
    obtain ⟨bytes, read, size⟩ := ih (n := n - 1) others (by omega)
    refine ⟨UInt8.ofNat (16 * first + second) :: bytes, ?_, ?_⟩
    · simp only [ofHex?, highValue, lowValue, read, Option.bind_eq_bind, Option.bind_some,
        Option.pure_def]
    · rw [List.length_cons, size]
      omega

namespace Address

variable {text other : String} {digits : List Char} {address : Address}

/-! ## The form of an address -/

/-- The 40 hexadecimal digits of a text, behind `0x`, `0X` or nothing. -/
structure HasDigits (text : String) (digits : List Char) : Prop where
  split : ∃ front ∈ fronts, text.toList = front ++ digits
  length : digits.length = 40
  hexadecimal : ∀ c ∈ digits, c ∈ Text.hexadecimals

/-- A text in the form of an address. -/
def HasForm (text : String) : Prop := ∃ digits, HasDigits text digits

/-- Digits in the form of an address are those of some account. -/
theorem HasDigits.exists_lower (form : HasDigits text digits) :
    ∃ address : Address, digits.map Char.toLower = Bytes.toHex address.bytes := by
  obtain ⟨bytes, read, size⟩ := Bytes.exists_ofHex? (n := 20)
    (fun c member => Text.isHexDigit_iff.2 (form.hexadecimal c member)) form.length
  exact ⟨⟨bytes, size⟩, Bytes.ofHex?_eq_some_iff.1 read⟩

/-- What becomes the digits of an address in lower case is forty digits. -/
theorem hasDigits_of_lower (split : ∃ front ∈ fronts, text.toList = front ++ digits)
    (lower : digits.map Char.toLower = Bytes.toHex address.bytes) : HasDigits text digits where
  split := split
  length := by
    rw [← List.length_map (f := Char.toLower), lower, Bytes.length_toHex, address.length_bytes]
  hexadecimal c member :=
    Text.isHexDigit_iff.1 (List.all_eq_true.1 (Bytes.all_isHexDigit lower) c member)

/-- A spelling of an address has its digits, in any letter case. -/
theorem isSpelling_iff : address.IsSpelling text ↔
    ∃ digits, HasDigits text digits ∧ digits.map Char.toLower = Bytes.toHex address.bytes := by
  constructor
  · rintro ⟨front, allowed, digits, split, lower⟩
    exact ⟨digits, hasDigits_of_lower ⟨front, allowed, split⟩ lower, lower⟩
  · rintro ⟨digits, form, lower⟩
    obtain ⟨front, allowed, split⟩ := form.split
    exact ⟨front, allowed, digits, split, lower⟩

/-- **Texts in the form of an address** are those that spell some account. -/
theorem hasForm_iff : HasForm text ↔ ∃ address : Address, address.IsSpelling text := by
  constructor
  · rintro ⟨digits, form⟩
    obtain ⟨address, lower⟩ := form.exists_lower
    exact ⟨address, isSpelling_iff.2 ⟨digits, form, lower⟩⟩
  · rintro ⟨address, spelling⟩
    obtain ⟨digits, form, -⟩ := isSpelling_iff.1 spelling
    exact ⟨digits, form⟩

/-- A text spells at most one account. -/
theorem IsSpelling.unique {account : Address} (spelling : address.IsSpelling text)
    (same : account.IsSpelling text) : address = account :=
  Option.some.inj ((ofForm?_eq_some_iff.2 spelling).symm.trans (ofForm?_eq_some_iff.2 same))

/-! ## The canonical form -/

section Rule

variable [AddressRule]

/-- An address as a text: a text in the form of one that the rule takes. -/
def IsAddress (text : String) : Prop := AddressRule.takes text = true ∧ HasForm text

/-- **Addresses** are the texts that name some account. -/
theorem isAddress_iff : IsAddress text ↔ ∃ address : Address, address.IsNamedBy text := by
  rw [IsAddress, hasForm_iff]
  exact exists_and_left.symm

/-- The canonical form of a text that names an account. -/
def canonical (given : String) : Except Failure String := (parse given).map Address.text

/-- A text has a canonical form where it names an address, whose text that is. -/
theorem canonical_eq_ok_iff {form : String} :
    canonical text = .ok form ↔
      ∃ address : Address, address.IsNamedBy text ∧ form = address.text := by
  simp only [canonical, parse, ← ofText?_eq_some_iff]
  cases ofText? text <;> simp [Except.map, eq_comm (a := form)]

/-- A text that is no address has no canonical form. -/
theorem canonical_of_not_isAddress (nameless : ¬ IsAddress text) :
    canonical text = .error (.value (.invalidAddress text)) := by
  have unread : ofText? text = none := by
    cases read : ofText? text with
    | none => rfl
    | some address =>
      exact absurd (isAddress_iff.2 ⟨address, ofText?_eq_some_iff.1 read⟩) nameless
  rw [canonical, parse, unread]
  rfl

omit [AddressRule] in
/-- The canonical form has the digits that were given, behind `0x` and in a letter case of its
own. -/
theorem exists_recased (spelling : address.IsSpelling text) :
    ∃ digits cased, HasDigits text digits ∧ address.text.toList = '0' :: 'x' :: cased ∧
      cased.map Char.toLower = digits.map Char.toLower := by
  obtain ⟨digits, form, lower⟩ := isSpelling_iff.1 spelling
  have own := ofForm?_eq_some_iff_digitsOf.1 (ofForm?_text address)
  have whole : address.text.toList = '0' :: 'x' :: address.digits := by
    rw [Address.text, String.toList_ofList]
  rw [whole] at own
  exact ⟨digits, address.digits, form, whole, own.trans lower.symm⟩

/-! ## One account -/

/-- Two texts name one account where they name one address. -/
theorem sameAccount_eq_true_iff :
    sameAccount text other = true ↔
      ∃ address : Address, address.IsNamedBy text ∧ address.IsNamedBy other := by
  simp only [sameAccount, ← ofText?_eq_some_iff]
  cases ofText? text with
  | none => simp
  | some address => cases ofText? other <;> simp [eq_comm (a := address)]

/-- Two addresses name one account where their digits are the same but for the letter case. -/
theorem sameAccount_iff_digits :
    sameAccount text other = true ↔ IsAddress text ∧ IsAddress other ∧
      ∃ digits others, HasDigits text digits ∧ HasDigits other others ∧
        digits.map Char.toLower = others.map Char.toLower := by
  rw [sameAccount_eq_true_iff]
  constructor
  · rintro ⟨address, ⟨taken, first⟩, otherTaken, second⟩
    obtain ⟨digits, form, lower⟩ := isSpelling_iff.1 first
    obtain ⟨others, otherForm, otherLower⟩ := isSpelling_iff.1 second
    exact ⟨⟨taken, digits, form⟩, ⟨otherTaken, others, otherForm⟩, digits, others, form, otherForm,
      lower.trans otherLower.symm⟩
  · rintro ⟨⟨taken, -⟩, ⟨otherTaken, -⟩, digits, others, form, otherForm, same⟩
    obtain ⟨address, lower⟩ := form.exists_lower
    have first := isSpelling_iff.2 ⟨digits, form, lower⟩
    have second := isSpelling_iff.2 ⟨others, otherForm, same ▸ lower⟩
    exact ⟨address, ⟨taken, first⟩, otherTaken, second⟩

/-- Two texts name one account where they have one canonical form. -/
theorem sameAccount_iff_canonical :
    sameAccount text other = true ↔
      ∃ form, canonical text = .ok form ∧ canonical other = .ok form := by
  simp only [sameAccount_eq_true_iff, canonical_eq_ok_iff]
  constructor
  · rintro ⟨address, first, second⟩
    exact ⟨address.text, ⟨address, first, rfl⟩, address, second, rfl⟩
  · rintro ⟨_, ⟨address, first, rfl⟩, account, second, same⟩
    obtain rfl := text_injective same
    exact ⟨address, first, second⟩

/-- **Canonical forms.** A text has a canonical form exactly when it is in the form of an address
and the rule takes it, and is refused otherwise. The canonical form is that of the account, whatever
the spelling; it has the digits of the text behind `0x`, and is its own canonical form.

Two addresses name one account exactly when they spell the same 20 bytes, which is when their digits
are the same but for the letter case, and when their canonical forms are the same. So this relation
is symmetric and transitive on all texts, and holds of a text and itself when that is an address. -/
theorem canonical_forms (a b c : String) :
    ((∃ form, canonical a = .ok form) ↔ IsAddress a) ∧
    (¬ IsAddress a → canonical a = .error (.value (.invalidAddress a))) ∧
    (∀ address : Address, address.IsNamedBy a → canonical a = .ok address.text) ∧
    (∀ form, canonical a = .ok form → canonical form = .ok form ∧
      ∃ digits cased, HasDigits a digits ∧ form.toList = '0' :: 'x' :: cased ∧
        cased.map Char.toLower = digits.map Char.toLower) ∧
    (sameAccount a b = true ↔
      ∃ address : Address, address.IsNamedBy a ∧ address.IsNamedBy b) ∧
    (sameAccount a b = true ↔ IsAddress a ∧ IsAddress b ∧
      ∃ digits others, HasDigits a digits ∧ HasDigits b others ∧
        digits.map Char.toLower = others.map Char.toLower) ∧
    (sameAccount a b = true ↔ ∃ form, canonical a = .ok form ∧ canonical b = .ok form) ∧
    (sameAccount a a = true ↔ IsAddress a) ∧
    (sameAccount a b = true → sameAccount b a = true) ∧
    (sameAccount a b = true → sameAccount b c = true → sameAccount a c = true) := by
  refine ⟨?_, canonical_of_not_isAddress, fun address named => ?_, ?_, sameAccount_eq_true_iff,
    sameAccount_iff_digits, sameAccount_iff_canonical, ?_, ?_, ?_⟩
  · simp only [canonical_eq_ok_iff, isAddress_iff]
    exact ⟨fun ⟨_, address, named, _⟩ => ⟨address, named⟩,
      fun ⟨address, named⟩ => ⟨_, address, named, rfl⟩⟩
  · exact canonical_eq_ok_iff.2 ⟨address, named, rfl⟩
  · intro form given
    obtain ⟨address, named, rfl⟩ := canonical_eq_ok_iff.1 given
    exact ⟨canonical_eq_ok_iff.2 ⟨address, isNamedBy_text address, rfl⟩, exists_recased named.2⟩
  · simp only [sameAccount_eq_true_iff, and_self, isAddress_iff]
  · simp only [sameAccount_eq_true_iff]
    rintro ⟨address, first, second⟩
    exact ⟨address, second, first⟩
  · simp only [sameAccount_eq_true_iff]
    rintro ⟨address, first, second⟩ ⟨account, third, fourth⟩
    obtain rfl := second.2.unique third.2
    exact ⟨address, first, fourth⟩

end Rule

end Address

end UpgradeGate
