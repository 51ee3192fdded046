import UpgradeGate.Chain.Rlp

/-!
# What recursive length coding tells apart

Different byte strings and different numbers are coded differently, in whichever of the forms of a
length (`Rlp.ofBytes_inj`, `Rlp.ofNat_inj`), and so are different payloads behind a header
(`Rlp.header_append_inj`): the longer of two payloads never has the shorter header, so codings of
one length have payloads of one length.
-/

namespace UpgradeGate

/-- A larger number has no fewer bytes. -/
theorem Bytes.length_bigEndian_mono {n m : Nat} (le : n ≤ m) :
    (bigEndian n).length ≤ (bigEndian m).length := by
  induction m using bigEndian.induct generalizing n with
  | case1 =>
    cases Nat.le_zero.1 le
    exact Nat.le_refl _
  | case2 m positive ih =>
    rw [bigEndian.eq_1 m, if_neg positive]
    by_cases zero : n = 0
    · rw [zero, bigEndian, if_pos rfl]
      exact Nat.zero_le _
    · rw [bigEndian, if_neg zero, List.length_append, List.length_append]
      exact Nat.add_le_add_right (ih (Nat.div_le_div_right le)) _

theorem Bytes.bigEndian_inj {n m : Nat} : bigEndian n = bigEndian m ↔ n = m := by
  constructor
  · intro same
    rw [← natOf_bigEndian n, same, natOf_bigEndian]
  · rintro rfl
    rfl

namespace Rlp

/-- A short length has a header of one byte. -/
theorem length_header_short {short length : Nat} (small : length < 56) :
    (header short length).length = 1 := by
  rw [header, if_pos small]
  rfl

/-- A long length stands in its header, behind one byte. -/
theorem length_header_long {short length : Nat} (large : 56 ≤ length) :
    (header short length).length = (Bytes.bigEndian length).length + 1 := by
  rw [header, if_neg (Nat.not_lt.2 large)]
  rfl

/-- The header of a longer payload is no shorter. -/
theorem length_header_mono (short : Nat) {length longer : Nat} (le : length ≤ longer) :
    (header short length).length ≤ (header short longer).length := by
  by_cases small : length < 56
  · rw [length_header_short small]
    by_cases smaller : longer < 56
    · exact Nat.le_of_eq (length_header_short smaller).symm
    · rw [length_header_long (Nat.not_lt.1 smaller)]
      omega
  · rw [length_header_long (Nat.not_lt.1 small), length_header_long (by omega)]
    exact Nat.succ_le_succ (Bytes.length_bigEndian_mono le)

/-- **Payloads behind a header**: what is coded alike is the same. -/
theorem header_append_inj {short : Nat} {a b : Bytes} :
    header short a.length ++ a = header short b.length ++ b ↔ a = b := by
  constructor
  · intro same
    have lengths : a.length = b.length := by
      have total := congrArg List.length same
      rw [List.length_append, List.length_append] at total
      rcases Nat.le_total a.length b.length with le | le
      · have headers := length_header_mono short le
        omega
      · have headers := length_header_mono short le
        omega
    rw [lengths] at same
    exact List.append_cancel_left same
  · rintro rfl
    rfl

/-- A byte string stands for itself. -/
def IsOwnCoding (bytes : Bytes) : Prop := ∃ byte : UInt8, byte < 0x80 ∧ bytes = [byte]

/-- A small byte is its own coding. -/
theorem ofBytes_of_isOwnCoding {bytes : Bytes} (own : IsOwnCoding bytes) :
    ofBytes bytes = bytes := by
  obtain ⟨byte, small, rfl⟩ := own
  rw [ofBytes, if_pos small]

/-- All other bytes are coded behind a header. -/
theorem ofBytes_of_not_isOwnCoding {bytes : Bytes} (other : ¬ IsOwnCoding bytes) :
    ofBytes bytes = header 0x80 bytes.length ++ bytes := by
  unfold ofBytes
  split
  · next byte =>
    rw [if_neg fun small => other ⟨byte, small, rfl⟩]
    rfl
  · rfl

/-- What stands for itself does not look like a header with its payload. -/
theorem ne_header_append_of_isOwnCoding {own bytes : Bytes} (isOwn : IsOwnCoding own) :
    own ≠ header 0x80 bytes.length ++ bytes := by
  obtain ⟨byte, small, rfl⟩ := isOwn
  intro same
  have total := congrArg List.length same
  rw [List.length_append, List.length_singleton] at total
  have head := length_header_mono 0x80 (Nat.zero_le bytes.length)
  rw [length_header_short (by decide)] at head
  have empty : bytes = [] := List.length_eq_zero_iff.1 (by omega)
  rw [empty, List.append_nil] at same
  cases same
  exact absurd small (by decide)

/-- **Byte strings are told apart** by their codings. -/
theorem ofBytes_inj {a b : Bytes} : ofBytes a = ofBytes b ↔ a = b := by
  constructor
  · intro same
    by_cases ownFirst : IsOwnCoding a <;> by_cases ownSecond : IsOwnCoding b
    · rwa [ofBytes_of_isOwnCoding ownFirst, ofBytes_of_isOwnCoding ownSecond] at same
    · rw [ofBytes_of_isOwnCoding ownFirst, ofBytes_of_not_isOwnCoding ownSecond] at same
      exact absurd same (ne_header_append_of_isOwnCoding ownFirst)
    · rw [ofBytes_of_not_isOwnCoding ownFirst, ofBytes_of_isOwnCoding ownSecond] at same
      exact absurd same.symm (ne_header_append_of_isOwnCoding ownSecond)
    · rw [ofBytes_of_not_isOwnCoding ownFirst, ofBytes_of_not_isOwnCoding ownSecond] at same
      exact header_append_inj.1 same
  · rintro rfl
    rfl

/-- **Numbers are told apart** by their codings, however large they are. -/
theorem ofNat_inj {n m : Nat} : ofNat n = ofNat m ↔ n = m := by
  rw [ofNat, ofNat, ofBytes_inj, Bytes.bigEndian_inj]

/-- Lists are told apart by what their items are together. -/
theorem ofList_inj {items others : List Bytes} :
    ofList items = ofList others ↔ items.flatten = others.flatten :=
  header_append_inj

end Rlp

end UpgradeGate
