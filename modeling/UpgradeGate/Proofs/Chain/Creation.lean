import UpgradeGate.Proofs.Chain.Rlp
import UpgradeGate.Proofs.Chain.Spellings

/-!
# What predicted addresses tell apart

The bytes whose hash names a created contract determine the creator and the number of its
transaction (`Address.creationPreimage_inj`). So a prediction depends on the account and not on how
it is spelled, and two accounts or two numbers are predicted to create one contract only where
hashes coincide (`Address.predictions_tell_apart`). Other senders and numbers are refused.
-/

namespace UpgradeGate

/-- The digits of bytes are lower-case hexadecimal digits. -/
theorem Bytes.exists_hexDigit_of_mem_toHex {bytes : Bytes} {c : Char} (member : c ∈ toHex bytes) :
    ∃ n < 16, c = Text.hexDigit n := by
  obtain ⟨byte, -, half⟩ := List.mem_flatMap.1 member
  simp only [hexPair, Text.hexFixed, List.nil_append, List.cons_append, List.mem_cons,
    List.not_mem_nil, or_false] at half
  rcases half with rfl | rfl
  · exact ⟨_, Nat.mod_lt _ (by decide), rfl⟩
  · exact ⟨_, Nat.mod_lt _ (by decide), rfl⟩

/-- The digits of bytes are hexadecimal digits in either letter case. -/
theorem Bytes.all_isHexDigit {bytes : Bytes} {digits : List Char}
    (lower : digits.map Char.toLower = toHex bytes) : digits.all Text.isHexDigit = true := by
  refine List.all_eq_true.2 fun c member => ?_
  have inside : c.toLower ∈ toHex bytes := by
    rw [← lower]
    exact List.mem_map_of_mem member
  obtain ⟨n, small, value⟩ := exists_hexDigit_of_mem_toHex inside
  rw [Text.isHexDigit, Text.hexValue?_eq_some_iff.2 ⟨small, value⟩]
  rfl

/-- Turning a digit to lower case twice is turning it once. -/
theorem Text.toLower_toLower_of_isHexDigit {c : Char} (digit : isHexDigit c = true) :
    c.toLower.toLower = c.toLower := by
  have lowered : ∀ n < 16, (hexDigit n).toLower = hexDigit n := by decide
  obtain ⟨n, value⟩ := Option.isSome_iff_exists.1 digit
  obtain ⟨small, lower⟩ := hexValue?_eq_some_iff.1 value
  rw [lower]
  exact lowered n small

namespace Address

/-! ## Creators -/

/-- Digits in lower case behind `0x` are read as the digits are. -/
theorem ofForm?_lowered {text : String}
    (digits : (digitsOf text.toList).all Text.isHexDigit = true) :
    ofForm? (String.ofList ('0' :: 'x' :: (digitsOf text.toList).map Char.toLower)) =
      ofForm? text := by
  refine Option.ext fun address => ?_
  have twice : (digitsOf text.toList).map (Char.toLower ∘ Char.toLower) =
      (digitsOf text.toList).map Char.toLower :=
    List.map_congr_left fun c member =>
      Text.toLower_toLower_of_isHexDigit (List.all_eq_true.1 digits c member)
  rw [ofForm?_eq_some_iff_digitsOf, ofForm?_eq_some_iff_digitsOf, String.toList_ofList, digitsOf,
    List.map_map, twice]

/-- **Senders**: a text is taken for the account that it spells. -/
theorem creator_string_eq_ok_iff {text : String} {account : Address} :
    creator (.string text) = .ok account ↔ account.IsSpelling text := by
  rw [← ofForm?_eq_some_iff]
  unfold creator
  dsimp only
  split
  · next digits =>
    rw [ofHexForm, ofForm?_lowered digits]
    cases ofForm? text <;> simp
  · next other =>
    constructor
    · intro impossible
      cases impossible
    · intro read
      exact absurd (Bytes.all_isHexDigit (ofForm?_eq_some_iff_digitsOf.1 read)) other

/-- A text that spells no account is refused as a value. -/
theorem creator_string_cases (text : String) :
    (∃ account, creator (.string text) = .ok account) ∨
      ∃ problem, creator (.string text) = .error (.value problem) := by
  unfold creator
  dsimp only
  split
  · unfold ofHexForm
    split
    · next account _ => exact .inl ⟨account, rfl⟩
    · exact .inr ⟨_, rfl⟩
  · exact .inr ⟨_, rfl⟩

/-! ## What is hashed -/

/-- The coding of an address has 21 bytes. -/
theorem length_ofBytes_bytes (creator : Address) : (Rlp.ofBytes creator.bytes).length = 21 := by
  have other : ¬ Rlp.IsOwnCoding creator.bytes := by
    rintro ⟨byte, -, single⟩
    have size := creator.length_bytes
    rw [single] at size
    cases size
  rw [Rlp.ofBytes_of_not_isOwnCoding other, List.length_append, creator.length_bytes]
  rfl

theorem bytes_inj {a b : Address} : a.bytes = b.bytes ↔ a = b := by
  constructor
  · intro same
    cases a
    cases b
    cases same
    rfl
  · rintro rfl
    rfl

/-- **What is hashed for a created contract** determines the creator and its transaction. -/
theorem creationPreimage_inj {creator founder : Address} {nonce count : Nat} :
    creationPreimage creator nonce = creationPreimage founder count ↔
      creator = founder ∧ nonce = count := by
  unfold creationPreimage
  rw [Rlp.ofList_inj]
  simp only [List.flatten_cons, List.flatten_nil, List.append_nil]
  constructor
  · intro same
    have senders : (Rlp.ofBytes creator.bytes).length = (Rlp.ofBytes founder.bytes).length := by
      rw [length_ofBytes_bytes, length_ofBytes_bytes]
    obtain ⟨accounts, numbers⟩ := List.append_inj same senders
    exact ⟨bytes_inj.1 (Rlp.ofBytes_inj.1 accounts), Rlp.ofNat_inj.1 numbers⟩
  · rintro ⟨rfl, rfl⟩
    rfl

/-- Two created addresses are one where the hashes of their preimages end alike. -/
theorem created_eq_iff {creator founder : Address} {nonce count : Nat} :
    creator.created nonce = founder.created count ↔
      (Keccak.digest (creationPreimage creator nonce)).drop 12 =
        (Keccak.digest (creationPreimage founder count)).drop 12 :=
  bytes_inj.symm

/-! ## Predictions -/

/-- A negative number of transactions is refused, whoever the sender is. -/
theorem predict_of_neg {nonce : Int} (negative : nonce < 0) (given : Json) :
    predict given nonce = .error (.value (.negativeNonce nonce)) := by
  rw [predict, if_pos negative]
  rfl

/-- With a nonce that is not negative, only the creator can be wrong. -/
theorem predict_of_nonneg {nonce : Int} (natural : 0 ≤ nonce) (given : Json) :
    predict given nonce = (creator given).map fun account => account.created nonce.toNat := by
  rw [predict, if_neg (Int.not_lt.2 natural)]
  cases creator given <;> rfl

/-- Every spelling of a creator predicts the address that it creates. -/
theorem predict_of_isSpelling {text : String} {account : Address} {nonce : Int}
    (spelling : account.IsSpelling text) (natural : 0 ≤ nonce) :
    predict (.string text) nonce = .ok (account.created nonce.toNat) := by
  rw [predict_of_nonneg natural, creator_string_eq_ok_iff.2 spelling]
  rfl

/-- A sender that spells no account is refused as a value. -/
theorem predict_of_not_isSpelling {text : String} (unspelled : ∀ account, ¬ IsSpelling account text)
    (nonce : Int) : ∃ problem, predict (.string text) nonce = .error (.value problem) := by
  by_cases negative : nonce < 0
  · exact ⟨_, predict_of_neg negative _⟩
  · rw [predict_of_nonneg (Int.not_lt.1 negative)]
    rcases creator_string_cases text with ⟨account, named⟩ | ⟨problem, refused⟩
    · exact absurd (creator_string_eq_ok_iff.1 named) (unspelled account)
    · exact ⟨problem, by rw [refused]; rfl⟩

/-- **Predictions identify creator and transaction.** A negative number is refused, and so is a
sender that spells no account. For every other the address is told by the hash of bytes that
determine the account and the number, so it does not depend on the spelling, and two predictions
agree only where the ends of these hashes do. What is predicted is read as itself. -/
theorem predictions_tell_apart (text other : String) (nonce count : Int) :
    (nonce < 0 → predict (.string text) nonce = .error (.value (.negativeNonce nonce))) ∧
    ((∀ account, ¬ IsSpelling account text) →
      ∃ problem, predict (.string text) nonce = .error (.value problem)) ∧
    (∀ creator, creator.IsSpelling text → 0 ≤ nonce →
      predict (.string text) nonce = .ok (ofHash (creationPreimage creator nonce.toNat)) ∧
      parse (ofHash (creationPreimage creator nonce.toNat)).text =
        .ok (ofHash (creationPreimage creator nonce.toNat))) ∧
    ∀ creator founder, creator.IsSpelling text → founder.IsSpelling other → 0 ≤ nonce → 0 ≤ count →
      (creationPreimage creator nonce.toNat = creationPreimage founder count.toNat ↔
        creator = founder ∧ nonce = count) ∧
      (creator = founder → nonce = count →
        predict (.string text) nonce = predict (.string other) count) ∧
      (predict (.string text) nonce = predict (.string other) count →
        (Keccak.digest (creationPreimage creator nonce.toNat)).drop 12 =
          (Keccak.digest (creationPreimage founder count.toNat)).drop 12) := by
  refine ⟨fun negative => predict_of_neg negative _,
    fun unspelled => predict_of_not_isSpelling unspelled nonce,
    fun creator spelling natural => ⟨predict_of_isSpelling spelling natural, parse_text _⟩,
    fun creator founder spelling otherSpelling natural otherNatural => ⟨?_, ?_, ?_⟩⟩
  · have numbers : nonce.toNat = count.toNat ↔ nonce = count := by omega
    rw [creationPreimage_inj, numbers]
  · rintro rfl rfl
    rw [predict_of_isSpelling spelling natural, predict_of_isSpelling otherSpelling natural]
  · intro same
    rw [predict_of_isSpelling spelling natural,
      predict_of_isSpelling otherSpelling otherNatural] at same
    exact created_eq_iff.1 (Except.ok.inj same)

/-- Two spellings of one account foretell one contract, and its transactions 127 and 128 are told
apart although only the second is coded with a header. -/
theorem predictions_of_lettered :
    predict (.string "0xabababababababababababababababababababab") 128 =
      predict (.string "ABabABabABabABabABabABabABabABabABabABab") 128 ∧
    creationPreimage lettered 127 ≠ creationPreimage lettered 128 := by
  obtain ⟨-, -, -, same⟩ := predictions_tell_apart "0xabababababababababababababababababababab"
    "ABabABabABabABabABabABabABabABabABabABab" 128 128
  obtain ⟨-, -, -, apart⟩ := predictions_tell_apart "0xabababababababababababababababababababab"
    "ABabABabABabABabABabABabABabABabABabABab" 127 128
  obtain ⟨-, predicted, -⟩ := same lettered lettered lettered_isSpelling_lower
    lettered_isSpelling_mixed (by decide) (by decide)
  obtain ⟨hashed, -, -⟩ := apart lettered lettered lettered_isSpelling_lower
    lettered_isSpelling_mixed (by decide) (by decide)
  exact ⟨predicted rfl rfl, fun alike => absurd (hashed.1 alike).2 (by decide)⟩

end Address

end UpgradeGate
