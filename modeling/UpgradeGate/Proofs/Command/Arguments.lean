import UpgradeGate.Proofs.Command.Opening
import UpgradeGate.Proofs.Fields
import UpgradeGate.Proofs.Number.Digits
import UpgradeGate.Proofs.Text.LetterCase

/-!
# Constructor arguments of a deployment

Every word stands for one value: a truth value, the number that its digits denote, or itself
(`Argument.StandsFor`). Words are read as what they stand for, but for words of digits not all of
which are decimal, which are refused although they stand for themselves (`Argument.Refused`). So a
deployment is carried out with the values of its words, in their order, or else it refuses the first
word that is to be refused (`Command.arguments_converted`).
-/

namespace UpgradeGate

namespace Text

/-- What has letters has no digits. -/
theorem InAnyCase.not_isDigit {text letters : List Char} (reads : InAnyCase text letters)
    (small : ∀ letter ∈ letters, letter ∈ smallLetters) : ∀ c ∈ text, isDigit c = false := by
  have plain : ∀ letter ∈ smallLetters,
      isDigit letter = false ∧ isDigit letter.toUpper = false :=
    List.all_iff_forall_prop.1 (by decide +kernel)
  induction reads with
  | nil => exact List.forall_mem_nil _
  | cons first _ ih =>
    obtain ⟨here, further⟩ := List.forall_mem_cons.1 small
    refine List.forall_mem_cons.2 ⟨?_, ih further⟩
    obtain ⟨lower, upper⟩ := plain _ here
    rcases first with rfl | rfl
    · exact lower
    · exact upper

end Text

namespace Argument

open Text Literal

variable {word : String} {value other : Json}

/-! ## What words stand for -/

/-- **What a word stands for**: a truth value in any letter case, the number that its decimal digits
denote, or else itself. -/
inductive StandsFor (word : String) : Json → Prop where
  | yes (reads : InAnyCase word.toList "true".toList) : StandsFor word (.bool true)
  | no (reads : InAnyCase word.toList "false".toList) : StandsFor word (.bool false)
  | number {n : Nat} (denotes : Denotes word.toList n) : StandsFor word (.int n)
  | text (affirms : ¬ InAnyCase word.toList "true".toList)
      (denies : ¬ InAnyCase word.toList "false".toList)
      (unnumbered : ∀ n, ¬ Denotes word.toList n) : StandsFor word (.string word)

/-- **A word that is refused**: digits, not all of which are decimal. -/
def Refused (word : String) : Prop :=
  (∀ c ∈ word.toList, isDigit c = true) ∧ ∃ c ∈ word.toList, decimalDigit? c = none

instance (word : String) : Decidable (Refused word) :=
  decidable_of_iff (word.toList.all isDigit = true ∧
    word.toList.any (fun c => (decimalDigit? c).isNone) = true) (by simp [Refused])

theorem true_small : ∀ letter ∈ "true".toList, letter ∈ smallLetters :=
  List.all_iff_forall_prop.1 (by decide)

theorem false_small : ∀ letter ∈ "false".toList, letter ∈ smallLetters :=
  List.all_iff_forall_prop.1 (by decide)

/-- A word means true where it spells "true" in any letter case. -/
theorem toLower_eq_true_iff : word.toLower = "true" ↔ InAnyCase word.toList "true".toList :=
  toLower_eq_iff_inAnyCase true_small

/-- A word means false where it spells "false" in any letter case. -/
theorem toLower_eq_false_iff : word.toLower = "false" ↔ InAnyCase word.toList "false".toList :=
  toLower_eq_iff_inAnyCase false_small

/-- What has letters denotes no number. -/
theorem not_denotes {letters : List Char} {n : Nat} (reads : InAnyCase word.toList letters)
    (small : ∀ letter ∈ letters, letter ∈ smallLetters) : ¬ Denotes word.toList n := by
  intro denotes
  obtain ⟨c, rest, shape⟩ := List.exists_cons_of_ne_nil denotes.1
  have first : c ∈ word.toList := shape ▸ List.mem_cons_self
  have digit : isDigit c = true := by rw [isDigit, denotes.decimal c first]; rfl
  rw [reads.not_isDigit small c first] at digit
  cases digit

/-- A word stands for one value at most. -/
theorem StandsFor.unique (stands : StandsFor word value) (again : StandsFor word other) :
    value = other := by
  cases stands with
  | yes reads =>
    cases again with
    | yes => rfl
    | no other =>
      rw [← toLower_eq_true_iff] at reads
      rw [← toLower_eq_false_iff, reads] at other
      exact absurd other (by decide)
    | number denotes => exact absurd denotes (not_denotes reads true_small)
    | text affirms => exact absurd reads affirms
  | no reads =>
    cases again with
    | yes other =>
      rw [← toLower_eq_true_iff] at other
      rw [← toLower_eq_false_iff, other] at reads
      exact absurd reads (by decide)
    | no => rfl
    | number denotes => exact absurd denotes (not_denotes reads false_small)
    | text _ denies => exact absurd reads denies
  | number denotes =>
    cases again with
    | yes reads => exact absurd denotes (not_denotes reads true_small)
    | no reads => exact absurd denotes (not_denotes reads false_small)
    | number again => rw [denotes.unique again]
    | text _ _ unnumbered => exact absurd denotes (unnumbered _)
  | text affirms denies unnumbered =>
    cases again with
    | yes reads => exact absurd reads affirms
    | no reads => exact absurd reads denies
    | number denotes => exact absurd denotes (unnumbered _)
    | text => rfl

/-- **Every word stands for one value.** -/
theorem existsUnique_standsFor (word : String) : ∃! value, StandsFor word value := by
  refine existsUnique_of_exists_of_unique ?_ fun _ _ stands again => stands.unique again
  by_cases affirms : InAnyCase word.toList "true".toList
  · exact ⟨_, .yes affirms⟩
  by_cases denies : InAnyCase word.toList "false".toList
  · exact ⟨_, .no denies⟩
  by_cases numbered : ∃ n, Denotes word.toList n
  · obtain ⟨n, denotes⟩ := numbered
    exact ⟨_, .number denotes⟩
  · exact ⟨_, .text affirms denies (not_exists.1 numbered)⟩

/-! ## Reading words -/

/-- A decimal numeral is not refused. -/
theorem not_refused_of_denotes {n : Nat} (denotes : Denotes word.toList n) : ¬ Refused word := by
  rintro ⟨-, c, member, bare⟩
  have decimal := denotes.decimal c member
  rw [isDecimalDigit, bare] at decimal
  cases decimal

/-- The test for a number: some characters, all of them digits. -/
theorem digits_iff : (!word.isEmpty && word.toList.all isDigit) = true ↔
    word.toList ≠ [] ∧ ∀ c ∈ word.toList, isDigit c = true := by
  simp

/-- A word that is no truth value and consists of digits is read by the plain reader. -/
theorem ofWord_of_digits (affirms : ¬ InAnyCase word.toList "true".toList)
    (denies : ¬ InAnyCase word.toList "false".toList) (filled : word.toList ≠ [])
    (digits : ∀ c ∈ word.toList, isDigit c = true) :
    ofWord word = match plain? word with
      | some number => .ok (.int number)
      | none => .error (.value (.badNumeral 10 word)) :=
  (if_neg (mt toLower_eq_true_iff.1 affirms)).trans <|
    (if_neg (mt toLower_eq_false_iff.1 denies)).trans <| if_pos (digits_iff.2 ⟨filled, digits⟩)

/-- Any other word that is no truth value is read as itself. -/
theorem ofWord_of_undigited (affirms : ¬ InAnyCase word.toList "true".toList)
    (denies : ¬ InAnyCase word.toList "false".toList)
    (other : ¬ (word.toList ≠ [] ∧ ∀ c ∈ word.toList, isDigit c = true)) :
    ofWord word = .ok (.string word) :=
  (if_neg (mt toLower_eq_true_iff.1 affirms)).trans <|
    (if_neg (mt toLower_eq_false_iff.1 denies)).trans <| if_neg (mt digits_iff.1 other)

/-- A word is refused, or it is read as what it stands for. -/
theorem ofWord_cases (word : String) :
    (Refused word ∧ ofWord word = .error (.value (.badNumeral 10 word))) ∨
      ¬ Refused word ∧ ∃ value, StandsFor word value ∧ ofWord word = .ok value := by
  have lettered {letters : List Char} (reads : InAnyCase word.toList letters)
      (small : ∀ letter ∈ letters, letter ∈ smallLetters) : ¬ Refused word := by
    rintro ⟨digits, c, member, -⟩
    have digit := digits c member
    rw [reads.not_isDigit small c member] at digit
    cases digit
  by_cases affirms : InAnyCase word.toList "true".toList
  · refine .inr ⟨lettered affirms true_small, _, .yes affirms, ?_⟩
    simp only [ofWord, if_pos (toLower_eq_true_iff.2 affirms)]
  by_cases denies : InAnyCase word.toList "false".toList
  · refine .inr ⟨lettered denies false_small, _, .no denies, ?_⟩
    simp only [ofWord, if_neg (mt toLower_eq_true_iff.1 affirms),
      if_pos (toLower_eq_false_iff.2 denies)]
  by_cases numbered : ∃ n, Denotes word.toList n
  · obtain ⟨n, denotes⟩ := numbered
    have digits : ∀ c ∈ word.toList, isDigit c = true := fun c member => by
      rw [isDigit, denotes.decimal c member]; rfl
    refine .inr ⟨not_refused_of_denotes denotes, _, .number denotes, ?_⟩
    rw [ofWord_of_digits affirms denies denotes.1 digits, plain?_of_denotes denotes]
  have unnumbered := not_exists.1 numbered
  by_cases refused : Refused word
  · obtain ⟨digits, bare⟩ := refused
    have filled : word.toList ≠ [] := by
      obtain ⟨c, member, -⟩ := bare
      exact List.ne_nil_of_mem member
    refine .inl ⟨⟨digits, bare⟩, ?_⟩
    rw [ofWord_of_digits affirms denies filled digits, plain?_eq_none_of_bare digits bare]
  · refine .inr ⟨refused, _, .text affirms denies unnumbered,
      ofWord_of_undigited affirms denies ?_⟩
    rintro ⟨filled, digits⟩
    -- digits that are all decimal would denote a number
    obtain ⟨n, denotes⟩ := exists_denotes filled fun c member => by
      cases read : decimalDigit? c with
      | some value => rw [isDecimalDigit, read]; rfl
      | none => exact absurd ⟨digits, c, member, read⟩ refused
    exact unnumbered n denotes

/-- **Words are read** as what they stand for, unless they are refused. -/
theorem ofWord_eq_ok_iff : ofWord word = .ok value ↔ ¬ Refused word ∧ StandsFor word value := by
  rcases ofWord_cases word with ⟨refused, failed⟩ | ⟨taken, own, stands, read⟩
  · rw [failed]
    exact ⟨nofun, fun given => absurd refused given.1⟩
  · rw [read, Except.ok.injEq]
    constructor
    · rintro rfl
      exact ⟨taken, stands⟩
    · exact fun given => stands.unique given.2

/-- A word of digits that is no decimal numeral is refused. -/
theorem ofWord_of_refused (refused : Refused word) :
    ofWord word = .error (.value (.badNumeral 10 word)) := by
  rcases ofWord_cases word with ⟨-, failed⟩ | ⟨taken, -⟩
  · exact failed
  · exact absurd refused taken

/-- Words none of which is refused are read as what they stand for, in their order. -/
theorem exists_mapM_ofWord {words : List String} (taken : ∀ word ∈ words, ¬ Refused word) :
    ∃ values, words.mapM ofWord = .ok values ∧ List.Forall₂ StandsFor words values := by
  suffices read : ∃ values, List.Forall₂ StandsFor words values ∧
      List.Forall₂ (fun word value => ofWord word = .ok value) words values by
    obtain ⟨values, stand, read⟩ := read
    exact ⟨values, mapM_eq_ok_iff.2 read, stand⟩
  induction words with
  | nil => exact ⟨[], .nil, .nil⟩
  | cons word rest ih =>
    obtain ⟨here, further⟩ := List.forall_mem_cons.1 taken
    obtain ⟨value, stands, -⟩ := existsUnique_standsFor word
    obtain ⟨values, others, read⟩ := ih further
    exact ⟨value :: values, .cons stands others, .cons (ofWord_eq_ok_iff.2 ⟨here, stands⟩) read⟩

end Argument

namespace Command

open Argument (StandsFor Refused)

variable {invocation : Invocation} {environment : Environment} {contract : String}
  {words : List String}

/-- The work of a deployment, with the values of its words. -/
def deployIn [AddressRule] (contract : String) (values : List Json) (context : Context) :
    Flow Ending := do
  let account ← Flow.lift (sender context)
  let address ← Gate.deployRaw contract (values.map .value) context.network.name account
  pure (done [contract ++ " deployed at " ++ address.text])

/-- A deployment starts from the values of its words. -/
theorem startsFrom_deploy [AddressRule] (deploys : invocation.command = .deploy contract words) :
    StartsFrom invocation (words.mapM Argument.ofWord) (deployIn contract) := by
  rintro context rfl
  rw [carryOut, deploys]
  rfl

/-- **Constructor arguments.** Every word stands for one value. Where no word is refused, a
deployment comes to its work with the values that its words stand for, in their order. Else it
refuses the first word that is to be refused. -/
theorem arguments_converted [AddressRule] (deploys : invocation.command = .deploy contract words) :
    (∀ word ∈ words, ∃! value, StandsFor word value) ∧
    ((∀ word ∈ words, ¬ Refused word) → ∃ values, List.Forall₂ StandsFor words values ∧
      ComesTo invocation environment (deployIn contract values)) ∧
    ∀ front word rest, words = front ++ word :: rest → (∀ other ∈ front, ¬ Refused other) →
      Refused word → Refuses invocation environment (.value (.badNumeral 10 word)) := by
  refine ⟨fun word _ => Argument.existsUnique_standsFor word, fun taken => ?_, ?_⟩
  · obtain ⟨values, read, stand⟩ := Argument.exists_mapM_ofWord taken
    exact ⟨values, stand, (startsFrom_deploy deploys).comesTo read⟩
  · rintro front word rest rfl taken refused
    obtain ⟨values, read, -⟩ := Argument.exists_mapM_ofWord taken
    have failed : (front ++ word :: rest).mapM Argument.ofWord =
        .error (.value (.badNumeral 10 word)) :=
      mapM_eq_error_iff.2 ⟨front, word, rest, values, rfl, mapM_eq_ok_iff.1 read,
        Argument.ofWord_of_refused refused⟩
    exact (startsFrom_deploy deploys).refuses failed rfl

/-- A deployment with a truth value in capitals, a number in Arabic digits and a text; and one with
a superscript, which is refused. -/
theorem arguments_converted_superscript :
    (∃ values, List.Forall₂ StandsFor ["TRUE", "٤٢", "0x7"] values ∧
      ComesTo { preparedInvocation with command := .deploy "Token" ["TRUE", "٤٢", "0x7"] }
        bareEnvironment (deployIn "Token" values)) ∧
    Refuses { preparedInvocation with command := .deploy "Token" ["7", "²"] } bareEnvironment
      (.value (.badNumeral 10 "²")) := by
  have read := @arguments_converted
    { preparedInvocation with command := .deploy "Token" ["TRUE", "٤٢", "0x7"] } bareEnvironment
    "Token" ["TRUE", "٤٢", "0x7"] _ rfl
  have refused := @arguments_converted
    { preparedInvocation with command := .deploy "Token" ["7", "²"] } bareEnvironment "Token"
    ["7", "²"] _ rfl
  exact ⟨read.2.1 (by decide +kernel),
    refused.2.2 ["7"] "²" [] rfl (by decide +kernel) (by decide +kernel)⟩

end Command

end UpgradeGate
