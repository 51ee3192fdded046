import Mathlib.Data.Bool.AllAny
import Mathlib.Data.List.Forall2

/-!
# Letter case

Letters have two cases, and only ASCII letters are changed from one to the other. So what a lower
case letter may be written as is a matter of the ASCII characters (`Text.toLower_eq_iff`), and a
text that reads as a word of small letters has these letters, each in either case
(`Text.toLower_eq_iff_inAnyCase`).
-/

namespace UpgradeGate.Text

variable {c letter : Char} {text letters : List Char}

/-- What holds of all code points of ASCII holds of all its characters. -/
theorem forall_ascii {p : Char → Prop} (table : ∀ code < 128, p (Char.ofNat code)) (c : Char)
    (ascii : c.toNat < 128) : p c := by
  have entry := table c.toNat ascii
  rwa [Char.ofNat_toNat] at entry

/-- Other characters are in no case. -/
theorem toLower_of_not_ascii (other : ¬ c.toNat < 128) : c.toLower = c := by
  unfold Char.toLower
  split
  · next upper =>
    have high : c.toNat ≤ 90 := UInt32.le_iff_toNat_le.1 upper.2
    omega
  · rfl

/-- What is ASCII in lower case was ASCII. -/
theorem ascii_of_toLower (lower : c.toLower.toNat < 128) : c.toNat < 128 := by
  by_contra other
  rw [toLower_of_not_ascii other] at lower
  exact other lower

/-- The small letters. -/
def smallLetters : List Char := "abcdefghijklmnopqrstuvwxyz".toList

/-- A text has these letters, each in either case. -/
def InAnyCase (text letters : List Char) : Prop :=
  List.Forall₂ (fun c letter => c = letter ∨ c = letter.toUpper) text letters

/-- A small letter comes of itself and of the large one. -/
theorem toLower_eq_iff (small : letter ∈ smallLetters) :
    c.toLower = letter ↔ c = letter ∨ c = letter.toUpper := by
  have ascii : ∀ letter ∈ smallLetters, letter.toNat < 128 ∧ letter.toUpper.toNat < 128 :=
    List.all_iff_forall_prop.1 (by decide)
  have table : ∀ code < 128, smallLetters.all fun letter => decide
      ((Char.ofNat code).toLower = letter ↔
        Char.ofNat code = letter ∨ Char.ofNat code = letter.toUpper) := by
    decide +kernel
  have known : ∀ c : Char, c.toNat < 128 → ∀ letter ∈ smallLetters,
      (c.toLower = letter ↔ c = letter ∨ c = letter.toUpper) :=
    forall_ascii fun code bound => List.all_iff_forall_prop.1 (table code bound)
  obtain ⟨own, upper⟩ := ascii letter small
  constructor
  · rintro rfl
    exact (known c (ascii_of_toLower own) _ small).1 rfl
  · rintro (rfl | rfl)
    · exact (known _ own _ small).2 (.inl rfl)
    · exact (known _ upper _ small).2 (.inr rfl)

/-- A text in lower case is a word where it spells it in any letter case. -/
theorem map_toLower_eq_iff (small : ∀ letter ∈ letters, letter ∈ smallLetters) :
    text.map Char.toLower = letters ↔ InAnyCase text letters := by
  unfold InAnyCase
  induction letters generalizing text with
  | nil => simp
  | cons letter letters ih =>
    obtain ⟨here, further⟩ := List.forall_mem_cons.1 small
    cases text with
    | nil => simp
    | cons c rest =>
      rw [List.map_cons, List.cons.injEq, ih further, toLower_eq_iff here, List.forall₂_cons]

/-- **A word in any letter case** has the letters of its lower case. -/
theorem toLower_eq_iff_inAnyCase {word name : String}
    (small : ∀ letter ∈ name.toList, letter ∈ smallLetters) :
    word.toLower = name ↔ InAnyCase word.toList name.toList := by
  have letters : word.toLower.toList = word.toList.map Char.toLower := String.toList_map
  rw [← map_toLower_eq_iff small, ← String.toList_inj, letters]

end UpgradeGate.Text
