/-!
# Blank characters

Two sets of blank characters are in use. A *space* is a character with the Unicode property
`White_Space`; a *blank* is a space or one of the four information separators `U+001C` to `U+001F`.
Labels, type names and tool output are trimmed of blanks; a number that arrives as text is trimmed
of spaces only.

Main statements: what is left after dropping at the right end does not end in a dropped character
(`getLast?_dropRight`). A text that neither starts nor ends in a dropped character is kept
(`trimBy_eq_self`), and so is what stands in front of a character that is not dropped
(`dropRight_append_cons`).
-/

namespace UpgradeGate.Text

/-- A character with the Unicode property `White_Space`. -/
def isSpace (c : Char) : Bool :=
  let n := c.toNat
  (9 ≤ n && n ≤ 13) || n == 0x20 || n == 0x85 || n == 0xA0 || n == 0x1680 ||
    (0x2000 ≤ n && n ≤ 0x200A) || n == 0x2028 || n == 0x2029 || n == 0x202F || n == 0x205F ||
    n == 0x3000

/-- A space, or an information separator. -/
def isBlank (c : Char) : Bool :=
  isSpace c || (0x1C ≤ c.toNat && c.toNat ≤ 0x1F)

/-- Drop the longest run at the right end whose characters satisfy `p`. -/
def dropRight (p : Char → Bool) : List Char → List Char
  | [] => []
  | c :: rest =>
    match dropRight p rest with
    | [] => if p c then [] else [c]
    | kept => c :: kept

/-- Drop the characters satisfying `p` from both ends. -/
def trimBy (p : Char → Bool) (text : List Char) : List Char :=
  dropRight p (text.dropWhile p)

/-- Drop the blanks at both ends. -/
def trim (text : List Char) : List Char := trimBy isBlank text

/-- Drop the blanks at the right end. -/
def trimRight (text : String) : String := String.ofList (dropRight isBlank text.toList)

/-- Drop the blanks at both ends of a string. -/
def trimmed (text : String) : String := String.ofList (trim text.toList)

/-- A list that is empty or ends in a character outside `p` loses nothing at its right end. -/
theorem dropRight_eq_self {p : Char → Bool} {text : List Char}
    (last : ∀ c, text.getLast? = some c → p c = false) : dropRight p text = text := by
  induction text with
  | nil => rfl
  | cons c rest ih =>
    cases rest with
    | nil =>
      have kept : p c = false := last c rfl
      simp [dropRight, kept]
    | cons d more =>
      have inner := ih (fun e h => last e (by simpa using h))
      simp [dropRight] at inner ⊢
      rw [inner]

/-- A text whose first and last character lie outside `p` loses nothing. -/
theorem trimBy_eq_self {p : Char → Bool} {text : List Char}
    (first : ∀ c ∈ text.head?, p c = false) (last : ∀ c, text.getLast? = some c → p c = false) :
    trimBy p text = text := by
  have kept : text.dropWhile p = text := by
    cases text with
    | nil => rfl
    | cons c rest => rw [List.dropWhile_cons_of_neg (by simp [first c rfl])]
  rw [trimBy, kept, dropRight_eq_self last]

/-- What is left ends in a character outside `p`. -/
theorem getLast?_dropRight {p : Char → Bool} (text : List Char) :
    ∀ c, (dropRight p text).getLast? = some c → p c = false := by
  induction text with
  | nil => intro c h; simp [dropRight] at h
  | cons a rest ih =>
    intro c h
    unfold dropRight at h
    split at h
    · split at h
      · simp at h
      · simp only [List.getLast?_singleton, Option.some.injEq] at h
        subst h
        simp_all
    · rename_i kept hne
      cases hk : dropRight p rest with
      | nil => exact absurd hk hne
      | cons d more =>
        apply ih c
        rw [hk] at h ⊢
        rwa [List.getLast?_cons_cons] at h

/-- What stands in front of a character that is not dropped is kept. -/
theorem dropRight_append_cons {p : Char → Bool} {c : Char} (solid : p c = false)
    (front back : List Char) :
    dropRight p (front ++ c :: back) = front ++ c :: dropRight p back := by
  induction front with
  | nil =>
    rw [List.nil_append, dropRight]
    split
    · next nothing => rw [nothing, if_neg (by simp [solid]), List.nil_append]
    · rfl
  | cons d front ih =>
    rw [List.cons_append, dropRight, ih]
    cases front <;> rfl

/-- Nothing is dropped before the last character that stays. -/
theorem dropRight_append_of_all {p : Char → Bool} {front : List Char}
    (solid : ∀ c ∈ front, p c = false) (back : List Char) :
    dropRight p (front ++ back) = front ++ dropRight p back := by
  induction front with
  | nil => rfl
  | cons c front ih =>
    obtain ⟨here, further⟩ := List.forall_mem_cons.1 solid
    have step := dropRight_append_cons here [] (front ++ back)
    rw [List.nil_append, List.nil_append] at step
    rw [List.cons_append, step, ih further, List.cons_append]

end UpgradeGate.Text
