/-!
# Scanning

Taking known words off the front of a text. Main statement: a word and what is behind it make up
the text (`behind?_eq_some_iff`).
-/

namespace UpgradeGate.Text

/-- The text behind a word that it starts with. -/
def behind? : (word text : List Char) → Option (List Char)
  | [], text => some text
  | _ :: _, [] => none
  | w :: word, c :: text => if w = c then behind? word text else none

/-- What stands behind a word that a text starts with. -/
theorem behind?_eq_some_iff {word text rest : List Char} :
    behind? word text = some rest ↔ text = word ++ rest := by
  induction word generalizing text with
  | nil => simp [behind?]
  | cons w word ih =>
    cases text with
    | nil => simp [behind?]
    | cons c text =>
      by_cases same : w = c
      · subst same
        simpa [behind?] using ih
      · simp [behind?, same, Ne.symm same]

end UpgradeGate.Text
