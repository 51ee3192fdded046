import UpgradeGate.Proofs.Layout.TypeTree

/-!
# Type names with numbers put in

Numbers may be put into a text behind any of the declared types in it, wherever these stand and
whatever else the text consists of (`TypeName.Numbering`). The normal name stays the same
(`TypeName.Numbering.normalize_eq`).

The argument goes from one closing parenthesis to the next. What is dropped behind the first one is
told by what stands in front of it (`TypeName.withoutNumbers_first`), where nothing was put in.
-/

namespace UpgradeGate.TypeName

open Text

/-- A text and the same text with numbers put in behind some of its declared types. -/
inductive Numbering : List Char → List Char → Prop
  | nil : Numbering [] []
  | keep (c : Char) {text numbered : List Char} (rest : Numbering text numbered) :
    Numbering (c :: text) (c :: numbered)
  | number {stem text numbered : List Char} (declared : IsDeclared stem) (number : Numeral)
    (rest : Numbering text numbered) :
    Numbering (stem ++ ')' :: text) (stem ++ ')' :: (number.chars ++ numbered))

/-- A declared type ends at the end of a text, but for its closing parenthesis. -/
def EndsDeclared (front : List Char) : Prop := ∃ stem, stem <:+ front ∧ IsDeclared stem

variable {text numbered front back : List Char} {c : Char}

/-- A declared type is not empty. -/
theorem IsDeclared.ne_nil (declared : IsDeclared text) : text ≠ [] := by
  rintro rfl
  cases declared.head? []

theorem not_endsDeclared_nil : ¬ EndsDeclared [] := by
  rintro ⟨stem, suffix, declared⟩
  exact declared.ne_nil (List.suffix_nil.1 suffix)

/-- A declared type ends a text that it makes up, or whose rest it ends. -/
theorem endsDeclared_cons :
    EndsDeclared (c :: front) ↔ IsDeclared (c :: front) ∨ EndsDeclared front := by
  constructor
  · rintro ⟨stem, suffix, declared⟩
    rcases List.suffix_cons_iff.1 suffix with rfl | further
    · exact .inl declared
    · exact .inr ⟨stem, further, declared⟩
  · rintro (declared | ⟨stem, suffix, declared⟩)
    · exact ⟨_, List.suffix_refl _, declared⟩
    · exact ⟨stem, suffix.trans (List.suffix_cons c front), declared⟩

/-- No digits are dropped where none are in front. -/
theorem dropWhile_of_not_startsDigit (plain : ¬ StartsDigit text) :
    text.dropWhile isDecimalDigit = text := by
  cases text with
  | nil => rfl
  | cons c rest => exact List.dropWhile_cons_of_neg fun digit => plain ⟨c, rfl, digit⟩

/-- Behind the first closing parenthesis digits are dropped if a declared type ends there, and the
rest is scanned on its own. -/
theorem withoutNumbers_first (first : ')' ∉ front) :
    (EndsDeclared front → withoutNumbers (front ++ ')' :: back) =
      front ++ ')' :: withoutNumbers (back.dropWhile isDecimalDigit)) ∧
    (¬ EndsDeclared front → withoutNumbers (front ++ ')' :: back) =
      front ++ ')' :: withoutNumbers back) := by
  induction front with
  | nil =>
    refine ⟨fun ends => absurd ends not_endsDeclared_nil, fun _ => ?_⟩
    rw [List.nil_append, withoutNumbers_cons (numbered?_closing back), List.nil_append]
  | cons c front ih =>
    obtain ⟨dropped, kept⟩ := ih fun member => first (List.mem_cons_of_mem c member)
    by_cases whole : IsDeclared (c :: front) ∧ StartsDigit back
    · obtain ⟨declared, digit⟩ := whole
      have found := numbered?_eq_some_iff.2 ⟨_, back, declared, rfl, digit, rfl, rfl⟩
      refine ⟨fun _ => ?_, fun plain => absurd (endsDeclared_cons.2 (.inl declared)) plain⟩
      rw [withoutNumbers_of_numbered found, List.append_assoc, List.singleton_append]
    · have step : withoutNumbers (c :: front ++ ')' :: back) =
          c :: withoutNumbers (front ++ ')' :: back) :=
        withoutNumbers_cons (numbered?_closing_eq_none first whole)
      refine ⟨fun ends => ?_, fun plain => ?_⟩
      · by_cases ends' : EndsDeclared front
        · rw [step, dropped ends', List.cons_append]
        · -- the whole front is declared, so no digit follows it
          have declared := (endsDeclared_cons.1 ends).resolve_right ends'
          have undigited : ¬ StartsDigit back := fun digit => whole ⟨declared, digit⟩
          rw [step, kept ends', dropWhile_of_not_startsDigit undigited, List.cons_append]
      · rw [step, kept fun ends => plain (endsDeclared_cons.2 (.inr ends)), List.cons_append]

/-! ## Where numbers were put in -/

namespace Numbering

/-- A text is a numbering of itself. -/
theorem refl (text : List Char) : Numbering text text := by
  induction text with
  | nil => exact nil
  | cons c rest ih => exact keep c ih

/-- A numbering may stand behind anything. -/
theorem append (front : List Char) (rest : Numbering text numbered) :
    Numbering (front ++ text) (front ++ numbered) := by
  induction front with
  | nil => exact rest
  | cons c front ih => exact keep c ih

/-- Nothing is put into a text without a closing parenthesis. -/
theorem eq_of_not_mem (numbering : Numbering text numbered) (absent : ')' ∉ text) :
    numbered = text := by
  induction numbering with
  | nil => rfl
  | keep c _ ih => rw [ih fun member => absent (List.mem_cons_of_mem c member)]
  | number => exact absurd (List.mem_append_right _ List.mem_cons_self) absent

/-- What is put in at the first closing parenthesis is a number behind a declared type. -/
theorem exists_of_closing (numbering : Numbering (front ++ ')' :: back) numbered)
    (first : ')' ∉ front) : ∃ digits rest, numbered = front ++ ')' :: (digits ++ rest) ∧
      Numbering back rest ∧ (∀ c ∈ digits, Char.isDigit c = true) ∧
      (digits = [] ∨ EndsDeclared front) := by
  generalize whole : front ++ ')' :: back = text at numbering
  induction numbering generalizing front with
  | nil => simp at whole
  | @keep c text numbered rest ih =>
    cases front with
    | nil =>
      obtain ⟨rfl, rfl⟩ := List.cons.inj whole
      exact ⟨[], numbered, rfl, rest, by simp, .inl rfl⟩
    | cons d front =>
      obtain ⟨rfl, inner⟩ := List.cons.inj whole
      obtain ⟨digits, others, rfl, further, plain, ends⟩ :=
        ih (fun member => first (List.mem_cons_of_mem d member)) inner
      exact ⟨digits, others, rfl, further, plain, ends.imp_right (endsDeclared_cons.2 ∘ .inr)⟩
  | @number stem text numbered declared number rest =>
    obtain ⟨rfl, rfl⟩ := append_closing_inj first declared.not_mem whole
    exact ⟨number.chars, numbered, rfl, rest, number.plain, .inr ⟨_, List.suffix_refl _, declared⟩⟩

/-- Characters that open no declared type may be dropped in front. -/
theorem dropWhile (numbering : Numbering text numbered) {p : Char → Bool} (opens : p 't' = false) :
    Numbering (text.dropWhile p) (numbered.dropWhile p) := by
  induction numbering with
  | nil => exact nil
  | keep c rest ih =>
    rw [List.dropWhile_cons, List.dropWhile_cons]
    split
    · exact ih
    · exact keep c rest
  | @number stem text numbered declared number rest =>
    obtain ⟨word, shape⟩ := List.head?_eq_some_iff.1 (declared.head? [])
    rw [List.append_nil] at shape
    subst shape
    have stays : ∀ tail : List Char, (('t' :: word) ++ tail).dropWhile p = ('t' :: word) ++ tail :=
      fun tail => List.dropWhile_cons_of_neg (by simp [opens])
    rw [stays, stays]
    exact .number declared number rest

/-- **Numbers that were put in are dropped again.** -/
theorem withoutNumbers_eq (numbering : Numbering text numbered) :
    withoutNumbers numbered = withoutNumbers text := by
  induction size : text.length using Nat.strongRecOn generalizing text numbered with
  | _ size ih =>
    by_cases member : ')' ∈ text
    · obtain ⟨front, back, rfl, first⟩ := List.eq_append_cons_of_mem member
      obtain ⟨digits, rest, rfl, further, plain, ends⟩ := numbering.exists_of_closing first
      rw [List.length_append, List.length_cons] at size
      by_cases declared : EndsDeclared front
      · have skipped : (digits ++ rest).dropWhile isDecimalDigit = rest.dropWhile isDecimalDigit :=
          List.dropWhile_append_of_pos fun c inside => isDecimalDigit_of_isDigit (plain c inside)
        have shorter := (List.dropWhile_suffix (l := back) isDecimalDigit).length_le
        rw [(withoutNumbers_first first).1 declared, (withoutNumbers_first first).1 declared,
          skipped, ih _ (by omega) (further.dropWhile (by decide)) rfl]
      · obtain rfl := ends.resolve_right declared
        rw [List.nil_append, (withoutNumbers_first first).2 declared,
          (withoutNumbers_first first).2 declared, ih _ (by omega) further rfl]
    · rw [numbering.eq_of_not_mem member]

/-! ## Trimming -/

/-- Numbering makes no text of nothing. -/
theorem eq_nil_iff (numbering : Numbering text numbered) : numbered = [] ↔ text = [] := by
  cases numbering with
  | nil => rfl
  | keep => simp
  | number => simp

theorem dropRight (numbering : Numbering text numbered) :
    Numbering (dropRight isBlank text) (dropRight isBlank numbered) := by
  induction numbering with
  | nil => exact nil
  | @keep c text numbered rest ih =>
    have empty := ih.eq_nil_iff
    rw [Text.dropRight, Text.dropRight]
    cases left : Text.dropRight isBlank text with
    | nil =>
      rw [empty.2 left]
      exact refl _
    | cons d kept =>
      cases right : Text.dropRight isBlank numbered with
      | nil =>
        rw [empty.1 right] at left
        cases left
      | cons e kept' =>
        rw [left, right] at ih
        exact keep c ih
  | @number stem text numbered declared number rest ih =>
    have solid : ∀ c ∈ number.chars, isBlank c = false := fun c member =>
      isBlank_of_isGraphic (isGraphic_of_isDigit (number.plain c member))
    rw [dropRight_append_cons (by decide), dropRight_append_cons (by decide),
      dropRight_append_of_all solid]
    exact .number declared number ih

theorem trim (numbering : Numbering text numbered) :
    Numbering (trim text) (trim numbered) :=
  (numbering.dropWhile (by decide)).dropRight

/-- **A type has one normal name**, whatever numbers are put into it. -/
theorem normalize_eq {name name' : String} (numbering : Numbering name.toList name'.toList) :
    normalize name' = normalize name := by
  rw [normalize, normalize, numbering.trim.withoutNumbers_eq]

/-- Numbering does not change whether a name is empty. -/
theorem isEmpty_eq {name name' : String} (numbering : Numbering name.toList name'.toList) :
    name'.isEmpty = name.isEmpty := by
  have same := numbering.eq_nil_iff
  rw [Bool.eq_iff_iff, String.isEmpty_iff, String.isEmpty_iff, ← String.toList_eq_nil_iff, same,
    String.toList_eq_nil_iff]

end Numbering

end UpgradeGate.TypeName
