import UpgradeGate.Proofs.Layout.TypeName

/-!
# What normal type names are

A type name is normal if it has no blank at either end and no declared type in it is followed by a
digit (`TypeName.IsNormal`). Normalising takes away blanks at the ends and digits behind declared
types, and nothing else (`TypeName.Sheds`); what is left is normal, and normal names are those that
stay as they are (`TypeName.normal_form`). So a layout that is read again keeps its type names.
-/

namespace UpgradeGate

/-- What is dropped at the right end are characters of the kind that is dropped. -/
theorem Text.exists_dropRight_append (p : Char → Bool) (text : List Char) :
    ∃ tail, text = dropRight p text ++ tail ∧ ∀ c ∈ tail, p c = true := by
  induction text with
  | nil => exact ⟨[], rfl, fun _ absent => absurd absent List.not_mem_nil⟩
  | cons c rest ih =>
    obtain ⟨tail, split, dropped⟩ := ih
    rw [dropRight]
    cases kept : dropRight p rest with
    | cons d more =>
      rw [kept] at split
      exact ⟨tail, congrArg (c :: ·) split, dropped⟩
    | nil =>
      rw [kept, List.nil_append] at split
      subst split
      cases last : p c with
      | true => exact ⟨c :: rest, by simp, List.forall_mem_cons.2 ⟨last, dropped⟩⟩
      | false => exact ⟨rest, by simp, dropped⟩

/-- A text is what is left of it when it is trimmed, with blanks around. -/
theorem Text.exists_trim_append (text : List Char) :
    ∃ head tail, text = head ++ (trim text ++ tail) ∧ (∀ c ∈ head, isBlank c = true) ∧
      ∀ c ∈ tail, isBlank c = true := by
  obtain ⟨tail, split, dropped⟩ := exists_dropRight_append isBlank (text.dropWhile isBlank)
  refine ⟨text.takeWhile isBlank, tail, ?_, fun c member => ?_, dropped⟩
  · rw [trim, trimBy, ← split, List.takeWhile_append_dropWhile]
  · exact List.all_eq_true.1 List.all_takeWhile c member

namespace TypeName

open Text

variable {text kept : List Char}

/-- **A normal name**: no blank at either end, and no digit behind a declared type. -/
structure IsNormal (name : List Char) : Prop where
  first : ∀ c ∈ name.head?, isBlank c = false
  last : ∀ c ∈ name.getLast?, isBlank c = false
  undigited : ∀ front stem digit back, IsDeclared stem → isDecimalDigit digit = true →
    name ≠ front ++ (stem ++ ')' :: digit :: back)

/-- A text, and what is left of it when digits are taken away behind declared types. -/
inductive Sheds : List Char → List Char → Prop
  | nil : Sheds [] []
  | keep (c : Char) {text kept : List Char} (rest : Sheds text kept) :
    Sheds (c :: text) (c :: kept)
  | number {stem digits text kept : List Char} (declared : IsDeclared stem)
    (digits_decimal : ∀ c ∈ digits, isDecimalDigit c = true) (rest : Sheds text kept) :
    Sheds (stem ++ ')' :: (digits ++ text)) (stem ++ ')' :: kept)

/-- Numbers that are dropped are digits behind declared types. -/
theorem sheds_withoutNumbers (text : List Char) : Sheds text (withoutNumbers text) := by
  induction text using withoutNumbers.induct with
  | case1 text named rest found ih =>
    obtain ⟨stem, tail, declared, rfl, -, rfl, rfl⟩ := numbered?_eq_some_iff.1 found
    rw [withoutNumbers_of_numbered found, List.append_assoc, List.singleton_append]
    have digits : ∀ c ∈ tail.takeWhile isDecimalDigit, isDecimalDigit c = true :=
      fun c member => List.all_eq_true.1 List.all_takeWhile c member
    have shed := Sheds.number declared digits ih
    rwa [List.takeWhile_append_dropWhile] at shed
  | case2 => rw [withoutNumbers_nil]; exact .nil
  | case3 c rest found ih => rw [withoutNumbers_cons found]; exact .keep c ih

/-- No declared type has a number exactly where no digit stands behind one. -/
theorem numberless_iff : Numberless text ↔ ∀ front stem digit back, IsDeclared stem →
    isDecimalDigit digit = true → text ≠ front ++ (stem ++ ')' :: digit :: back) := by
  constructor
  · rintro numberless front stem digit back declared decimal rfl
    have found := numbered?_eq_some_iff.2
      ⟨stem, digit :: back, declared, rfl, ⟨digit, rfl, decimal⟩, rfl, rfl⟩
    rw [numberless _ (List.suffix_append front _)] at found
    cases found
  · rintro undigited tail ⟨front, rfl⟩
    cases found : numbered? tail with
    | none => rfl
    | some result =>
      obtain ⟨stem, behind, declared, rfl, ⟨digit, first, decimal⟩, -⟩ :=
        numbered?_eq_some_iff.1 found
      obtain ⟨back, rfl⟩ := List.head?_eq_some_iff.1 first
      exact absurd rfl (undigited front stem digit back declared decimal)

/-- Dropping numbers leaves no blank at either end where there was none. -/
theorem isNormal_withoutNumbers (first : ∀ c ∈ text.head?, isBlank c = false)
    (last : ∀ c ∈ text.getLast?, isBlank c = false) : IsNormal (withoutNumbers text) where
  first := by rwa [head?_withoutNumbers]
  last c ends := by
    rcases getLast?_withoutNumbers text ends with own | rfl
    · exact last c own
    · decide
  undigited := numberless_iff.1 (numberless_withoutNumbers text)

theorem isNormal_normalize (name : String) : IsNormal (normalize name).toList := by
  rw [normalize, String.toList_ofList]
  exact isNormal_withoutNumbers (head?_trim _) (getLast?_dropRight _)

/-- A normal name is kept as it is. -/
theorem IsNormal.normalize_eq {name : String} (normal : IsNormal name.toList) :
    normalize name = name := by
  have trimmed : trim name.toList = name.toList := trimBy_eq_self normal.first normal.last
  rw [normalize, trimmed, withoutNumbers_of_numberless (numberless_iff.2 normal.undigited),
    String.ofList_toList]

/-- **Normal forms.** Of a name, blanks at the ends and digits behind declared types are taken away,
and what is left is normal. Normal names are those that stay as they are, so normalising a second
time changes nothing. -/
theorem normal_form (name : String) :
    IsNormal (normalize name).toList ∧
    (∃ head body tail, name.toList = head ++ (body ++ tail) ∧ (∀ c ∈ head, isBlank c = true) ∧
      (∀ c ∈ tail, isBlank c = true) ∧ Sheds body (normalize name).toList) ∧
    (normalize name = name ↔ IsNormal name.toList) ∧
    normalize (normalize name) = normalize name := by
  have normal := isNormal_normalize name
  refine ⟨normal, ?_, ⟨fun same => same ▸ normal, IsNormal.normalize_eq⟩, normal.normalize_eq⟩
  obtain ⟨head, tail, split, before, behind⟩ := exists_trim_append name.toList
  refine ⟨head, trim name.toList, tail, split, before, behind, ?_⟩
  rw [normalize, String.toList_ofList]
  exact sheds_withoutNumbers _

end TypeName

end UpgradeGate
