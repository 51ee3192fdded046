import Mathlib.Data.List.Forall2
import Mathlib.Data.List.TakeWhile
import UpgradeGate.Number.Literal
import UpgradeGate.Proofs.Json.Tokens

/-!
# Numerals that are read as their numbers

A numeral consists of the digits of its number in a base, in either case and possibly behind zeros
(`Literal.IsNumeral`). Its digits are read one by one (`Literal.digits_of_isNumeral`), so a numeral
in base ten is read as its number (`Literal.plain?_of_isNumeral`). One that shows its base by a tag
is read as its number too, and so is a decimal one without zeros in front
(`Literal.tagged?_of_spells`). A decimal numeral is too long when it has more characters than
digits may be read (`Literal.excess?_eq_none_iff`); one behind a tag never is.
-/

namespace UpgradeGate.Literal

open Text

/-! ## Digits -/

/-- The number that digits make up, the first one being worth the most. -/
def valueOf (base : Nat) (values : List Nat) : Nat :=
  values.foldl (fun total value => base * total + value) 0

/-- The digit of a value, in either case. -/
def IsDigitOf (c : Char) (value : Nat) : Prop :=
  c = Nat.digitChar value ∨ c = (Nat.digitChar value).toUpper

/-- A character that is read as it stands: no space, no sign, no underscore, and no digit of another
script. -/
def isPlain (c : Char) : Bool :=
  !isSpace c && c != '-' && c != '+' && c != '_' && asciiDigits [c] == [c]

/-- The characters of digits are plain, in either letter case. -/
theorem isPlain_digitChar : ∀ value < 16,
    isPlain (Nat.digitChar value) = true ∧ isPlain (Nat.digitChar value).toUpper = true := by
  decide

/-- The characters of digits are read, in either letter case. -/
theorem digit?_digitChar : ∀ value < 16, digit? 16 (Nat.digitChar value) = some value ∧
    digit? 16 (Nat.digitChar value).toUpper = some value := by
  decide

variable {base n : Nat} {c : Char} {text : List Char} {values : List Nat}

/-- What is a digit in base sixteen is one in every base above its value. -/
theorem digit?_of_lt {value : Nat} (read : digit? 16 c = some value) (small : value < base) :
    digit? base c = some value := by
  unfold digit? at read ⊢
  obtain ⟨known, -⟩ := Option.filter_eq_some_iff.1 read
  rw [Option.filter_eq_some_iff]
  exact ⟨known, decide_eq_true small⟩

/-- A digit is read in every base that has it. -/
theorem IsDigitOf.read {value : Nat} (digit : IsDigitOf c value) (small : value < base)
    (known : base ≤ 16) : digit? base c = some value := by
  obtain ⟨lower, upper⟩ := digit?_digitChar value (Nat.lt_of_lt_of_le small known)
  rcases digit with rfl | rfl
  · exact digit?_of_lt lower small
  · exact digit?_of_lt upper small

/-- A digit is a plain character. -/
theorem IsDigitOf.plain {value : Nat} (digit : IsDigitOf c value) (small : value < 16) :
    isPlain c = true := by
  obtain ⟨lower, upper⟩ := isPlain_digitChar value small
  rcases digit with rfl | rfl
  · exact lower
  · exact upper

/-- A digit that stands without an underscore. -/
theorem moreDigits_cons {digit : Char → Option Nat} {total : Nat} {rest : List Char}
    (alone : c ≠ '_') : moreDigits digit base total (c :: rest) =
      (digit c).bind fun value => moreDigits digit base (base * total + value) rest := by
  rw [moreDigits]
  · rfl
  · exact fun _ _ same => absurd same alone

/-- Digits without underscores are read one by one. -/
theorem moreDigits_eq {digit : Char → Option Nat} (total : Nat)
    (read : List.Forall₂ (fun c value => digit c = some value) text values)
    (plain : ∀ c ∈ text, c ≠ '_') :
    moreDigits digit base total text =
      some (values.foldl (fun total value => base * total + value) total) := by
  induction read generalizing total with
  | nil => rfl
  | @cons c value text values first _ ih =>
    obtain ⟨alone, further⟩ := List.forall_mem_cons.1 plain
    rw [moreDigits_cons alone, first, Option.bind_some, ih _ further]
    rfl

/-- Digits without underscores are read as their value. -/
theorem digits_eq {digit : Char → Option Nat} (filled : text ≠ [])
    (read : List.Forall₂ (fun c value => digit c = some value) text values)
    (plain : ∀ c ∈ text, c ≠ '_') :
    digits digit base text = some (valueOf base values) := by
  cases read with
  | nil => exact absurd rfl filled
  | @cons c value text values first others =>
    obtain ⟨-, further⟩ := List.forall_mem_cons.1 plain
    change ((digit c).bind fun value => moreDigits digit base value text) = _
    rw [first, Option.bind_some, moreDigits_eq value others further, valueOf, List.foldl_cons,
      Nat.mul_zero, Nat.zero_add]

/-! ## Numerals -/

/-- The digits of a number in a base, in either case and possibly behind zeros. -/
def IsNumeral (base n : Nat) (text : List Char) : Prop :=
  ∃ zeros, List.Forall₂ (fun c digit => c = digit ∨ c = Char.toUpper digit) text
    (List.replicate zeros '0' ++ Nat.toDigits base n)

/-- A natural number is written as a numeral. -/
theorem isNumeral_natural (n : Nat) : IsNumeral 10 n (natural n) :=
  ⟨0, List.forall₂_same.2 fun _ _ => .inl rfl⟩

/-- The digits of a number have values that make it up. -/
theorem exists_values_toDigits (large : 1 < base) (n : Nat) :
    ∃ values, Nat.toDigits base n = values.map Nat.digitChar ∧ (∀ value ∈ values, value < base) ∧
      valueOf base values = n := by
  induction n using Nat.strongRecOn with
  | _ n ih =>
    by_cases small : n < base
    · refine ⟨[n], Nat.toDigits_of_lt_base small, ?_, ?_⟩
      · intro value member
        rwa [List.mem_singleton.1 member]
      · simp [valueOf]
    · have least : base ≤ n := Nat.not_lt.1 small
      obtain ⟨values, front, bounded, made⟩ :=
        ih (n / base) (Nat.div_lt_self (by omega) large)
      refine ⟨values ++ [n % base], ?_, ?_, ?_⟩
      · rw [Nat.toDigits_of_base_le large least, front, List.map_append, List.map_singleton]
      · intro value member
        rcases List.mem_append.1 member with early | last
        · exact bounded value early
        · rw [List.mem_singleton.1 last]
          exact Nat.mod_lt n (by omega)
      · rw [valueOf] at made
        rw [valueOf, List.foldl_append, made, List.foldl_cons, List.foldl_nil]
        exact Nat.div_add_mod n base

/-- Zeros in front do not count. -/
theorem valueOf_zeros (zeros : Nat) (values : List Nat) :
    valueOf base (List.replicate zeros 0 ++ values) = valueOf base values := by
  induction zeros with
  | zero => rfl
  | succ zeros ih =>
    rw [List.replicate_succ, List.cons_append, valueOf, List.foldl_cons, Nat.mul_zero]
    exact ih

/-- A numeral consists of digits whose values make up its number. -/
theorem IsNumeral.exists_values (numeral : IsNumeral base n text) (large : 1 < base) :
    ∃ values, List.Forall₂ IsDigitOf text values ∧ (∀ value ∈ values, value < base) ∧
      valueOf base values = n ∧ values ≠ [] := by
  obtain ⟨zeros, spelled⟩ := numeral
  obtain ⟨values, digits, bounded, made⟩ := exists_values_toDigits large n
  have filled : values ≠ [] := by
    rintro rfl
    exact Nat.toDigits_ne_nil digits
  have zero : List.replicate zeros '0' = (List.replicate zeros 0).map Nat.digitChar := by
    rw [List.map_replicate]
    rfl
  rw [zero, digits, ← List.map_append, List.forall₂_map_right_iff] at spelled
  refine ⟨List.replicate zeros 0 ++ values, spelled, ?_, ?_, ?_⟩
  · intro value member
    rcases List.mem_append.1 member with padding | own
    · rw [List.eq_of_mem_replicate padding]
      omega
    · exact bounded value own
  · rw [valueOf_zeros, made]
  · simp [filled]

theorem isPlain_of_digits (digits : List.Forall₂ IsDigitOf text values)
    (bounded : ∀ value ∈ values, value < 16) : ∀ c ∈ text, isPlain c = true := by
  induction digits with
  | nil => exact fun _ absent => absurd absent List.not_mem_nil
  | cons first _ ih =>
    obtain ⟨small, others⟩ := List.forall_mem_cons.1 bounded
    exact List.forall_mem_cons.2 ⟨first.plain small, ih others⟩

/-- Digits are read, each as its value. -/
theorem read_of_digits (known : base ≤ 16) (digits : List.Forall₂ IsDigitOf text values)
    (bounded : ∀ value ∈ values, value < base) :
    List.Forall₂ (fun c value => digit? base c = some value) text values := by
  induction digits with
  | nil => exact .nil
  | cons first _ ih =>
    obtain ⟨small, others⟩ := List.forall_mem_cons.1 bounded
    exact .cons (first.read small known) (ih others)

/-- A numeral starts with a digit, and no character of it means anything else. -/
theorem IsNumeral.exists_cons (numeral : IsNumeral base n text) (large : 1 < base)
    (known : base ≤ 16) : ∃ c rest, text = c :: rest ∧ ∀ d ∈ text, isPlain d = true := by
  obtain ⟨values, digits, bounded, -, filled⟩ := numeral.exists_values large
  have plain := isPlain_of_digits digits fun value member =>
    Nat.lt_of_lt_of_le (bounded value member) known
  cases digits with
  | nil => exact absurd rfl filled
  | cons => exact ⟨_, _, rfl, plain⟩

/-- A plain character is no underscore. -/
theorem ne_underscore {c : Char} (plain : isPlain c = true) : c ≠ '_' := by
  rintro rfl
  exact absurd plain (by decide)

/-- **Numerals are read as their numbers.** -/
theorem digits_of_isNumeral (numeral : IsNumeral base n text) (large : 1 < base)
    (known : base ≤ 16) : digits (digit? base) base text = some n := by
  obtain ⟨_, _, split, plain⟩ := numeral.exists_cons large known
  obtain ⟨values, spelled, bounded, rfl, -⟩ := numeral.exists_values large
  have filled : text ≠ [] := split ▸ List.cons_ne_nil _ _
  exact digits_eq filled (read_of_digits known spelled bounded)
    fun c member => ne_underscore (plain c member)

/-! ## Texts of numerals -/

/-- Plain characters are kept as they are. -/
theorem asciiDigits_of_isPlain (plain : ∀ c ∈ text, isPlain c = true) :
    asciiDigits text = text := by
  induction text with
  | nil => rfl
  | cons c rest ih =>
    obtain ⟨here, further⟩ := List.forall_mem_cons.1 plain
    have same : asciiDigits [c] = [c] := by
      simp only [isPlain, Bool.and_eq_true, beq_iff_eq] at here
      exact here.2
    have split : asciiDigits (c :: rest) = asciiDigits [c] ++ asciiDigits rest := rfl
    rw [split, same, ih further, List.singleton_append]

theorem trimBy_of_isPlain (plain : ∀ c ∈ text, isPlain c = true) : trimBy isSpace text = text := by
  have solid : ∀ c ∈ text, isSpace c = false := by
    intro c member
    have here := plain c member
    simp only [isPlain, Bool.and_eq_true, Bool.not_eq_true'] at here
    exact here.1.1.1.1
  refine trimBy_eq_self (fun c first => solid c ?_) fun c last => solid c ?_
  · exact List.mem_of_mem_head? first
  · exact List.mem_of_mem_getLast? last

/-- A plain character is no sign. -/
theorem splitSign_of_isPlain {rest : List Char} (plain : isPlain c = true) :
    splitSign (c :: rest) = (false, c :: rest) := by
  simp only [isPlain, Bool.and_eq_true, bne_iff_ne] at plain
  unfold splitSign
  split <;> simp_all

/-- **Decimal numerals**, also behind zeros, are read by the plain reader. -/
theorem plain?_of_isNumeral {text : String} (numeral : IsNumeral 10 n text.toList) :
    plain? text = some (n : Int) := by
  obtain ⟨c, rest, split, plain⟩ := numeral.exists_cons (by decide) (by decide)
  have first : isPlain c = true := plain c (split ▸ List.mem_cons_self)
  rw [plain?, trimBy_of_isPlain plain, split, splitSign_of_isPlain first, ← split]
  dsimp only
  rw [digits_of_isNumeral numeral (by decide) (by decide)]
  rfl

/-- The tags of bases. -/
def tags : List (Char × Nat) := [('x', 16), ('X', 16), ('o', 8), ('O', 8), ('b', 2), ('B', 2)]

/-- A number as text: its decimal numeral without zeros in front, if that is not too long, or a
numeral behind the tag of its base. -/
inductive Spells (n : Nat) : List Char → Prop
  | decimal (short : n < digitBound) : Spells n (natural n)
  | tagged {tag : Char} {base : Nat} {text : List Char} (known : (tag, base) ∈ tags)
    (numeral : IsNumeral base n text) : Spells n ('0' :: tag :: text)

/-- The bases that have a tag are within 16, and their tags are plain. -/
theorem bounds_of_mem_tags :
    ∀ known ∈ tags, 1 < known.2 ∧ known.2 ≤ 16 ∧ isPlain known.1 = true := by
  decide

/-- A number is spelled in plain characters. -/
theorem Spells.isPlain (spells : Spells n text) : ∀ c ∈ text, isPlain c = true := by
  cases spells with
  | decimal =>
    obtain ⟨_, _, -, plain⟩ := (isNumeral_natural n).exists_cons (by decide) (by decide)
    exact plain
  | tagged known numeral =>
    obtain ⟨large, small, tag⟩ := bounds_of_mem_tags _ known
    obtain ⟨_, _, -, plain⟩ := numeral.exists_cons large small
    exact List.forall_mem_cons.2 ⟨by decide, List.forall_mem_cons.2 ⟨tag, plain⟩⟩

/-- A numeral is read behind its tag. -/
theorem taggedDigits_of_isNumeral (numeral : IsNumeral base n text) (large : 1 < base)
    (known : base ≤ 16) : taggedDigits base text = some n := by
  obtain ⟨c, rest, split, plain⟩ := numeral.exists_cons large known
  have alone : c ≠ '_' := ne_underscore (plain c (split ▸ List.mem_cons_self))
  rw [← digits_of_isNumeral numeral large known, split]
  unfold taggedDigits
  split <;> simp_all

/-- Without a zero in front there is no tag. -/
theorem taggedNatural?_of_head? (first : text.head? ≠ some '0') :
    taggedNatural? text = digits (digit? 10) 10 text := by
  unfold taggedNatural?
  split <;> first | rfl | exact absurd rfl first

/-- A natural number is read as it is written. -/
theorem taggedNatural?_natural (n : Nat) : taggedNatural? (natural n) = some n := by
  by_cases zero : (natural n).head? = some '0'
  · rw [Json.eq_zero_of_head?_natural zero]
    decide
  · rw [taggedNatural?_of_head? zero]
    exact digits_of_isNumeral (isNumeral_natural n) (by decide) (by decide)

/-- Each spelling of a number is read as the number. -/
theorem taggedNatural?_of_spells (spells : Spells n text) : taggedNatural? text = some n := by
  cases spells with
  | decimal => exact taggedNatural?_natural n
  | @tagged tag base text known numeral =>
    obtain ⟨large, small, -⟩ := bounds_of_mem_tags _ known
    have read := taggedDigits_of_isNumeral numeral large small
    simp only [tags, List.mem_cons, Prod.mk.injEq, List.not_mem_nil, or_false] at known
    rcases known with ⟨rfl, rfl⟩ | ⟨rfl, rfl⟩ | ⟨rfl, rfl⟩ | ⟨rfl, rfl⟩ | ⟨rfl, rfl⟩ | ⟨rfl, rfl⟩
    all_goals exact read

/-- **Numbers whose base is shown by a tag** are read by the reader for tags. -/
theorem tagged?_of_spells {text : String} (spells : Spells n text.toList) :
    tagged? text = some (n : Int) := by
  have plain := spells.isPlain
  have read := taggedNatural?_of_spells spells
  obtain ⟨c, rest, split⟩ : ∃ c rest, text.toList = c :: rest := by
    cases shape : text.toList with
    | nil =>
      rw [shape] at read
      cases read
    | cons c rest => exact ⟨c, rest, rfl⟩
  have first : isPlain c = true := plain c (split ▸ List.mem_cons_self)
  rw [tagged?, trimBy_of_isPlain plain, asciiDigits_of_isPlain plain, split,
    splitSign_of_isPlain first, ← split]
  dsimp only
  rw [read]
  rfl

/-! ## Lengths of numerals -/

/-- A numeral is made of digits of its base. -/
theorem IsNumeral.isSome_digit? (numeral : IsNumeral base n text) (large : 1 < base)
    (known : base ≤ 16) : ∀ c ∈ text, (digit? base c).isSome = true := by
  obtain ⟨values, digits, bounded, -, -⟩ := numeral.exists_values large
  have read := read_of_digits known digits bounded
  clear digits bounded numeral
  induction read with
  | nil => exact fun _ absent => absurd absent List.not_mem_nil
  | cons first _ ih => exact List.forall_mem_cons.2 ⟨Option.isSome_of_eq_some first, ih⟩

/-- All of a decimal numeral is counted. -/
theorem leadingDigits?_of_isNumeral (numeral : IsNumeral 10 n text) :
    leadingDigits? text = some text.length := by
  obtain ⟨_, _, -, plain⟩ := numeral.exists_cons (by decide) (by decide)
  have digit := numeral.isSome_digit? (by decide) (by decide)
  have whole : text.takeWhile (fun c => c == '_' || (digit? 10 c).isSome) = text :=
    List.takeWhile_eq_self_iff.2 fun c member => by rw [digit c member, Bool.or_true]
  have counted : text.countP (· != '_') = text.length :=
    List.countP_eq_length.2 fun c member => bne_iff_ne.2 (ne_underscore (plain c member))
  rw [leadingDigits?, whole, digits_of_isNumeral numeral (by decide) (by decide), Option.map_some,
    counted]

/-- No tag of a base is a decimal digit. -/
theorem digit?_of_tag : ∀ tag ∈ ['x', 'X', 'o', 'O', 'b', 'B'], digit? 10 tag = none := by
  have undigited : ['x', 'X', 'o', 'O', 'b', 'B'].all fun tag => (digit? 10 tag).isNone := by decide
  exact fun tag known => Option.isNone_iff_eq_none.1 (List.all_eq_true.1 undigited tag known)

/-- A decimal numeral has no tag. -/
theorem hasTag_of_isNumeral (numeral : IsNumeral 10 n text) : hasTag text = false := by
  have digit := numeral.isSome_digit? (by decide) (by decide)
  unfold hasTag
  split
  · next tag rest =>
    have second := digit tag (List.mem_cons_of_mem _ List.mem_cons_self)
    rw [Bool.eq_false_iff]
    intro known
    rw [digit?_of_tag tag (List.contains_iff_mem.1 known)] at second
    cases second
  · rfl

/-- The digits of a text are counted from its first character on where no space or sign is in
front. -/
theorem excess?_of_isPlain {text : String} (filled : text.toList ≠ [])
    (plain : ∀ c ∈ text.toList, isPlain c = true) (base : Nat) :
    excess? base text = if base == 0 && hasTag text.toList then none
      else (leadingDigits? text.toList).filter (digitLimit < ·) := by
  obtain ⟨c, rest, split⟩ := List.exists_cons_of_ne_nil filled
  have first : isPlain c = true := plain c (split ▸ List.mem_cons_self)
  rw [excess?, trimBy_of_isPlain plain, asciiDigits_of_isPlain plain, split,
    splitSign_of_isPlain first]

/-- **Decimal numerals are counted in full**, in base ten and where a tag could show the base. -/
theorem excess?_of_isNumeral {text : String} (numeral : IsNumeral 10 n text.toList)
    (base : Nat) : excess? base text = (some text.length).filter (digitLimit < ·) := by
  obtain ⟨_, _, split, plain⟩ := numeral.exists_cons (by decide) (by decide)
  rw [excess?_of_isPlain (split ▸ List.cons_ne_nil _ _) plain, hasTag_of_isNumeral numeral,
    Bool.and_false, leadingDigits?_of_isNumeral numeral, String.length_toList]
  rfl

/-- A decimal numeral may be read where it has no more digits than that. -/
theorem excess?_eq_none_iff {text : String} (numeral : IsNumeral 10 n text.toList)
    (base : Nat) : excess? base text = none ↔ text.length ≤ digitLimit := by
  rw [excess?_of_isNumeral numeral, Option.filter_eq_none_iff]
  simp

theorem digitBound_pos : 0 < digitBound := by
  unfold digitBound
  generalize digitLimit = limit
  exact Nat.pow_pos (by decide)

/-- The numeral of a number is too long exactly where the number is too large. -/
theorem length_naturalText_le_iff :
    (naturalText n).length ≤ digitLimit ↔ n < digitBound := by
  have some_digits : 0 < digitLimit := by decide
  unfold digitBound
  generalize digitLimit = limit at some_digits ⊢
  rw [naturalText, String.length_ofList]
  exact Nat.length_toDigits_le_iff (by decide) some_digits

/-- The tags, as they are recognised. -/
theorem contains_of_mem_tags :
    ∀ known ∈ tags, ['x', 'X', 'o', 'O', 'b', 'B'].contains known.1 = true := by
  decide

/-- Numbers that are spelled as they may be are never too long. -/
theorem excess?_of_spells {text : String} (spells : Spells n text.toList) :
    excess? 0 text = none := by
  have plain := spells.isPlain
  generalize shape : text.toList = chars at spells
  cases spells with
  | decimal short =>
    have numeral : IsNumeral 10 n text.toList := shape ▸ isNumeral_natural n
    have whole : text = naturalText n := String.toList_inj.1 (shape.trans String.toList_ofList.symm)
    rw [excess?_eq_none_iff numeral, whole, length_naturalText_le_iff]
    exact short
  | @tagged tag base digits known numeral =>
    have listed : hasTag ('0' :: tag :: digits) = true := contains_of_mem_tags _ known
    rw [excess?_of_isPlain (shape ▸ List.cons_ne_nil _ _) (shape ▸ plain), shape, listed]
    rfl

end UpgradeGate.Literal
