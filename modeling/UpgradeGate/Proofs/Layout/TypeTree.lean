import UpgradeGate.Proofs.Layout.TypeName

/-!
# Type names as trees

The names that a compiler gives to types are renderings of trees: elementary types, declared types
with their numbers, arrays and mappings (`TypeTree`). Normalising the name of a tree drops the
numbers of all declared types in it, however deep they stand, and nothing else: it gives the
rendering of the tree without numbers (`TypeTree.normalize_name`), and that can be read in one way
only (`TypeTree.isReadOnce`).

Both are inductions over trees. What they need of the text behind a type is that it is empty or
starts with a closing parenthesis or a comma, as it does wherever a type stands in a name.
-/

namespace UpgradeGate

/-! ## Characters -/

/-- A character of the name of an elementary type. -/
def isNamePart (c : Char) : Bool := c.isAlphanum || c == '_' || c == '$'

/-- A character of the name of a declared type, which may be qualified. -/
def isQualifiedPart (c : Char) : Bool := isNamePart c || c == '.'

theorem isNamePart_of_isDigit {c : Char} (digit : c.isDigit = true) : isNamePart c = true := by
  simp [isNamePart, Char.isAlphanum, digit]

/-- A character of the visible part of ASCII. -/
def isGraphic (c : Char) : Bool := 0x21 ≤ c.toNat && c.toNat ≤ 0x7E

/-- A graphic character is no blank. -/
theorem isBlank_of_isGraphic {c : Char} (graphic : isGraphic c = true) :
    Text.isBlank c = false := by
  simp only [isGraphic, Bool.and_eq_true, decide_eq_true_eq] at graphic
  simp only [Text.isBlank, Text.isSpace, Bool.or_eq_false_iff, Bool.and_eq_false_iff,
    beq_eq_false_iff_ne, decide_eq_false_iff_not]
  omega

theorem isGraphic_of_isQualifiedPart {c : Char} (part : isQualifiedPart c = true) :
    isGraphic c = true := by
  unfold isQualifiedPart isNamePart Char.isAlphanum Char.isAlpha Char.isUpper Char.isLower
    Char.isDigit at part
  simp only [Bool.or_eq_true, Bool.and_eq_true, decide_eq_true_eq, beq_iff_eq, ge_iff_le,
    UInt32.le_iff_toNat_le] at part
  simp only [isGraphic, Bool.and_eq_true, decide_eq_true_eq, Char.toNat]
  rcases part with (((((⟨low, high⟩ | ⟨low, high⟩) | ⟨low, high⟩) | rfl) | rfl) | rfl)
  · exact ⟨Nat.le_trans (by decide) low, Nat.le_trans high (by decide)⟩
  · exact ⟨Nat.le_trans (by decide) low, Nat.le_trans high (by decide)⟩
  · exact ⟨Nat.le_trans (by decide) low, Nat.le_trans high (by decide)⟩
  · decide
  · decide
  · decide

/-- The characters of names are graphic. -/
theorem isGraphic_of_isNamePart {c : Char} (part : isNamePart c = true) : isGraphic c = true :=
  isGraphic_of_isQualifiedPart (by simp [isQualifiedPart, part])

theorem isGraphic_of_isDigit {c : Char} (digit : c.isDigit = true) : isGraphic c = true :=
  isGraphic_of_isNamePart (isNamePart_of_isDigit digit)

/-! ## Words -/

/-- A text over some characters. -/
@[ext] structure Word (isOf : Char → Bool) where
  chars : List Char
  all : chars.all isOf = true

/-- A text over some characters that is not empty. -/
@[ext] structure FilledWord (isOf : Char → Bool) extends Word isOf where
  filled : chars ≠ []

/-- A decimal numeral. -/
abbrev Numeral := FilledWord Char.isDigit

namespace Word

variable {isOf : Char → Bool} {rest rest' : List Char}

theorem plain (word : Word isOf) : ∀ c ∈ word.chars, isOf c = true := List.all_eq_true.1 word.all

/-- A word of graphic characters is graphic. -/
theorem all_isGraphic (word : Word isOf)
    (graphic : ∀ {c}, isOf c = true → isGraphic c = true) : word.chars.all isGraphic = true :=
  List.all_eq_true.2 fun c member => graphic (word.plain c member)

/-- A word is dropped up to its end. -/
theorem dropWhile_append (word : Word isOf) (ends : ∀ c ∈ rest.head?, isOf c = false) :
    (word.chars ++ rest).dropWhile isOf = rest := by
  rw [List.dropWhile_append_of_pos word.plain]
  cases rest with
  | nil => rfl
  | cons c rest => rw [List.dropWhile_cons_of_neg (by simp [ends c rfl])]

/-- Where two words end before characters that they may not have, they are read in one way. -/
theorem append_inj {word word' : Word isOf} (ends : ∀ c ∈ rest.head?, isOf c = false)
    (ends' : ∀ c ∈ rest'.head?, isOf c = false)
    (same : word.chars ++ rest = word'.chars ++ rest') : word = word' ∧ rest = rest' := by
  have behind := congrArg (List.dropWhile isOf) same
  rw [dropWhile_append word ends, dropWhile_append word' ends'] at behind
  subst behind
  exact ⟨Word.ext (List.append_cancel_right same), rfl⟩

end Word

/-! ## Trees -/

/-- How the name of an array starts. -/
def arrayOpening : List Char := "t_array(".toList

/-- How the name of a mapping starts. -/
def mappingOpening : List Char := "t_mapping(".toList

/-- What stands behind the length of an array, or behind the number of a struct. -/
def inStorage : List Char := "_storage".toList

/-- What stands behind an array without a length. -/
def dynamicInStorage : List Char := "dyn_storage".toList

/-- The kinds of types that a program declares. -/
inductive DeclaredKind where
  | struct
  | enum
  | contract
  | valueType
  deriving DecidableEq, Repr

namespace DeclaredKind

/-- How the name of a type of a kind starts. -/
def opening : DeclaredKind → List Char
  | .struct => "t_struct(".toList
  | .enum => "t_enum(".toList
  | .contract => "t_contract(".toList
  | .valueType => "t_userDefinedValueType(".toList

/-- What stands behind the number of a type of a kind. -/
def ending : DeclaredKind → List Char
  | .struct => inStorage
  | _ => []

/-- Every kind of declared types has its opening. -/
theorem opening_mem (kind : DeclaredKind) : kind.opening ∈ TypeName.openings := by
  cases kind <;> decide

/-- The kind of a declared type is told by its opening. -/
theorem opening_inj {kind kind' : DeclaredKind} (same : kind.opening = kind'.opening) :
    kind = kind' := by
  revert same
  cases kind <;> cases kind' <;> decide

end DeclaredKind

/-- A type, with something of the numbers of declared types. -/
inductive TypeTree (ν : Type) where
  | elementary (name : FilledWord isNamePart)
  | declared (kind : DeclaredKind) (name : Word isQualifiedPart) (number : ν)
  | dynamicArray (item : TypeTree ν)
  | fixedArray (item : TypeTree ν) (length : Numeral)
  | mapping (key value : TypeTree ν)

namespace TypeTree

variable {ν : Type}

/-- The characters of a type, for a way of showing numbers. -/
def text (shown : ν → List Char) : TypeTree ν → List Char
  | .elementary name => name.chars
  | .declared kind name number =>
    kind.opening ++ (name.chars ++ ')' :: (shown number ++ kind.ending))
  | .dynamicArray item => arrayOpening ++ (item.text shown ++ ')' :: dynamicInStorage)
  | .fixedArray item length =>
    arrayOpening ++ (item.text shown ++ ')' :: (length.chars ++ inStorage))
  | .mapping key value =>
    mappingOpening ++ (key.text shown ++ ',' :: (value.text shown ++ [')']))

/-- The name that the compiler gives to a type. -/
def name (tree : TypeTree Numeral) : String := String.ofList (tree.text fun number => number.chars)

/-- A type without its numbers. -/
def forget : TypeTree ν → TypeTree Unit
  | .elementary name => .elementary name
  | .declared kind name _ => .declared kind name ()
  | .dynamicArray item => .dynamicArray item.forget
  | .fixedArray item length => .fixedArray item.forget length
  | .mapping key value => .mapping key.forget value.forget

/-- The characters of a type whose numbers are not shown. -/
def bare (tree : TypeTree Unit) : List Char := tree.text fun _ => []

/-- What may stand behind a type in a name. -/
def Delimits (rest : List Char) : Prop := ∀ c ∈ rest.head?, c = ')' ∨ c = ','

theorem delimits_nil : Delimits [] := fun _ absent => by cases absent

theorem delimits_closing (rest : List Char) : Delimits (')' :: rest) :=
  fun _ first => .inl (Option.some.inj first).symm

theorem delimits_comma (rest : List Char) : Delimits (',' :: rest) :=
  fun _ first => .inr (Option.some.inj first).symm

/-- What delimits a type goes on with no word. -/
theorem Delimits.outside {rest : List Char} (delimits : Delimits rest) {isOf : Char → Bool}
    (closing : isOf ')' = false) (comma : isOf ',' = false) :
    ∀ c ∈ rest.head?, isOf c = false := by
  intro c first
  rcases delimits c first with rfl | rfl
  · exact closing
  · exact comma

end TypeTree

/-! ## Dropping numbers -/

namespace TypeName

open Text TypeTree

/-- How the names of types start that are not elementary. -/
def compoundOpenings : List (List Char) := arrayOpening :: mappingOpening :: openings

/-- Openings end in a parenthesis, which no name of an elementary type has. -/
theorem not_all_isNamePart_opening : ∀ word ∈ compoundOpenings, word.all isNamePart = false := by
  decide

/-- No opening has a delimiter in it. -/
theorem not_mem_compoundOpening : ∀ word ∈ compoundOpenings, ')' ∉ word ∧ ',' ∉ word := by
  decide

/-- No opening starts with another one. -/
theorem compoundOpening_unique : ∀ word ∈ compoundOpenings, ∀ other ∈ compoundOpenings,
    word <+: other → word = other := by
  decide

/-- No opening starts in a plain name in front of a delimiter. -/
theorem not_opening_of_isNamePart {front rest word : List Char}
    (plain : ∀ c ∈ front, isNamePart c = true) (delimits : Delimits rest)
    (known : word ∈ compoundOpenings) : ¬ word <+: front ++ rest := by
  intro start
  -- the opening ends in a parenthesis, so it goes beyond the name; what follows the name is then
  -- part of the opening, but it is a delimiter
  have beyond : ¬ word <+: front := by
    intro within
    have all : word.all isNamePart = true :=
      List.all_eq_true.2 fun c member => plain c (within.mem member)
    rw [not_all_isNamePart_opening word known] at all
    cases all
  rcases List.prefix_or_prefix_of_prefix start (List.prefix_append front rest) with within | longer
  · exact beyond within
  obtain ⟨more, rfl⟩ := longer
  cases more with
  | nil =>
    rw [List.append_nil] at beyond
    exact beyond List.prefix_rfl
  | cons d more =>
    obtain ⟨further, split⟩ := start
    rw [List.append_assoc, List.append_cancel_left_eq] at split
    have first : d ∈ rest.head? := by
      rw [← split]
      rfl
    have inside : d ∈ front ++ d :: more := List.mem_append_right _ List.mem_cons_self
    rcases delimits d first with rfl | rfl
    · exact (not_mem_compoundOpening _ known).1 inside
    · exact (not_mem_compoundOpening _ known).2 inside

/-- Where no opening stands, no declared type starts. -/
theorem numbered?_of_not_opening {text : List Char}
    (unopened : ∀ word ∈ openings, ¬ word <+: text) : numbered? text = none := by
  cases found : numbered? text with
  | none => rfl
  | some result =>
    obtain ⟨_, tail, ⟨word, known, name, -, rfl⟩, split, -⟩ := numbered?_eq_some_iff.1 found
    have start : word <+: text := ⟨name ++ ')' :: tail, by rw [split, List.append_assoc]⟩
    exact absurd start (unopened word known)

/-- No declared type starts in a plain name in front of a delimiter. -/
theorem numbered?_of_isNamePart {front rest : List Char}
    (plain : ∀ c ∈ front, isNamePart c = true) (delimits : Delimits rest) :
    numbered? (front ++ rest) = none := by
  apply numbered?_of_not_opening
  intro word known
  apply not_opening_of_isNamePart plain delimits
  exact List.mem_cons_of_mem _ (List.mem_cons_of_mem _ known)

theorem numbered?_comma (rest : List Char) : numbered? (',' :: rest) = none :=
  @numbered?_of_isNamePart [] (',' :: rest) (fun _ absent => by cases absent) (delimits_comma rest)

/-- A plain name in front of a delimiter is kept. -/
theorem withoutNumbers_of_isNamePart {front rest : List Char}
    (plain : ∀ c ∈ front, isNamePart c = true) (delimits : Delimits rest) :
    withoutNumbers (front ++ rest) = front ++ withoutNumbers rest := by
  induction front with
  | nil => rfl
  | cons c front ih =>
    have none_here := numbered?_of_isNamePart plain delimits
    rw [List.cons_append] at none_here ⊢
    rw [withoutNumbers_cons none_here, ih fun d member => plain d (List.mem_cons_of_mem c member),
      List.cons_append]

/-- Nowhere in a text does an opening start, or could start with more text behind it. -/
def isUnopened : List Char → Bool
  | [] => true
  | c :: rest =>
    (openings.all fun word => !word.isPrefixOf (c :: rest) && !(c :: rest).isPrefixOf word) &&
      isUnopened rest

/-- A front in which no opening starts is kept. -/
theorem withoutNumbers_of_isUnopened {front : List Char} (unopened : isUnopened front = true)
    (rest : List Char) : withoutNumbers (front ++ rest) = front ++ withoutNumbers rest := by
  induction front with
  | nil => rfl
  | cons c front ih =>
    simp only [isUnopened, Bool.and_eq_true, List.all_eq_true, Bool.not_eq_true'] at unopened
    obtain ⟨here, further⟩ := unopened
    have none_here : numbered? (c :: (front ++ rest)) = none := by
      apply numbered?_of_not_opening
      intro word known start
      obtain ⟨shorter, longer⟩ := here word known
      rcases List.prefix_or_prefix_of_prefix start (List.prefix_append (c :: front) rest) with
        within | beyond
      · rw [List.isPrefixOf_iff_prefix.2 within] at shorter
        cases shorter
      · rw [List.isPrefixOf_iff_prefix.2 beyond] at longer
        cases longer
    rw [List.cons_append, withoutNumbers_cons none_here, ih further, List.cons_append]

/-- An ASCII digit is a decimal digit. -/
theorem isDecimalDigit_of_isDigit {c : Char} (digit : c.isDigit = true) :
    isDecimalDigit c = true := by
  simp only [Char.isDigit, Bool.and_eq_true, decide_eq_true_eq, UInt32.le_iff_toNat_le,
    ge_iff_le] at digit
  obtain ⟨low, high⟩ := digit
  have low : 0x30 ≤ c.toNat := low
  have high : c.toNat < 0x30 + 10 := Nat.lt_succ_of_le high
  simp [isDecimalDigit, decimalDigit?, zeroDigits, low, high]

/-- No parenthesis is in a qualified name. -/
theorem isParenthesis_of_isQualifiedPart {c : Char} (part : isQualifiedPart c = true) :
    isParenthesis c = false := by
  cases other : isParenthesis c with
  | false => rfl
  | true =>
    simp only [isParenthesis, Bool.or_eq_true, beq_iff_eq] at other
    rcases other with rfl | rfl
    · exact absurd part (by decide)
    · exact absurd part (by decide)

/-- The number of a declared type is dropped. -/
theorem withoutNumbers_declared (kind : DeclaredKind) (name : Word isQualifiedPart)
    (number : Numeral) {rest : List Char} (ends : ¬ StartsDigit rest) :
    withoutNumbers (kind.opening ++ (name.chars ++ ')' :: (number.chars ++ rest))) =
      kind.opening ++ (name.chars ++ ')' :: withoutNumbers rest) := by
  have declared : IsDeclared (kind.opening ++ name.chars) :=
    ⟨_, kind.opening_mem, name.chars,
      fun c member => isParenthesis_of_isQualifiedPart (name.plain c member), rfl⟩
  have digits : ∀ c ∈ number.chars, isDecimalDigit c = true :=
    fun c member => isDecimalDigit_of_isDigit (number.plain c member)
  have starts : StartsDigit (number.chars ++ rest) := by
    cases chars : number.chars with
    | nil => exact absurd chars number.filled
    | cons c more => exact ⟨c, rfl, digits c (chars ▸ List.mem_cons_self)⟩
  have dropped : (number.chars ++ rest).dropWhile isDecimalDigit = rest := by
    rw [List.dropWhile_append_of_pos digits]
    cases rest with
    | nil => rfl
    | cons c rest =>
      exact List.dropWhile_cons_of_neg fun digit => ends ⟨c, rfl, digit⟩
  have found := numbered?_eq_some_iff.2 ⟨kind.opening ++ name.chars, number.chars ++ rest, declared,
    rfl, starts, rfl, rfl⟩
  rw [← List.append_assoc, withoutNumbers_of_numbered found, dropped]
  simp only [List.append_assoc, List.singleton_append]

/-- An array is kept as far as what stands in it, and behind it, is. -/
theorem withoutNumbers_array {item item' behind rest : List Char}
    (inner : withoutNumbers (item ++ ')' :: (behind ++ rest)) =
      item' ++ withoutNumbers (')' :: (behind ++ rest)))
    (plain : ∀ c ∈ behind, isNamePart c = true) (delimits : Delimits rest) :
    withoutNumbers (arrayOpening ++ (item ++ ')' :: (behind ++ rest))) =
      arrayOpening ++ (item' ++ ')' :: (behind ++ withoutNumbers rest)) := by
  rw [withoutNumbers_of_isUnopened (by decide), inner, withoutNumbers_cons (numbered?_closing _),
    withoutNumbers_of_isNamePart plain delimits]

/-- A mapping is kept as far as its key and its value are. -/
theorem withoutNumbers_mapping {key key' value value' rest : List Char}
    (first : withoutNumbers (key ++ ',' :: (value ++ ')' :: rest)) =
      key' ++ withoutNumbers (',' :: (value ++ ')' :: rest)))
    (second : withoutNumbers (value ++ ')' :: rest) = value' ++ withoutNumbers (')' :: rest)) :
    withoutNumbers (mappingOpening ++ (key ++ ',' :: (value ++ ')' :: rest))) =
      mappingOpening ++ (key' ++ ',' :: (value' ++ ')' :: withoutNumbers rest)) := by
  rw [withoutNumbers_of_isUnopened (by decide), first, withoutNumbers_cons (numbered?_comma _),
    second, withoutNumbers_cons (numbered?_closing _)]

end TypeName

namespace TypeTree

open Text UpgradeGate.TypeName

theorem Delimits.not_startsDigit {rest : List Char} (delimits : Delimits rest) :
    ¬ StartsDigit rest := by
  intro given
  obtain ⟨c, first, digit⟩ := given
  have other : isDecimalDigit c = false := delimits.outside (by decide) (by decide) c first
  rw [digit] at other
  cases other

/-! ## Names without numbers -/

theorem isNamePart_of_mem_inStorage : ∀ c ∈ inStorage, isNamePart c = true :=
  List.all_eq_true.1 (by decide)

theorem isNamePart_of_mem_dynamicInStorage : ∀ c ∈ dynamicInStorage, isNamePart c = true :=
  List.all_eq_true.1 (by decide)

theorem isNamePart_of_mem_ending (kind : DeclaredKind) :
    ∀ c ∈ kind.ending, isNamePart c = true := by
  cases kind with
  | struct => exact isNamePart_of_mem_inStorage
  | enum | contract | valueType => exact fun _ absent => absurd absent List.not_mem_nil

/-- Behind the number of a declared type stands a delimiter, or a word and then a delimiter. -/
theorem not_startsDigit_ending (kind : DeclaredKind) {rest : List Char}
    (delimits : Delimits rest) : ¬ StartsDigit (kind.ending ++ rest) := by
  cases kind with
  | struct =>
    intro given
    obtain ⟨c, first, digit⟩ := given
    cases first
    exact absurd digit (by decide)
  | enum | contract | valueType => exact delimits.not_startsDigit

/-- **Normalising drops the numbers of a tree, however deep they stand, and nothing else.** -/
theorem withoutNumbers_text (tree : TypeTree Numeral) {rest : List Char}
    (delimits : Delimits rest) :
    withoutNumbers (tree.text (fun number => number.chars) ++ rest) =
      tree.forget.bare ++ withoutNumbers rest := by
  induction tree generalizing rest with
  | elementary name =>
    simp only [text, bare, forget, withoutNumbers_of_isNamePart name.plain delimits]
  | declared kind name number =>
    have dropped := withoutNumbers_declared kind name number (not_startsDigit_ending kind delimits)
    rw [withoutNumbers_of_isNamePart (isNamePart_of_mem_ending kind) delimits] at dropped
    simpa only [text, bare, forget, List.append_assoc, List.cons_append, List.nil_append]
      using dropped
  | dynamicArray item ih =>
    have inner := ih (delimits_closing (dynamicInStorage ++ rest))
    have kept := withoutNumbers_array inner isNamePart_of_mem_dynamicInStorage delimits
    simpa only [text, bare, forget, List.append_assoc, List.cons_append] using kept
  | fixedArray item length ih =>
    have plain : ∀ c ∈ length.chars ++ inStorage, isNamePart c = true := by
      intro c member
      rcases List.mem_append.1 member with digit | word
      · exact isNamePart_of_isDigit (length.plain c digit)
      · exact isNamePart_of_mem_inStorage c word
    have inner := ih (delimits_closing (length.chars ++ inStorage ++ rest))
    have kept := withoutNumbers_array inner plain delimits
    simpa only [text, bare, forget, List.append_assoc, List.cons_append] using kept
  | mapping key value ihKey ihValue =>
    have second := ihValue (delimits_closing rest)
    have first := ihKey (delimits_comma (value.text (fun number => number.chars) ++ ')' :: rest))
    have kept := withoutNumbers_mapping first second
    simpa only [text, bare, forget, List.append_assoc, List.cons_append, List.nil_append]
      using kept

/-! ## Reading -/

/-- What a type starts with that is not elementary. -/
def opening? : TypeTree ν → Option (List Char)
  | .elementary _ => none
  | .declared kind _ _ => some kind.opening
  | .dynamicArray _ | .fixedArray _ _ => some arrayOpening
  | .mapping _ _ => some mappingOpening

/-- The opening of a type is one of the openings. -/
theorem opening?_mem {tree : TypeTree ν} {word : List Char} (opens : tree.opening? = some word) :
    word ∈ compoundOpenings := by
  cases tree with
  | elementary => cases opens
  | declared kind =>
    cases opens
    exact List.mem_cons_of_mem _ (List.mem_cons_of_mem _ kind.opening_mem)
  | dynamicArray | fixedArray | mapping =>
    cases opens
    decide

/-- Which opening stands in front of a type and what follows it. -/
theorem opening?_eq_some_iff {tree : TypeTree Unit} {rest word : List Char}
    (delimits : Delimits rest) :
    tree.opening? = some word ↔ word ∈ compoundOpenings ∧ word <+: tree.bare ++ rest := by
  have start : ∀ {own}, tree.opening? = some own → own <+: tree.bare ++ rest := by
    intro own opens
    cases tree with
    | elementary => cases opens
    | declared | dynamicArray | fixedArray | mapping =>
      cases opens
      simp only [bare, text, List.append_assoc, List.prefix_append]
  constructor
  · intro opens
    exact ⟨opening?_mem opens, start opens⟩
  · intro given
    obtain ⟨known, front⟩ := given
    cases opens : tree.opening? with
    | none =>
      cases tree with
      | elementary name =>
        exact absurd front (not_opening_of_isNamePart name.plain delimits known)
      | declared | dynamicArray | fixedArray | mapping => cases opens
    | some own =>
      have known' := opening?_mem opens
      rcases List.prefix_or_prefix_of_prefix front (start opens) with shorter | longer
      · rw [compoundOpening_unique word known own known' shorter]
      · rw [compoundOpening_unique own known' word known longer]

/-- Types that start alike have one opening. -/
theorem opening?_eq {a b : TypeTree Unit} {rest rest' : List Char} (delimits : Delimits rest)
    (delimits' : Delimits rest') (same : a.bare ++ rest = b.bare ++ rest') :
    a.opening? = b.opening? := by
  refine Option.ext fun word => ?_
  rw [opening?_eq_some_iff delimits, opening?_eq_some_iff delimits', same]

/-- No digit follows the length of an array. -/
theorem head?_inStorage (rest : List Char) :
    ∀ c ∈ (inStorage ++ rest).head?, Char.isDigit c = false := by
  intro c first
  cases first
  decide

/-- What stands behind an array tells whether it has a length. -/
theorem length_append_ne_dynamic (length : Numeral) (rest rest' : List Char) :
    length.chars ++ rest ≠ dynamicInStorage ++ rest' := by
  intro same
  cases digits : length.chars with
  | nil => exact length.filled digits
  | cons c more =>
    rw [digits] at same
    have digit := length.plain c (digits ▸ List.mem_cons_self)
    rw [show c = 'd' from List.head_eq_of_cons_eq same] at digit
    exact absurd digit (by decide)

/-! The opening of a type tells its form, but for arrays whether they have a length. -/

/-- A type without an opening is elementary. -/
theorem eq_elementary_of_opening {b : TypeTree Unit} (opens : b.opening? = none) :
    ∃ name, b = elementary name := by
  cases b with
  | elementary name => exact ⟨name, rfl⟩
  | declared | dynamicArray | fixedArray | mapping => cases opens

/-- A type with the opening of a kind is declared, of this kind. -/
theorem eq_declared_of_opening {kind : DeclaredKind} {b : TypeTree Unit}
    (opens : b.opening? = some kind.opening) : ∃ name, b = declared kind name () := by
  cases b with
  | elementary => cases opens
  | declared kind' name =>
    obtain rfl := DeclaredKind.opening_inj (Option.some.inj opens)
    exact ⟨name, rfl⟩
  | dynamicArray | fixedArray | mapping =>
    exact absurd (Option.some.inj opens) (by cases kind <;> decide)

/-- A type with the opening of arrays is an array, with a length or without. -/
theorem eq_array_of_opening {b : TypeTree Unit} (opens : b.opening? = some arrayOpening) :
    (∃ item, b = dynamicArray item) ∨ ∃ item length, b = fixedArray item length := by
  cases b with
  | elementary => cases opens
  | declared kind => exact absurd (Option.some.inj opens) (by cases kind <;> decide)
  | dynamicArray item => exact .inl ⟨item, rfl⟩
  | fixedArray item length => exact .inr ⟨item, length, rfl⟩
  | mapping => exact absurd (Option.some.inj opens) (by decide)

/-- A type with the opening of mappings is a mapping. -/
theorem eq_mapping_of_opening {b : TypeTree Unit} (opens : b.opening? = some mappingOpening) :
    ∃ key value, b = mapping key value := by
  cases b with
  | elementary => cases opens
  | declared kind => exact absurd (Option.some.inj opens) (by cases kind <;> decide)
  | dynamicArray | fixedArray => exact absurd (Option.some.inj opens) (by decide)
  | mapping key value => exact ⟨key, value, rfl⟩

/-- A type without numbers is read off the front of a text in one way only. -/
def IsReadOnce (a : TypeTree Unit) : Prop :=
  ∀ {b : TypeTree Unit} {rest rest' : List Char}, Delimits rest → Delimits rest' →
    a.bare ++ rest = b.bare ++ rest' → a = b ∧ rest = rest'

/-- An elementary type ends where its name does. -/
theorem isReadOnce_elementary (name : FilledWord isNamePart) :
    (elementary name : TypeTree Unit).IsReadOnce := by
  intro b rest rest' delimits delimits' same
  obtain ⟨name', rfl⟩ := eq_elementary_of_opening (opening?_eq delimits delimits' same).symm
  obtain ⟨names, rests⟩ := Word.append_inj (delimits.outside (by decide) (by decide))
    (delimits'.outside (by decide) (by decide)) same
  exact ⟨congrArg elementary (FilledWord.ext (congrArg Word.chars names)), rests⟩

/-- A declared type is told by its kind and its name. -/
theorem isReadOnce_declared (kind : DeclaredKind) (name : Word isQualifiedPart) :
    (declared kind name () : TypeTree Unit).IsReadOnce := by
  intro b rest rest' delimits delimits' same
  obtain ⟨name', rfl⟩ := eq_declared_of_opening (opening?_eq delimits delimits' same).symm
  simp only [bare, text, List.append_assoc, List.cons_append, List.nil_append,
    List.append_cancel_left_eq] at same
  obtain ⟨rfl, rests⟩ := Word.append_inj ((delimits_closing _).outside (by decide) (by decide))
    ((delimits_closing _).outside (by decide) (by decide)) same
  exact ⟨rfl, List.append_cancel_left (List.tail_eq_of_cons_eq rests)⟩

/-- An array without a length is told by its items. -/
theorem IsReadOnce.dynamicArray {item : TypeTree Unit} (once : item.IsReadOnce) :
    (dynamicArray item).IsReadOnce := by
  intro b rest rest' delimits delimits' same
  rcases eq_array_of_opening (opening?_eq delimits delimits' same).symm with
    ⟨item', rfl⟩ | ⟨item', length, rfl⟩
  · simp only [bare, text, List.append_assoc, List.cons_append,
      List.append_cancel_left_eq] at same
    obtain ⟨rfl, rests⟩ := once (delimits_closing _) (delimits_closing _) same
    exact ⟨rfl, List.append_cancel_left (List.tail_eq_of_cons_eq rests)⟩
  · simp only [bare, text, List.append_assoc, List.cons_append,
      List.append_cancel_left_eq] at same
    obtain ⟨-, rests⟩ := once (delimits_closing _) (delimits_closing _) same
    exact absurd (List.tail_eq_of_cons_eq rests).symm (length_append_ne_dynamic length _ _)

/-- An array with a length is told by its items and its length. -/
theorem IsReadOnce.fixedArray {item : TypeTree Unit} (once : item.IsReadOnce)
    (length : Numeral) : (fixedArray item length).IsReadOnce := by
  intro b rest rest' delimits delimits' same
  rcases eq_array_of_opening (opening?_eq delimits delimits' same).symm with
    ⟨item', rfl⟩ | ⟨item', length', rfl⟩
  · simp only [bare, text, List.append_assoc, List.cons_append,
      List.append_cancel_left_eq] at same
    obtain ⟨-, rests⟩ := once (delimits_closing _) (delimits_closing _) same
    exact absurd (List.tail_eq_of_cons_eq rests) (length_append_ne_dynamic length _ _)
  · simp only [bare, text, List.append_assoc, List.cons_append,
      List.append_cancel_left_eq] at same
    obtain ⟨rfl, behind⟩ := once (delimits_closing _) (delimits_closing _) same
    obtain ⟨lengths, rests⟩ := Word.append_inj (head?_inStorage _) (head?_inStorage _)
      (List.tail_eq_of_cons_eq behind)
    obtain rfl := FilledWord.ext (congrArg Word.chars lengths)
    exact ⟨rfl, List.append_cancel_left rests⟩

/-- A mapping is told by its keys and its values. -/
theorem IsReadOnce.mapping {key value : TypeTree Unit} (onceKey : key.IsReadOnce)
    (onceValue : value.IsReadOnce) : (mapping key value).IsReadOnce := by
  intro b rest rest' delimits delimits' same
  obtain ⟨key', value', rfl⟩ := eq_mapping_of_opening (opening?_eq delimits delimits' same).symm
  simp only [bare, text, List.append_assoc, List.cons_append, List.nil_append,
    List.append_cancel_left_eq] at same
  obtain ⟨rfl, behind⟩ := onceKey (delimits_comma _) (delimits_comma _) same
  obtain ⟨rfl, rests⟩ := onceValue (delimits_closing _) (delimits_closing _)
    (List.tail_eq_of_cons_eq behind)
  exact ⟨rfl, List.tail_eq_of_cons_eq rests⟩

/-- **A type without numbers can be read in one way only.** -/
theorem isReadOnce (a : TypeTree Unit) : a.IsReadOnce := by
  induction a with
  | elementary name => exact isReadOnce_elementary name
  | declared kind name => exact isReadOnce_declared kind name
  | dynamicArray item ih => exact ih.dynamicArray
  | fixedArray item length ih => exact ih.fixedArray length
  | mapping key value ihKey ihValue => exact ihKey.mapping ihValue

/-! ## Normal names -/

/-- A type is written in graphic characters if its numbers are. -/
theorem all_isGraphic_text {shown : ν → List Char}
    (digits : ∀ number, (shown number).all isGraphic = true) (tree : TypeTree ν) :
    (tree.text shown).all isGraphic = true := by
  induction tree with
  | elementary name => exact name.all_isGraphic isGraphic_of_isNamePart
  | declared kind name number =>
    have opening : kind.opening.all isGraphic = true := by cases kind <;> decide
    have ending : kind.ending.all isGraphic = true := by cases kind <;> decide
    simp only [text, List.all_append, List.all_cons, Bool.and_eq_true]
    exact ⟨opening, name.all_isGraphic isGraphic_of_isQualifiedPart, by decide, digits number,
      ending⟩
  | dynamicArray item ih =>
    simp only [text, List.all_append, List.all_cons, Bool.and_eq_true]
    exact ⟨by decide, ih, by decide, by decide⟩
  | fixedArray item length ih =>
    simp only [text, List.all_append, List.all_cons, Bool.and_eq_true]
    exact ⟨by decide, ih, by decide, length.all_isGraphic isGraphic_of_isDigit, by decide⟩
  | mapping key value ihKey ihValue =>
    simp only [text, List.all_append, List.all_cons, Bool.and_eq_true]
    exact ⟨by decide, ihKey, by decide, ihValue, by decide, List.all_nil⟩

/-- The normal name of a type is its name without numbers. -/
theorem normalize_name (tree : TypeTree Numeral) :
    TypeName.normalize tree.name = String.ofList tree.forget.bare := by
  have graphic := all_isGraphic_text (fun number => number.all_isGraphic isGraphic_of_isDigit) tree
  have visible : ∀ c ∈ tree.text (fun number => number.chars), isBlank c = false :=
    fun c member => isBlank_of_isGraphic (List.all_eq_true.1 graphic c member)
  have trimmed : trim (tree.text fun number => number.chars) =
      tree.text fun number => number.chars :=
    trimBy_eq_self (fun c first => visible c (List.mem_of_mem_head? first))
      fun c last => visible c (List.mem_of_getLast? last)
  have dropped := withoutNumbers_text tree delimits_nil
  rw [List.append_nil, withoutNumbers_nil, List.append_nil] at dropped
  rw [TypeName.normalize, name, String.toList_ofList, trimmed, dropped]

/-- Two types have one normal name exactly when they differ in their numbers at most. -/
theorem normalize_name_eq_iff {s t : TypeTree Numeral} :
    TypeName.normalize s.name = TypeName.normalize t.name ↔ s.forget = t.forget := by
  rw [normalize_name, normalize_name]
  constructor
  · intro same
    have bares := String.ofList_injective same
    exact (isReadOnce _ delimits_nil delimits_nil (congrArg (· ++ []) bares)).1
  · intro same
    rw [same]

end TypeTree

end UpgradeGate
