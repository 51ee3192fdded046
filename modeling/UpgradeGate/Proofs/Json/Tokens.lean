import UpgradeGate.Json.Reader
import UpgradeGate.Json.Writer

/-!
# Reading written strings and numbers

The tokens of a document are read as what they were written for: a string in any spelling that
escapes control characters (`readString_written`), and an integer before a character that cannot
belong to a number (`readScalar_integer`).
-/

namespace UpgradeGate.Json

open Text

/-! ## Strings -/

/-- A spelling leaves no control character as it is. -/
def Spelling.EscapesControls (spelling : Spelling) : Prop :=
  ∀ c, spelling.keeps c = true → 0x20 ≤ c.toNat

/-- The plain spelling escapes control characters. -/
theorem escapesControls_plain : plainSpelling.EscapesControls := by
  intro c kept
  simpa [plainSpelling] using kept

/-- Four digits are read as the code unit that they were written for. -/
theorem codeUnit?_hexFixed {unit : Nat} (small : unit < 0x10000) :
    codeUnit? (hexDigit (unit / 16 / 16 / 16 % 16)) (hexDigit (unit / 16 / 16 % 16))
      (hexDigit (unit / 16 % 16)) (hexDigit (unit % 16)) = some unit := by
  simp only [codeUnit?, hexValue?_hexDigit _ (Nat.mod_lt _ (by decide : 0 < 16)),
    Option.bind_eq_bind, Option.bind_some, Option.pure_def, Option.some.injEq]
  omega

/-- An escape by number is read as its code unit, unless the document ends behind it. -/
theorem readCodeUnits_escape (opening : List Char) {unit : Nat} (small : unit < 0x10000)
    {rest : List Char} (further : rest ≠ []) :
    readCodeUnits opening ('\\' :: 'u' :: hexFixed 4 unit ++ rest) =
      (readCodeUnits opening rest).push unit := by
  have digits : hexFixed 4 unit = [hexDigit (unit / 16 / 16 / 16 % 16),
      hexDigit (unit / 16 / 16 % 16), hexDigit (unit / 16 % 16), hexDigit (unit % 16)] := rfl
  have filled : rest.isEmpty = false := by simpa using further
  rw [digits]
  simp only [List.cons_append, List.nil_append]
  rw [readCodeUnits, codeUnit?_hexFixed small, filled]

/-- A character that is not escaped is its own code unit. -/
theorem readCodeUnits_plain (opening rest : List Char) {c : Char} (noQuote : c ≠ '"')
    (noBackslash : c ≠ '\\') (noControl : 0x20 ≤ c.toNat) :
    readCodeUnits opening (c :: rest) = (readCodeUnits opening rest).push c.toNat := by
  have shown : ¬ c.toNat < 0x20 := by omega
  rw [readCodeUnits, if_neg shown] <;> simp_all

/-- A code unit that is half a surrogate pair belongs to no character. -/
theorem not_surrogate (c : Char) :
    isHighSurrogate c.toNat = false ∧ isLowSurrogate c.toNat = false := by
  have valid := c.valid
  simp only [UInt32.isValidChar, Nat.isValidChar] at valid
  have same : c.val.toNat = c.toNat := rfl
  simp only [isHighSurrogate, isLowSurrogate, Bool.and_eq_false_iff, decide_eq_false_iff_not]
  omega

/-- A code unit of a character that is not half of a pair. -/
theorem ofCodeUnits?_single (half : Option Char) (c : Char) (rest : List Nat) :
    ofCodeUnits? half (c.toNat :: rest) = (ofCodeUnits? half rest).map (c :: ·) := by
  obtain ⟨notHigh, notLow⟩ := not_surrogate c
  cases rest with
  | nil => simp [ofCodeUnits?, notHigh, notLow]
  | cons next rest =>
    rw [ofCodeUnits?]
    simp only [notHigh, notLow, Bool.false_and, Bool.or_self, Bool.false_eq_true, ↓reduceIte,
      Option.bind_eq_bind, Option.bind_some, Char.ofNat_toNat]
    cases ofCodeUnits? half (next :: rest) <;> rfl

/-- The number of a character is below the end of Unicode. -/
theorem toNat_lt (c : Char) : c.toNat < 0x110000 := by
  have valid := c.valid
  simp only [UInt32.isValidChar, Nat.isValidChar] at valid
  have same : c.val.toNat = c.toNat := rfl
  omega

/-- The two code units of a character beyond 16 bits. -/
theorem ofCodeUnits?_pair (half : Option Char) {c : Char} (astral : 0x10000 ≤ c.toNat)
    (rest : List Nat) :
    ofCodeUnits? half ((0xD800 + (c.toNat - 0x10000) / 0x400) ::
      (0xDC00 + (c.toNat - 0x10000) % 0x400) :: rest) =
      (ofCodeUnits? half rest).map (c :: ·) := by
  have bounded := toNat_lt c
  have high : isHighSurrogate (0xD800 + (c.toNat - 0x10000) / 0x400) = true := by
    simp only [isHighSurrogate, Bool.and_eq_true, decide_eq_true_eq]
    omega
  have low : isLowSurrogate (0xDC00 + (c.toNat - 0x10000) % 0x400) = true := by
    simp only [isLowSurrogate, Bool.and_eq_true, decide_eq_true_eq]
    omega
  have joined : 0x10000 + (0xD800 + (c.toNat - 0x10000) / 0x400 - 0xD800) * 0x400 +
      (0xDC00 + (c.toNat - 0x10000) % 0x400 - 0xDC00) = c.toNat := by
    omega
  rw [ofCodeUnits?]
  simp only [high, low, Bool.and_self, ↓reduceIte, joined, Char.ofNat_toNat]
  cases ofCodeUnits? half rest <;> rfl

/-- Code units that name a character, whatever follows. -/
def Names (units : List Nat) (c : Char) : Prop :=
  ∀ half rest, ofCodeUnits? half (units ++ rest) = (ofCodeUnits? half rest).map (c :: ·)

/-- A character is named by its number. -/
theorem names_single (c : Char) : Names [c.toNat] c := fun half rest =>
  ofCodeUnits?_single half c rest

/-- A character is named by its code units. -/
theorem names_codeUnits (c : Char) : Names (codeUnits c) c := by
  intro half rest
  simp only [codeUnits]
  split
  · exact ofCodeUnits?_single half c rest
  · next astral => exact ofCodeUnits?_pair half (by omega) rest

/-- Code units in front of what was read of the rest. -/
def Reading.pushAll (units : List Nat) (rest : Reading (List Nat)) : Reading (List Nat) :=
  rest.map fun (others, text) => (units ++ others, text)

/-- A character between quotes is read as code units that name it. -/
theorem readCodeUnits_escaped {spelling : Spelling} (escapes : spelling.EscapesControls)
    (opening : List Char) (c : Char) {rest : List Char} (further : rest ≠ []) :
    ∃ units, Names units c ∧ readCodeUnits opening (escaped spelling c ++ rest) =
      Reading.pushAll units (readCodeUnits opening rest) := by
  have simple : ∀ letter, simpleEscape? letter = some c → letter ≠ 'u' →
      readCodeUnits opening ('\\' :: letter :: rest) =
        Reading.pushAll [c.toNat] (readCodeUnits opening rest) := by
    intro letter means number
    rw [readCodeUnits, means]
    · rfl
    all_goals simp_all
  by_cases quote : c = '"'
  · subst quote
    exact ⟨_, names_single _, simple '"' rfl (by decide)⟩
  by_cases backslash : c = '\\'
  · subst backslash
    exact ⟨_, names_single _, simple '\\' rfl (by decide)⟩
  cases kept : spelling.keeps c with
  | true =>
    refine ⟨_, names_single c, ?_⟩
    simp only [escaped, quote, backslash, kept, beq_iff_eq, ↓reduceIte, List.singleton_append]
    exact readCodeUnits_plain opening rest quote backslash (escapes c kept)
  | false =>
    simp only [escaped, quote, backslash, kept, beq_iff_eq, ↓reduceIte, Bool.false_eq_true]
    split
    · next same => subst same; exact ⟨_, names_single _, simple 'n' rfl (by decide)⟩
    split
    · next same => subst same; exact ⟨_, names_single _, simple 'r' rfl (by decide)⟩
    split
    · next same => subst same; exact ⟨_, names_single _, simple 't' rfl (by decide)⟩
    split
    · next same => subst same; exact ⟨_, names_single _, simple 'b' rfl (by decide)⟩
    split
    · next same => subst same; exact ⟨_, names_single _, simple 'f' rfl (by decide)⟩
    refine ⟨_, names_codeUnits c, ?_⟩
    have bounded := toNat_lt c
    simp only [codeUnits]
    split
    · next small =>
      simp only [List.flatMap_cons, List.flatMap_nil, List.append_nil]
      exact readCodeUnits_escape opening small further
    · next astral =>
      simp only [List.flatMap_cons, List.flatMap_nil, List.append_nil, List.append_assoc]
      rw [readCodeUnits_escape opening (by omega) (by simp),
        readCodeUnits_escape opening (by omega) further]
      cases readCodeUnits opening rest <;> rfl

/-- **Strings.** A string is read back, in any spelling that escapes control characters. -/
theorem readString_written {spelling : Spelling} (escapes : spelling.EscapesControls)
    (half : Option Char) (opening : List Char) (s : String) (rest : List Char) :
    readString half opening (s.toList.flatMap (escaped spelling) ++ '"' :: rest) =
      .ok (s, rest) := by
  have units : ∀ chars : List Char, ∃ units, ofCodeUnits? half units = some chars ∧
      readCodeUnits opening (chars.flatMap (escaped spelling) ++ '"' :: rest) =
        .ok (units, rest) := by
    intro chars
    induction chars with
    | nil => exact ⟨[], rfl, rfl⟩
    | cons c chars ih =>
      obtain ⟨others, named, readRest⟩ := ih
      obtain ⟨units, names, read⟩ := readCodeUnits_escaped escapes opening c
        (show chars.flatMap (escaped spelling) ++ '"' :: rest ≠ [] by simp)
      refine ⟨units ++ others, ?_, ?_⟩
      · rw [names half others, named, Option.map_some]
      · rw [List.flatMap_cons, List.append_assoc, read, readRest]
        rfl
  obtain ⟨units, named, read⟩ := units s.toList
  simp only [readString, read, named, String.ofList_toList]

/-! ## Numbers -/

/-- A text does not go on with a character that may belong to a number. -/
def EndsNumber (text : List Char) : Prop :=
  ∀ c ∈ text.head?, c.isDigit = false ∧ c ≠ '.' ∧ c ≠ 'e' ∧ c ≠ 'E'

theorem endsNumber_nil : EndsNumber [] := by
  intro c member
  cases member

/-- A number ends in front of a character that cannot go on with it. -/
theorem endsNumber_cons {c : Char} {rest : List Char}
    (ends : c.isDigit = false ∧ c ≠ '.' ∧ c ≠ 'e' ∧ c ≠ 'E') : EndsNumber (c :: rest) := by
  rintro _ ⟨⟩
  exact ends

/-- A natural number is written in digits. -/
theorem isDigit_of_mem_natural {n : Nat} {c : Char} (member : c ∈ natural n) :
    c.isDigit = true := Nat.isDigit_of_mem_toDigits (by decide) (by decide) member

theorem natural_ne_nil (n : Nat) : natural n ≠ [] := Nat.toDigits_ne_nil

/-- Only the numeral of zero starts with a zero. -/
theorem eq_zero_of_head?_natural {n : Nat} (zero : (natural n).head? = some '0') : n = 0 := by
  induction n using Nat.strongRecOn with
  | ind n ih =>
    by_cases small : n < 10
    · have digits : ∀ n < 10, [Nat.digitChar n].head? = some '0' → n = 0 := by decide
      rw [natural, Nat.toDigits_of_lt_base small] at zero
      exact digits n small zero
    · have split : natural n = natural (n / 10) ++ [Nat.digitChar (n % 10)] :=
        Nat.toDigits_of_base_le (by decide) (by omega)
      obtain ⟨c, rest, first⟩ := List.exists_cons_of_ne_nil (natural_ne_nil (n / 10))
      have smaller : (natural (n / 10)).head? = some '0' := by
        rw [split, first] at zero
        rw [first]
        exact zero
      have := ih (n / 10) (by omega) smaller
      omega

/-- The digits of a natural number have its value. -/
theorem digitsValue_natural (n : Nat) : digitsValue (natural n) = n := by
  have value : digitsValue (natural n) = Nat.ofDigitChars 10 (Nat.toDigits 10 n) 0 := rfl
  rw [value, Nat.ofDigitChars_ten_toDigits]

/-- The digits of a number are read up to its end. -/
theorem takeWhile_natural {n : Nat} {rest : List Char} (ends : EndsNumber rest) :
    (natural n ++ rest).takeWhile Char.isDigit = natural n := by
  rw [List.takeWhile_append_of_pos fun c member => isDigit_of_mem_natural member]
  cases rest with
  | nil => simp
  | cons c rest => simp [(ends c rfl).1]

/-- A natural number is read behind its sign. -/
theorem readUnsigned?_natural (negative : Bool) (n : Nat) {rest : List Char}
    (ends : EndsNumber rest) :
    readUnsigned? negative (natural n ++ rest) =
      some (.int (if negative then -(n : Int) else n), rest) := by
  have whole : (if (natural n).head? == some '0' then ['0'] else natural n) = natural n := by
    split
    · next zero =>
      rw [eq_zero_of_head?_natural (eq_of_beq zero)]
      rfl
    · rfl
  have filled : (natural n).isEmpty = false := by simpa using natural_ne_nil n
  have fraction : readFraction rest = ([], rest) := by
    cases rest with
    | nil => rfl
    | cons c rest =>
      have point := (ends c rfl).2.1
      rw [readFraction.eq_def]
      split <;> simp_all
  have exponent : readExponent rest = (none, rest) := by
    cases rest with
    | nil => rfl
    | cons c rest =>
      obtain ⟨-, -, lower, upper⟩ := ends c rfl
      simp [readExponent, lower, upper]
  simp only [readUnsigned?, takeWhile_natural ends, whole, filled, Bool.false_eq_true, ↓reduceIte,
    List.drop_left, fraction, exponent, digitsValue_natural, List.isEmpty_nil, Option.isNone_none,
    Bool.and_self]

/-- What starts with a digit is none of the words. -/
theorem behind?_words_eq_none {c : Char} {rest : List Char} (digit : c.isDigit = true) :
    (words.findSome? fun (word, value) =>
      (behind? word (c :: rest)).map fun rest => (value, rest)) = none := by
  have letters : 'n' ≠ c ∧ 't' ≠ c ∧ 'f' ≠ c ∧ 'N' ≠ c ∧ 'I' ≠ c ∧ '-' ≠ c := by
    refine ⟨?_, ?_, ?_, ?_, ?_, ?_⟩ <;> (rintro rfl; exact absurd digit (by decide))
  obtain ⟨n, t, f, nan, infinity, minus⟩ := letters
  simp [words, behind?, n, t, f, nan, infinity, minus]

/-- **Integers.** An integer is read back where the text does not go on like a number. -/
theorem readScalar_integer (value : Int) {rest : List Char} (ends : EndsNumber rest) :
    readScalar (integer value ++ rest) = .ok (.int value, rest) := by
  cases value with
  | ofNat n =>
    obtain ⟨c, digits, split⟩ := List.exists_cons_of_ne_nil (natural_ne_nil n)
    have digit : c.isDigit = true := isDigit_of_mem_natural (n := n) (by rw [split]; simp)
    have minus : c ≠ '-' := by
      rintro rfl
      exact absurd digit (by decide)
    have number := readUnsigned?_natural false n ends
    simp only [integer, split, List.cons_append] at number ⊢
    simp only [readScalar, behind?_words_eq_none digit, Option.orElse_none]
    split
    · next found =>
      split at found
      · simp_all
      · rw [number] at found
        cases found
        rfl
    · next found =>
      split at found
      · simp_all
      · rw [number] at found
        cases found
  | negSucc n =>
    obtain ⟨c, digits, split⟩ := List.exists_cons_of_ne_nil (natural_ne_nil (n + 1))
    have digit : c.isDigit = true := isDigit_of_mem_natural (n := n + 1) (by rw [split]; simp)
    have noWord : (words.findSome? fun (word, value) =>
        (behind? word ('-' :: c :: (digits ++ rest))).map fun rest => (value, rest)) = none := by
      have infinity : 'I' ≠ c := by
        rintro rfl
        exact absurd digit (by decide)
      simp [words, behind?, infinity]
    have number := readUnsigned?_natural true (n + 1) ends
    simp only [integer, split, List.cons_append] at number ⊢
    simp only [readScalar, noWord, Option.orElse_none, number]
    rfl

end UpgradeGate.Json
