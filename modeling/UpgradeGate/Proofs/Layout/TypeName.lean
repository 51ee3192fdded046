import UpgradeGate.Layout.TypeName

/-!
# Normal type names

Dropping the numbers of declared types once is enough: what is left holds no declared type with a
number (`numberless_withoutNumbers`), however the dropped digits stood. So normalising a type name
a second time changes nothing (`normalize_normalize`).

The argument looks at the first closing parenthesis of a text. What is in front of it is never
changed, and whether a declared type with a number ends there is a matter of what is in front of it
and of the character behind it.
-/

namespace UpgradeGate.TypeName

open Text

/-- A text starts with a decimal digit. -/
def StartsDigit (text : List Char) : Prop := ∃ c ∈ text.head?, isDecimalDigit c = true

/-- A declared type up to its closing parenthesis. -/
def IsDeclared (stem : List Char) : Prop :=
  ∃ word ∈ openings, ∃ name : List Char, (∀ c ∈ name, isParenthesis c = false) ∧
    stem = word ++ name

/-- Where the digits in front are dropped, none are left there. -/
theorem not_startsDigit_dropWhile (text : List Char) :
    ¬ StartsDigit (text.dropWhile isDecimalDigit) := by
  intro given
  obtain ⟨c, first, digit⟩ := given
  induction text with
  | nil => cases first
  | cons d rest ih =>
    cases kept : isDecimalDigit d with
    | true =>
      rw [List.dropWhile_cons_of_pos kept] at first
      exact ih first
    | false =>
      rw [List.dropWhile_cons_of_neg (by simp [kept])] at first
      cases first
      rw [digit] at kept
      cases kept

/-- A text starts with a digit where it has some in front. -/
theorem startsDigit_iff {text : List Char} :
    StartsDigit text ↔ (text.takeWhile isDecimalDigit).isEmpty = false := by
  cases text with
  | nil => simp [StartsDigit]
  | cons c rest => cases digit : isDecimalDigit c <;> simp [StartsDigit, digit]

/-! ## Declared types -/

/-- No opening has a closing parenthesis. -/
theorem not_mem_opening : ∀ word ∈ openings, ')' ∉ word := by
  decide

/-- Every opening starts with the same letter. -/
theorem head?_opening : ∀ word ∈ openings, word.head? = some 't' := by
  decide

/-- No opening is the start of another one. -/
theorem opening_unique : ∀ word ∈ openings, ∀ other ∈ openings, word <+: other →
    word = other := by
  decide

/-- A declared type has no closing parenthesis before its own. -/
theorem IsDeclared.not_mem {stem : List Char} (declared : IsDeclared stem) : ')' ∉ stem := by
  obtain ⟨word, known, name, plain, rfl⟩ := declared
  rw [List.mem_append]
  intro given
  rcases given with inWord | inName
  · exact not_mem_opening word known inWord
  · exact absurd (plain _ inName) (by decide)

/-- A declared type starts with the letter of the openings. -/
theorem IsDeclared.head? {stem : List Char} (declared : IsDeclared stem) (rest : List Char) :
    (stem ++ rest).head? = some 't' := by
  obtain ⟨word, known, name, -, rfl⟩ := declared
  have first := head?_opening word known
  cases word with
  | nil => cases first
  | cons c word => exact first

/-- Two texts with the same first closing parenthesis. -/
theorem append_closing_inj {a b c d : List Char} (first : ')' ∉ a) (second : ')' ∉ b)
    (same : a ++ ')' :: c = b ++ ')' :: d) : a = b ∧ c = d := by
  induction a generalizing b with
  | nil =>
    cases b with
    | nil => exact ⟨rfl, List.tail_eq_of_cons_eq same⟩
    | cons e b =>
      have head := List.head_eq_of_cons_eq same
      exact absurd (head ▸ List.mem_cons_self ..) second
  | cons e a ih =>
    cases b with
    | nil =>
      have head := List.head_eq_of_cons_eq same
      exact absurd (head ▸ List.mem_cons_self ..) first
    | cons f b =>
      obtain ⟨rfl, rest⟩ := List.cons.inj same
      obtain ⟨rfl, rfl⟩ := ih (fun member => first (List.mem_cons_of_mem _ member))
        (fun member => second (List.mem_cons_of_mem _ member)) rest
      exact ⟨rfl, rfl⟩

/-- An opening is found in front. -/
theorem opening?_append {word : List Char} (known : word ∈ openings) (rest : List Char) :
    opening? (word ++ rest) = some (word, rest) := by
  have hit : ((behind? word (word ++ rest)).map fun rest => (word, rest)) = some (word, rest) := by
    rw [behind?_eq_some_iff.2 rfl, Option.map_some]
  have others : ∀ other ∈ openings, ∀ result,
      ((behind? other (word ++ rest)).map fun rest => (other, rest)) = some result →
        result = (word, rest) := by
    intro other member result found
    obtain ⟨tail, behind, rfl⟩ := Option.map_eq_some_iff.1 found
    have split := behind?_eq_some_iff.1 behind
    have same : other = word := by
      rcases List.prefix_or_prefix_of_prefix
        (show other <+: word ++ rest from ⟨tail, split.symm⟩) (List.prefix_append word rest) with
        shorter | longer
      · exact opening_unique other member word known shorter
      · exact (opening_unique word known other member longer).symm
    subst same
    rw [List.append_cancel_left split]
  unfold opening?
  cases found : openings.findSome? fun word' =>
      (behind? word' (word ++ rest)).map fun rest => (word', rest) with
  | none =>
    have miss := List.findSome?_eq_none_iff.1 found word known
    rw [hit] at miss
    cases miss
  | some result =>
    obtain ⟨other, member, hit⟩ := List.exists_of_findSome?_eq_some found
    rw [others other member result hit]

/-- The first closing parenthesis is found behind a plain name. -/
theorem closing?_append {name : List Char} (plain : ∀ c ∈ name, isParenthesis c = false)
    (tail : List Char) : closing? (name ++ ')' :: tail) = some (name ++ [')'], tail) := by
  have all : ∀ c ∈ name, (!isParenthesis c) = true := by
    intro c member
    rw [plain c member]
    rfl
  have front : (name ++ ')' :: tail).takeWhile (!isParenthesis ·) = name := by
    rw [List.takeWhile_append_of_pos all, List.takeWhile_cons_of_neg (by decide), List.append_nil]
  have back : (name ++ ')' :: tail).dropWhile (!isParenthesis ·) = ')' :: tail := by
    rw [List.dropWhile_append_of_pos all, List.dropWhile_cons_of_neg (by decide)]
  simp only [closing?, front, back]

/-- A declared type with a number: its stem, a closing parenthesis, and digits. -/
theorem numbered?_eq_some_iff {text named rest : List Char} :
    numbered? text = some (named, rest) ↔ ∃ stem tail, IsDeclared stem ∧
      text = stem ++ ')' :: tail ∧ StartsDigit tail ∧ named = stem ++ [')'] ∧
      rest = tail.dropWhile isDecimalDigit := by
  constructor
  · intro found
    simp only [numbered?, Option.bind_eq_bind, Option.bind_eq_some_iff] at found
    obtain ⟨⟨word, inner⟩, opened, ⟨name, outer⟩, closed, kept⟩ := found
    split at kept
    · cases kept
    next digits =>
    simp only [Option.pure_def, Option.some.injEq, Prod.mk.injEq] at kept
    obtain ⟨rfl, rfl⟩ := kept
    obtain ⟨other, known, hit⟩ := List.exists_of_findSome?_eq_some opened
    obtain ⟨tail, behind, same⟩ := Option.map_eq_some_iff.1 hit
    cases same
    have split := behind?_eq_some_iff.1 behind
    simp only [closing?] at closed
    split at closed
    · next behindName close =>
      simp only [Option.some.injEq, Prod.mk.injEq] at closed
      obtain ⟨rfl, rfl⟩ := closed
      refine ⟨word ++ inner.takeWhile (!isParenthesis ·), behindName,
        ⟨word, known, _, ?_, rfl⟩, ?_, ?_, by rw [List.append_assoc], rfl⟩
      · intro c member
        simpa using List.all_eq_true.1 List.all_takeWhile c member
      · rw [List.append_assoc, ← close, List.takeWhile_append_dropWhile, split]
      · exact startsDigit_iff.2 (by simpa using digits)
    · cases closed
  · intro given
    obtain ⟨_, tail, ⟨word, known, name, plain, rfl⟩, rfl, digits, rfl, rfl⟩ := given
    simp only [numbered?, List.append_assoc, opening?_append known, closing?_append plain,
      Option.bind_eq_bind, Option.bind_some, startsDigit_iff.1 digits, Bool.false_eq_true,
      ↓reduceIte, Option.pure_def]

/-- Whether a text with a closing parenthesis starts with a declared type that has a number. -/
theorem numbered?_closing_eq_none {front back : List Char} (first : ')' ∉ front)
    (differs : ¬ (IsDeclared front ∧ StartsDigit back)) :
    numbered? (front ++ ')' :: back) = none := by
  cases found : numbered? (front ++ ')' :: back) with
  | none => rfl
  | some result =>
    obtain ⟨stem, tail, declared, split, digits, -⟩ := numbered?_eq_some_iff.1 found
    obtain ⟨rfl, rfl⟩ := append_closing_inj first declared.not_mem split
    exact absurd ⟨declared, digits⟩ differs

/-- No numbered name starts with a closing parenthesis. -/
theorem numbered?_closing (back : List Char) : numbered? (')' :: back) = none :=
  @numbered?_closing_eq_none [] back (by simp) fun ⟨declared, _⟩ => by
    have first := declared.head? []
    cases first

/-- Without a closing parenthesis there is no numbered name. -/
theorem numbered?_of_not_mem {text : List Char} (absent : ')' ∉ text) : numbered? text = none := by
  cases found : numbered? text with
  | none => rfl
  | some result =>
    obtain ⟨stem, tail, -, split, -⟩ := numbered?_eq_some_iff.1 found
    rw [split] at absent
    simp at absent

/-! ## Dropping numbers -/

/-- A numbered name is kept without its number, and the rest is scanned. -/
theorem withoutNumbers_of_numbered {text named rest : List Char}
    (found : numbered? text = some (named, rest)) :
    withoutNumbers text = named ++ withoutNumbers rest := by
  rw [withoutNumbers]
  split
  · next again =>
    rw [again] at found
    cases found
    rfl
  · next miss =>
    rw [found] at miss
    cases miss

/-- A character that starts no numbered name is kept. -/
theorem withoutNumbers_cons {c : Char} {rest : List Char} (plain : numbered? (c :: rest) = none) :
    withoutNumbers (c :: rest) = c :: withoutNumbers rest := by
  rw [withoutNumbers]
  split
  · next found =>
    rw [plain] at found
    cases found
  · rfl

@[simp] theorem withoutNumbers_nil : withoutNumbers [] = [] := by
  rw [withoutNumbers]
  rfl

/-- Without a closing parenthesis nothing is dropped. -/
theorem withoutNumbers_of_not_mem {text : List Char} (absent : ')' ∉ text) :
    withoutNumbers text = text := by
  induction text with
  | nil => exact withoutNumbers_nil
  | cons c rest ih =>
    rw [withoutNumbers_cons (numbered?_of_not_mem absent),
      ih fun member => absent (List.mem_cons_of_mem _ member)]

theorem head?_withoutNumbers (text : List Char) : (withoutNumbers text).head? = text.head? := by
  cases found : numbered? text with
  | some result =>
    obtain ⟨named, rest⟩ := result
    obtain ⟨stem, tail, declared, rfl, -, rfl, rfl⟩ := numbered?_eq_some_iff.1 found
    rw [withoutNumbers_of_numbered found, List.append_assoc, declared.head?, declared.head?]
  | none =>
    cases text with
    | nil => rw [withoutNumbers_nil]
    | cons c rest => rw [withoutNumbers_cons found, List.head?_cons, List.head?_cons]

/-- Dropping numbers makes no text start with a digit, or stop to. -/
theorem startsDigit_withoutNumbers {text : List Char} :
    StartsDigit (withoutNumbers text) ↔ StartsDigit text := by
  unfold StartsDigit
  rw [head?_withoutNumbers]

/-- What is in front of the first closing parenthesis stays, and no digit comes behind it that was
not there. -/
theorem withoutNumbers_closing (front back : List Char) (first : ')' ∉ front) :
    ∃ rest, withoutNumbers (front ++ ')' :: back) = front ++ ')' :: rest ∧
      (StartsDigit rest → StartsDigit back) := by
  induction front with
  | nil =>
    refine ⟨withoutNumbers back, ?_, startsDigit_withoutNumbers.1⟩
    rw [List.nil_append, withoutNumbers_cons (numbered?_closing back), List.nil_append]
  | cons c front ih =>
    rw [List.cons_append]
    cases found : numbered? (c :: (front ++ ')' :: back)) with
    | some result =>
      obtain ⟨named, rest⟩ := result
      obtain ⟨stem, tail, declared, split, -, rfl, rfl⟩ := numbered?_eq_some_iff.1 found
      rw [← List.cons_append] at split
      obtain ⟨rfl, rfl⟩ := append_closing_inj first declared.not_mem split
      refine ⟨withoutNumbers (back.dropWhile isDecimalDigit), ?_, ?_⟩
      · rw [withoutNumbers_of_numbered found, List.append_assoc, List.singleton_append]
      · intro digit
        exact absurd (startsDigit_withoutNumbers.1 digit) (not_startsDigit_dropWhile back)
    | none =>
      obtain ⟨rest, same, digits⟩ := ih fun member => first (List.mem_cons_of_mem _ member)
      refine ⟨rest, ?_, digits⟩
      rw [withoutNumbers_cons found, same, List.cons_append]

/-- Nowhere in a text is there a declared type with a number. -/
def Numberless (text : List Char) : Prop := ∀ tail, tail <:+ text → numbered? tail = none

/-- Where there is no number, nothing is dropped. -/
theorem withoutNumbers_of_numberless {text : List Char} (numberless : Numberless text) :
    withoutNumbers text = text := by
  induction text with
  | nil => exact withoutNumbers_nil
  | cons c rest ih =>
    rw [withoutNumbers_cons (numberless _ (List.suffix_refl _)),
      ih fun tail suffix => numberless tail (suffix.trans (List.suffix_cons c rest))]

/-- **Once is enough.** Where the numbers were dropped, no declared type has one. -/
theorem numberless_withoutNumbers (text : List Char) : Numberless (withoutNumbers text) := by
  induction text using withoutNumbers.induct with
  | case1 text named rest found ih =>
    obtain ⟨stem, tail, declared, rfl, -, rfl, rfl⟩ := numbered?_eq_some_iff.1 found
    rw [withoutNumbers_of_numbered found, List.append_assoc, List.singleton_append]
    rintro part ⟨before, same⟩
    -- the part starts inside the declared type, or at its parenthesis, or behind it
    rcases List.append_eq_append_iff.1 same with ⟨front, rfl, rfl⟩ | ⟨behind, -, closed⟩
    · refine numbered?_closing_eq_none ?_ ?_
      · exact fun member => declared.not_mem (List.mem_append_right _ member)
      · intro given
        obtain ⟨-, digit⟩ := given
        exact not_startsDigit_dropWhile tail (startsDigit_withoutNumbers.1 digit)
    · rcases List.suffix_cons_iff.1 ⟨behind, closed.symm⟩ with rfl | further
      · exact numbered?_closing _
      · exact ih part further
  | case2 found =>
    rw [withoutNumbers_nil]
    intro part suffix
    rw [List.suffix_nil.1 suffix]
    exact found
  | case3 c rest found ih =>
    rw [withoutNumbers_cons found]
    intro part suffix
    rcases List.suffix_cons_iff.1 suffix with rfl | further
    · by_cases member : ')' ∈ c :: rest
      · obtain ⟨front, back, split, first⟩ := List.eq_append_cons_of_mem member
        obtain ⟨behind, same, digits⟩ := withoutNumbers_closing front back first
        rw [← split, withoutNumbers_cons found] at same
        rw [same]
        refine numbered?_closing_eq_none first ?_
        intro given
        obtain ⟨declared, digit⟩ := given
        rw [split, numbered?_eq_some_iff.2 ⟨front, back, declared, rfl, digits digit, rfl, rfl⟩]
          at found
        cases found
      · rwa [withoutNumbers_of_not_mem fun inside => member (List.mem_cons_of_mem c inside)]
    · exact ih part further

/-- **Dropping numbers twice is dropping them once.** -/
theorem withoutNumbers_withoutNumbers (text : List Char) :
    withoutNumbers (withoutNumbers text) = withoutNumbers text :=
  withoutNumbers_of_numberless (numberless_withoutNumbers text)

/-! ## Trimming -/

/-- A text ends like its ends. -/
theorem getLast?_of_suffix {tail text : List Char} (suffix : tail <:+ text) {c : Char}
    (last : tail.getLast? = some c) : text.getLast? = some c := by
  obtain ⟨front, rfl⟩ := suffix
  rw [List.getLast?_append, last, Option.some_or]

/-- The last character is the one of the text, or a closing parenthesis. -/
theorem getLast?_withoutNumbers (text : List Char) {c : Char}
    (last : (withoutNumbers text).getLast? = some c) : text.getLast? = some c ∨ c = ')' := by
  induction text using withoutNumbers.induct with
  | case1 text named rest found ih =>
    obtain ⟨stem, tail, -, rfl, -, rfl, rfl⟩ := numbered?_eq_some_iff.1 found
    rw [withoutNumbers_of_numbered found, List.getLast?_append, List.getLast?_concat] at last
    rcases Option.or_eq_some_iff.1 last with behind | ⟨-, closing⟩
    · have digits : tail.dropWhile isDecimalDigit <:+ stem ++ ')' :: tail :=
        ((List.dropWhile_suffix _).trans (List.suffix_cons ')' tail)).trans
          (List.suffix_append stem _)
      exact (ih behind).imp_left (getLast?_of_suffix digits)
    · exact .inr (Option.some.inj closing).symm
  | case2 found =>
    rw [withoutNumbers_nil] at last
    cases last
  | case3 d rest found ih =>
    rw [withoutNumbers_cons found] at last
    cases behind : withoutNumbers rest with
    | nil =>
      have empty : rest.head? = none := by rw [← head?_withoutNumbers, behind]; rfl
      rw [List.head?_eq_none_iff.1 empty]
      rw [behind] at last
      exact .inl last
    | cons e more =>
      rw [behind, List.getLast?_cons_cons, ← behind] at last
      exact (ih last).imp_left (getLast?_of_suffix (List.suffix_cons d rest))

/-- A trimmed text starts with no blank. -/
theorem head?_trim (text : List Char) : ∀ c ∈ (trim text).head?, isBlank c = false := by
  intro c first
  have start : ∀ kept : List Char, c ∈ (dropRight isBlank kept).head? → c ∈ kept.head? := by
    intro kept
    cases kept with
    | nil => exact id
    | cons d rest =>
      rw [dropRight]
      split
      · split
        · exact fun absent => by cases absent
        · exact id
      · exact id
  have first := start _ first
  have all := List.head?_dropWhile_not isBlank text
  rw [first] at all
  simpa using all

/-- **Normalising is idempotent.** -/
@[simp] theorem normalize_normalize (name : String) :
    normalize (normalize name) = normalize name := by
  have blankless :
      trim (withoutNumbers (trim name.toList)) = withoutNumbers (trim name.toList) := by
    refine trimBy_eq_self ?_ ?_
    · rw [head?_withoutNumbers]
      exact head?_trim name.toList
    · intro c last
      rcases getLast?_withoutNumbers _ last with ends | rfl
      · exact getLast?_dropRight _ c ends
      · decide
  rw [normalize, normalize, String.toList_ofList, blankless, withoutNumbers_withoutNumbers]

end UpgradeGate.TypeName
