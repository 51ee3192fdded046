import UpgradeGate.Proofs.Json.Tokens

/-!
# Reading written documents

Compact and indented documents differ in the space between their tokens only. `Spells` says that a
text writes a document, whatever space is between the tokens; both writers produce such texts, and
the reader gives the document of each (`readDocument_of_spells`).

Documents with doubles, and objects in which a key comes twice, are left out (`Json.IsExact`): the
reader takes the last of several members with one key. All other documents are read back from
either form (`readDocument_compact`, `readDocument_indented`).
-/

namespace UpgradeGate.Json

open Text

variable {spelling : Spelling} {half : Option Char}

/-! ## Space between tokens -/

/-- What the writers put between tokens. -/
def IsSpace (space : List Char) : Prop := ∀ c ∈ space, c = ' ' ∨ c = '\n'

/-- A text starts with a token that does not close an array or an object. -/
def StartsValue (text : List Char) : Prop :=
  ∃ c rest, text = c :: rest ∧ isSpacing c = false ∧ c ≠ ']' ∧ c ≠ '\x7d' ∧ c ≠ '\uFEFF'

theorem isSpace_nil : IsSpace [] := by
  intro c member
  cases member

theorem isSpace_blank : IsSpace [' '] := by
  intro c member
  exact .inl (List.mem_singleton.1 member)

/-- A line feed and the blanks of a level. -/
theorem isSpace_newline (level : Nat) : IsSpace (newline level) := by
  intro c member
  rcases List.mem_cons.1 member with newline | blank
  · exact .inr newline
  · exact .inl (List.eq_of_mem_replicate blank)

theorem skip_append {space : List Char} (between : IsSpace space) (text : List Char) :
    skip (space ++ text) = skip text := by
  unfold skip
  rw [List.dropWhile_append_of_pos]
  intro c member
  rcases between c member with rfl | rfl <;> rfl

/-- A character that is no space is not skipped. -/
theorem skip_cons {c : Char} (token : isSpacing c = false) (rest : List Char) :
    skip (c :: rest) = c :: rest := by
  simp [skip, token]

/-- What a text starts with does not depend on what follows it. -/
theorem StartsValue.append {text : List Char} (starts : StartsValue text) (rest : List Char) :
    StartsValue (text ++ rest) := by
  obtain ⟨c, tail, rfl, token⟩ := starts
  exact ⟨c, tail ++ rest, rfl, token⟩

/-- Nothing is skipped in front of a value. -/
theorem skip_of_startsValue {text : List Char} (starts : StartsValue text) (rest : List Char) :
    skip (text ++ rest) = text ++ rest := by
  obtain ⟨c, tail, rfl, token, -⟩ := starts
  exact skip_cons token _

/-- Space in front of a value is skipped. -/
theorem skip_between {space text : List Char} (between : IsSpace space)
    (starts : StartsValue text) (rest : List Char) :
    skip (space ++ (text ++ rest)) = text ++ rest := by
  rw [skip_append between, skip_of_startsValue starts]

/-- A number ends in front of space. -/
theorem endsNumber_space {space : List Char} (between : IsSpace space) {rest : List Char}
    (ends : EndsNumber rest) : EndsNumber (space ++ rest) := by
  cases space with
  | nil => exact ends
  | cons c space =>
    apply endsNumber_cons
    rcases between c (List.mem_cons_self ..) with rfl | rfl <;> decide

/-- A number ends in front of a comma or a closing bracket. -/
theorem endsNumber_of_eq {c : Char} (token : c = ',' ∨ c = ']' ∨ c = '\x7d') (rest : List Char) :
    EndsNumber (c :: rest) := by
  apply endsNumber_cons
  rcases token with rfl | rfl | rfl <;> decide

/-! ## Written texts -/

/-- What a piece of a document's text stands for: a value, the items of an array up to its closing
bracket, or the members of an object up to its closing brace. -/
inductive Part where
  | value (document : Json)
  | items (items : List Json)
  | members (members : Members)

/-- A text writes a part of a document, with any space between the tokens. -/
inductive Spells (spelling : Spelling) : Part → List Char → Prop where
  | null : Spells spelling (.value .null) "null".toList
  | bool (value : Bool) :
      Spells spelling (.value (.bool value)) (if value then "true".toList else "false".toList)
  | int (value : Int) : Spells spelling (.value (.int value)) (integer value)
  | string (value : String) : Spells spelling (.value (.string value)) (writeString spelling value)
  | emptyArray : Spells spelling (.value (.array [])) ['[', ']']
  | array {items : List Json} {space text : List Char} (between : IsSpace space)
      (written : Spells spelling (.items items) text) :
      Spells spelling (.value (.array items)) ('[' :: (space ++ text))
  | emptyObject : Spells spelling (.value (.object [])) ['\x7b', '\x7d']
  | object {members : Members} {space text : List Char} (between : IsSpace space)
      (written : Spells spelling (.members members) text)
      (distinct : (members.map Prod.fst).Nodup) :
      Spells spelling (.value (.object members)) ('\x7b' :: (space ++ text))
  | lastItem {item : Json} {text space : List Char} (written : Spells spelling (.value item) text)
      (between : IsSpace space) : Spells spelling (.items [item]) (text ++ (space ++ [']']))
  | item {item : Json} {rest : List Json} {text space more : List Char}
      (written : Spells spelling (.value item) text) (between : IsSpace space)
      (others : Spells spelling (.items rest) more) :
      Spells spelling (.items (item :: rest)) (text ++ ',' :: (space ++ more))
  | lastMember {key : String} {value : Json} {gap text space : List Char} (apart : IsSpace gap)
      (written : Spells spelling (.value value) text) (between : IsSpace space) :
      Spells spelling (.members [(key, value)])
        (writeString spelling key ++ ':' :: (gap ++ (text ++ (space ++ ['\x7d']))))
  | member {key : String} {value : Json} {rest : Members} {gap text space more : List Char}
      (apart : IsSpace gap) (written : Spells spelling (.value value) text)
      (between : IsSpace space) (others : Spells spelling (.members rest) more) :
      Spells spelling (.members ((key, value) :: rest))
        (writeString spelling key ++ ':' :: (gap ++ (text ++ ',' :: (space ++ more))))

/-- A string stands between quotes, each character escaped on its own. -/
theorem writeString_eq (spelling : Spelling) (s : String) :
    writeString spelling s = '"' :: (s.toList.flatMap (escaped spelling) ++ ['"']) := rfl

/-- An integer starts with a digit or a minus sign. -/
theorem integer_eq_cons (value : Int) :
    ∃ c rest, integer value = c :: rest ∧ (c.isDigit = true ∨ c = '-') := by
  cases value with
  | ofNat n =>
    obtain ⟨c, digits, split⟩ := List.exists_cons_of_ne_nil (natural_ne_nil n)
    exact ⟨c, digits, split, .inl (isDigit_of_mem_natural (n := n) (by rw [split]; simp))⟩
  | negSucc n => exact ⟨'-', _, rfl, .inr rfl⟩

/-- Neither a digit nor a minus sign is a space, a bracket or a quote. -/
theorem ne_of_isDigit_or_minus {c : Char} (numeric : c.isDigit = true ∨ c = '-') :
    ∀ other ∈ [' ', '\t', '\n', '\r', ']', '\x7d', '\uFEFF', '"', '[', '\x7b'], c ≠ other := by
  rintro other member rfl
  have excluded : ∀ d ∈ [' ', '\t', '\n', '\r', ']', '\x7d', '\uFEFF', '"', '[', '\x7b'],
      ¬ (d.isDigit = true ∨ d = '-') := by simp
  exact excluded c member numeric

theorem startsValue_integer (value : Int) : StartsValue (integer value) := by
  obtain ⟨c, rest, split, numeric⟩ := integer_eq_cons value
  have differs := ne_of_isDigit_or_minus numeric
  refine ⟨c, rest, split, ?_, differs _ (by decide), differs _ (by decide), differs _ (by decide)⟩
  simp [isSpacing, differs ' ' (by decide), differs '\t' (by decide), differs '\n' (by decide),
    differs '\r' (by decide)]

/-- The text of a value, of items or of members starts with a token that opens something. -/
theorem Spells.startsValue {part : Part} {text : List Char} (spells : Spells spelling part text) :
    StartsValue text := by
  have quoted : ∀ s rest, StartsValue (writeString spelling s ++ rest) := by
    intro s rest
    exact ⟨'"', _, rfl, by decide⟩
  induction spells with
  | null => exact ⟨'n', _, rfl, by decide⟩
  | bool value =>
    cases value
    · exact ⟨'f', _, rfl, by decide⟩
    · exact ⟨'t', _, rfl, by decide⟩
  | int value => exact startsValue_integer value
  | string value => exact ⟨'"', _, rfl, by decide⟩
  | emptyArray | array => exact ⟨'[', _, rfl, by decide⟩
  | emptyObject | object => exact ⟨'\x7b', _, rfl, by decide⟩
  | lastItem _ _ ih => exact ih.append _
  | item _ _ _ ih _ => exact ih.append _
  | lastMember => exact quoted _ _
  | member => exact quoted _ _

/-! ## Carriage returns

Files are read with all line ends unified, so it matters that a document holds no carriage return:
one inside a string is escaped. -/

/-- No digit is a carriage return. -/
theorem hexDigit_ne_return : ∀ n < 16, '\r' ≠ hexDigit n := by
  decide

/-- No character is escaped to a carriage return. -/
theorem not_mem_escaped (escapes : spelling.EscapesControls) (c : Char) :
    '\r' ∉ escaped spelling c := by
  have digit : ∀ n, '\r' ≠ hexDigit (n % 16) := fun n =>
    hexDigit_ne_return _ (Nat.mod_lt _ (by decide))
  have control : spelling.keeps c = true → '\r' ≠ c := by
    rintro kept rfl
    exact absurd (escapes '\r' kept) (by decide)
  unfold escaped
  split
  · decide
  split
  · decide
  split
  · next kept => simpa using control kept
  split
  · decide
  split
  · decide
  split
  · decide
  split
  · decide
  split
  · decide
  · simp [List.mem_flatMap, hexFixed, digit]

/-- A written string has no carriage return. -/
theorem not_mem_writeString (escapes : spelling.EscapesControls) (s : String) :
    '\r' ∉ writeString spelling s := by
  simp [writeString_eq, not_mem_escaped escapes]

theorem not_mem_space {space : List Char} (between : IsSpace space) : '\r' ∉ space := by
  intro member
  rcases between _ member with same | same <;> exact absurd same (by decide)

/-- A written number has no carriage return. -/
theorem not_mem_natural (n : Nat) : '\r' ∉ natural n := by
  intro member
  exact absurd (isDigit_of_mem_natural member) (by decide)

/-- A written document has no carriage return. -/
theorem Spells.not_mem_return (escapes : spelling.EscapesControls) {part : Part}
    {text : List Char} (spells : Spells spelling part text) : '\r' ∉ text := by
  induction spells with
  | null => decide
  | bool value => cases value <;> decide
  | int value =>
    cases value with
    | ofNat n => exact not_mem_natural n
    | negSucc n => simp [integer, not_mem_natural]
  | string value => exact not_mem_writeString escapes value
  | emptyArray => decide
  | emptyObject => decide
  | array between _ ih => simp [not_mem_space between, ih]
  | object between _ _ ih => simp [not_mem_space between, ih]
  | lastItem _ between ih => simp [not_mem_space between, ih]
  | item _ between _ ih ihMore => simp [not_mem_space between, ih, ihMore]
  | lastMember apart _ between ih =>
    simp [not_mem_writeString escapes, not_mem_space apart, not_mem_space between, ih]
  | member apart _ between _ ih ihMore =>
    simp [not_mem_writeString escapes, not_mem_space apart, not_mem_space between, ih, ihMore]

/-! ## Reading -/

/-- A part is read from a text, whatever follows it. The fuel that is needed is twice the length of
the text: an item takes one step more than the array it is in has characters before it. -/
def Part.IsRead (half : Option Char) : Part → List Char → Prop
  | .value document, text => ∀ fuel rest, 2 * text.length ≤ fuel → EndsNumber rest →
      readValue half fuel (text ++ rest) = .ok (document, rest)
  | .items list, text => ∀ fuel rest, 2 * text.length ≤ fuel →
      readItems half fuel (text ++ rest) = .ok (list, rest)
  | .members list, text => ∀ fuel before rest, 2 * text.length ≤ fuel →
      ((before ++ list).map Prod.fst).Nodup →
      readMembers half fuel before (text ++ rest) = .ok (before ++ list, rest)

/-- A member with a new key is added behind the others. -/
theorem set_of_not_mem {before : Members} {key : String} (value : Json)
    (absent : key ∉ before.map Prod.fst) : set before key value = before ++ [(key, value)] := by
  induction before with
  | nil => rfl
  | cons first rest ih =>
    obtain ⟨other, old⟩ := first
    simp only [List.map_cons, List.mem_cons, not_or] at absent
    have differ : (other == key) = false := beq_false_of_ne (Ne.symm absent.1)
    simp only [set, Table.put, differ] at ih ⊢
    simpa using ih absent.2

/-- A member whose key did not come before is added behind the others. -/
theorem set_of_nodup {before others : Members} {key : String} {value : Json}
    (distinct : ((before ++ (key, value) :: others).map Prod.fst).Nodup) :
    set before key value = before ++ [(key, value)] := by
  apply set_of_not_mem
  intro member
  rw [List.map_append, List.nodup_append] at distinct
  exact distinct.2.2 key member key (by simp) rfl

/-- A written string is read as a value. -/
theorem readValue_string (escapes : spelling.EscapesControls) (fuel : Nat) (s : String)
    (rest : List Char) :
    readValue half (fuel + 1) (writeString spelling s ++ rest) = .ok (.string s, rest) := by
  have read := readString_written escapes half (writeString spelling s ++ rest) s rest
  rw [writeString_eq] at read ⊢
  simp only [List.cons_append, List.append_assoc, List.nil_append] at read ⊢
  rw [readValue]
  simp only [read]
  rfl

/-- A value other than a string, an array or an object is a word or a number. -/
theorem readValue_scalar {c : Char} {text : List Char} (fuel : Nat)
    (plain : c ≠ '"' ∧ c ≠ '[' ∧ c ≠ '\x7b') :
    readValue half (fuel + 1) (c :: text) = readScalar (c :: text) := by
  obtain ⟨quote, bracket, brace⟩ := plain
  rw [readValue] <;> simp_all

/-- An array that is not empty is read by its items. -/
theorem readValue_array {inner text : List Char} (fuel : Nat) (starts : StartsValue text)
    (onward : skip inner = text) :
    readValue half (fuel + 1) ('[' :: inner) =
      (readItems half fuel text).map fun (items, rest) => (.array items, rest) := by
  obtain ⟨c, tail, rfl, -, item, -⟩ := starts
  rw [readValue]
  simp only [onward]
  split
  · simp_all
  · rfl

/-- An object that is not empty is read by its members. -/
theorem readValue_object {inner text : List Char} (fuel : Nat) (starts : StartsValue text)
    (onward : skip inner = text) :
    readValue half (fuel + 1) ('\x7b' :: inner) =
      (readMembers half fuel [] text).map fun (members, rest) => (.object members, rest) := by
  obtain ⟨c, tail, rfl, -, -, member, -⟩ := starts
  rw [readValue]
  simp only [onward]
  split
  · simp_all
  · rfl

/-- Members are read by the first key, its value, and what follows it. -/
theorem readMembers_key (half : Option Char) (escapes : spelling.EscapesControls) (fuel : Nat)
    (before : Members) (key : String) {gap text : List Char} (apart : IsSpace gap)
    (starts : StartsValue text) (rest : List Char) :
    readMembers half (fuel + 1) before
        (writeString spelling key ++ ':' :: (gap ++ (text ++ rest))) =
      match readValue half fuel (text ++ rest) with
      | .error refusal => .error refusal
      | .ok (value, rest) =>
        match skip rest with
        | '\x7d' :: rest => .ok (set before key value, rest)
        | ',' :: rest => readMembers half fuel (set before key value) (skip rest)
        | rest => .error ⟨.comma, rest⟩ := by
  have read := readString_written escapes half
    (writeString spelling key ++ ':' :: (gap ++ (text ++ rest))) key
    (':' :: (gap ++ (text ++ rest)))
  have colon : skip (':' :: (gap ++ (text ++ rest))) = ':' :: (gap ++ (text ++ rest)) :=
    skip_cons (by decide) _
  have onward := skip_between apart starts rest
  rw [writeString_eq] at read ⊢
  simp only [List.cons_append, List.append_assoc, List.nil_append] at read ⊢
  rw [readMembers]
  simp only [read, colon]
  generalize skip (gap ++ (text ++ rest)) = value at onward ⊢
  subst onward
  rfl

/-! ### Parts

A part of each form is read, provided that the parts it is made of are. -/

/-- Fuel for a text that is not empty is enough for one step, and for the rest of the text. -/
theorem exists_fuel {more fuel : Nat} (enough : 2 * (more + 1) ≤ fuel) :
    ∃ less, fuel = less + 1 ∧ 2 * more + 1 ≤ less :=
  ⟨fuel - 1, by omega, by omega⟩

namespace Part

theorem isRead_null : (value .null).IsRead half "null".toList := by
  intro fuel rest enough _
  obtain ⟨fuel, rfl, -⟩ := exists_fuel enough
  exact readValue_scalar fuel (by decide)

theorem isRead_bool (truth : Bool) :
    (value (.bool truth)).IsRead half (if truth then "true".toList else "false".toList) := by
  cases truth with
  | false =>
    intro fuel rest enough _
    obtain ⟨fuel, rfl, -⟩ := exists_fuel enough
    exact readValue_scalar fuel (by decide)
  | true =>
    intro fuel rest enough _
    obtain ⟨fuel, rfl, -⟩ := exists_fuel enough
    exact readValue_scalar fuel (by decide)

theorem isRead_int (number : Int) : (value (.int number)).IsRead half (integer number) := by
  intro fuel rest enough ends
  obtain ⟨c, digits, split, numeric⟩ := integer_eq_cons number
  have differs := ne_of_isDigit_or_minus numeric
  have plain : c ≠ '"' ∧ c ≠ '[' ∧ c ≠ '\x7b' :=
    ⟨differs _ (by decide), differs _ (by decide), differs _ (by decide)⟩
  have read := readScalar_integer number ends
  rw [split] at enough read ⊢
  obtain ⟨fuel, rfl, -⟩ := exists_fuel enough
  exact (readValue_scalar fuel plain).trans read

theorem isRead_string (escapes : spelling.EscapesControls) (text : String) :
    (value (.string text)).IsRead half (writeString spelling text) := by
  intro fuel rest enough _
  rw [writeString_eq] at enough
  obtain ⟨fuel, rfl, -⟩ := exists_fuel enough
  exact readValue_string escapes fuel text rest

theorem isRead_emptyArray : (value (.array [])).IsRead half ['[', ']'] := by
  intro fuel rest enough _
  obtain ⟨fuel, rfl, -⟩ := exists_fuel enough
  rfl

theorem isRead_emptyObject : (value (.object [])).IsRead half ['\x7b', '\x7d'] := by
  intro fuel rest enough _
  obtain ⟨fuel, rfl, -⟩ := exists_fuel enough
  rfl

/-- An array is read where its items are. -/
theorem IsRead.array {list : List Json} {space text : List Char} (between : IsSpace space)
    (starts : StartsValue text) (listed : (items list).IsRead half text) :
    (value (.array list)).IsRead half ('[' :: (space ++ text)) := by
  intro fuel rest enough _
  obtain ⟨fuel, rfl, remains⟩ := exists_fuel enough
  rw [List.length_append] at remains
  have onward : skip ((space ++ text) ++ rest) = text ++ rest := by
    rw [List.append_assoc, skip_between between starts]
  rw [List.cons_append, readValue_array fuel (starts.append rest) onward,
    listed fuel rest (by omega)]
  rfl

/-- An object is read where its members are and no key comes twice. -/
theorem IsRead.object {list : Members} {space text : List Char} (between : IsSpace space)
    (starts : StartsValue text) (listed : (members list).IsRead half text)
    (distinct : (list.map Prod.fst).Nodup) :
    (value (.object list)).IsRead half ('\x7b' :: (space ++ text)) := by
  intro fuel rest enough _
  obtain ⟨fuel, rfl, remains⟩ := exists_fuel enough
  rw [List.length_append] at remains
  have onward : skip ((space ++ text) ++ rest) = text ++ rest := by
    rw [List.append_assoc, skip_between between starts]
  rw [List.cons_append, readValue_object fuel (starts.append rest) onward,
    listed fuel [] rest (by omega) distinct]
  rfl

/-- The last item stands in front of the closing bracket. -/
theorem IsRead.lastItem {item : Json} {text space : List Char}
    (read : (value item).IsRead half text) (between : IsSpace space) :
    (items [item]).IsRead half (text ++ (space ++ [']'])) := by
  intro fuel rest enough
  simp only [List.length_append, List.length_singleton, ← Nat.add_assoc] at enough
  obtain ⟨fuel, rfl, remains⟩ := exists_fuel enough
  have taken := read fuel (space ++ ']' :: rest) (by omega)
    (endsNumber_space between (endsNumber_of_eq (by simp) rest))
  have onward : skip (space ++ ']' :: rest) = ']' :: rest := by
    rw [skip_append between, skip_cons (by decide)]
  rw [readItems]
  simp only [List.append_assoc, List.cons_append, List.nil_append, taken, onward]

/-- An item stands in front of a comma and the other items. -/
theorem IsRead.item {item : Json} {others : List Json} {text space more : List Char}
    (read : (value item).IsRead half text) (between : IsSpace space) (starts : StartsValue more)
    (listed : (items others).IsRead half more) :
    (items (item :: others)).IsRead half (text ++ ',' :: (space ++ more)) := by
  intro fuel rest enough
  simp only [List.length_append, List.length_cons, ← Nat.add_assoc] at enough
  obtain ⟨fuel, rfl, remains⟩ := exists_fuel enough
  have taken := read fuel (',' :: (space ++ (more ++ rest))) (by omega)
    (endsNumber_of_eq (by simp) _)
  have comma : skip (',' :: (space ++ (more ++ rest))) = ',' :: (space ++ (more ++ rest)) :=
    skip_cons (by decide) _
  have onward := skip_between between starts rest
  have takenMore := listed fuel rest (by omega)
  rw [readItems]
  simp only [List.append_assoc, List.cons_append, taken, comma, onward, takenMore]
  rfl

/-- The last member stands in front of the closing brace. -/
theorem IsRead.lastMember (escapes : spelling.EscapesControls) {key : String} {document : Json}
    {gap text space : List Char} (apart : IsSpace gap) (starts : StartsValue text)
    (read : (value document).IsRead half text) (between : IsSpace space) :
    (members [(key, document)]).IsRead half
      (writeString spelling key ++ ':' :: (gap ++ (text ++ (space ++ ['\x7d'])))) := by
  intro fuel before rest enough distinct
  simp only [List.length_append, List.length_cons, List.length_nil, ← Nat.add_assoc] at enough
  obtain ⟨fuel, rfl, remains⟩ := exists_fuel enough
  have taken := read fuel (space ++ '\x7d' :: rest) (by omega)
    (endsNumber_space between (endsNumber_of_eq (by simp) rest))
  have onward : skip (space ++ '\x7d' :: rest) = '\x7d' :: rest := by
    rw [skip_append between, skip_cons (by decide)]
  have added := set_of_nodup distinct
  have start := readMembers_key half escapes fuel before key apart starts (space ++ '\x7d' :: rest)
  simp only [List.append_assoc, List.cons_append, List.nil_append, start, taken, onward, added]

/-- A member stands in front of a comma and the other members. -/
theorem IsRead.member (escapes : spelling.EscapesControls) {key : String} {document : Json}
    {others : Members} {gap text space more : List Char} (apart : IsSpace gap)
    (starts : StartsValue text) (read : (value document).IsRead half text)
    (between : IsSpace space) (startsMore : StartsValue more)
    (listed : (members others).IsRead half more) :
    (members ((key, document) :: others)).IsRead half
      (writeString spelling key ++ ':' :: (gap ++ (text ++ ',' :: (space ++ more)))) := by
  intro fuel before rest enough distinct
  simp only [List.length_append, List.length_cons, ← Nat.add_assoc] at enough
  obtain ⟨fuel, rfl, remains⟩ := exists_fuel enough
  have taken := read fuel (',' :: (space ++ (more ++ rest))) (by omega)
    (endsNumber_of_eq (by simp) _)
  have comma : skip (',' :: (space ++ (more ++ rest))) = ',' :: (space ++ (more ++ rest)) :=
    skip_cons (by decide) _
  have onward := skip_between between startsMore rest
  have added := set_of_nodup distinct
  have takenMore := listed fuel (before ++ [(key, document)]) rest (by omega)
    (by rw [List.append_assoc]; exact distinct)
  have start := readMembers_key half escapes fuel before key apart starts
    (',' :: (space ++ (more ++ rest)))
  simp only [List.append_assoc, List.cons_append, start, taken, comma, onward, added, takenMore,
    List.nil_append]

end Part

/-- **Reading what was written.** Every part is read from each text that writes it. -/
theorem Spells.isRead (escapes : spelling.EscapesControls) {part : Part} {text : List Char}
    (spells : Spells spelling part text) : part.IsRead half text := by
  induction spells with
  | null => exact Part.isRead_null
  | bool truth => exact Part.isRead_bool truth
  | int number => exact Part.isRead_int number
  | string text => exact Part.isRead_string escapes text
  | emptyArray => exact Part.isRead_emptyArray
  | emptyObject => exact Part.isRead_emptyObject
  | array between written ih => exact ih.array between written.startsValue
  | object between written distinct ih => exact ih.object between written.startsValue distinct
  | lastItem _ between ih => exact ih.lastItem between
  | item _ between others ih ihMore => exact ih.item between others.startsValue ihMore
  | lastMember apart written between ih =>
    exact ih.lastMember escapes apart written.startsValue between
  | member apart written between others ih ihMore =>
    exact ih.member escapes apart written.startsValue between others.startsValue ihMore

/-- A document is read from each text that writes it. -/
theorem readDocument_of_spells (escapes : spelling.EscapesControls) {document : Json}
    {text : List Char} (spells : Spells spelling (.value document) text) :
    readDocument half text = .ok document := by
  have isRead : (Part.value document).IsRead half text := spells.isRead escapes
  have read := isRead (2 * text.length + 2) [] (by omega) endsNumber_nil
  have start := skip_of_startsValue spells.startsValue []
  rw [List.append_nil] at read start
  obtain ⟨c, tail, rfl, -, -, -, mark⟩ := spells.startsValue
  unfold readDocument
  split
  · simp_all
  · simp only [start, read]
    rfl

/-! ## Writing -/

mutual

/-- A document without doubles in which no object has a key twice. -/
def IsExact : Json → Prop
  | .float _ => False
  | .array items => AllExact items
  | .object members => (members.map Prod.fst).Nodup ∧ MembersExact members
  | _ => True

/-- All items are exact. -/
def AllExact : List Json → Prop
  | [] => True
  | item :: rest => item.IsExact ∧ AllExact rest

/-- The values of all members are exact. -/
def MembersExact : List (String × Json) → Prop
  | [] => True
  | (_, value) :: rest => value.IsExact ∧ MembersExact rest

end

mutual

/-- The compact writer writes documents. -/
theorem spells_compact (spelling : Spelling) :
    (document : Json) → document.IsExact →
      Spells spelling (.value document) (compact spelling document)
  | .null, _ => .null
  | .bool value, _ => .bool value
  | .int value, _ => .int value
  | .float _, exact => exact.elim
  | .string value, _ => .string value
  | .array [], _ => .emptyArray
  | .array (item :: rest), exact =>
    (Spells.array isSpace_nil (spells_compactItems spelling (item :: rest) exact (by simp)) :)
  | .object [], _ => .emptyObject
  | .object (member :: rest), exact =>
    (Spells.object isSpace_nil
      (spells_compactMembers spelling (member :: rest) exact.2 (by simp)) exact.1 :)

/-- The compact text of items writes them. -/
theorem spells_compactItems (spelling : Spelling) :
    (items : List Json) → AllExact items → items ≠ [] →
      Spells spelling (.items items) (compactItems spelling items ++ [']'])
  | [], _, filled => absurd rfl filled
  | [item], exact, _ => .lastItem (spells_compact spelling item exact.1) isSpace_nil
  | item :: next :: rest, exact, _ => by
    simp only [compactItems, List.append_assoc, List.cons_append]
    exact (Spells.item (spells_compact spelling item exact.1) isSpace_nil
      (spells_compactItems spelling (next :: rest) exact.2 (by simp)) :)

/-- The compact text of members writes them. -/
theorem spells_compactMembers (spelling : Spelling) :
    (members : List (String × Json)) → MembersExact members → members ≠ [] →
      Spells spelling (.members members) (compactMembers spelling members ++ ['\x7d'])
  | [], _, filled => absurd rfl filled
  | [(key, value)], exact, _ => by
    rw [compactMembers, List.append_assoc, List.cons_append]
    exact .lastMember isSpace_nil (spells_compact spelling value exact.1) isSpace_nil
  | (key, value) :: next :: rest, exact, _ => by
    simp only [compactMembers, List.append_assoc, List.cons_append]
    exact (Spells.member isSpace_nil (spells_compact spelling value exact.1) isSpace_nil
      (spells_compactMembers spelling (next :: rest) exact.2 (by simp)) :)

end

mutual

/-- The writer of several lines writes documents. -/
theorem spells_indentedAt (spelling : Spelling) :
    (document : Json) → (level : Nat) → document.IsExact →
      Spells spelling (.value document) (indentedAt spelling level document)
  | .null, _, _ => .null
  | .bool value, _, _ => .bool value
  | .int value, _, _ => .int value
  | .float _, _, exact => exact.elim
  | .string value, _, _ => .string value
  | .array [], _, _ => .emptyArray
  | .array (item :: rest), level, exact => by
    rw [indentedAt]
    simp only [List.append_assoc, List.cons_append]
    exact .array (isSpace_newline _) (spells_indentedItems spelling rest item level
      (spells_indentedAt spelling item (level + 1) exact.1) exact.2)
  | .object [], _, _ => .emptyObject
  | .object ((key, value) :: rest), level, exact => by
    rw [indentedAt]
    simp only [List.append_assoc, List.cons_append]
    exact .object (isSpace_newline _) (spells_indentedMembers spelling rest key value level
      (spells_indentedAt spelling value (level + 1) exact.2.1) exact.2.2) exact.1

/-- Further items of an array behind one that is written, and the closing bracket. -/
theorem spells_indentedItems (spelling : Spelling) :
    (rest : List Json) → (item : Json) → (level : Nat) → {text : List Char} →
      Spells spelling (.value item) text → AllExact rest →
      Spells spelling (.items (item :: rest))
        (text ++ (indentedItems spelling (level + 1) rest ++ (newline level ++ [']'])))
  | [], _, level, _, written, _ => .lastItem written (isSpace_newline level)
  | next :: rest, _, level, _, written, exact => by
    rw [indentedItems]
    simp only [List.append_assoc, List.cons_append]
    exact .item written (isSpace_newline _) (spells_indentedItems spelling rest next level
      (spells_indentedAt spelling next (level + 1) exact.1) exact.2)

/-- Further members of an object behind one that is written, and the closing brace. -/
theorem spells_indentedMembers (spelling : Spelling) :
    (rest : List (String × Json)) → (key : String) → (value : Json) → (level : Nat) →
      {text : List Char} → Spells spelling (.value value) text → MembersExact rest →
      Spells spelling (.members ((key, value) :: rest))
        (writeString spelling key ++ ':' :: ' ' :: (text ++
          (indentedMembers spelling (level + 1) rest ++ (newline level ++ ['\x7d']))))
  | [], _, _, level, _, written, _ =>
    (Spells.lastMember isSpace_blank written (isSpace_newline level) :)
  | (next, other) :: rest, _, _, level, _, written, exact => by
    rw [indentedMembers]
    simp only [List.append_assoc, List.cons_append]
    exact (Spells.member isSpace_blank written (isSpace_newline _)
      (spells_indentedMembers spelling rest next other level
        (spells_indentedAt spelling other (level + 1) exact.1) exact.2) :)

end

/-- **Compact documents are read back.** -/
theorem readDocument_compact (escapes : spelling.EscapesControls) {document : Json}
    (exact : document.IsExact) :
    readDocument half (compact spelling document) = .ok document :=
  readDocument_of_spells escapes (spells_compact spelling document exact)

/-- **Indented documents are read back.** -/
theorem readDocument_indented (escapes : spelling.EscapesControls) {document : Json}
    (exact : document.IsExact) :
    readDocument half (indented spelling document) = .ok document :=
  readDocument_of_spells escapes (spells_indentedAt spelling document 0 exact)

/-- An indented document has no carriage return. -/
theorem not_mem_indentedText {document : Json} (exact : document.IsExact) :
    '\r' ∉ (indentedText plainSpelling document).toList := by
  intro member
  rw [indentedText, String.toList_ofList] at member
  exact (spells_indentedAt plainSpelling document 0 exact).not_mem_return escapesControls_plain
    member

/-- A compact document is read back from a file. -/
theorem ofStoredText?_compactText {document : Json} (exact : document.IsExact) :
    ofStoredText? (compactText plainSpelling document) = some document := by
  simp [ofStoredText?, compactText, readDocument_compact escapesControls_plain exact,
    Except.toOption]

/-- An indented document is read back from a file. -/
theorem ofStoredText?_indentedText {document : Json} (exact : document.IsExact) :
    ofStoredText? (indentedText plainSpelling document) = some document := by
  simp [ofStoredText?, indentedText, readDocument_indented escapesControls_plain exact,
    Except.toOption]

/-- An indented document is read back from a tool's output. -/
theorem ofToolOutput_indentedText {document : Json} (exact : document.IsExact) :
    ofToolOutput (indentedText plainSpelling document) = .ok document := by
  rw [ofToolOutput, indentedText, String.toList_ofList,
    readDocument_indented escapesControls_plain exact]
  rfl

end UpgradeGate.Json
