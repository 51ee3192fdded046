import UpgradeGate.Proofs.Layout.Description

/-!
# Refused descriptions

What comes of reading any document as the description of a layout (`CompilerOutput.Outcome`): it
lists no items, or its first item that cannot be read is to blame, or its entries clash, or it gives
a layout with one entry for each item. All of these are faults of layouts but one: an infinite
number ends the reading as an overflow, where the first item that cannot be read has one
(`CompilerOutput.entryOf_eq_unbounded_iff`).
-/

namespace UpgradeGate.CompilerOutput

/-! ## Infinite numbers -/

/-- A number without bound. -/
def IsInfinite (value : Json) : Prop := ∃ negative, value = .float (.infinite negative)

/-- An item whose slot is infinite, or whose slot is a whole number and whose offset is infinite. -/
inductive Overflows : Json → Prop
  | slot {members : Json.Members} {slot : Json} (found : Json.find? members "slot" = some slot)
    (infinite : IsInfinite slot) : Overflows (.object members)
  | offset {members : Json.Members} {slot offset : Json} {whole : Int}
    (found : Json.find? members "slot" = some slot)
    (read : wholeNumber 0 Literal.tagged? slot = .ok whole)
    (found' : Json.find? members "offset" = some offset) (infinite : IsInfinite offset) :
    Overflows (.object members)

variable {output contract item value : Json} {items : List Json} {entries : List Entry}
  {layout : Layout} {result : Except Failure Layout}

theorem wholeNumber_eq_unbounded_iff {base : Nat} {numeral? : String → Option Int} :
    wholeNumber base numeral? value = .error .unbounded ↔ IsInfinite value := by
  constructor
  · intro refused
    cases value with
    | float number =>
      cases number with
      | infinite negative => exact ⟨negative, rfl⟩
      | _ => cases refused
    | string text =>
      rw [wholeNumber] at refused
      split at refused
      · cases refused
      · split at refused <;> cases refused
    | _ => cases refused
  · rintro ⟨negative, rfl⟩
    rfl

/-- Once its slot and its offset are read, nothing of an item overflows. -/
theorem entryOf_ne_unbounded {members : Json.Members} {slot : Json} {whole whole' : Int}
    (found : Json.find? members "slot" = some slot)
    (read : wholeNumber 0 Literal.tagged? slot = .ok whole)
    (read' : wholeNumber 10 Literal.plain? ((Json.find? members "offset").getD (.int 0)) =
      .ok whole') : entryOf (.object members) ≠ .error .unbounded := by
  intro refused
  simp only [entryOf, demand, found, read, read', bind, Except.bind] at refused
  cases typed : Json.find? members "type" with
  | none =>
    rw [typed] at refused
    cases refused
  | some type =>
    simp only [typed] at refused
    split at refused <;> cases refused

/-- An item that is refused for an infinity has one for its slot or its offset. -/
theorem overflows_of_unbounded {members : Json.Members}
    (refused : entryOf (.object members) = .error .unbounded) : Overflows (.object members) := by
  cases found : Json.find? members "slot" with
  | none =>
    simp only [entryOf, demand, found, bind, Except.bind] at refused
    cases refused
  | some slot =>
    cases read : wholeNumber 0 Literal.tagged? slot with
    | error refusal =>
      simp only [entryOf, demand, found, read, bind, Except.bind] at refused
      cases refused
      exact .slot found (wholeNumber_eq_unbounded_iff.1 read)
    | ok whole =>
      cases read' : wholeNumber 10 Literal.plain?
          ((Json.find? members "offset").getD (.int 0)) with
      | error refusal =>
        simp only [entryOf, demand, found, read, read', bind, Except.bind] at refused
        cases refused
        have infinite := wholeNumber_eq_unbounded_iff.1 read'
        cases found' : Json.find? members "offset" with
        | none =>
          rw [found'] at infinite
          obtain ⟨_, differ⟩ := infinite
          cases differ
        | some offset =>
          rw [found'] at infinite
          exact .offset found read found' infinite
      | ok => exact absurd refused (entryOf_ne_unbounded found read read')

/-- **An item overflows** where it has an infinite number and nothing is wrong before it. -/
theorem entryOf_eq_unbounded_iff : entryOf item = .error .unbounded ↔ Overflows item := by
  constructor
  · intro refused
    cases item with
    | object members => exact overflows_of_unbounded refused
    | _ => cases refused
  · intro overflows
    cases overflows with
    | slot found infinite =>
      simp only [entryOf, demand, found, wholeNumber_eq_unbounded_iff.2 infinite, bind, Except.bind]
    | offset found read found' infinite =>
      simp only [entryOf, demand, found, read, found', Option.getD_some,
        wholeNumber_eq_unbounded_iff.2 infinite, bind, Except.bind]

/-! ## Outcomes -/

/-- Items are read as entries, one each. -/
abbrev AreRead (items : List Json) (entries : List Entry) : Prop :=
  List.Forall₂ (fun item entry => entryOf item = .ok entry) items entries

/-- An item is the first one in a document that cannot be read. -/
def FirstRefused (output item : Json) (refusal : ItemRefusal) : Prop :=
  ∃ front rest entries, ListsItems (front ++ item :: rest) output ∧ AreRead front entries ∧
    entryOf item = .error refusal

/-- What comes of reading a document for a contract. -/
inductive Outcome (output contract : Json) : Except Failure Layout → Prop
  /-- It lists no items. -/
  | unlisted (nothing : ∀ items, ¬ ListsItems items output) :
    Outcome output contract (.error (.layout .noStorageList))
  /-- An item is at fault. -/
  | malformed {item : Json} {fault : ItemFault} (first : FirstRefused output item (.fault fault)) :
    Outcome output contract (.error (.layout (.malformedItem item fault)))
  /-- An item has an infinite number. -/
  | overflow {item : Json} (first : FirstRefused output item .unbounded) :
    Outcome output contract (.error (.plain .overflow))
  /-- The contract is given by something other than its name. -/
  | misnamed {items : List Json} {entries : List Entry} (lists : ListsItems items output)
    (read : AreRead items entries) (differs : ∀ name, contract ≠ .ofText? name) :
    Outcome output contract (.error (.invalid .layout [⟨["contract_name"], .stringType⟩]))
  /-- Two entries share a position. -/
  | clash {items : List Json} {entries : List Entry} {name : Option String} {first second : Entry}
    (lists : ListsItems items output) (read : AreRead items entries)
    (named : contract = .ofText? name) (clash : Layout.FirstClash entries first second) :
    Outcome output contract (.error (.layout (.samePosition first second)))
  /-- The entries make a layout. -/
  | layout {items : List Json} {entries : List Entry} {name : Option String}
    (lists : ListsItems items output) (read : AreRead items entries)
    (named : contract = .ofText? name) (distinct : (entries.map Entry.position).Nodup) :
    Outcome output contract (.ok ⟨name, Layout.sortEntries entries⟩)

/-- The items of an output are read one by one, and then arranged. -/
theorem layoutOf_of_lists (lists : ListsItems items output) :
    layoutOf output contract =
      (items.mapM fun item => (entryOf item).mapError (refuse item)).bind
        (Layout.collect contract) := by
  rw [layoutOf, items?_eq_some_iff.2 lists]
  rfl

/-- **All items are read**: what is left is to arrange their entries. -/
theorem layoutOf_of_read (lists : ListsItems items output) (read : AreRead items entries) :
    layoutOf output contract = Layout.collect contract entries := by
  have taken : (items.mapM fun item => (entryOf item).mapError (refuse item)) = .ok entries :=
    mapM_eq_ok_iff.2 (read.imp fun _ _ => mapError_eq_ok_iff.2)
  rw [layoutOf_of_lists lists, taken]
  rfl

/-- **An item is refused**: the first of these is reported, whatever comes behind it. -/
theorem layoutOf_of_refused {refusal : ItemRefusal} (first : FirstRefused output item refusal) :
    layoutOf output contract = .error (refuse item refusal) := by
  obtain ⟨front, rest, entries, lists, read, refused⟩ := first
  have failed : ((front ++ item :: rest).mapM fun item =>
      (entryOf item).mapError (refuse item)) = .error (refuse item refusal) :=
    mapM_eq_error_iff.2 ⟨front, item, rest, entries, rfl,
      read.imp fun _ _ => mapError_eq_ok_iff.2, mapError_eq_error_iff.2 ⟨refusal, refused, rfl⟩⟩
  rw [layoutOf_of_lists lists, failed]
  rfl

/-- A contract that is no text is refused. -/
theorem collect_of_misnamed (differs : ∀ name, contract ≠ .ofText? name) (entries : List Entry) :
    Layout.collect contract entries =
      .error (.invalid .layout [⟨["contract_name"], .stringType⟩]) := by
  cases contract with
  | null => exact absurd rfl (differs none)
  | string text => exact absurd rfl (differs (some text))
  | _ => rfl

/-- What comes of an output whose items are all read. -/
theorem outcome_of_read (lists : ListsItems items output) (read : AreRead items entries) :
    Outcome output contract (layoutOf output contract) := by
  rw [layoutOf_of_read lists read]
  by_cases named : ∃ name, contract = .ofText? name
  · obtain ⟨name, rfl⟩ := named
    rw [Layout.collect_ofText?]
    by_cases distinct : (entries.map Entry.position).Nodup
    · rw [Layout.ofEntries_eq_ok_iff.2 ⟨distinct, rfl⟩]
      exact .layout lists read rfl distinct
    · obtain ⟨first, second, clash, failed⟩ := Layout.exists_firstClash name distinct
      rw [failed]
      exact .clash lists read rfl clash
  · have differs : ∀ name, contract ≠ .ofText? name := fun name same => named ⟨name, same⟩
    rw [collect_of_misnamed differs]
    exact .misnamed lists read differs

/-- Reading any document has one of the outcomes. -/
theorem outcome_layoutOf (output contract : Json) :
    Outcome output contract (layoutOf output contract) := by
  cases listed : items? output with
  | none =>
    have failed : layoutOf output contract = .error (.layout .noStorageList) := by
      rw [layoutOf, listed]
    rw [failed]
    refine .unlisted fun items lists => ?_
    rw [items?_eq_some_iff.2 lists] at listed
    cases listed
  | some items =>
    have lists := items?_eq_some_iff.1 listed
    cases taken : items.mapM fun item => (entryOf item).mapError (refuse item) with
    | ok entries =>
      exact outcome_of_read lists ((mapM_eq_ok_iff.1 taken).imp fun _ _ => mapError_eq_ok_iff.1)
    | error failure =>
      obtain ⟨front, item, rest, entries, rfl, read, failed⟩ := mapM_eq_error_iff.1 taken
      obtain ⟨refusal, refused, rfl⟩ := mapError_eq_error_iff.1 failed
      have first : FirstRefused output item refusal :=
        ⟨front, rest, entries, lists, read.imp fun _ _ => mapError_eq_ok_iff.1, refused⟩
      rw [layoutOf_of_refused first]
      cases refusal with
      | fault fault => exact .malformed first
      | unbounded => exact .overflow first

/-- **Reading a document has one outcome.** -/
theorem layoutOf_eq_iff : layoutOf output contract = result ↔ Outcome output contract result := by
  constructor
  · rintro rfl
    exact outcome_layoutOf output contract
  · intro outcome
    cases outcome with
    | unlisted nothing =>
      cases listed : items? output with
      | none => rw [layoutOf, listed]
      | some items => exact absurd (items?_eq_some_iff.1 listed) (nothing items)
    | malformed first => exact layoutOf_of_refused first
    | overflow first => exact layoutOf_of_refused first
    | misnamed lists read differs =>
      rw [layoutOf_of_read lists read, collect_of_misnamed differs]
    | clash lists read named clash =>
      subst named
      have shared := clash.shared
      rw [layoutOf_of_read lists read, Layout.collect_ofText?]
      obtain ⟨first', second', clash', failed⟩ := Layout.exists_firstClash _ shared
      obtain ⟨rfl, rfl⟩ := clash.unique clash'
      rw [failed]
      rfl
    | layout lists read named distinct =>
      subst named
      rw [layoutOf_of_read lists read, Layout.collect_ofText?,
        Layout.ofEntries_eq_ok_iff.2 ⟨distinct, rfl⟩]
      rfl

/-- **Reading fails by a fault of a layout, or by an overflow.** Any document, for any contract or
none, gives a layout with one entry for each of its items, or is refused with a fault of layouts, or
ends in an overflow. An overflow is no fault of a layout. It is what comes of a document whose first
item that cannot be read has an infinite slot, or an infinite offset behind a slot that is read. -/
theorem layoutOf_or_fault_or_overflow (output : Json) (name : Option String) :
    ((∃ items entries layout, ListsItems items output ∧ AreRead items entries ∧
        layoutOf output (.ofText? name) = .ok layout ∧ layout.contract = name ∧
        layout.entries.Perm entries ∧ layout.size = items.length) ∨
      (∃ fault, layoutOf output (.ofText? name) = .error (.layout fault)) ∨
      layoutOf output (.ofText? name) = .error (.plain .overflow)) ∧
    (layoutOf output (.ofText? name) = .error (.plain .overflow) ↔
      ∃ item, Overflows item ∧ FirstRefused output item .unbounded) ∧
    ∀ (contract : Json) (result : Except Failure Layout),
      layoutOf output contract = result ↔ Outcome output contract result := by
  refine ⟨?_, ?_, fun contract result => layoutOf_eq_iff⟩
  · have outcome := outcome_layoutOf output (.ofText? name)
    generalize same : layoutOf output (.ofText? name) = result at outcome
    cases outcome with
    | unlisted => exact .inr (.inl ⟨_, rfl⟩)
    | malformed => exact .inr (.inl ⟨_, rfl⟩)
    | overflow => exact .inr (.inr rfl)
    | misnamed _ _ differs => exact absurd rfl (differs name)
    | clash => exact .inr (.inl ⟨_, rfl⟩)
    | @layout items entries name' lists read named =>
      have sorted := Layout.perm_sortEntries entries
      refine .inl ⟨items, entries, _, lists, read, rfl, ?_, sorted, ?_⟩
      · cases name <;> cases name' <;> cases named <;> rfl
      · exact sorted.length_eq.trans read.length_eq.symm
  · constructor
    · intro ended
      cases layoutOf_eq_iff.1 ended with
      | @overflow item first =>
        obtain ⟨_, _, _, _, _, refused⟩ := id first
        exact ⟨item, entryOf_eq_unbounded_iff.1 refused, first⟩
    · rintro ⟨item, -, first⟩
      exact layoutOf_eq_iff.2 (.overflow first)

/-- A description of one variable without a slot that could be counted. -/
def describesBeyond : Json :=
  .object [("storage", .array
    [.object [("slot", .float (.infinite false)), ("type", .string "t_bool")]])]

/-- An infinite slot ends the reading as an overflow, which is no fault of a layout. -/
theorem layoutOf_or_fault_or_overflow_beyond :
    layoutOf describesBeyond .null = .error (.plain .overflow) ∧
      ∀ fault, layoutOf describesBeyond .null ≠ .error (.layout fault) := by
  obtain ⟨-, overflow, -⟩ := layoutOf_or_fault_or_overflow describesBeyond none
  have ended : layoutOf describesBeyond .null = .error (.plain .overflow) :=
    overflow.2 ⟨_, .slot rfl ⟨false, rfl⟩, [], [], [], .keyed rfl, .nil, rfl⟩
  refine ⟨ended, fun fault refused => ?_⟩
  rw [ended] at refused
  cases refused

end UpgradeGate.CompilerOutput
