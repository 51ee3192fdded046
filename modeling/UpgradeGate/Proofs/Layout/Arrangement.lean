import Mathlib.Data.List.Perm.Basic
import UpgradeGate.Proofs.Layout.Positions
import UpgradeGate.Proofs.Layout.RecordText

/-!
# Entries in order

Entries that are given in order make a layout, and others are refused for their first two
neighbours that are not in order (`Layout.ofOrdered_eq_ok_iff`, `Layout.ofOrdered_eq_error_iff`).

Entries that are given in any order are sorted, and those at one position stay as they were given
(`Layout.entriesAt_sortEntries`). So they make a layout exactly when no two of them share a position
(`Layout.ofEntries_eq_ok_iff`), and otherwise the first two at the first shared position are to
blame, never two that are out of order (`Layout.exists_firstClash`).
-/

namespace UpgradeGate

namespace Layout

variable {entries : List Entry} {contract : Option String} {layout : Layout} {fault : LayoutFault}

/-! ## Entries that are given in order -/

/-- What is wrong with two neighbours that are not in order. -/
inductive Disorder (earlier later : Entry) : LayoutFault → Prop
  | samePosition (same : later.position = earlier.position) :
    Disorder earlier later (.samePosition earlier later)
  | outOfOrder (reversed : later.position.Before earlier.position) :
    Disorder earlier later (.outOfOrder earlier later)

/-- What is wrong with the first two neighbours that are not in order. -/
def FirstDisorder (entries : List Entry) (fault : LayoutFault) : Prop :=
  ∃ front earlier later rest, entries = front ++ earlier :: later :: rest ∧
    InOrder (front ++ [earlier]) ∧ Disorder earlier later fault

/-- What is wrong with two neighbours is their disorder. -/
theorem neighbourFault?_eq_some_iff {earlier later : Entry} :
    neighbourFault? earlier later = some fault ↔ Disorder earlier later fault := by
  constructor
  · intro found
    unfold neighbourFault? at found
    split at found
    · next same =>
      cases found
      exact .samePosition same
    · split at found
      · next reversed =>
        cases found
        exact .outOfOrder reversed
      · cases found
  · intro disorder
    cases disorder with
    | samePosition same => rw [neighbourFault?, if_pos same]
    | outOfOrder reversed =>
      have differ : later.position ≠ earlier.position :=
        fun same => Position.Before.irrefl _ (same ▸ reversed)
      rw [neighbourFault?, if_neg differ, if_pos reversed]

/-- An entry may stand in front of one that comes after it. -/
theorem InOrder.cons_cons {first second : Entry} {rest : List Entry}
    (step : first.position.Before second.position) (ordered : InOrder (second :: rest)) :
    InOrder (first :: second :: rest) := by
  refine List.pairwise_cons.2 ⟨fun later member => ?_, ordered⟩
  rcases List.mem_cons.1 member with rfl | further
  · exact step
  · exact step.trans ((List.pairwise_cons.1 ordered).1 later further)

/-- The first disorder is not in front of neighbours that are in order. -/
theorem FirstDisorder.cons {first second : Entry} {rest : List Entry}
    (step : first.position.Before second.position)
    (disorder : FirstDisorder (second :: rest) fault) :
    FirstDisorder (first :: second :: rest) fault := by
  obtain ⟨front, earlier, later, others, split, ordered, disorder⟩ := disorder
  refine ⟨first :: front, earlier, later, others, congrArg _ split, ?_, disorder⟩
  cases front with
  | nil =>
    obtain ⟨rfl, -⟩ := List.cons.inj split
    exact ordered.cons_cons step
  | cons _ front =>
    obtain ⟨rfl, -⟩ := List.cons.inj split
    exact ordered.cons_cons step

/-- Entries that are in order are passed over. -/
theorem firstFault?_append {front : List Entry} {earlier : Entry}
    (ordered : InOrder (front ++ [earlier])) (rest : List Entry) :
    firstFault? (front ++ earlier :: rest) = firstFault? (earlier :: rest) := by
  induction front with
  | nil => rfl
  | cons first front ih =>
    obtain ⟨ahead, ordered⟩ := List.pairwise_cons.1 ordered
    rw [← ih ordered]
    cases front with
    | nil =>
      have step := neighbourFault?_eq_none_iff.2 (ahead earlier (List.mem_singleton_self _))
      simp [firstFault?, step]
    | cons second front =>
      have step := neighbourFault?_eq_none_iff.2 (ahead second List.mem_cons_self)
      simp [firstFault?, step]

/-- The fault that is found is that of the first disorder. -/
theorem firstFault?_eq_some_iff :
    firstFault? entries = some fault ↔ FirstDisorder entries fault := by
  constructor
  · intro found
    induction entries with
    | nil => cases found
    | cons first rest ih =>
      cases rest with
      | nil => cases found
      | cons second rest =>
        cases here : neighbourFault? first second with
        | none =>
          refine .cons (neighbourFault?_eq_none_iff.1 here) (ih ?_)
          simpa [firstFault?, here] using found
        | some own =>
          obtain rfl : own = fault := by simpa [firstFault?, here] using found
          exact ⟨[], first, second, rest, rfl, List.pairwise_singleton ..,
            neighbourFault?_eq_some_iff.1 here⟩
  · rintro ⟨front, earlier, later, rest, rfl, ordered, disorder⟩
    rw [firstFault?_append ordered, firstFault?, neighbourFault?_eq_some_iff.2 disorder]
    rfl

/-- Entries are taken as they stand where they are in order. -/
theorem ofOrdered_eq_ok_iff :
    ofOrdered contract entries = .ok layout ↔ InOrder entries ∧ layout = ⟨contract, entries⟩ := by
  have ordered : InOrder entries ↔ firstFault? entries = none := firstFault?_eq_none_iff.symm
  rw [ordered, ofOrdered]
  cases firstFault? entries <;> simp [eq_comm]

/-- Entries that are not in order are refused for their first disorder. -/
theorem ofOrdered_eq_error_iff :
    ofOrdered contract entries = .error fault ↔ FirstDisorder entries fault := by
  rw [← firstFault?_eq_some_iff, ofOrdered]
  cases firstFault? entries <;> simp

/-! ## Entries that are sorted -/

theorem perm_sortEntries (entries : List Entry) : (sortEntries entries).Perm entries :=
  List.mergeSort_perm ..

/-- Of three positions, if none is behind the next one, the first is not behind the last. -/
theorem not_before_trans (a b c : Entry) (first : (!decide (b.position.Before a.position)) = true)
    (second : (!decide (c.position.Before b.position)) = true) :
    (!decide (c.position.Before a.position)) = true := by
  simp only [Bool.not_eq_true', decide_eq_false_iff_not] at *
  simp only [Position.Before] at *
  omega

/-- Of two entries, one does not come after the other. -/
theorem not_before_total (a b : Entry) :
    ((!decide (b.position.Before a.position)) ||
      !decide (a.position.Before b.position)) = true := by
  simp only [Bool.or_eq_true, Bool.not_eq_true', decide_eq_false_iff_not]
  simp only [Position.Before]
  omega

/-- No sorted entry comes before an earlier one. -/
theorem pairwise_sortEntries (entries : List Entry) :
    (sortEntries entries).Pairwise fun earlier later =>
      ¬ later.position.Before earlier.position := by
  have sorted := List.pairwise_mergeSort not_before_trans not_before_total entries
  exact sorted.imp fun kept => by simpa using kept

/-- The entries at a position, as they were given. -/
def entriesAt (position : Position) (entries : List Entry) : List Entry :=
  entries.filter fun entry => decide (entry.position = position)

/-- The entries at a position have this position. -/
theorem position_of_mem_entriesAt {position : Position} {entry : Entry}
    (member : entry ∈ entriesAt position entries) : entry.position = position := by
  simpa using (List.mem_filter.1 member).2

/-- **Sorting is stable.** -/
theorem entriesAt_sortEntries (position : Position) (entries : List Entry) :
    entriesAt position (sortEntries entries) = entriesAt position entries := by
  have alike : (entriesAt position entries).Pairwise fun a b =>
      (!decide (b.position.Before a.position)) = true := by
    refine List.pairwise_of_forall_mem_list fun a member b member' => ?_
    rw [position_of_mem_entriesAt member, position_of_mem_entriesAt member']
    simpa using Position.Before.irrefl position
  have kept : (entriesAt position entries).Sublist (sortEntries entries) :=
    List.sublist_mergeSort not_before_trans not_before_total alike List.filter_sublist
  have kept := kept.filter fun entry => decide (entry.position = position)
  rw [entriesAt, List.filter_filter] at kept
  simp only [Bool.and_self] at kept
  exact (kept.eq_of_length ((perm_sortEntries entries).symm.filter _).length_eq).symm

/-- Entries in order have different positions. -/
theorem nodup_positions_of_inOrder (ordered : InOrder entries) :
    (entries.map Entry.position).Nodup := by
  refine List.pairwise_map.2 (ordered.imp fun {earlier later} ahead same => ?_)
  exact Position.Before.irrefl _ (same ▸ ahead)

/-- Sorted entries are in order exactly when no two of the given ones share a position. -/
theorem inOrder_sortEntries_iff :
    InOrder (sortEntries entries) ↔ (entries.map Entry.position).Nodup := by
  have same := ((perm_sortEntries entries).map Entry.position).nodup_iff
  rw [← same]
  refine ⟨nodup_positions_of_inOrder, fun distinct => ?_⟩
  refine (List.pairwise_map.1 distinct).imp₂ (fun earlier later differ kept => ?_)
    (pairwise_sortEntries entries)
  rcases Position.trichotomy earlier.position later.position with ahead | equal | behind
  · exact ahead
  · exact absurd equal differ
  · exact absurd behind kept

/-- Entries are arranged where their positions differ, by sorting them. -/
theorem ofEntries_eq_ok_iff :
    ofEntries contract entries = .ok layout ↔
      (entries.map Entry.position).Nodup ∧ layout = ⟨contract, sortEntries entries⟩ := by
  rw [ofEntries, ofOrdered_eq_ok_iff, inOrder_sortEntries_iff]

/-- The first two entries that are given for the first position that several have. -/
structure FirstClash (entries : List Entry) (first second : Entry) : Prop where
  given : ∃ others, entriesAt first.position entries = first :: second :: others
  least : ∀ position, 2 ≤ (entriesAt position entries).length →
    ¬ position.Before first.position

/-- Entries that clash have one position. -/
theorem FirstClash.same_position {first second : Entry} (clash : FirstClash entries first second) :
    second.position = first.position := by
  obtain ⟨others, given⟩ := clash.given
  exact position_of_mem_entriesAt (given ▸ List.mem_cons_of_mem _ List.mem_cons_self)

/-- Where entries clash, a position is shared. -/
theorem FirstClash.shared {first second : Entry} (clash : FirstClash entries first second) :
    ¬ (entries.map Entry.position).Nodup := by
  intro distinct
  obtain ⟨others, given⟩ := clash.given
  have kept : (first :: second :: others).Sublist entries := given ▸ List.filter_sublist
  have apart := List.nodup_cons.1 ((kept.map Entry.position).nodup distinct)
  exact apart.1 (clash.same_position ▸ List.mem_cons_self)

theorem FirstClash.unique {first second first' second' : Entry}
    (clash : FirstClash entries first second) (clash' : FirstClash entries first' second') :
    first = first' ∧ second = second' := by
  obtain ⟨⟨others, given⟩, least⟩ := clash
  obtain ⟨⟨others', given'⟩, least'⟩ := clash'
  have same : first.position = first'.position := by
    rcases Position.trichotomy first.position first'.position with ahead | equal | behind
    · exact absurd ahead (least' _ (by simp [given]))
    · exact equal
    · exact absurd behind (least _ (by simp [given']))
  rw [same, given'] at given
  obtain ⟨rfl, rest⟩ := List.cons.inj given
  exact ⟨rfl, (List.cons.inj rest).1.symm⟩

/-- The entries at a position in two lists, one after the other. -/
theorem entriesAt_append (position : Position) (front back : List Entry) :
    entriesAt position (front ++ back) = entriesAt position front ++ entriesAt position back :=
  List.filter_append ..

/-- There is no entry at a position where none has it. -/
theorem entriesAt_eq_nil_iff {position : Position} :
    entriesAt position entries = [] ↔ ∀ entry ∈ entries, entry.position ≠ position := by
  simp [entriesAt, List.filter_eq_nil_iff]

/-- In order, there is one entry at a position at most. -/
theorem length_entriesAt_le_one (ordered : InOrder entries) (position : Position) :
    (entriesAt position entries).length ≤ 1 := by
  have kept : InOrder (entriesAt position entries) := ordered.sublist List.filter_sublist
  cases found : entriesAt position entries with
  | nil => exact Nat.zero_le 1
  | cons first rest =>
    cases rest with
    | nil => exact Nat.le_refl 1
    | cons second rest =>
      have here : first ∈ entriesAt position entries := found ▸ List.mem_cons_self
      have there : second ∈ entriesAt position entries :=
        found ▸ List.mem_cons_of_mem _ List.mem_cons_self
      have ahead := (List.pairwise_cons.1 (found ▸ kept)).1 second List.mem_cons_self
      rw [position_of_mem_entriesAt here, position_of_mem_entriesAt there] at ahead
      exact absurd ahead (Position.Before.irrefl position)

/-- **The first shared position is to blame.** -/
theorem firstClash_of_firstDisorder (disorder : FirstDisorder (sortEntries entries) fault) :
    ∃ first second, FirstClash entries first second ∧ fault = .samePosition first second := by
  obtain ⟨front, earlier, later, rest, split, ordered, disorder⟩ := disorder
  have sorted := split ▸ pairwise_sortEntries entries
  have behind := (List.pairwise_cons.1 (List.pairwise_append.1 sorted).2.1).1
  cases disorder with
  | outOfOrder reversed =>
    -- what is sorted does not go back
    exact absurd reversed (behind later List.mem_cons_self)
  | samePosition same =>
    obtain ⟨front_ordered, -, ahead⟩ := List.pairwise_append.1 ordered
    refine ⟨earlier, later, ⟨⟨entriesAt earlier.position rest, ?_⟩, ?_⟩, rfl⟩
    · have none_ahead : entriesAt earlier.position front = [] := by
        refine entriesAt_eq_nil_iff.2 fun entry member equal => ?_
        have step := ahead entry member earlier (List.mem_singleton_self _)
        exact Position.Before.irrefl _ (equal ▸ step)
      rw [← entriesAt_sortEntries, split, entriesAt_append, none_ahead]
      simp [entriesAt, same]
    · intro position several before
      have none_behind : entriesAt position (earlier :: later :: rest) = [] := by
        refine entriesAt_eq_nil_iff.2 fun entry member equal => ?_
        subst equal
        rcases List.mem_cons.1 member with rfl | further
        · exact Position.Before.irrefl _ before
        · exact behind entry further before
      have single := length_entriesAt_le_one front_ordered position
      rw [← entriesAt_sortEntries, split, entriesAt_append, none_behind, List.append_nil] at several
      omega

/-- Entries of which some share a position are refused for the first that do. -/
theorem exists_firstClash (contract : Option String)
    (shared : ¬ (entries.map Entry.position).Nodup) :
    ∃ first second, FirstClash entries first second ∧
      ofEntries contract entries = .error (.samePosition first second) := by
  cases built : ofEntries contract entries with
  | ok layout => exact absurd (ofEntries_eq_ok_iff.1 built).1 shared
  | error fault =>
    have disorder := ofOrdered_eq_error_iff.1 built
    obtain ⟨first, second, clash, rfl⟩ := firstClash_of_firstDisorder disorder
    exact ⟨first, second, clash, rfl⟩

/-- There is one arrangement in order of some entries. -/
theorem eq_of_perm_of_inOrder {others : List Entry} (same : entries.Perm others)
    (ordered : InOrder entries) (ordered' : InOrder others) : entries = others :=
  same.eq_of_pairwise (fun _ _ _ _ ahead behind =>
    absurd (ahead.trans behind) (Position.Before.irrefl _)) ordered ordered'

/-- Entries that make a layout make it in any order. -/
theorem ofEntries_perm {others : List Entry} (same : others.Perm entries)
    (built : ofEntries contract entries = .ok layout) : ofEntries contract others = .ok layout := by
  obtain ⟨distinct, rfl⟩ := ofEntries_eq_ok_iff.1 built
  have distinct' := (same.map Entry.position).nodup_iff.2 distinct
  have sorted : sortEntries others = sortEntries entries :=
    eq_of_perm_of_inOrder
      ((perm_sortEntries others).trans (same.trans (perm_sortEntries entries).symm))
      (inOrder_sortEntries_iff.2 distinct') (inOrder_sortEntries_iff.2 distinct)
  exact ofEntries_eq_ok_iff.2 ⟨distinct', sorted ▸ rfl⟩

/-! ## Entries that are given as documents -/

/-- With a contract that is a text, only the entries can be wrong. -/
theorem collect_ofText? (contract : Option String) (entries : List Entry) :
    collect (.ofText? contract) entries = (ofEntries contract entries).mapError .layout := by
  rw [collect, Field.nullable_ofText?]
  change (checkBuilt (ofEntries contract entries)).required .layout = _
  cases ofEntries contract entries <;> rfl

end Layout

namespace Entry

/-- An entry as a list of its parts. -/
def parts (entry : Entry) : Json :=
  .array [.int entry.slot, .int entry.offset, .string entry.type, .string entry.label]

variable {entry : Entry} (inside : entry.offset ≤ 31)
  (normal : TypeName.normalize entry.type = entry.type) (typed : entry.type.isEmpty = false)

include inside normal typed

/-- An entry is read back from its object. -/
theorem ofJson_toJson : ofJson entry.toJson = .ok entry :=
  Checked.required_eq_ok_iff.2 (check_toJson inside normal typed)

/-- An entry is read back from its parts. -/
theorem ofJson_parts : ofJson entry.parts = .ok entry :=
  Checked.required_eq_ok_iff.2 (check_toJson inside normal typed)

end Entry

namespace Layout

/-- What is given is read as some entries, one by one. -/
abbrev ReadAs (given : List Given) (entries : List Entry) : Prop :=
  List.Forall₂ (fun source entry => source.read = .ok entry) given entries

/-- A list of documents is arranged like entries that are given as documents. -/
theorem ofJson_array (contract : Json) (items : List Json) :
    ofJson contract (.array items) = ofGiven contract (items.map .written) := rfl

variable {given : List Given} {entries : List Entry} {contract : Option String} {layout : Layout}

/-- However entries are given, they are arranged like the entries that they are read as. -/
theorem ofGiven_eq (contract : Option String) (read : ReadAs given entries) :
    ofGiven (.ofText? contract) given = (ofEntries contract entries).mapError .layout := by
  rw [ofGiven, mapM_eq_ok_iff.2 read, ← collect_ofText?]
  rfl

/-- What is given in another order is read as the entries in another order. -/
theorem ReadAs.perm {given others : List Given} (read : ReadAs given entries)
    (same : others.Perm given) : ∃ entries', ReadAs others entries' ∧ entries'.Perm entries :=
  List.perm_comp_forall₂ same read

/-- **The order in which entries are given does not matter.** Entries make a layout exactly when
their positions are distinct. It is their one arrangement in order, and is the same for all orders
in which they may be given. If some share a position, the first such position is reported with the
first two entries that were given for it. -/
theorem ofGiven_any_order {given : List Given} {entries : List Entry} (contract : Option String)
    (read : ReadAs given entries) :
    ((∃ layout, ofGiven (.ofText? contract) given = .ok layout) ↔
      (entries.map Entry.position).Nodup) ∧
    (∀ layout, ofGiven (.ofText? contract) given = .ok layout →
      layout.contract = contract ∧ layout.entries.Perm entries ∧ InOrder layout.entries ∧
      (∀ arranged : List Entry, arranged.Perm entries → InOrder arranged →
        arranged = layout.entries) ∧
      ∀ others : List Given, others.Perm given →
        ofGiven (.ofText? contract) others = .ok layout) ∧
    (¬ (entries.map Entry.position).Nodup → ∃ first second, FirstClash entries first second ∧
      ofGiven (.ofText? contract) given = .error (.layout (.samePosition first second)) ∧
      (Failure.layout (.samePosition first second)).message =
        "Duplicate storage position slot " ++ Text.naturalText first.slot ++ " offset " ++
          Text.naturalText first.offset ++ " (" ++ first.label ++ " / " ++ second.label ++ ")") ∧
    ∀ items : List Json, given = items.map .written →
      ofJson (.ofText? contract) (.array items) = ofGiven (.ofText? contract) given := by
  have ends := ofGiven_eq contract read
  refine ⟨?_, fun layout built => ?_, fun shared => ?_, ?_⟩
  · simp only [ends, mapError_eq_ok_iff, ofEntries_eq_ok_iff,
      exists_and_left, exists_eq, and_true]
  · have made := mapError_eq_ok_iff.1 (ends.symm.trans built)
    obtain ⟨distinct, rfl⟩ := ofEntries_eq_ok_iff.1 made
    have ordered := inOrder_sortEntries_iff.2 distinct
    refine ⟨rfl, perm_sortEntries entries, ordered, ?_, ?_⟩
    · intro arranged same ordered'
      exact eq_of_perm_of_inOrder (same.trans (perm_sortEntries entries).symm) ordered' ordered
    · intro others same
      obtain ⟨entries', read', same'⟩ := read.perm same
      rw [ofGiven_eq contract read', ofEntries_perm same' made]
      rfl
  · obtain ⟨first, second, clash, refused⟩ := exists_firstClash contract shared
    refine ⟨first, second, clash, by rw [ends, refused]; rfl, ?_⟩
    have slot : second.slot = first.slot := congrArg Position.slot clash.same_position
    have offset : second.offset = first.offset := congrArg Position.offset clash.same_position
    rw [← slot, ← offset]
    rfl
  · rintro items rfl
    exact ofJson_array _ items

/-- The account that a vault belongs to. -/
def vaultOwner : Entry := ⟨0, 0, "t_address", "owner"⟩

/-- Whether a vault is paused, in the same slot. -/
def vaultPaused : Entry := ⟨0, 20, "t_bool", "paused"⟩

/-- What is in a vault. -/
def vaultTotal : Entry := ⟨1, 0, "t_uint256", "total"⟩

/-- A fee, where the owner stands. -/
def vaultFee : Entry := ⟨0, 0, "t_uint64", "fee"⟩

/-- A limit, where the total stands. -/
def vaultLimit : Entry := ⟨1, 0, "t_uint256", "limit"⟩

/-- The variables of a vault in any order and form: as a list of parts, an entry and an object.
Where two positions are shared, the first of them is reported, though it was not given first. -/
theorem ofGiven_any_order_vault :
    ReadAs [.written vaultTotal.parts, .made vaultPaused, .written vaultOwner.toJson]
      [vaultTotal, vaultPaused, vaultOwner] ∧
    ofGiven (.ofText? (some "Vault"))
        [.written vaultTotal.parts, .made vaultPaused, .written vaultOwner.toJson] =
      .ok ⟨some "Vault", [vaultOwner, vaultPaused, vaultTotal]⟩ ∧
    ReadAs [.made vaultTotal, .written vaultOwner.toJson, .made vaultLimit, .made vaultFee]
      [vaultTotal, vaultOwner, vaultLimit, vaultFee] ∧
    ofGiven (.ofText? none)
        [.made vaultTotal, .written vaultOwner.toJson, .made vaultLimit, .made vaultFee] =
      .error (.layout (.samePosition vaultOwner vaultFee)) := by
  have owner_read : Entry.ofJson vaultOwner.toJson = .ok vaultOwner :=
    Entry.ofJson_toJson (by decide) (by decide +kernel) (by decide)
  have total_read : Entry.ofJson vaultTotal.parts = .ok vaultTotal :=
    Entry.ofJson_parts (by decide) (by decide +kernel) (by decide)
  have read : ReadAs [.written vaultTotal.parts, .made vaultPaused, .written vaultOwner.toJson]
      [vaultTotal, vaultPaused, vaultOwner] := .cons total_read (.cons rfl (.cons owner_read .nil))
  have read' : ReadAs [.made vaultTotal, .written vaultOwner.toJson, .made vaultLimit,
      .made vaultFee] [vaultTotal, vaultOwner, vaultLimit, vaultFee] :=
    .cons rfl (.cons owner_read (.cons rfl (.cons rfl .nil)))
  refine ⟨read, ?_, read', ?_⟩
  · obtain ⟨succeeds, built, -⟩ := ofGiven_any_order (some "Vault") read
    obtain ⟨⟨contract, arranged⟩, made⟩ := succeeds.2 (by decide)
    obtain ⟨rfl, -, -, unique, -⟩ := built _ made
    rw [made, unique [vaultOwner, vaultPaused, vaultTotal] (by decide) (by unfold InOrder; decide)]
  · obtain ⟨-, -, refused, -⟩ := ofGiven_any_order none read'
    obtain ⟨first, second, clash, failed, -⟩ := refused (by decide)
    have here : FirstClash [vaultTotal, vaultOwner, vaultLimit, vaultFee] vaultOwner vaultFee :=
      ⟨⟨[], rfl⟩, fun position _ => by simp [Position.Before, Entry.position, vaultOwner]⟩
    obtain ⟨rfl, rfl⟩ := clash.unique here
    exact failed

end Layout

end UpgradeGate
