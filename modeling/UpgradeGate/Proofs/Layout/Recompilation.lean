import Mathlib.Data.List.Forall2
import UpgradeGate.Proofs.Layout.Positions
import UpgradeGate.Proofs.Layout.RecordText
import UpgradeGate.Proofs.Layout.TypeTree

/-!
# Layouts of a program that was compiled again

When a program is compiled again, its declared types get other numbers. The layout that is read from
what the compiler writes does not change (`CompilerOutput.layoutOf_eq_of_recompiled`). But where
anything else of a type changes, the layouts are not compatible
(`CompilerOutput.incompatible_of_retyped`): types with different trees have different normal names.
-/

namespace UpgradeGate

namespace TypeTree

/-- No type has an empty name. -/
theorem text_ne_nil {ν : Type} (shown : ν → List Char) (tree : TypeTree ν) :
    tree.text shown ≠ [] := by
  cases tree with
  | elementary name => exact name.filled
  | declared kind => cases kind <;> exact List.cons_ne_nil _ _
  | dynamicArray | fixedArray | mapping => exact List.cons_ne_nil _ _

/-- The name of a type is accepted as the type of an entry, in its normal form. -/
theorem checkType_name (tree : TypeTree Numeral) :
    Entry.checkType (.string tree.name) = .accepted (TypeName.normalize tree.name) := by
  have filled : tree.name.isEmpty = false := by
    rw [String.isEmpty_eq_false_iff]
    intro empty
    have nothing := congrArg String.toList empty
    rw [name, String.toList_ofList] at nothing
    exact text_ne_nil _ tree nothing
  simp [Entry.checkType, Field.text, Checked.andThen, filled]

end TypeTree

namespace CompilerOutput

/-- Two items describe one variable, whose type may have other numbers in it. -/
inductive SameVariable : Json → Json → Prop
  | unchanged (item : Json) : SameVariable item item
  | renumbered {members members' : Json.Members} {s t : TypeTree Numeral}
    (typed : Json.find? members "type" = some (.string s.name))
    (typed' : Json.find? members' "type" = some (.string t.name))
    (same : s.forget = t.forget)
    (others : ∀ key ∈ ["slot", "offset", "label"],
      Json.find? members key = Json.find? members' key) :
    SameVariable (.object members) (.object members')

/-- Two descriptions list the same variables, with other numbers in their types. -/
def Recompiled (before after : Json) : Prop :=
  ∃ items items', items? before = some items ∧ items? after = some items' ∧
    List.Forall₂ SameVariable items items'

/-- A description lists a variable of a type that stands at a position. -/
def Lists (output : Json) (tree : TypeTree Numeral) (position : Position) : Prop :=
  ∃ items members entry, items? output = some items ∧ .object members ∈ items ∧
    Json.find? members "type" = some (.string tree.name) ∧
    entryOf (.object members) = .ok entry ∧ entry.position = position

/-- How the parts of an entry are checked once they were found. -/
theorem check_parts (slot offset type label : Json) :
    Entry.check [("slot", slot), ("offset", offset), ("type", type), ("label", label)] =
      Entry.mk <$> (Field.natural slot).under "slot" <*> (Field.upTo 31 offset).under "offset"
        <*> (Entry.checkType type).under "type" <*> (Field.text label).under "label" :=
  rfl

/-- What an item is read as is told by its slot, its offset, its label, and what its type is taken
for. -/
theorem entryOf_congr {members members' : Json.Members} {type type' : Json}
    (typed : Json.find? members "type" = some type)
    (typed' : Json.find? members' "type" = some type')
    (same : Entry.checkType type = Entry.checkType type')
    (others : ∀ key ∈ ["slot", "offset", "label"],
      Json.find? members key = Json.find? members' key) :
    entryOf (.object members) = entryOf (.object members') := by
  simp only [entryOf, demand, typed, typed', others "slot" (by decide), others "offset" (by decide),
    others "label" (by decide), check_parts, same, bind, Except.bind]

/-- Items of the same variable are read alike. -/
theorem entryOf_eq_of_same {item item' : Json} (same : SameVariable item item') :
    entryOf item = entryOf item' := by
  cases same with
  | unchanged => rfl
  | renumbered typed typed' same others =>
    refine entryOf_congr typed typed' ?_ others
    rw [TypeTree.checkType_name, TypeTree.checkType_name, TypeTree.normalize_name_eq_iff.2 same]

/-- Items that are read alike one by one are read alike together. -/
theorem map_entryOf_congr {items items' : List Json}
    (same : List.Forall₂ (fun item item' => entryOf item = entryOf item') items items') :
    items.map entryOf = items'.map entryOf := by
  rwa [← List.forall₂_eq_eq_eq, List.forall₂_map_left_iff, List.forall₂_map_right_iff]

/-- Items of the same variables are read alike. -/
theorem map_entryOf_eq {items items' : List Json} (same : List.Forall₂ SameVariable items items') :
    items.map entryOf = items'.map entryOf :=
  map_entryOf_congr (same.imp fun _ _ => entryOf_eq_of_same)

/-- Items that are read as the same entries make the same layout. -/
theorem layoutOf_congr {before after : Json} {items items' : List Json}
    (listed : items? before = some items) (listed' : items? after = some items')
    (same : items.map entryOf = items'.map entryOf) (contract : Json) (layout : Layout) :
    layoutOf before contract = .ok layout ↔ layoutOf after contract = .ok layout := by
  simp only [layoutOf_eq_ok_iff, listed, listed', Option.some.injEq, exists_and_left,
    exists_eq_left', same]

/-- **A program that was compiled again has the layout that it had.** -/
theorem layoutOf_eq_of_recompiled {before after : Json} (recompiled : Recompiled before after)
    (contract : Json) (layout : Layout) :
    layoutOf before contract = .ok layout ↔ layoutOf after contract = .ok layout := by
  obtain ⟨items, items', listed, listed', same⟩ := recompiled
  exact layoutOf_congr listed listed' (map_entryOf_eq same) contract layout

theorem entries_eq_of_recompiled {before after contract contract' : Json} {old new : Layout}
    (recompiled : Recompiled before after) (read : layoutOf before contract = .ok old)
    (read' : layoutOf after contract' = .ok new) : old.entries = new.entries := by
  obtain ⟨items, items', listed, listed', same⟩ := recompiled
  obtain ⟨_, entries, again, values, collected⟩ := layoutOf_eq_ok_iff.1 read
  obtain ⟨_, entries', again', values', collected'⟩ := layoutOf_eq_ok_iff.1 read'
  obtain rfl := Option.some.inj (listed.symm.trans again)
  obtain rfl := Option.some.inj (listed'.symm.trans again')
  rw [map_entryOf_eq same, values'] at values
  have unwrap : Function.Injective (Except.ok : Entry → Except ItemRefusal Entry) :=
    fun _ _ => Except.ok.inj
  rw [Layout.entries_of_collect collected, Layout.entries_of_collect collected',
    List.map_injective_iff.2 unwrap values]

/-- The entries of a layout are those of the items that were listed. -/
theorem mem_entries_of_layoutOf {output contract item : Json} {items : List Json} {layout : Layout}
    {entry : Entry} (read : layoutOf output contract = .ok layout)
    (listed : items? output = some items) (member : item ∈ items)
    (taken : entryOf item = .ok entry) : entry ∈ layout.entries := by
  obtain ⟨_, entries, again, values, collected⟩ := layoutOf_eq_ok_iff.1 read
  obtain rfl := Option.some.inj (listed.symm.trans again)
  have known := List.mem_map_of_mem (f := entryOf) member
  rw [values, taken] at known
  obtain ⟨own, inside, same⟩ := List.mem_map.1 known
  rw [Layout.entries_of_collect collected, Layout.sortEntries, List.mem_mergeSort,
    ← Except.ok.inj same]
  exact inside

/-- The type of an entry is the normal name of the type that it was compiled with. -/
theorem type_of_entryOf {members : Json.Members} {tree : TypeTree Numeral} {entry : Entry}
    (typed : Json.find? members "type" = some (.string tree.name))
    (taken : entryOf (.object members) = .ok entry) :
    entry.type = TypeName.normalize tree.name := by
  obtain ⟨_, slot, offset, type, label, same, found, accepted⟩ := check_of_entryOf taken
  obtain rfl := Json.object.inj same
  obtain rfl := Option.some.inj (typed.symm.trans found)
  simp only [check_parts, TypeTree.checkType_name, Checked.under, Checked.seq_eq_accepted_iff]
    at accepted
  obtain ⟨_, _, ⟨_, _, ⟨_, _, first, -, rfl⟩, named, rfl⟩, -, rfl⟩ := accepted
  obtain ⟨_, -, rfl⟩ := Checked.map_eq_accepted_iff.1 first
  exact (Checked.accepted.inj named).symm

/-- **A type that changed in more than its numbers is found.** -/
theorem incompatible_of_retyped {before after contract contract' : Json} {old new : Layout}
    {s t : TypeTree Numeral} {position : Position} (read : layoutOf before contract = .ok old)
    (read' : layoutOf after contract' = .ok new) (lists : Lists before s position)
    (lists' : Lists after t position) (changed : s.forget ≠ t.forget) :
    (old.compare new).compatible = false := by
  obtain ⟨items, members, entry, listed, member, typed, taken, rfl⟩ := lists
  obtain ⟨items', members', entry', listed', member', typed', taken', same⟩ := lists'
  have inside := mem_entries_of_layoutOf read listed member taken
  have inside' := mem_entries_of_layoutOf read' listed' member' taken'
  rw [Bool.eq_false_iff]
  intro compatible
  obtain ⟨other, kept, position, type⟩ := (Layout.compatible_iff.1 compatible).isKeptIn inside
  have ordered := (valid_of_layoutOf read').ordered
  obtain rfl := Layout.InOrder.eq_of_position ordered kept inside' (position.trans same.symm)
  refine changed (TypeTree.normalize_name_eq_iff.1 ?_)
  rw [← type_of_entryOf typed taken, ← type_of_entryOf typed' taken', type]

/-- **Only numbers are forgotten.** The names of two types are the same in their normal form exactly
when the types are the same but for their numbers. So what the compiler describes before and after
it ran again is the same layout, in which a comparison finds nothing; and a variable whose type
changed in anything else makes the layouts incompatible, and the report shows it. -/
theorem forgets_only_numbers :
    (∀ s t : TypeTree Numeral,
      TypeName.normalize s.name = TypeName.normalize t.name ↔ s.forget = t.forget) ∧
    (∀ before after : Json, Recompiled before after →
      (∀ (contract : Json) (layout : Layout),
        layoutOf before contract = .ok layout ↔ layoutOf after contract = .ok layout) ∧
      ∀ (contract contract' : Json) (old new : Layout), layoutOf before contract = .ok old →
        layoutOf after contract' = .ok new →
        (old.compare new).collisions = 0 ∧ (old.compare new).lines = []) ∧
    ∀ (before after contract contract' : Json) (old new : Layout) (s t : TypeTree Numeral)
      (position : Position), layoutOf before contract = .ok old →
      layoutOf after contract' = .ok new → Lists before s position → Lists after t position →
      s.forget ≠ t.forget →
      (old.compare new).compatible = false ∧ (old.compare new).lines ≠ [] := by
  refine ⟨fun s t => TypeTree.normalize_name_eq_iff, fun before after recompiled => ⟨?_, ?_⟩, ?_⟩
  · exact layoutOf_eq_of_recompiled recompiled
  · intro contract contract' old new read read'
    have same := entries_eq_of_recompiled recompiled read read'
    have nothing : (old.compare new).findings = [] := by
      rw [Layout.compare, same, Layout.findings_self]
    simp [Report.collisions, Report.lines, nothing]
  · intro before after contract contract' old new s t position read read' lists lists' changed
    have incompatible := incompatible_of_retyped read read' lists lists' changed
    exact ⟨incompatible, Report.lines_ne_nil_of_incompatible incompatible⟩

/-- What accounts are kept as: for each address a list of configurations, whose type has a
number. -/
def accounts (number : Numeral) : TypeTree Numeral :=
  .mapping (.elementary ⟨⟨"t_address".toList, by decide⟩, by decide⟩)
    (.dynamicArray (.declared .struct ⟨"Vault.Config".toList, by decide⟩ number))

/-- Accounts with ten configurations each. -/
def limited (number : Numeral) : TypeTree Numeral :=
  .mapping (.elementary ⟨⟨"t_address".toList, by decide⟩, by decide⟩)
    (.fixedArray (.declared .struct ⟨"Vault.Config".toList, by decide⟩ number)
      ⟨⟨"10".toList, by decide⟩, by decide⟩)

/-- The item of a variable for accounts. -/
def accountsItem (tree : TypeTree Numeral) : Json.Members :=
  [("label", .string "accounts"), ("offset", .int 0), ("slot", .string "0"),
    ("type", .string tree.name)]

/-- The description of a contract that has accounts and nothing else. -/
def describesAccounts (tree : TypeTree Numeral) : Json :=
  .object [("storage", .array [.object (accountsItem tree)])]

/-- Its layout. -/
def accountsLayout (tree : TypeTree Numeral) : Layout :=
  ⟨some "Vault", [⟨0, 0, TypeName.normalize tree.name, "accounts"⟩]⟩

theorem entryOf_accountsItem (tree : TypeTree Numeral) :
    entryOf (.object (accountsItem tree)) =
      .ok ⟨0, 0, TypeName.normalize tree.name, "accounts"⟩ := by
  have typed : Json.find? (accountsItem tree) "type" = some (.string tree.name) := rfl
  have slot : Json.find? (accountsItem tree) "slot" = some (.string "0") := rfl
  have offset : Json.find? (accountsItem tree) "offset" = some (.int 0) := rfl
  have label : Json.find? (accountsItem tree) "label" = some (.string "accounts") := rfl
  have zero : Literal.tagged? "0" = some 0 := by decide
  simp only [entryOf, demand, typed, slot, offset, label, wholeNumber, zero, check_parts,
    TypeTree.checkType_name, bind, Except.bind, Option.getD_some]
  rfl

theorem layoutOf_describesAccounts (tree : TypeTree Numeral) :
    layoutOf (describesAccounts tree) (.string "Vault") = .ok (accountsLayout tree) := by
  refine layoutOf_eq_ok_iff.2 ⟨_, [⟨0, 0, TypeName.normalize tree.name, "accounts"⟩], rfl, ?_, ?_⟩
  · rw [List.map_singleton, entryOf_accountsItem, List.map_singleton]
  · simp only [Layout.collect, Layout.ofEntries, Layout.sortEntries, List.mergeSort_singleton]
    rfl

/-- The lists of configurations are the same storage whatever number the type has, and are not lists
of ten. -/
theorem forgets_only_numbers_accounts :
    ∃ first second : Numeral, first ≠ second ∧
      TypeName.normalize (accounts first).name = TypeName.normalize (accounts second).name ∧
      layoutOf (describesAccounts (accounts second)) (.string "Vault") =
        .ok (accountsLayout (accounts first)) ∧
      ((accountsLayout (accounts first)).compare (accountsLayout (accounts second))).lines = [] ∧
      ((accountsLayout (accounts first)).compare (accountsLayout (limited second))).lines ≠ [] := by
  obtain ⟨names, same, changed⟩ := forgets_only_numbers
  have recompiled : ∀ number number', Recompiled (describesAccounts (accounts number))
      (describesAccounts (accounts number')) := by
    intro number number'
    refine ⟨_, _, rfl, rfl, .cons (.renumbered rfl rfl rfl ?_) .nil⟩
    intro key member
    simp only [List.mem_cons, List.not_mem_nil, or_false] at member
    rcases member with rfl | rfl | rfl <;> rfl
  have lists : ∀ tree, Lists (describesAccounts tree) tree ⟨0, 0⟩ := fun tree =>
    ⟨_, accountsItem tree, _, rfl, List.mem_singleton_self _, rfl, entryOf_accountsItem tree, rfl⟩
  refine ⟨⟨⟨"42".toList, by decide⟩, by decide⟩, ⟨⟨"1057".toList, by decide⟩, by decide⟩, ?_, ?_,
    ?_, ?_, ?_⟩
  · intro equal
    exact absurd (congrArg (·.chars) equal) (by decide)
  · exact (names _ _).2 rfl
  · exact ((same _ _ (recompiled _ _)).1 _ _).1 (layoutOf_describesAccounts _)
  · exact ((same _ _ (recompiled _ _)).2 _ _ _ _ (layoutOf_describesAccounts _)
      (layoutOf_describesAccounts _)).2
  · refine (changed _ _ _ _ _ _ _ _ _ (layoutOf_describesAccounts _)
      (layoutOf_describesAccounts _) (lists _) (lists _) ?_).2
    intro equal
    cases equal

end CompilerOutput

end UpgradeGate
