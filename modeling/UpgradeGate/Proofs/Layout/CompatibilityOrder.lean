import UpgradeGate.Proofs.Layout.Arrangement
import UpgradeGate.Proofs.Layout.ReportLines

/-!
# Compatibility as an order

Whether layouts are compatible depends on their storage alone, not on the names of entries and
contracts (`Layout.collisions_congr`). It is a preorder, and layouts that are compatible both ways
have the same storage (`Layout.sameStorage_of_compatible`). So a chain of compatible layouts is
compatible from end to end (`Layout.compatible_of_isChain`).

No entry of a layout can be altered: where one is deleted, gets another type or is moved away, it is
no longer kept (`Layout.Alters.exists_not_isKeptIn`), wherever sorting puts the others.
-/

namespace UpgradeGate

namespace Layout

/-- A layout may take the place of another one. -/
abbrev Compatible (old new : Layout) : Prop := (old.compare new).compatible = true

/-- Two layouts differ at most in the names of their entries and in their contracts. -/
def SameStorage (a b : Layout) : Prop :=
  a.entries.map Entry.storage = b.entries.map Entry.storage

/-! ## The order -/

/-- A chain of compatible layouts is compatible from end to end. -/
theorem compatible_of_isChain {first : Layout} {rest : List Layout}
    (chain : (first :: rest).IsChain Compatible) :
    Compatible first ((first :: rest).getLast (List.cons_ne_nil first rest)) := by
  induction rest generalizing first with
  | nil => exact compatible_refl first
  | cons second rest ih =>
    obtain ⟨step, onward⟩ := List.isChain_cons_cons.1 chain
    rw [List.getLast_cons (List.cons_ne_nil second rest)]
    exact compatible_trans step (ih onward)

/-- A layout is compatible with one whose storage it begins with. -/
theorem compatible_iff_prefix {old new : Layout} :
    Compatible old new ↔ old.entries.map Entry.storage <+: new.entries.map Entry.storage :=
  compatible_iff.trans takesOver_iff_prefix

/-- Layouts that are compatible both ways have the same storage. -/
theorem sameStorage_of_compatible {a b : Layout} (forth : Compatible a b)
    (back : Compatible b a) : SameStorage a b := by
  have forth := compatible_iff_prefix.1 forth
  have back := compatible_iff_prefix.1 back
  exact forth.eq_of_length (Nat.le_antisymm forth.length_le back.length_le)

/-- What stands at every index, as far as the use of storage goes. -/
theorem map_storage_facing (old new : List Entry) :
    (facing old new).map (fun facing => (facing.1.storage, facing.2.map Entry.storage)) =
      (old.map Entry.storage).mapIdx fun index storage =>
        (storage, (new.map Entry.storage)[index]?) := by
  refine List.ext_getElem? fun index => ?_
  simp [facing, Function.comp_def]

/-- The collisions depend on the storage alone. -/
theorem collisions_congr {a a' b b' : Layout} (same : SameStorage a a') (same' : SameStorage b b') :
    (a'.compare b').collisions = (a.compare b).collisions := by
  have counted : ∀ old new : Layout, (old.compare new).collisions =
      ((facing old.entries new.entries).map fun facing =>
        (facing.1.storage, facing.2.map Entry.storage)).countP
          fun pair => decide (pair.2 ≠ some pair.1) := by
    intro old new
    rw [List.countP_map]
    exact countP_findings_eq_countP old.entries new.entries
  rw [counted, counted, map_storage_facing, map_storage_facing, same, same']

/-! ## Altered entries -/

/-- One entry is deleted, gets another type or is moved to a position where no entry stands. -/
inductive Alters : (old new : List Entry) → Prop
  | deleted {front back : List Entry} {entry : Entry} :
    Alters (front ++ entry :: back) (front ++ back)
  | retyped {front back : List Entry} {entry : Entry} {type : String} (differ : type ≠ entry.type) :
    Alters (front ++ entry :: back) (front ++ { entry with type } :: back)
  | moved {front back : List Entry} {entry : Entry} {slot offset : Nat}
    (free : ⟨slot, offset⟩ ∉ (front ++ entry :: back).map Entry.position) :
    Alters (front ++ entry :: back) (front ++ { entry with slot, offset } :: back)

variable {old new : List Entry}

/-- An entry gives way to at most one other, which uses storage in another way and stands where none
of the remaining entries does. -/
theorem Alters.exists_replaced (alters : Alters old new)
    (distinct : (old.map Entry.position).Nodup) :
    ∃ (entry : Entry) (changed : Option Entry) (others : List Entry),
      old.Perm (entry :: others) ∧ new.Perm (changed.toList ++ others) ∧
        ∀ other ∈ changed, other.storage ≠ entry.storage ∧
          other.position ∉ others.map Entry.position := by
  cases alters with
  | @deleted front back entry =>
    exact ⟨entry, none, front ++ back, List.perm_middle, .refl _, by simp⟩
  | @retyped front back entry type differ =>
    refine ⟨entry, some { entry with type }, front ++ back, List.perm_middle, List.perm_middle, ?_⟩
    rintro _ ⟨⟩
    refine ⟨fun same => differ (congrArg Prod.snd same), ?_⟩
    exact (List.nodup_cons.1 ((List.perm_middle.map Entry.position).nodup_iff.1 distinct)).1
  | @moved front back entry slot offset free =>
    refine ⟨entry, some { entry with slot, offset }, front ++ back, List.perm_middle,
      List.perm_middle, ?_⟩
    rintro _ ⟨⟩
    rw [(List.perm_middle.map Entry.position).mem_iff, List.map_cons, List.mem_cons, not_or] at free
    exact ⟨fun same => free.1 (congrArg Prod.fst same), free.2⟩

/-- Altered entries still make a layout. -/
theorem Alters.nodup_positions (alters : Alters old new)
    (distinct : (old.map Entry.position).Nodup) : (new.map Entry.position).Nodup := by
  obtain ⟨entry, changed, others, parts, parts', free⟩ := alters.exists_replaced distinct
  have rest := (List.nodup_cons.1 ((parts.map Entry.position).nodup_iff.1 distinct)).2
  rw [(parts'.map Entry.position).nodup_iff]
  cases changed with
  | none => exact rest
  | some other => exact List.nodup_cons.2 ⟨(free other rfl).2, rest⟩

/-- What is altered is not kept: it does not use its storage as before, and no other entry stands at
its position. -/
theorem Alters.exists_not_isKeptIn (alters : Alters old new)
    (distinct : (old.map Entry.position).Nodup) : ∃ entry ∈ old, ¬ entry.IsKeptIn new := by
  obtain ⟨entry, changed, others, parts, parts', free⟩ := alters.exists_replaced distinct
  have alone := (List.nodup_cons.1 ((parts.map Entry.position).nodup_iff.1 distinct)).1
  refine ⟨entry, parts.mem_iff.2 List.mem_cons_self, ?_⟩
  rintro ⟨found, member, position, type⟩
  rcases List.mem_append.1 (parts'.mem_iff.1 member) with replaced | remaining
  · exact (free found (Option.mem_toList.1 replaced)).1 (Prod.ext position type)
  · exact alone (position ▸ List.mem_map_of_mem remaining)

/-- **Altered storage is refused.** -/
theorem exists_incompatible_of_alters {a : Layout} (ordered : a.Ordered) {altered : List Entry}
    (alters : Alters a.entries altered) (contract : Option String) :
    ∃ b, ofEntries contract altered = .ok b ∧ ¬ Compatible a b := by
  have distinct := nodup_positions_of_inOrder ordered
  refine ⟨⟨contract, sortEntries altered⟩,
    ofEntries_eq_ok_iff.2 ⟨alters.nodup_positions distinct, rfl⟩, fun compatible => ?_⟩
  obtain ⟨entry, member, lost⟩ := alters.exists_not_isKeptIn distinct
  obtain ⟨found, inside, same⟩ := (compatible_iff.1 compatible).isKeptIn member
  exact lost ⟨found, (perm_sortEntries altered).mem_iff.1 inside, same⟩

/-- **Compatibility is an order of storage.** It is a preorder that relates a layout to itself
without a line in the report, and so is a chain of compatible layouts from end to end. Layouts that
are compatible both ways have the same storage, and names change neither the verdict nor the number
of collisions. A layout is not compatible with what becomes of it when one entry is deleted, gets
another type or is moved to a free position, and the entries are sorted again. -/
theorem compatibility_order :
    (∀ a : Layout, Compatible a a ∧ (a.compare a).lines = []) ∧
    (∀ a b c : Layout, Compatible a b → Compatible b c → Compatible a c) ∧
    (∀ (first : Layout) (rest : List Layout), (first :: rest).IsChain Compatible →
      Compatible first ((first :: rest).getLast (List.cons_ne_nil first rest))) ∧
    (∀ a b : Layout, Compatible a b → Compatible b a → SameStorage a b) ∧
    (∀ a a' b b' : Layout, SameStorage a a' → SameStorage b b' →
      (a'.compare b').compatible = (a.compare b).compatible ∧
        (a'.compare b').collisions = (a.compare b).collisions) ∧
    ∀ (a : Layout) (altered : List Entry) (contract : Option String), a.Ordered →
      Alters a.entries altered → ∃ b, ofEntries contract altered = .ok b ∧ ¬ Compatible a b := by
  refine ⟨fun a => ⟨compatible_refl a, ?_⟩, fun _ _ _ => compatible_trans,
    fun _ _ => compatible_of_isChain, fun _ _ => sameStorage_of_compatible,
    fun a a' b b' same same' => ?_,
    fun a altered contract ordered alters => exists_incompatible_of_alters ordered alters contract⟩
  · exact Report.lines_eq_nil_iff.2 (findings_self a.entries)
  · have equal := collisions_congr same same'
    exact ⟨by rw [Report.compatible, Report.compatible, equal], equal⟩

/-- The packed entries under other names, in a contract without a name. -/
def renamed : Layout :=
  ⟨none, [⟨0, 0, "t_uint64", "sum"⟩, ⟨0, 16, "t_bool", "halted"⟩]⟩

/-- Other names make no difference to the packed entries, and entries may follow under these names.
But the first entry may not be moved behind the second one. -/
theorem compatibility_order_packed :
    Compatible packed grown ∧
      Compatible packed ([packed, renamed, grown].getLast (List.cons_ne_nil _ _)) ∧
      SameStorage packed renamed ∧
      (renamed.compare wedged).collisions = (packed.compare wedged).collisions ∧
      ∃ moved, ofEntries none [⟨1, 0, "t_uint64", "total"⟩, ⟨0, 16, "t_bool", "paused"⟩] =
        .ok moved ∧ ¬ Compatible packed moved := by
  obtain ⟨-, trans, chained, both, names, altered⟩ := compatibility_order
  have ordered : packed.Ordered := by
    unfold Layout.Ordered
    decide
  have first : Compatible packed renamed := by decide
  have second : Compatible renamed grown := by decide
  have same : SameStorage packed renamed := both packed renamed first (by decide)
  refine ⟨trans packed renamed grown first second, ?_, same,
    (names packed renamed wedged wedged same rfl).2, ?_⟩
  · exact chained packed [renamed, grown] (.cons_cons first (.cons_cons second (.singleton _)))
  · have moves : Alters packed.entries
        [⟨1, 0, "t_uint64", "total"⟩, ⟨0, 16, "t_bool", "paused"⟩] :=
      @Alters.moved [] _ ⟨0, 0, "t_uint64", "total"⟩ 1 0 (by decide)
    exact altered packed _ none ordered moves

end Layout

end UpgradeGate
