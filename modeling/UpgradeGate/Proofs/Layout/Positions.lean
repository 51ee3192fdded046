import UpgradeGate.Proofs.Layout.Compatibility

/-!
# Compatibility by position

Layouts are compared index by index, but what matters to stored values is where they stand. Since
both layouts are in order, the two agree (`Layout.compatible_iff_positions`): a new layout is
compatible with an old one exactly when it has every old position with the type it had, and all
that is new stands behind the last old position.
-/

namespace UpgradeGate

namespace Entry

/-- What the use of storage depends on: where an entry stands, and its type. -/
def storage (entry : Entry) : Position × String := (entry.position, entry.type)

/-- One of some entries stands at the same position and has the same type. -/
def IsKeptIn (entry : Entry) (entries : List Entry) : Prop :=
  ∃ other ∈ entries, other.position = entry.position ∧ other.type = entry.type

/-- Entries share their storage where their storage is equal. -/
theorem sameStorage_iff_storage_eq {a b : Entry} :
    a.sameStorage b = true ↔ a.storage = b.storage := by
  simp [sameStorage_iff, storage, position, and_assoc]

end Entry

namespace Layout

/-- Every entry stands before all later ones. -/
abbrev InOrder (entries : List Entry) : Prop :=
  entries.Pairwise fun earlier later => earlier.position.Before later.position

/-- No two entries that are in order stand at one position. -/
theorem InOrder.eq_of_position {entries : List Entry} (ordered : InOrder entries) {a b : Entry}
    (member : a ∈ entries) (member' : b ∈ entries) (same : a.position = b.position) : a = b := by
  induction ordered with
  | nil => cases member
  | @cons first rest ahead ordered ih =>
    rcases List.mem_cons.1 member with rfl | further
    · rcases List.mem_cons.1 member' with rfl | further'
      · rfl
      · exact absurd (same ▸ ahead b further') (Position.Before.irrefl _)
    · rcases List.mem_cons.1 member' with rfl | further'
      · exact absurd (same ▸ ahead a further) (Position.Before.irrefl _)
      · exact ih further further'

/-- New entries at no old position stand behind all old ones. -/
def OnlyAppends (old new : List Entry) : Prop :=
  ∀ added ∈ new, added.position ∉ old.map Entry.position →
    ∀ entry ∈ old, entry.position.Before added.position

/-- What is taken over is a first part of the new storage. -/
theorem takesOver_iff_prefix {old new : List Entry} :
    TakesOver old new ↔ old.map Entry.storage <+: new.map Entry.storage := by
  induction old generalizing new with
  | nil => simp [TakesOver]
  | cons entry rest ih =>
    cases new with
    | nil => simp [TakesOver]
    | cons other others =>
      simp [TakesOver, List.cons_prefix_cons, Entry.sameStorage_iff_storage_eq, ih]

/-- Storage that is taken over is that of the first new entries; the others follow. -/
theorem TakesOver.split {old new : List Entry} (taken : TakesOver old new) :
    ∃ kept added, new = kept ++ added ∧ kept.map Entry.storage = old.map Entry.storage := by
  obtain ⟨further, same⟩ := takesOver_iff_prefix.1 taken
  obtain ⟨kept, added, rfl, kept_eq, -⟩ := List.map_eq_append_iff.1 same.symm
  exact ⟨kept, added, rfl, kept_eq⟩

/-- Where the storage is equal, the positions are. -/
theorem map_position_of_storage {kept old : List Entry}
    (same : kept.map Entry.storage = old.map Entry.storage) :
    kept.map Entry.position = old.map Entry.position := by
  have positions := congrArg (List.map Prod.fst) same
  simpa [List.map_map, Function.comp_def, Entry.storage] using positions

/-- An entry that is taken over is kept. -/
theorem TakesOver.isKeptIn {old new : List Entry} (taken : TakesOver old new) {entry : Entry}
    (member : entry ∈ old) : entry.IsKeptIn new := by
  obtain ⟨kept, added, rfl, same⟩ := taken.split
  have known : entry.storage ∈ kept.map Entry.storage := same ▸ List.mem_map_of_mem member
  obtain ⟨other, inside, equal⟩ := List.mem_map.1 known
  exact ⟨other, List.mem_append_left _ inside, congrArg Prod.fst equal, congrArg Prod.snd equal⟩

/-- In new entries that are in order, those that do not take over old storage come after it. -/
theorem before_of_append {old kept added : List Entry} (ordered : InOrder (kept ++ added))
    (same : kept.map Entry.storage = old.map Entry.storage) {entry later : Entry}
    (member : entry ∈ old) (further : later ∈ added) :
    entry.position.Before later.position := by
  have known : entry.position ∈ kept.map Entry.position :=
    map_position_of_storage same ▸ List.mem_map_of_mem member
  obtain ⟨other, inside, equal⟩ := List.mem_map.1 known
  rw [← equal]
  exact (List.pairwise_append.1 ordered).2.2 other inside later further

/-- Where the old entries are taken over, new positions come behind them. -/
theorem TakesOver.onlyAppends {old new : List Entry} (taken : TakesOver old new)
    (ordered : InOrder new) : OnlyAppends old new := by
  obtain ⟨kept, added, rfl, same⟩ := taken.split
  intro later member elsewhere entry inside
  rcases List.mem_append.1 member with early | further
  · rw [← map_position_of_storage same] at elsewhere
    exact absurd (List.mem_map_of_mem early) elsewhere
  · exact before_of_append ordered same inside further

/-- If all old entries are kept and nothing is new but behind them, the first new entry is the first
old one: an earlier one would be neither, and the old one cannot come later. -/
theorem first_of_kept {entry other : Entry} {rest others : List Entry}
    (ordered : InOrder (entry :: rest)) (ordered' : InOrder (other :: others))
    (kept : entry.IsKeptIn (other :: others))
    (appends : OnlyAppends (entry :: rest) (other :: others)) : entry.storage = other.storage := by
  obtain ⟨found, member, position, type⟩ := kept
  rcases List.mem_cons.1 member with rfl | further
  · exact Prod.ext position.symm type.symm
  · have early : other.position.Before entry.position :=
      position ▸ (List.pairwise_cons.1 ordered').1 found further
    have late : entry.position.Before other.position := by
      by_cases known : other.position ∈ (entry :: rest).map Entry.position
      · obtain ⟨old, inside, equal⟩ := List.mem_map.1 known
        rcases List.mem_cons.1 inside with rfl | later
        · rw [← equal] at early
          exact absurd early (Position.Before.irrefl _)
        · rw [← equal]
          exact (List.pairwise_cons.1 ordered).1 old later
      · exact appends other List.mem_cons_self known entry List.mem_cons_self
    exact absurd (early.trans late) (Position.Before.irrefl _)

/-- Entries that are kept, with new ones behind them only, are taken over. -/
theorem takesOver_of_kept {old new : List Entry} (ordered : InOrder old) (ordered' : InOrder new)
    (kept : ∀ entry ∈ old, entry.IsKeptIn new) (appends : OnlyAppends old new) :
    TakesOver old new := by
  induction old generalizing new with
  | nil => trivial
  | cons entry rest ih =>
    cases new with
    | nil =>
      obtain ⟨_, absent, -⟩ := kept entry List.mem_cons_self
      exact absurd absent List.not_mem_nil
    | cons other others =>
      have same := first_of_kept ordered ordered' (kept entry List.mem_cons_self) appends
      have here : entry.position = other.position := congrArg Prod.fst same
      obtain ⟨first, ordered⟩ := List.pairwise_cons.1 ordered
      obtain ⟨first', ordered'⟩ := List.pairwise_cons.1 ordered'
      refine ⟨Entry.sameStorage_iff_storage_eq.2 same, ih ordered ordered' ?_ ?_⟩
      · intro old member
        obtain ⟨found, inside, position, type⟩ := kept old (List.mem_cons_of_mem _ member)
        rcases List.mem_cons.1 inside with rfl | later
        · have ahead := first old member
          rw [here, position] at ahead
          exact absurd ahead (Position.Before.irrefl _)
        · exact ⟨found, later, position, type⟩
      · intro added member elsewhere old inside
        refine appends added (List.mem_cons_of_mem _ member) ?_ old (List.mem_cons_of_mem _ inside)
        intro known
        rcases List.mem_cons.1 known with equal | later
        · have ahead := first' added member
          rw [equal, here] at ahead
          exact Position.Before.irrefl _ ahead
        · exact elsewhere later

/-- **Compatibility by position.** A new layout is compatible with an old one exactly when it keeps
every old position with its type and all its other entries stand behind every old position. Its
first entries then stand at the old positions, and no other one at, before or between them. -/
theorem compatible_iff_positions {old new : Layout} (ordered : old.Ordered)
    (ordered' : new.Ordered) :
    ((old.compare new).compatible = true ↔
      (∀ entry ∈ old.entries, entry.IsKeptIn new.entries) ∧
        ∀ added ∈ new.entries, added.position ∉ old.positions →
          ∀ position ∈ old.positions, position.Before added.position) ∧
    ((old.compare new).compatible = true →
      ∃ kept added, new.entries = kept ++ added ∧ kept.map Entry.position = old.positions ∧
        ∀ later ∈ added, ∀ position ∈ old.positions, position.Before later.position) := by
  rw [compatible_iff]
  refine ⟨⟨?_, ?_⟩, ?_⟩
  · intro taken
    refine ⟨fun _ => taken.isKeptIn, ?_⟩
    intro added member elsewhere position known
    obtain ⟨entry, inside, rfl⟩ := List.mem_map.1 known
    exact taken.onlyAppends ordered' added member elsewhere entry inside
  · intro given
    obtain ⟨kept, appends⟩ := given
    refine takesOver_of_kept ordered ordered' kept ?_
    intro added member elsewhere entry inside
    exact appends added member elsewhere _ (List.mem_map_of_mem inside)
  · intro taken
    obtain ⟨kept, added, whole, same⟩ := taken.split
    refine ⟨kept, added, whole, map_position_of_storage same, ?_⟩
    intro later further position known
    obtain ⟨entry, inside, rfl⟩ := List.mem_map.1 known
    exact before_of_append (whole ▸ ordered') same inside further

/-- Two entries that share a slot, with room between them. -/
def packed : Layout :=
  ⟨some "Vault", [⟨0, 0, "t_uint64", "total"⟩, ⟨0, 16, "t_bool", "paused"⟩]⟩

/-- The packed entries under other names, with an entry behind them. -/
def grown : Layout :=
  ⟨some "Vault",
    [⟨0, 0, "t_uint64", "sum"⟩, ⟨0, 16, "t_bool", "halted"⟩, ⟨0, 17, "t_bool", "open"⟩]⟩

/-- The packed entries with an entry in the room between them. -/
def wedged : Layout :=
  ⟨some "Vault", [⟨0, 0, "t_uint64", "total"⟩, ⟨0, 8, "t_uint64", "fee"⟩,
    ⟨0, 16, "t_bool", "paused"⟩]⟩

/-- An entry behind the packed ones is compatible, and one between them is not, though it takes
storage that nothing uses. -/
theorem compatible_iff_positions_packed :
    packed.Ordered ∧ grown.Ordered ∧ wedged.Ordered ∧
      (packed.compare grown).compatible = true ∧ ¬ (packed.compare wedged).compatible = true := by
  have ordered : packed.Ordered := by unfold Layout.Ordered; decide
  have ordered' : grown.Ordered := by unfold Layout.Ordered; decide
  have ordered'' : wedged.Ordered := by unfold Layout.Ordered; decide
  refine ⟨ordered, ordered', ordered'', ?_, fun compatible => ?_⟩
  · refine (compatible_iff_positions ordered ordered').1.2 ⟨?_, by decide⟩
    unfold Entry.IsKeptIn
    decide
  · have behind := ((compatible_iff_positions ordered ordered'').1.1 compatible).2
      ⟨0, 8, "t_uint64", "fee"⟩ (by decide) (by decide) ⟨0, 16⟩ (by decide)
    exact absurd behind (by decide)

end Layout

end UpgradeGate
