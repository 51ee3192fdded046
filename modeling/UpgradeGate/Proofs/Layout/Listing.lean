import UpgradeGate.Proofs.Layout.Shelf

/-!
# Listing what stands in a store

A list holds the network and the contract of each layout file that stands in the folder of a
network. Where nothing else stands there that is named like one, it holds those keys once, in
strictly ascending order: of all networks, or of the one that is asked for
(`LayoutStore.Listable.list_all`, `LayoutStore.Listable.list_network`).
-/

namespace UpgradeGate

/-- Views that succeed one by one succeed together. -/
theorem DiskTask.run_mapM_view {β γ : Type} {look : β → Disk → Except Kind γ} {given : β → γ}
    {disk : Disk} {values : List β}
    (found : ∀ value ∈ values, look value disk = .ok (given value)) :
    (values.mapM fun value => DiskTask.view (look value)).run.run disk =
      (.ok (values.map given), disk) := by
  induction values with
  | nil => rfl
  | cons first rest ih =>
    have here := found first (List.mem_cons_self ..)
    have onward := ih fun value member => found value (List.mem_cons_of_mem _ member)
    rw [List.mapM_cons, run_bind, run_view, here]
    dsimp only
    rw [run_bind, onward]
    rfl

namespace LayoutStore

/-! ## Order -/

/-- One network and contract strictly before others. -/
def KeyLt (a b : String × String) : Prop := a.1 < b.1 ∨ a.1 = b.1 ∧ a.2 < b.2

/-- The order of keys is transitive. -/
theorem KeyLt.trans {a b c : String × String} (first : KeyLt a b) (second : KeyLt b c) :
    KeyLt a c := by
  rcases first with before | ⟨same, before⟩ <;> rcases second with after | ⟨same', after⟩
  · exact .inl (String.lt_trans before after)
  · exact .inl (same' ▸ before)
  · exact .inl (same.symm ▸ after)
  · exact .inr ⟨same.trans same', String.lt_trans before after⟩

theorem lt_or_eq_or_gt (a b : String) : a < b ∨ a = b ∨ b < a := by
  by_cases before : a < b
  · exact .inl before
  · by_cases after : b < a
    · exact .inr (.inr after)
    · exact .inr (.inl (String.le_antisymm (String.not_lt.1 after) (String.not_lt.1 before)))

theorem KeyLt.trichotomy (a b : String × String) : KeyLt a b ∨ a = b ∨ KeyLt b a := by
  rcases lt_or_eq_or_gt a.1 b.1 with before | same | after
  · exact .inl (.inl before)
  · rcases lt_or_eq_or_gt a.2 b.2 with before | equal | after
    · exact .inl (.inr ⟨same, before⟩)
    · exact .inr (.inl (Prod.ext same equal))
    · exact .inr (.inr (.inr ⟨same.symm, after⟩))
  · exact .inr (.inr (.inl after))

/-- A key may stand before another where it is the same or smaller. -/
theorem keyBefore_iff {a b : String × String} : keyBefore a b = true ↔ a = b ∨ KeyLt a b := by
  rw [keyBefore, Bool.or_eq_true, Bool.and_eq_true, decide_eq_true_iff, beq_iff_eq,
    Bool.not_eq_true', decide_eq_false_iff_not]
  constructor
  · intro before
    rcases before with before | ⟨same, before⟩
    · exact .inr (.inl before)
    · rcases lt_or_eq_or_gt a.2 b.2 with less | equal | greater
      · exact .inr (.inr ⟨same, less⟩)
      · exact .inl (Prod.ext same equal)
      · exact absurd greater before
  · intro before
    rcases before with rfl | before | ⟨same, before⟩
    · exact .inr ⟨rfl, String.lt_irrefl _⟩
    · exact .inl before
    · exact .inr ⟨same, fun after => String.lt_irrefl _ (String.lt_trans before after)⟩

/-- Sorting different keys puts them in strictly ascending order. -/
theorem pairwise_mergeSort {keys : List (String × String)} (unique : keys.Nodup) :
    (keys.mergeSort keyBefore).Pairwise KeyLt := by
  have transitive (a b c : String × String) (first : keyBefore a b = true)
      (second : keyBefore b c = true) : keyBefore a c = true := by
    rw [keyBefore_iff] at first second ⊢
    rcases first with rfl | first
    · exact second
    · rcases second with rfl | second
      · exact .inr first
      · exact .inr (first.trans second)
  have total (a b : String × String) : (keyBefore a b || keyBefore b a) = true := by
    rw [Bool.or_eq_true, keyBefore_iff, keyBefore_iff]
    rcases KeyLt.trichotomy a b with before | rfl | after
    · exact .inl (.inr before)
    · exact .inl (.inl rfl)
    · exact .inr (.inr after)
  have sorted := List.pairwise_mergeSort transitive total keys
  have different := (List.mergeSort_perm keys keyBefore).nodup_iff.2 unique
  refine (sorted.and different).imp fun {a b} both => ?_
  exact (keyBefore_iff.1 both.1).resolve_left both.2

/-- Strictly ascending lists of the same keys are the same. -/
theorem eq_of_pairwise_keyLt {keys keys' : List (String × String)} (ascending : keys.Pairwise KeyLt)
    (ascending' : keys'.Pairwise KeyLt) (same : ∀ key, key ∈ keys ↔ key ∈ keys') :
    keys = keys' := by
  have irrefl (a : String × String) : ¬ KeyLt a a := by
    rintro (before | ⟨-, before⟩) <;> exact String.lt_irrefl _ before
  have unique {keys : List (String × String)} (ascending : keys.Pairwise KeyLt) : keys.Nodup :=
    ascending.imp fun {a b} before => by
      rintro rfl
      exact irrefl a before
  refine List.Perm.eq_of_pairwise (fun a b _ _ before after => ?_) ascending ascending'
    ((List.perm_ext_iff_of_nodup (unique ascending) (unique ascending')).2 same)
  exact absurd (before.trans after) (irrefl a)

/-! ## Names of files -/

/-- The contract of a layout file is found in its name. -/
theorem contractOf?_fileName {contract : String} (named : contract ≠ "") :
    contractOf? (contract ++ fileEnding) = some contract := by
  have ends : (contract ++ fileEnding).endsWith fileEnding = true := by
    rw [String.endsWith, String.Slice.endsWith_string_iff, String.copy_toSlice,
      String.toList_append]
    exact List.suffix_append _ _
  have front : (contract ++ fileEnding).toList.take
      ((contract ++ fileEnding).length - fileEnding.length) = contract.toList := by
    rw [String.length_append, Nat.add_sub_cancel, String.toList_append, ← String.length_toList,
      List.take_left]
  have filled : contract.isEmpty = false := by
    rw [Bool.eq_false_iff]
    exact fun blank => named (String.isEmpty_iff.1 blank)
  rw [contractOf?, if_pos ends, front, String.ofList_toList]
  simp only [filled, Bool.false_eq_true, if_false]

/-- The hidden folder is no layout file. -/
theorem contractOf?_scratchFolder : contractOf? scratchFolder = none := by
  decide +kernel

/-! ## What can be listed -/

/-- **The baselines in a store can be listed**: in its root folder stand folders of networks alone,
and what is named like a layout file there is that of a baseline. -/
structure Listable (store : LayoutStore) (root : Place) (has : String × String → Prop)
    (disk : Disk) : Prop where
  followed : disk.follow [] store.root = .ok root
  folder : disk.node? root = some .folder
  unique : (disk.below root).Nodup
  networks : ∀ name, (disk.node? (root ++ [name])).isSome = true →
    disk.node? (root ++ [name]) = some .folder ∧ isName name = true ∧ Short name
  names : ∀ network name contract,
    name ∈ disk.names (root ++ [network]) ∧ contractOf? name = some contract ↔
      name = contract ++ fileEnding ∧ has (network, contract)
  inside : ∀ network contract, has (network, contract) →
    disk.node? (root ++ [network]) = some .folder

namespace Listable

variable {store : LayoutStore} {root : Place} {has : String × String → Prop} {network : String}
  {disk : Disk}
variable (listable : Listable store root has disk)
include listable

/-- The folder of a network can be followed. -/
theorem follow_networkPath (allowed : isName network = true) (short : Short network) :
    disk.follow [] (store.networkPath network) = .ok (root ++ [network]) := by
  rw [networkPath, Disk.follow_concat_of_folder listable.followed listable.folder short,
    Path.target_append, ← Disk.follow_eq_target listable.followed,
    Path.target_of_down (by simpa using ne_up_of_isName allowed)]

/-- The baselines of a network, each once. -/
theorem baselinesIn (allowed : isName network = true) (short : Short network) :
    ∃ keys, store.baselinesIn disk network = .ok keys ∧ keys.Nodup ∧
      ∀ key, key ∈ keys ↔ key.1 = network ∧ has key := by
  have followed := listable.follow_networkPath allowed short
  have looked := Disk.look_of_follow followed
  cases found : disk.node? (root ++ [network]) with
  | none =>
    rw [found] at looked
    refine ⟨[], ?_, List.nodup_nil, fun key => ⟨nofun, ?_⟩⟩
    · rw [LayoutStore.baselinesIn, looked]
      rfl
    · rintro ⟨rfl, on⟩
      rw [listable.inside _ _ on] at found
      cases found
  | some node =>
    obtain ⟨folder, -, -⟩ := listable.networks network (by rw [found]; rfl)
    cases found.symm.trans folder
    rw [found] at looked
    refine ⟨(disk.names (root ++ [network])).filterMap fun name =>
      (contractOf? name).map (network, ·), ?_, ?_, fun key => ?_⟩
    · rw [LayoutStore.baselinesIn, looked]
      change (disk.follow [] (store.networkPath network) >>= _) = _
      rw [followed]
      rfl
    · rw [List.Nodup, List.pairwise_filterMap]
      refine (Disk.nodup_names listable.unique [network]).imp_of_mem ?_
      intro name other listed listed' differ key named key' named' same
      obtain ⟨contract, read, rfl⟩ := Option.map_eq_some_iff.1 named
      obtain ⟨contract', read', rfl⟩ := Option.map_eq_some_iff.1 named'
      cases same
      have first := ((listable.names _ _ _).1 ⟨listed, read⟩).1
      have second := ((listable.names _ _ _).1 ⟨listed', read'⟩).1
      exact differ (first.trans second.symm)
    · rw [List.mem_filterMap]
      constructor
      · intro given
        obtain ⟨name, listed, named⟩ := given
        obtain ⟨contract, read, rfl⟩ := Option.map_eq_some_iff.1 named
        exact ⟨rfl, ((listable.names _ _ _).1 ⟨listed, read⟩).2⟩
      · rintro ⟨rfl, on⟩
        obtain ⟨listed, read⟩ := (listable.names _ _ _).2 ⟨rfl, on⟩
        exact ⟨_, listed, by rw [read]; rfl⟩

/-! ## The list -/

/-- The list of all networks holds every baseline. -/
theorem list_all {asked : Option String} (all : asked.filter (!·.isEmpty) = none) :
    ∃ keys, (store.list asked).run.run disk = (.ok keys, disk) ∧ keys.Pairwise KeyLt ∧
      ∀ key, key ∈ keys ↔ has key := by
  have isNetwork (name : String) (listed : name ∈ disk.names root) :
      isName name = true ∧ Short name := by
    rw [Disk.mem_names_iff] at listed
    exact (listable.networks name listed).2
  have each (name : String) : ∃ keys, name ∈ disk.names root →
      store.baselinesIn disk name = .ok keys ∧ keys.Nodup ∧
        ∀ key, key ∈ keys ↔ key.1 = name ∧ has key := by
    by_cases listed : name ∈ disk.names root
    · obtain ⟨allowed, short⟩ := isNetwork name listed
      obtain ⟨keys, found⟩ := listable.baselinesIn allowed short
      exact ⟨keys, fun _ => found⟩
    · exact ⟨[], fun member => absurd member listed⟩
  choose keysOf spec using each
  have networks : store.networks disk = .ok (disk.names root) := by
    simp [LayoutStore.networks, listable.followed, listable.folder, bind, Except.bind, pure,
      Except.pure]
  have unique : ((disk.names root).flatMap keysOf).Nodup := by
    refine List.nodup_flatMap.2 ⟨fun name listed => (spec name listed).2.1, ?_⟩
    have names := Disk.nodup_names listable.unique []
    rw [List.append_nil] at names
    refine names.imp_of_mem fun {name other} listed listed' differ key on on' => differ ?_
    rw [← (((spec name listed).2.2 key).1 on).1, (((spec other listed').2.2 key).1 on').1]
  refine ⟨((disk.names root).flatMap keysOf).mergeSort keyBefore, ?_, pairwise_mergeSort unique,
    fun key => ?_⟩
  · rw [list, all, DiskTask.run_bind, DiskTask.run_view, networks]
    dsimp only
    rw [DiskTask.run_bind, DiskTask.run_mapM_view fun name listed => (spec name listed).1]
    rfl
  · rw [List.mem_mergeSort, List.mem_flatMap]
    constructor
    · intro given
      obtain ⟨name, listed, on⟩ := given
      exact (((spec name listed).2.2 key).1 on).2
    · intro on
      have listed : key.1 ∈ disk.names root := by
        rw [Disk.mem_names_iff, listable.inside _ _ on]
        rfl
      exact ⟨key.1, listed, ((spec key.1 listed).2.2 key).2 ⟨rfl, on⟩⟩

omit listable in
/-- The list of one network looks into its folder. -/
theorem run_list_network {asked : Option String} (one : asked.filter (!·.isEmpty) = some network)
    (allowed : isName network = true) (disk : Disk) : (store.list asked).run.run disk =
      ((do
        let found ← [network].mapM fun name => DiskTask.view (store.baselinesIn · name)
        pure (found.flatten.mergeSort keyBefore)) : DiskTask (List (String × String))).run.run
          disk := by
  rw [list, one]
  dsimp only
  rw [checkName_eq_ok_iff.2 allowed]
  rfl

/-- The list of one network holds its baselines. -/
theorem list_network {asked : Option String} (one : asked.filter (!·.isEmpty) = some network)
    (allowed : isName network = true) (short : Short network) :
    ∃ keys, (store.list asked).run.run disk = (.ok keys, disk) ∧ keys.Pairwise KeyLt ∧
      ∀ key, key ∈ keys ↔ key.1 = network ∧ has key := by
  obtain ⟨keys, found, unique, mem⟩ := listable.baselinesIn allowed short
  refine ⟨keys.mergeSort keyBefore, ?_, pairwise_mergeSort unique, fun key => ?_⟩
  · have each : ∀ name ∈ [network], store.baselinesIn disk name = .ok keys := by
      intro name member
      rwa [List.mem_singleton.1 member]
    rw [run_list_network one allowed, DiskTask.run_bind, DiskTask.run_mapM_view each]
    simp only [List.map_cons, List.map_nil, List.flatten_cons, List.flatten_nil, List.append_nil]
    rfl
  · rw [List.mem_mergeSort]
    exact mem key

/-- A network whose name is too long has no list. -/
theorem list_overlong {asked : Option String} (one : asked.filter (!·.isEmpty) = some network)
    (allowed : isName network = true) (long : ¬ Short network) :
    (store.list asked).run.run disk = (.error (.plain .fileName), disk) := by
  have failed : disk.follow [] (store.networkPath network) = .error .fileName := by
    rw [networkPath, Disk.follow_append, listable.followed]
    exact Disk.follow_cons_of_long [] listable.folder (Nat.not_le.1 long)
  have unseen : store.baselinesIn disk network = .error .fileName := by
    rw [LayoutStore.baselinesIn, Disk.look_of_error failed]
    rfl
  rw [run_list_network one allowed, DiskTask.run_bind, List.mapM_cons, DiskTask.run_bind,
    DiskTask.run_view, unseen]

end Listable

/-- A network whose name is refused has no list. -/
theorem list_refused {store : LayoutStore} {network : String} {asked : Option String}
    (one : asked.filter (!·.isEmpty) = some network) (refused : ¬ isName network = true)
    (disk : Disk) : (store.list asked).run.run disk =
      (.error (.value (.invalidName .network network)), disk) := by
  rw [list, one]
  dsimp only
  rw [checkName, if_neg refused]
  rfl

/-- Why there is no list of the network that is asked for, if there is none. -/
def listRefusal? (asked : Option String) : Option Failure :=
  match asked.filter (!·.isEmpty) with
  | none => none
  | some network =>
    if isName network then
      if network.utf8ByteSize ≤ Disk.longestName then none else some (.plain .fileName)
    else some (.value (.invalidName .network network))

namespace Listable

variable {store : LayoutStore} {root : Place} {has : String × String → Prop} {disk disk' : Disk}

/-- **A list** is refused for what is asked, or it holds the baselines of the networks that are
asked for. -/
theorem list_ends (listable : Listable store root has disk) (asked : Option String) :
    match listRefusal? asked with
    | some failure => (store.list asked).run.run disk = (.error failure, disk)
    | none => ∃ keys, (store.list asked).run.run disk = (.ok keys, disk) ∧ keys.Pairwise KeyLt ∧
        ∀ key, key ∈ keys ↔ (∀ network ∈ asked.filter (!·.isEmpty), key.1 = network) ∧ has key := by
  rw [listRefusal?]
  cases given : asked.filter (!·.isEmpty) with
  | none => simpa using listable.list_all given
  | some network =>
    by_cases allowed : isName network = true
    case neg => simpa [allowed] using list_refused given allowed disk
    by_cases short : network.utf8ByteSize ≤ Disk.longestName
    · simpa [allowed, short] using listable.list_network given allowed short
    · simpa [allowed, short] using listable.list_overlong given allowed short

/-- A list fails as it is refused. -/
theorem list_error_iff (listable : Listable store root has disk) {asked : Option String}
    {failure : Failure} :
    ((store.list asked).run.run disk).1 = .error failure ↔ listRefusal? asked = some failure := by
  have ends := listable.list_ends asked
  cases refused : listRefusal? asked with
  | some failure' =>
    rw [refused] at ends
    rw [ends, Except.error.injEq, Option.some.injEq]
  | none =>
    rw [refused] at ends
    obtain ⟨keys, run, -⟩ := ends
    simp [run]

/-- A list that is not refused is in ascending order, and holds the baselines of the networks that
are asked for. -/
theorem list_ok_iff (listable : Listable store root has disk) {asked : Option String}
    {keys : List (String × String)} :
    ((store.list asked).run.run disk).1 = .ok keys ↔
      listRefusal? asked = none ∧ keys.Pairwise KeyLt ∧ ∀ key, key ∈ keys ↔
        (∀ network ∈ asked.filter (!·.isEmpty), key.1 = network) ∧ has key := by
  have ends := listable.list_ends asked
  cases refused : listRefusal? asked with
  | some failure =>
    rw [refused] at ends
    simp [ends]
  | none =>
    rw [refused] at ends
    obtain ⟨listed, run, ascending, mem⟩ := ends
    rw [run, Except.ok.injEq]
    constructor
    · rintro rfl
      exact ⟨rfl, ascending, mem⟩
    · rintro ⟨-, ascending', mem'⟩
      exact eq_of_pairwise_keyLt ascending ascending' fun key => by rw [mem, mem']

/-- Where the same baselines can be listed, the lists are the same. -/
theorem list_congr (listable : Listable store root has disk)
    (listable' : Listable store root has disk') (asked : Option String) :
    ((store.list asked).run.run disk).1 = ((store.list asked).run.run disk').1 := by
  cases listed : ((store.list asked).run.run disk').1 with
  | error failure => exact listable.list_error_iff.2 (listable'.list_error_iff.1 listed)
  | ok keys => exact listable.list_ok_iff.2 (listable'.list_ok_iff.1 listed)

end Listable

end LayoutStore

end UpgradeGate
