import UpgradeGate.Proofs.Layout.Listing

/-!
# Listing the baselines

The list of a store that keeps shelves holds the network and the contract of each baseline once, in
strictly ascending order: of all networks, or of the one that is asked for
(`LayoutStore.Shelved.list_all`, `LayoutStore.Shelved.list_network`). The contract is read off the
name of the file, which is sound because only baselines stand in the folder of a network beside the
hidden folder, and that has another ending.
-/

namespace UpgradeGate.LayoutStore.Shelved

variable {store : LayoutStore} {root : Place} {shelves : Shelves} {contract network : String}
  {disk : Disk}
variable (shelved : Shelved store root shelves disk)
include shelved

/-- The names in the folder of a network that are those of layout files are the names of its
baselines' files. -/
theorem mem_names_iff {name : String} :
    name ∈ disk.names (root ++ [network]) ∧ contractOf? name = some contract ↔
      name = contract ++ fileEnding ∧ (shelves .baseline (network, contract)).isSome = true := by
  have place : root ++ [network] ++ [name] = root ++ [network, name] := by simp
  rw [Disk.mem_names_iff, place]
  constructor
  · intro given
    obtain ⟨stands, named⟩ := given
    obtain ⟨node, found⟩ := Option.isSome_iff_exists.1 stands
    have part : IsPart shelves (stepsTo .baseline network name) node :=
      shelved.parts _ node (List.cons_ne_nil _ _) found
    rcases part.of_stepsTo with ⟨-, rfl⟩ | ⟨own, _, -, rfl, on⟩
    · rw [contractOf?_scratchFolder] at named
      cases named
    · obtain ⟨layout, kept⟩ := Option.isSome_iff_exists.1 on
      obtain ⟨allowed, -⟩ := shelved.kept _ _ _ _ kept
      rw [contractOf?_fileName allowed.ne_empty] at named
      cases named
      exact ⟨rfl, on⟩
  · intro given
    obtain ⟨rfl, on⟩ := given
    obtain ⟨layout, kept⟩ := Option.isSome_iff_exists.1 on
    obtain ⟨allowed, -, -, now, -, found⟩ := shelved.kept _ _ _ _ kept
    rw [shelved.place_eq .baseline contract allowed.2, stepsTo] at found
    rw [found]
    exact ⟨rfl, contractOf?_fileName allowed.ne_empty⟩

/-- The folder of a network with a baseline is there. -/
theorem folder_of_baseline (on : (shelves .baseline (network, contract)).isSome = true) :
    disk.node? (root ++ [network]) = some .folder := by
  obtain ⟨layout, kept⟩ := Option.isSome_iff_exists.1 on
  obtain ⟨allowed, -, -, now, followed, -⟩ := shelved.kept _ _ _ _ kept
  obtain ⟨folder, reached, found, -⟩ := Disk.follow_concat_eq_ok.1 followed
  obtain ⟨_, -, -, short, -⟩ := Disk.follow_concat_eq_ok.1 reached
  have own : Except.ok (root ++ [network]) = Except.ok folder :=
    (shelved.follow_networkPath allowed.2 short).symm.trans reached
  cases own
  exact found

/-- The baselines on the shelves can be listed. -/
theorem listable : Listable store root (fun key => (shelves .baseline key).isSome = true) disk where
  followed := shelved.followed
  folder := shelved.folder
  unique := shelved.unique
  networks name stands := by
    obtain ⟨node, found⟩ := Option.isSome_iff_exists.1 stands
    obtain ⟨rfl, named⟩ := (shelved.parts [name] node (List.cons_ne_nil _ _) found).of_network
    exact ⟨found, named⟩
  names _ _ _ := shelved.mem_names_iff
  inside _ _ := shelved.folder_of_baseline

/-- The list of all networks holds every baseline. -/
theorem list_all {asked : Option String} (all : asked.filter (!·.isEmpty) = none) :
    ∃ keys, (store.list asked).run.run disk = (.ok keys, disk) ∧ keys.Pairwise KeyLt ∧
      ∀ key, key ∈ keys ↔ (shelves .baseline key).isSome = true :=
  shelved.listable.list_all all

/-- The list of one network holds its baselines, unless the name is too long. -/
theorem list_network {asked : Option String} (one : asked.filter (!·.isEmpty) = some network)
    (allowed : isName network = true) :
    (∃ keys, (store.list asked).run.run disk = (.ok keys, disk) ∧ keys.Pairwise KeyLt ∧
      ∀ key, key ∈ keys ↔ key.1 = network ∧ (shelves .baseline key).isSome = true) ∨
    ¬ Short network ∧ (store.list asked).run.run disk = (.error (.plain .fileName), disk) := by
  by_cases short : Short network
  · exact .inl (shelved.listable.list_network one allowed short)
  · exact .inr ⟨short, shelved.listable.list_overlong one allowed short⟩

end UpgradeGate.LayoutStore.Shelved
