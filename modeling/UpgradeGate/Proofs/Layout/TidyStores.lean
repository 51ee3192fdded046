import UpgradeGate.Proofs.Layout.Listing
import UpgradeGate.Proofs.Layout.NetworkFolder

/-!
# Stores with drafts

A store is tidy if below its root stand folders of networks, the files of copies and their drafts,
and nothing else (`LayoutStore.Tidy`). Writing and discarding copies keeps a store tidy however they
end, and so does a draft that is left behind (`Tidy.write`, `Tidy.discard`, `Tidy.draft`).

What is read of a tidy store is told by the folders and the files (`Orderly.reading_congr`), and
what is listed is told by the files of the baselines (`Tidy.listable`): a draft is named like no
file.
-/

namespace UpgradeGate.LayoutStore

variable {store : LayoutStore} {copy copy' : Copy} {contract contract' network other : String}
  {disk after : Disk} {place : Place} {layout : Layout}

/-! ## Names of drafts -/

/-- A draft is no layout file. -/
theorem contractOf?_draftName : contractOf? (contract ++ fileEnding ++ ".tmp") = none := by
  have ends : ¬ (contract ++ fileEnding ++ ".tmp").endsWith fileEnding = true := by
    rw [String.endsWith, String.Slice.endsWith_string_iff, String.copy_toSlice]
    rintro ⟨front, same⟩
    have last := congrArg List.getLast? same
    simp [fileEnding] at last
  rw [contractOf?, if_neg ends]

/-! ## Files in a part that is in order -/

/-- What is reached by names is a file below the root folder. -/
theorem Reaches.exists_name (reaches : store.Reaches copy contract network place) :
    ∃ name, place = store.rootPlace ++ stepsTo copy network name := by
  obtain ⟨allowed, rfl | rfl⟩ := reaches
  · exact ⟨_, place_eq store copy contract allowed.2⟩
  · exact ⟨_, draftPlace_eq store copy contract allowed.2⟩

/-- A place where a file belongs is one for a single kind of copies. -/
theorem Reaches.copy_eq {copy' : Copy} {contract' : String}
    (reaches : store.Reaches copy contract network place)
    (reaches' : store.Reaches copy' contract' network place) : copy = copy' := by
  obtain ⟨name, rfl⟩ := reaches.exists_name
  obtain ⟨name', same⟩ := reaches'.exists_name
  exact (stepsTo_inj.1 (List.append_cancel_left same)).1

/-- A file may be put where one belongs, in a folder that is there. -/
theorem Orderly.put (orderly : store.Orderly network disk)
    (reaches : store.Reaches copy contract network place)
    (made : disk.node? (store.folderPlace copy network) = some .folder) (content : ByteArray) :
    store.Orderly network (disk.put place (.file content)) ∧
      Confined store network disk (disk.put place (.file content)) := by
  have solid : disk.node? place ≠ some .folder := by
    intro folder
    obtain ⟨⟨_, impossible⟩, -⟩ := orderly.files reaches folder
    cases impossible
  have confined : Confined store network disk (disk.put place (.file content)) := by
    refine ⟨(Disk.Keeps.put disk solid).mono fun other same => ?_, fun other apart => ?_⟩
    · exact same ▸ .inr ⟨copy, contract, reaches⟩
    · refine Disk.node?_put_of_ne disk _ ?_
      rintro rfl
      exact apart (.inr ⟨copy, contract, reaches⟩)
  have folder (copy' : Copy) : (disk.put place (.file content)).node?
      (store.folderPlace copy' network) = disk.node? (store.folderPlace copy' network) :=
    Disk.node?_put_of_ne disk _ (reaches.ne_folderPlace copy').symm
  refine ⟨orderly.of_folders confined folder ?_, confined⟩
  intro copy' contract' other node reaches' found
  by_cases same : other = place
  · subst same
    obtain ⟨rest, inside⟩ := reaches'.exists_steps
    rw [Disk.node?_put_self disk _ (by simp [inside])] at found
    cases found
    exact ⟨⟨content, rfl⟩, by rwa [reaches'.copy_eq reaches]⟩
  · rw [Disk.node?_put_of_ne disk _ same] at found
    exact orderly.files reaches' found

/-! ## Tidy stores -/

/-- **A store is tidy**: the part of every network is in order, and below the root stands nothing
else. -/
structure Tidy (store : LayoutStore) (disk : Disk) : Prop where
  orderly : ∀ network, store.Orderly network disk
  unique : (disk.below store.rootPlace).Nodup
  parts : ∀ steps, steps ≠ [] → (disk.node? (store.rootPlace ++ steps)).isSome = true →
    ∃ network, isName network = true ∧ Short network ∧
      store.Within network (store.rootPlace ++ steps)

namespace Tidy

/-- An empty root folder is tidy. -/
theorem of_empty (root : disk.follow [] store.root = .ok store.rootPlace)
    (rooted : disk.node? store.rootPlace = some .folder)
    (blank : disk.below store.rootPlace = []) : store.Tidy disk where
  orderly := .of_empty root rooted blank
  unique := by
    rw [blank]
    exact List.nodup_nil
  parts steps more stands := by
    have listed : store.rootPlace ++ steps ∈ disk.below store.rootPlace :=
      Disk.mem_below_iff.2 ⟨steps, more, rfl, stands⟩
    rw [blank] at listed
    cases listed

variable (tidy : store.Tidy disk)
include tidy

/-- Work that is confined to the part of a network, and keeps that in order, keeps a store tidy. -/
theorem confined (named : isName network = true) (short : Short network)
    (still : store.Orderly network after) (confined : Confined store network disk after)
    (unique : (after.below store.rootPlace).Nodup) : store.Tidy after where
  orderly other := by
    by_cases same : network = other
    · exact same ▸ still
    · exact (confined.readings same (tidy.orderly other)).1
  unique := unique
  parts steps more stands := by
    by_cases own : store.Within network (store.rootPlace ++ steps)
    · exact ⟨network, named, short, own⟩
    · rw [confined.elsewhere _ own] at stands
      exact tidy.parts steps more stands

/-- A store stays tidy when the folders of a network are made. -/
theorem opened (copy : Copy) (named : isName network = true) (short : Short network) :
    store.Tidy (store.opened copy network disk) := by
  refine tidy.confined named short ((tidy.orderly network).opened copy) (.opened ..) ?_
  cases copy with
  | baseline => exact Disk.nodup_below_withFolder tidy.unique
  | scratch => exact Disk.nodup_below_withFolder (Disk.nodup_below_withFolder tidy.unique)

/-- A draft may be left in a folder that is there. -/
theorem draft (allowed : Allowed contract network) (short : Short network)
    (made : disk.node? (store.folderPlace copy network) = some .folder) (content : ByteArray) :
    store.Tidy (disk.put (store.draftPlace copy contract network) (.file content)) := by
  have reaches : store.Reaches copy contract network (store.draftPlace copy contract network) :=
    ⟨allowed, .inr rfl⟩
  obtain ⟨still, confined⟩ := (tidy.orderly network).put reaches made content
  exact tidy.confined allowed.2 short still confined (Disk.nodup_below_put tidy.unique)

/-- A store stays tidy when a file is dropped. -/
theorem drop (reaches : store.Reaches copy contract network place) (short : Short network) :
    store.Tidy (disk.drop place) := by
  obtain ⟨still, confined⟩ := (tidy.orderly network).drop reaches
  exact tidy.confined reaches.1.2 short still confined (Disk.nodup_below_drop tidy.unique)

/-- A store stays tidy when a copy is written. -/
theorem written (now : Moment) (layout : Layout) (allowed : Allowed contract network)
    (fits : Fits contract network)
    (made : disk.node? (store.folderPlace copy network) = some .folder) :
    store.Tidy (store.written now copy contract network layout disk) := by
  obtain ⟨still, confined⟩ := (tidy.orderly network).written now layout allowed fits made
  exact tidy.confined allowed.2 fits.1 still confined
    (Disk.nodup_below_put (Disk.nodup_below_drop (Disk.nodup_below_put tidy.unique)))

/-- **Writing** a copy keeps a store tidy, however it ends. -/
theorem write (now : Moment) (copy : Copy) (contract network : String) (layout : Layout) :
    store.Tidy ((store.write now copy contract network layout).run.run disk).2 := by
  by_cases allowed : Allowed contract network
  case neg =>
    obtain ⟨failure, refused⟩ := exists_refusal allowed
    rw [run_write_of_refusal now copy layout disk refused]
    exact tidy
  by_cases short : Short network
  case neg =>
    rw [(tidy.orderly network).run_write_of_longNetwork now layout allowed short]
    exact tidy
  have opened := tidy.opened copy allowed.2 short
  by_cases fits : Fits contract network
  · rw [(tidy.orderly network).run_write_of_fits now layout allowed fits]
    exact opened.written now layout allowed fits ((tidy.orderly network).made_opened_self copy)
  · rw [(tidy.orderly network).run_write_of_long now layout allowed short fits]
    exact opened

/-- **Discarding** a scratch copy keeps a store tidy, however it ends. -/
theorem discard (contract network : String) :
    store.Tidy ((store.discardScratch contract network).run.run disk).2 := by
  by_cases fits : Allowed contract network ∧ Short network ∧ Short (contract ++ fileEnding)
  case neg =>
    rw [(tidy.orderly network).discard_of_not_short fits]
    exact tidy
  obtain ⟨allowed, short, fits⟩ := fits
  rcases (tidy.orderly network).missing_or_stands allowed short fits with
    missing | ⟨followed, content, found⟩
  · rw [run_discardScratch_of_missing allowed missing]
    exact tidy
  · rw [run_discardScratch_of_stands allowed followed ⟨_, found, nofun⟩]
    exact tidy.drop ⟨allowed, .inl rfl⟩ short

/-! ## Listing -/

/-- What stands in the folder of a network is its hidden folder, a file or a draft. -/
theorem name_cases {name : String}
    (stands : (disk.node? (store.rootPlace ++ [network, name])).isSome = true) :
    name = scratchFolder ∨ ∃ contract, Allowed contract network ∧
      (name = contract ++ fileEnding ∨ name = contract ++ fileEnding ++ ".tmp") := by
  obtain ⟨other, named, short, within⟩ := tidy.parts _ (List.cons_ne_nil _ _) stands
  rcases within with ⟨copy, same⟩ | ⟨copy, contract, allowed, same | same⟩
  · have steps := List.append_cancel_left same
    cases copy with
    | baseline => cases steps
    | scratch =>
      cases steps
      exact .inl rfl
  · rw [LayoutStore.place_eq store copy contract allowed.2] at same
    have steps : stepsTo .baseline network name = stepsTo copy other _ :=
      List.append_cancel_left same
    obtain ⟨rfl, rfl, rfl⟩ := stepsTo_inj.1 steps
    exact .inr ⟨contract, allowed, .inl rfl⟩
  · rw [LayoutStore.draftPlace_eq store copy contract allowed.2] at same
    have steps : stepsTo .baseline network name = stepsTo copy other _ :=
      List.append_cancel_left same
    obtain ⟨rfl, rfl, rfl⟩ := stepsTo_inj.1 steps
    exact .inr ⟨contract, allowed, .inr rfl⟩

end Tidy

/-- There is a file for the baseline of a network and a contract. -/
def HasBaseline (store : LayoutStore) (disk : Disk) (key : String × String) : Prop :=
  Allowed key.2 key.1 ∧ (disk.node? (store.place .baseline key.2 key.1)).isSome = true

/-- **The baselines in a tidy store** can be listed. -/
theorem Tidy.listable (tidy : store.Tidy disk) :
    Listable store store.rootPlace (store.HasBaseline disk) disk where
  followed := (tidy.orderly "").root
  folder := (tidy.orderly "").rooted
  unique := tidy.unique
  networks name stands := by
    obtain ⟨network, named, short, within⟩ := tidy.parts [name] (List.cons_ne_nil _ _) stands
    obtain ⟨rest, same⟩ := within.exists_steps
    cases List.append_cancel_left same
    refine ⟨((tidy.orderly name).clear .baseline).resolve_left fun absent => ?_, named, short⟩
    exact Option.not_isSome_iff_eq_none.2 absent stands
  names network name contract := by
    have place : store.rootPlace ++ [network] ++ [name] = store.rootPlace ++ [network, name] := by
      simp
    rw [Disk.mem_names_iff, place]
    constructor
    · rintro ⟨stands, named⟩
      rcases tidy.name_cases stands with rfl | ⟨own, allowed, rfl | rfl⟩
      · cases contractOf?_scratchFolder.symm.trans named
      · cases (contractOf?_fileName allowed.ne_empty).symm.trans named
        refine ⟨rfl, allowed, ?_⟩
        rwa [LayoutStore.place_eq store .baseline contract allowed.2]
      · cases contractOf?_draftName.symm.trans named
    · rintro ⟨rfl, allowed, stands⟩
      rw [LayoutStore.place_eq store .baseline contract allowed.2] at stands
      exact ⟨stands, contractOf?_fileName allowed.ne_empty⟩
  inside network contract has := by
    obtain ⟨allowed, stands⟩ := has
    obtain ⟨node, found⟩ := Option.isSome_iff_exists.1 stands
    exact ((tidy.orderly network).files ⟨allowed, .inl rfl⟩ found).2

/-- Where the files of the baselines are the same, the lists are. -/
theorem Tidy.list_congr (tidy : store.Tidy disk) (tidy' : store.Tidy after)
    (same : ∀ contract network, Allowed contract network →
      (after.node? (store.place .baseline contract network)).isSome =
        (disk.node? (store.place .baseline contract network)).isSome) (asked : Option String) :
    ((store.list asked).run.run after).1 = ((store.list asked).run.run disk).1 := by
  have has : store.HasBaseline after = store.HasBaseline disk := by
    funext key
    exact propext (and_congr_right fun allowed => by rw [same _ _ allowed])
  exact (has ▸ tidy'.listable).list_congr tidy.listable asked

end UpgradeGate.LayoutStore
