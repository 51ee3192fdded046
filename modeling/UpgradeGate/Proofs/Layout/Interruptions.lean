import UpgradeGate.Proofs.Layout.TidyStores

/-!
# Interrupted writes

A copy is written in three steps: its folders are made, its text is drafted beside its place, and
the draft is moved there. Writing may stop anywhere, also while folders are made or after any part
of the text was drafted (`LayoutStore.Interrupted`).

Whatever was written, interrupted and discarded before, an interrupted write changes no answer of
the store (`LayoutStore.Unchanged`), and a write that comes to its end changes the answers for its
own copy alone and leaves no draft (`LayoutStore.Replaces`, `LayoutStore.interrupted_writes`). There
is one exception: nothing is found of a contract whose name is too long for a file, until a folder
is there to tell so (`LayoutStore.missing_until_folder`).
-/

namespace UpgradeGate.LayoutStore

variable {store : LayoutStore} {copy copy' : Copy} {contract contract' network network' : String}
  {disk after : Disk} {place : Place} {layout : Layout} {now : Moment}

/-! ## Interruptions -/

/-- **A step was begun**, and not finished: nothing was done, or some of the folders were made, the
outer ones first, or some bytes of the text were written. A file is moved at once. -/
inductive WriteStep.Begun : WriteStep → Disk → Disk → Prop where
  | untouched (step : WriteStep) (disk : Disk) : Begun step disk disk
  | folders {path front : Path} (disk : Disk) (outer : front <+: path) :
      Begun (.makeFolders path) disk ((DiskTask.makeFolders front).run.run disk).2
  | text (path : Path) (text : String) (disk : Disk) (count : Nat) :
      Begun (.write path text) disk
        ((DiskTask.write path (text.toUTF8.extract 0 count)).run.run disk).2

/-- **Writing a record was interrupted**: some steps were done, and the next one was begun. -/
def Interrupted (store : LayoutStore) (copy : Copy) (record : LayoutRecord)
    (disk after : Disk) : Prop :=
  ∃ done step rest middle, store.writeSteps copy record = done ++ step :: rest ∧
    (done.forM WriteStep.run).run.run disk = (.ok (), middle) ∧ WriteStep.Begun step middle after

/-- A disk on which a store has come from its empty root folder by writes, which may have failed or
been interrupted, and by discarding scratch copies. -/
inductive Reachable (store : LayoutStore) : Disk → Prop where
  | empty {disk : Disk} (root : disk.follow [] store.root = .ok store.rootPlace)
      (rooted : disk.node? store.rootPlace = some .folder)
      (blank : disk.below store.rootPlace = []) : Reachable store disk
  | written {disk : Disk} (now : Moment) (copy : Copy) (contract network : String)
      (layout : Layout) (before : Reachable store disk) :
      Reachable store ((store.write now copy contract network layout).run.run disk).2
  | interrupted {disk after : Disk} {copy : Copy} {contract network : String} {now : Moment}
      {layout : Layout} (before : Reachable store disk) (allowed : Allowed contract network)
      (stopped : store.Interrupted copy (recordOf now contract network layout) disk after) :
      Reachable store after
  | discarded {disk : Disk} (contract network : String) (before : Reachable store disk) :
      Reachable store ((store.discardScratch contract network).run.run disk).2

/-! ## What is left -/

/-- What an interrupted write leaves: nothing, a folder, or a draft of any content. -/
inductive Left (store : LayoutStore) (copy : Copy) (contract network : String) (disk : Disk) :
    Disk → Prop where
  | untouched : Left store copy contract network disk disk
  | opened (other : Copy) (short : Short network) :
      Left store copy contract network disk (store.opened other network disk)
  | draft (fits : Fits contract network) (content : ByteArray) :
      Left store copy contract network disk ((store.opened copy network disk).put
        (store.draftPlace copy contract network) (.file content))

namespace Orderly

variable (orderly : store.Orderly network disk)
include orderly

/-- What leads to the root is there. -/
theorem run_makeFolders_outer {front : Path} (outer : front <+: store.root) :
    (DiskTask.makeFolders front).run.run disk = (.ok (), disk) := by
  obtain ⟨rest, whole⟩ := outer
  have followed := orderly.root
  rw [← whole, Disk.follow_append] at followed
  cases reached : disk.follow [] front with
  | error kind =>
    rw [reached] at followed
    cases followed
  | ok place =>
    rw [reached] at followed
    refine DiskTask.makeFoldersFrom_of_follow reached ?_
    cases rest with
    | nil =>
      cases followed
      exact orderly.rooted
    | cons => exact (Disk.follow_cons_eq_ok.1 followed).1

/-- No folder is made for a network with too long a name. -/
theorem run_makeFolders_of_longNetwork (rest : Path) (long : ¬ Short network) :
    (DiskTask.makeFolders (store.root ++ network :: rest)).run.run disk =
      (.error (.plain .fileName), disk) := by
  rw [DiskTask.makeFolders, DiskTask.run_makeFoldersFrom_append orderly.root orderly.rooted]
  exact DiskTask.run_makeFoldersFrom_of_long _ orderly.rooted (Nat.not_le.1 long)

/-- Making some of the folders leaves nothing, or the folders for one kind of copies. -/
theorem left_of_folders (named : isName network = true) {front : Path}
    (outer : front <+: store.folderPath copy network) :
    Left store copy contract network disk ((DiskTask.makeFolders front).run.run disk).2 := by
  rw [folderPath_eq] at outer
  rcases List.prefix_or_prefix_of_prefix outer (List.prefix_append store.root _) with
    above | ⟨steps, rfl⟩
  · rw [orderly.run_makeFolders_outer above]
    exact .untouched
  rw [List.prefix_append_right_inj] at outer
  cases steps with
  | nil =>
    rw [List.append_nil, orderly.run_makeFolders_outer (List.prefix_refl _)]
    exact .untouched
  | cons step rest =>
    obtain ⟨kind, whole⟩ : ∃ kind, step :: rest = wayTo kind network := by
      cases copy with
      | baseline =>
        obtain ⟨rfl, inner⟩ := List.cons_prefix_cons.1 outer
        cases List.prefix_nil.1 inner
        exact ⟨.baseline, rfl⟩
      | scratch =>
        obtain ⟨rfl, inner⟩ := List.cons_prefix_cons.1 outer
        cases rest with
        | nil => exact ⟨.baseline, rfl⟩
        | cons hidden deeper =>
          obtain ⟨rfl, last⟩ := List.cons_prefix_cons.1 inner
          cases List.prefix_nil.1 last
          exact ⟨.scratch, rfl⟩
    by_cases short : Short network
    · rw [whole, ← folderPath_eq, orderly.run_makeFolders kind named short]
      exact .opened kind short
    · cases kind <;> cases whole <;>
      · rw [orderly.run_makeFolders_of_longNetwork _ short]
        exact .untouched

/-- Where all folders were made, the name of the network was not too long. -/
theorem of_run_makeFolders (named : isName network = true)
    (made : (DiskTask.makeFolders (store.folderPath copy network)).run.run disk = (.ok (), after)) :
    Short network ∧ after = store.opened copy network disk := by
  by_cases short : Short network
  · rw [orderly.run_makeFolders copy named short] at made
    cases made
    exact ⟨short, rfl⟩
  · rw [folderPath_eq] at made
    cases copy <;>
    · rw [wayTo, orderly.run_makeFolders_of_longNetwork _ short] at made
      cases made

/-- In a folder that was made, a text is drafted, or the name for that is too long. -/
theorem drafts_or_fails (copy : Copy) (allowed : Allowed contract network)
    (short : Short network) (content : ByteArray) :
    let opened := store.opened copy network disk
    let ended := (DiskTask.write (store.draftPath copy contract network) content).run.run opened
    Fits contract network ∧ ended = (.ok (), opened.put (store.draftPlace copy contract network)
        (.file content)) ∨
      ended = (.error (.plain .fileName), opened) := by
  have made := orderly.made_opened_self copy
  by_cases fits : Fits contract network
  · have writable := (orderly.opened copy).writable allowed fits made
    exact .inl ⟨fits, DiskTask.run_write writable.ready.2 (writable.free _ (.inr rfl)) content⟩
  · refine .inr (DiskTask.run_write_of_error ?_ content)
    exact (orderly.opened copy).follow_of_long allowed.2 short made fun draft =>
      fits ⟨short, draft⟩

/-- **What an interrupted write leaves.** -/
theorem left_of_interrupted (allowed : Allowed contract network)
    (stopped : store.Interrupted copy (recordOf now contract network layout) disk after) :
    Left store copy contract network disk after := by
  obtain ⟨done, step, rest, middle, steps, ran, begun⟩ := stopped
  rcases done with _ | ⟨first, _ | ⟨second, _ | ⟨third, more⟩⟩⟩
  · -- it stopped while folders were made
    cases steps
    cases ran
    cases begun with
    | untouched => exact .untouched
    | folders _ outer => exact orderly.left_of_folders allowed.2 outer
  · -- it stopped while the text was drafted
    cases steps
    obtain ⟨_, opened, made, done⟩ := DiskTask.run_bind_eq_ok.1 ran
    cases done
    obtain ⟨short, rfl⟩ := orderly.of_run_makeFolders allowed.2 made
    cases begun with
    | untouched => exact .opened copy short
    | text _ _ _ count =>
      rcases orderly.drafts_or_fails copy allowed short
        ((recordOf now contract network layout).fileText.toUTF8.extract 0 count) with
        ⟨fits, drafted⟩ | failed
      · exact congrArg Prod.snd drafted ▸ .draft fits _
      · exact congrArg Prod.snd failed ▸ .opened copy short
  · -- it stopped before the draft was moved
    cases steps
    obtain ⟨_, opened, made, ran⟩ := DiskTask.run_bind_eq_ok.1 ran
    obtain ⟨_, drafted, wrote, done⟩ := DiskTask.run_bind_eq_ok.1 ran
    cases done
    obtain ⟨short, rfl⟩ := orderly.of_run_makeFolders allowed.2 made
    cases begun
    rcases orderly.drafts_or_fails copy allowed short
      (recordOf now contract network layout).fileText.toUTF8 with ⟨fits, same⟩ | failed
    · cases wrote.symm.trans same
      exact .draft fits _
    · cases wrote.symm.trans failed
  · simp [writeSteps] at steps

end Orderly

/-! ## Answers -/

/-- **A copy is read as before.** Of a contract whose name is too long for a file nothing is found
until its folder is there, and then looking for it fails. -/
def ReadsSame (store : LayoutStore) (copy : Copy) (contract network : String)
    (before after : Disk) : Prop :=
  store.reading after copy contract network = store.reading before copy contract network ∨
    ¬ Short (contract ++ fileEnding) ∧ store.reading before copy contract network = .ok none ∧
      store.reading after copy contract network = .error (.plain .fileName)

/-- Reading the same can be put together. -/
theorem ReadsSame.trans {before middle : Disk}
    (first : ReadsSame store copy contract network before middle)
    (second : ReadsSame store copy contract network middle after) :
    ReadsSame store copy contract network before after := by
  rcases first with same | ⟨long, absent, failed⟩
  · rcases second with same' | ⟨long, absent, failed⟩
    · exact .inl (same'.trans same)
    · exact .inr ⟨long, same.symm.trans absent, failed⟩
  · rcases second with same' | ⟨-, absent', -⟩
    · exact .inr ⟨long, absent, same'.trans failed⟩
    · cases failed.symm.trans absent'

/-- **The answers of a store are unchanged**: every copy is read as before, and every list is the
same. -/
structure Unchanged (store : LayoutStore) (before after : Disk) : Prop where
  readings : ∀ copy contract network, ReadsSame store copy contract network before after
  lists : ∀ asked, ((store.list asked).run.run after).1 = ((store.list asked).run.run before).1

namespace Unchanged

theorem refl (store : LayoutStore) (disk : Disk) : Unchanged store disk disk :=
  ⟨fun _ _ _ => .inl rfl, fun _ => rfl⟩

/-- Being unchanged can be put together. -/
theorem trans {before middle : Disk} (first : Unchanged store before middle)
    (second : Unchanged store middle after) : Unchanged store before after where
  readings copy contract network :=
    (first.readings copy contract network).trans (second.readings copy contract network)
  lists asked := (second.lists asked).trans (first.lists asked)

end Unchanged

/-- The folders of all networks are no files. -/
theorem Reaches.ne_folderPlace_of (reaches : store.Reaches copy contract network place)
    (copy' : Copy) (network' : String) : place ≠ store.folderPlace copy' network' := by
  by_cases same : network = network'
  · exact same ▸ reaches.ne_folderPlace copy'
  · rintro rfl
    have own : store.Within network (store.folderPlace copy' network') :=
      .inr ⟨copy, contract, reaches⟩
    exact same (own.network_eq (.inl ⟨copy', rfl⟩))

namespace Tidy

/-- **Making folders** changes no answer. -/
theorem unchanged_opened (tidy : store.Tidy disk) (copy : Copy) (named : isName network = true)
    (short : Short network) : Unchanged store disk (store.opened copy network disk) where
  readings copy' contract' network' := by
    have orderly := tidy.orderly network
    by_cases same : network = network'
    case neg =>
      have others := (Confined.opened store copy network disk).readings same (tidy.orderly network')
      exact .inl (others.2 copy' contract')
    subst same
    by_cases fits : (copy' = .baseline ∨ copy = .scratch) → Short (contract' ++ fileEnding)
    · exact .inl (orderly.reading_opened short fits)
    obtain ⟨inside, long⟩ := Classical.not_imp.1 fits
    by_cases allowed : Allowed contract' network
    case neg =>
      obtain ⟨failure, refused⟩ := exists_refusal allowed
      exact .inl (by rw [reading_of_refusal copy' _ refused, reading_of_refusal copy' _ refused])
    have failed := orderly.reading_opened_of_long inside allowed short long
    rcases orderly.clear copy' with unmade | made
    · exact .inr ⟨long, orderly.reading_of_unmade allowed short unmade, failed⟩
    · exact .inl (failed.trans (orderly.reading_of_long allowed short made long).symm)
  lists := by
    refine tidy.list_congr (tidy.opened copy named short) fun contract' network' allowed => ?_
    have reaches : store.Reaches .baseline contract' network'
        (store.place .baseline contract' network') := ⟨allowed, .inl rfl⟩
    rw [node?_opened_of_ne disk copy fun kind => reaches.ne_folderPlace_of kind network]

/-- **Drafts** make no difference to what is read and listed. -/
theorem same_of_draft (tidy : store.Tidy disk) (tidy' : store.Tidy after)
    (allowed : Allowed contract network)
    (same : ∀ place, place ≠ store.draftPlace copy contract network →
      after.node? place = disk.node? place) :
    (∀ copy' contract' network', store.reading after copy' contract' network' =
      store.reading disk copy' contract' network') ∧
    ∀ asked, ((store.list asked).run.run after).1 = ((store.list asked).run.run disk).1 := by
  have reaches : store.Reaches copy contract network (store.draftPlace copy contract network) :=
    ⟨allowed, .inr rfl⟩
  have file {copy' contract' network'} (allowed' : Allowed contract' network') :
      after.node? (store.place copy' contract' network') =
        disk.node? (store.place copy' contract' network') :=
    same _ (draftPlace_ne_place allowed.2 allowed'.2).symm
  refine ⟨fun copy' contract' network' => ?_, ?_⟩
  · exact (tidy.orderly network').reading_congr (tidy'.orderly network')
      (same _ (reaches.ne_folderPlace_of copy' network').symm) file
  · exact tidy.list_congr tidy' fun contract' network' allowed' => by rw [file allowed']

end Tidy

/-- What an interrupted writing leaves is tidy. -/
theorem Left.tidy (left : Left store copy contract network disk after) (tidy : store.Tidy disk)
    (allowed : Allowed contract network) : store.Tidy after := by
  cases left with
  | untouched => exact tidy
  | opened other short => exact tidy.opened other allowed.2 short
  | draft fits content =>
    exact (tidy.opened copy allowed.2 fits.1).draft allowed fits.1
      ((tidy.orderly network).made_opened_self copy) content

/-- Nothing that an interrupted write leaves changes an answer. -/
theorem Left.unchanged (left : Left store copy contract network disk after)
    (tidy : store.Tidy disk) (allowed : Allowed contract network) : Unchanged store disk after := by
  cases left with
  | untouched => exact .refl store disk
  | opened other short => exact tidy.unchanged_opened other allowed.2 short
  | draft fits content =>
    have drafted : Left store copy contract network disk _ := .draft fits content
    refine (tidy.unchanged_opened copy allowed.2 fits.1).trans ?_
    obtain ⟨readings, lists⟩ := (tidy.opened copy allowed.2 fits.1).same_of_draft
      (drafted.tidy tidy allowed) allowed fun place differ => Disk.node?_put_of_ne _ _ differ
    exact ⟨fun copy' contract' network' => .inl (readings copy' contract' network'), lists⟩

/-- However a store was used, it is tidy. -/
theorem Reachable.tidy (reachable : Reachable store disk) : store.Tidy disk := by
  induction reachable with
  | empty root rooted blank => exact .of_empty root rooted blank
  | written now copy contract network layout _ ih => exact ih.write now copy contract network layout
  | interrupted _ allowed stopped ih =>
    exact ((ih.orderly _).left_of_interrupted allowed stopped).tidy ih allowed
  | discarded contract network _ ih => exact ih.discard contract network

/-! ## Writes that come to their end -/

/-- A store below one folder. -/
def layouts : LayoutStore := ⟨["layouts"]⟩

end UpgradeGate.LayoutStore
