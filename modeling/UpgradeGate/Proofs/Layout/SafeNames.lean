import UpgradeGate.Proofs.Disk.Locality
import UpgradeGate.Proofs.Disk.Patterns
import UpgradeGate.Proofs.Layout.Listing
import UpgradeGate.Proofs.Layout.NetworkFolder
import UpgradeGate.Proofs.Workflow.Completion

/-!
# Only safe names reach the disk

The store takes the names that are safe (`LayoutStore.IsSafe`), and these with a line feed at the
end (`LayoutStore.isName_iff`). Each of its operations heeds the names that it is given
(`LayoutStore.Heeds`): a name that is not taken is refused before the disk is looked at, and with
names that are taken the operation stays on the way to the root and at the places below the root
that the network, the hidden folder and the file of the contract make
(`Gate.only_taken_names_reach_the_disk`).
-/

namespace UpgradeGate.LayoutStore

variable {store : LayoutStore} {copy : Copy} {contract network name : String} {place : Place}

/-! ## Names that are taken -/

/-- A letter or a digit of ASCII, `_`, `.` or `-`. -/
def IsSafeCharacter (c : Char) : Prop :=
  ('A' ≤ c ∧ c ≤ 'Z') ∨ ('a' ≤ c ∧ c ≤ 'z') ∨ ('0' ≤ c ∧ c ≤ '9') ∨ c = '_' ∨ c = '.' ∨ c = '-'

instance (c : Char) : Decidable (IsSafeCharacter c) := inferInstanceAs (Decidable (_ ∨ _))

/-- **A safe name** is not empty, has no point in front, and has safe characters alone. -/
structure IsSafe (name : String) : Prop where
  filled : name.toList ≠ []
  shown : name.toList.head? ≠ some '.'
  safe : ∀ c ∈ name.toList, IsSafeCharacter c

/-- The characters of names, one by one. -/
theorem isNameCharacter_iff {c : Char} : isNameCharacter c = true ↔ IsSafeCharacter c := by
  unfold isNameCharacter IsSafeCharacter Char.isAlphanum Char.isAlpha Char.isUpper Char.isLower
    Char.isDigit
  simp only [Bool.or_eq_true, Bool.and_eq_true, decide_eq_true_eq, beq_iff_eq, Char.le_def,
    ge_iff_le, or_assoc]

/-- No safe name ends in a line feed. -/
theorem IsSafe.withoutLineFeed_eq (safe : IsSafe name) :
    withoutLineFeed name.toList = name.toList := by
  have notSafe : ¬ IsSafeCharacter '\n' := by decide
  rw [withoutLineFeed, if_neg fun last => notSafe (safe.safe _ (List.mem_of_getLast? last))]

/-- One line feed at the end is overlooked. -/
theorem withoutLineFeed_concat (body : List Char) : withoutLineFeed (body ++ ['\n']) = body := by
  simp [withoutLineFeed]

/-- What is left of a name is the name, or the name has a line feed behind it. -/
theorem eq_withoutLineFeed_or (characters : List Char) :
    characters = withoutLineFeed characters ∨
      characters = withoutLineFeed characters ++ ['\n'] := by
  unfold withoutLineFeed
  split
  · next last => exact .inr (List.dropLast_append_getLast? _ last).symm
  · exact .inl rfl

/-- A name is taken where it is safe but for one line feed at its end. -/
theorem isName_eq_true_iff :
    isName name = true ↔ IsSafe (String.ofList (withoutLineFeed name.toList)) := by
  rw [isName, Bool.and_eq_true, Bool.and_eq_true, List.all_eq_true]
  constructor
  · rintro ⟨⟨filled, shown⟩, all⟩
    refine ⟨?_, ?_, ?_⟩ <;> rw [String.toList_ofList]
    · simpa using filled
    · simpa using shown
    · exact fun c member => isNameCharacter_iff.1 (all c member)
  · rintro ⟨filled, shown, safe⟩
    rw [String.toList_ofList] at filled shown safe
    exact ⟨⟨by simpa using filled, by simpa using shown⟩,
      fun c member => isNameCharacter_iff.2 (safe c member)⟩

/-- **Names that are taken** are the safe ones, and safe ones with a line feed behind them. -/
theorem isName_iff :
    isName name = true ↔ IsSafe name ∨ ∃ body, IsSafe body ∧ name = body ++ "\n" := by
  rw [isName_eq_true_iff]
  constructor
  · intro safe
    rcases eq_withoutLineFeed_or name.toList with same | longer
    · rw [← same, String.ofList_toList] at safe
      exact .inl safe
    · refine .inr ⟨_, safe, String.toList_inj.1 ?_⟩
      rw [String.toList_append, String.toList_ofList]
      exact longer
  · rintro (safe | ⟨body, safe, rfl⟩)
    · rwa [safe.withoutLineFeed_eq, String.ofList_toList]
    · have cut : withoutLineFeed (body ++ "\n").toList = body.toList := by
        rw [String.toList_append]
        exact withoutLineFeed_concat body.toList
      rwa [cut, String.ofList_toList]

/-! ## Names as steps of a path -/

/-- A name that is taken holds no separator of steps. -/
theorem not_mem_of_isName (taken : isName name = true) : '/' ∉ name.toList := by
  have notSafe : ¬ IsSafeCharacter '/' := by decide
  rcases isName_iff.1 taken with safe | ⟨body, safe, rfl⟩
  · exact fun member => notSafe (safe.safe _ member)
  · rw [String.toList_append]
    intro member
    rcases List.mem_append.1 member with inside | last
    · exact notSafe (safe.safe _ inside)
    · exact absurd last (by decide)

/-- The hidden folder has no name that is taken. -/
theorem ne_scratchFolder_of_isName (taken : isName name = true) : name ≠ scratchFolder := by
  rintro rfl
  exact absurd taken (by decide)

/-- A name that is taken is one step of a path. -/
theorem isStep_of_isName (taken : isName name = true) : Path.isStep name = true := by
  have filled : name ≠ "" := by
    rintro rfl
    exact absurd taken (by decide)
  have elsewhere : name ≠ "." := by
    rintro rfl
    exact absurd taken (by decide)
  simp [Path.isStep, filled, elsewhere]

/-- **The folder of a network** is one step from the root. -/
theorem child_network (path : Path) (taken : isName network = true) :
    path.child network = path ++ [network] :=
  path.child_of_plain (not_mem_of_isName taken) (isStep_of_isName taken)

/-- **The file of a contract**, and the file that it is drafted in, are one step from their
folder. -/
theorem child_fileName (path : Path) (taken : isName contract = true) (ending : String)
    (plain : '/' ∉ ending.toList) :
    path.child (contract ++ fileEnding ++ ending) = path ++ [contract ++ fileEnding ++ ending] := by
  refine path.child_of_plain ?_ ?_
  · rw [String.toList_append, String.toList_append]
    intro member
    rcases List.mem_append.1 member with front | last
    · rcases List.mem_append.1 front with inside | ended
      · exact not_mem_of_isName taken inside
      · exact absurd ended (by decide)
    · exact plain last
  · have long : 5 ≤ (contract ++ fileEnding ++ ending).length := by
      have five : fileEnding.length = 5 := by decide
      rw [String.length_append, String.length_append, five]
      omega
    have filled : contract ++ fileEnding ++ ending ≠ "" := by
      intro empty
      rw [empty] at long
      exact absurd long (by decide)
    have elsewhere : contract ++ fileEnding ++ ending ≠ "." := by
      intro here
      rw [here] at long
      exact absurd long (by decide)
    simp [Path.isStep, filled, elsewhere]

/-- **Names are single steps**: what is made of the names of a copy, a folder, a file and its draft,
is one step each, leads down, and is not the hidden folder. -/
structure SingleSteps (contract network : String) : Prop where
  folder : ∀ path : Path, path.child network = path ++ [network]
  file : ∀ path : Path, path.child (contract ++ fileEnding) = path ++ [contract ++ fileEnding]
  draft : ∀ path : Path,
    path.child (contract ++ fileEnding ++ ".tmp") = path ++ [contract ++ fileEnding ++ ".tmp"]
  down : ∀ step ∈ [network, contract ++ fileEnding, contract ++ fileEnding ++ ".tmp"], step ≠ ".."
  apart : ∀ step ∈ [network, contract, contract ++ fileEnding, contract ++ fileEnding ++ ".tmp"],
    step ≠ scratchFolder

/-- Names that are allowed give single steps. -/
theorem singleSteps_of_allowed (allowed : Allowed contract network) :
    SingleSteps contract network where
  folder path := child_network path allowed.2
  file path := by simpa using child_fileName path allowed.1 "" (by decide)
  draft path := child_fileName path allowed.1 ".tmp" (by decide)
  down := by
    have plain : contract ++ fileEnding ≠ ".." := by simpa using fileName_ne_up contract ""
    simpa using ⟨ne_up_of_isName allowed.2, plain, fileName_ne_up contract ".tmp"⟩
  apart := by
    simpa using ⟨ne_scratchFolder_of_isName allowed.2, ne_scratchFolder_of_isName allowed.1,
      fileName_ne_scratchFolder, draftName_ne_scratchFolder⟩

/-! ## Places of a copy -/

/-- **Where an operation on a copy goes**: on the way to the root, and below it to the folder of the
network, for a scratch copy to the hidden folder in it, and to the file of the contract and its
draft there. -/
inductive Addresses (store : LayoutStore) (copy : Copy) (contract network : String) : Place → Prop
    where
  | root {place : Place} (onWay : store.root.OnWay place) :
      Addresses store copy contract network place
  | network : Addresses store copy contract network (store.rootPlace ++ [network])
  | hidden (scratch : copy = .scratch) :
      Addresses store copy contract network (store.rootPlace ++ [network, scratchFolder])
  | file : Addresses store copy contract network
      (store.rootPlace ++ stepsTo copy network (contract ++ fileEnding))
  | draft : Addresses store copy contract network
      (store.rootPlace ++ stepsTo copy network (contract ++ fileEnding ++ ".tmp"))

/-- What is on the way to a file below the root. -/
theorem onWay_stepsTo {file : String} (taken : isName network = true) (down : file ≠ "..")
    (onWay : (store.root ++ stepsTo copy network file).OnWay place) :
    store.root.OnWay place ∨ place = store.rootPlace ++ [network] ∨
      (copy = .scratch ∧ place = store.rootPlace ++ [network, scratchFolder]) ∨
      place = store.rootPlace ++ stepsTo copy network file := by
  rcases Path.onWay_append_iff.1 onWay with early | ⟨front, inFront, rfl⟩
  · exact .inl early
  · have downward : ∀ step ∈ front, step ≠ ".." := by
      have up := ne_up_of_isName taken
      have hidden : scratchFolder ≠ ".." := by decide
      intro step member
      have inside := inFront.subset member
      cases copy <;>
        simp only [stepsTo, List.mem_cons, List.not_mem_nil, or_false] at inside <;>
        rcases inside with rfl | rfl | rfl <;> assumption
    rw [Path.target_append, ← rootPlace, Path.target_of_down downward]
    cases copy <;>
      simp only [stepsTo, List.prefix_cons_iff, List.prefix_nil] at inFront
    · rcases inFront with rfl | ⟨_, rfl, rfl | ⟨_, rfl, rfl⟩⟩
      · rw [List.append_nil]
        exact .inl store.root.onWay_target
      · exact .inr (.inl rfl)
      · exact .inr (.inr (.inr rfl))
    · rcases inFront with rfl | ⟨_, rfl, rfl | ⟨_, rfl, rfl | ⟨_, rfl, rfl⟩⟩⟩
      · rw [List.append_nil]
        exact .inl store.root.onWay_target
      · exact .inr (.inl rfl)
      · exact .inr (.inr (.inl ⟨rfl, rfl⟩))
      · exact .inr (.inr (.inr rfl))

/-- The way to the file of a copy is addressed by its names. -/
theorem addresses_of_onWay_filePath (taken : isName network = true)
    (onWay : (store.filePath copy contract network).OnWay place) :
    store.Addresses copy contract network place := by
  rw [filePath_eq] at onWay
  have down : contract ++ fileEnding ≠ ".." := by simpa using fileName_ne_up contract ""
  rcases onWay_stepsTo taken down onWay with early | rfl | ⟨scratch, rfl⟩ | rfl
  · exact .root early
  · exact .network
  · exact .hidden scratch
  · exact .file

/-- The way to the draft of a copy is addressed by its names. -/
theorem addresses_of_onWay_draftPath (taken : isName network = true)
    (onWay : (store.draftPath copy contract network).OnWay place) :
    store.Addresses copy contract network place := by
  rw [draftPath_eq] at onWay
  rcases onWay_stepsTo taken (fileName_ne_up contract ".tmp") onWay with
    early | rfl | ⟨scratch, rfl⟩ | rfl
  · exact .root early
  · exact .network
  · exact .hidden scratch
  · exact .draft

/-- The way to the folder of a copy is addressed by its names. -/
theorem addresses_of_onWay_folderPath (taken : isName network = true)
    (onWay : (store.folderPath copy network).OnWay place) :
    store.Addresses copy contract network place :=
  addresses_of_onWay_filePath taken (onWay.append _)

/-- Where a list goes: on the way to the root, to the folder of the network and to what stands
directly in it. -/
inductive Lists (store : LayoutStore) (network : String) : Place → Prop where
  | root {place : Place} (onWay : store.root.OnWay place) : Lists store network place
  | network : Lists store network (store.rootPlace ++ [network])
  | entry (name : String) : Lists store network (store.rootPlace ++ [network, name])

/-- The way to the folder of a network is looked at for its list. -/
theorem lists_of_onWay_networkPath (taken : isName network = true)
    (onWay : (store.networkPath network).OnWay place) : store.Lists network place := by
  rcases Path.onWay_append_iff.1 onWay with early | ⟨front, inFront, rfl⟩
  · exact .root early
  · simp only [List.prefix_cons_iff, List.prefix_nil] at inFront
    rw [Path.target_append, ← rootPlace]
    rcases inFront with rfl | ⟨_, rfl, rfl⟩
    · exact .root store.root.onWay_target
    · rw [Path.target_of_down (by simpa using ne_up_of_isName taken)]
      exact .network

/-! ## Operations -/

/-- A text that is no layout is not refused as a value. -/
theorem not_value_of_layoutOfText {path : Path} {text : String} {failure : Failure}
    (failed : layoutOfText path text = .error failure) (fault : ValueFault) :
    failure ≠ .value fault := by
  rintro rfl
  unfold layoutOfText at failed
  split at failed
  · split at failed <;> cases failed
  · cases failed
  · cases failed

/-- A scratch copy is discarded where one is seen. -/
theorem discardScratch_of_allowed (store : LayoutStore) (allowed : Allowed contract network) :
    store.discardScratch contract network = (do
      let there ← DiskTask.exists? (store.filePath .scratch contract network)
      if there then DiskTask.remove (store.filePath .scratch contract network)) := by
  rw [discardScratch, checkedPath_of_allowed store .scratch allowed]
  rfl

/-- The list of one network looks into one folder. -/
theorem list_of_taken (store : LayoutStore) (given : network ≠ "") (taken : isName network = true) :
    store.list (some network) = (do
      let found ← DiskTask.view (store.baselinesIn · network)
      pure ([found].flatten.mergeSort keyBefore)) := by
  have one : (some network).filter (!·.isEmpty) = some network :=
    Option.filter_eq_some_iff.2 ⟨rfl, by simpa using given⟩
  rw [list, one]
  dsimp only
  rw [checkName_eq_ok_iff.2 taken]
  change ([network].mapM fun name => DiskTask.view (store.baselinesIn · name)) >>= _ = _
  simp only [List.mapM_cons, List.mapM_nil, bind_assoc, pure_bind]

section Parts

open DiskTask

variable {inside : Place → Prop} {P : (α : Type) → DiskTask α → Prop} (parts : ByParts inside P)
include parts

/-- Reading a file, by its parts. -/
theorem readFile?_byParts {path : Path} (within : ∀ place, path.OnWay place → inside place) :
    P (Option Layout) (readFile? path) := by
  refine parts.bind (parts.exists? within) fun there => ?_
  split
  · refine parts.bind (parts.readText within) fun text => parts.map some ?_
    cases read : layoutOfText path text with
    | ok layout => exact parts.pure layout
    | error failure => exact parts.throw (not_value_of_layoutOfText read)
  · exact parts.pure none

variable (addressed : ∀ place, store.Addresses copy contract network place → inside place)
  (allowed : Allowed contract network)
include addressed allowed

/-- Reading a copy, by its parts. -/
theorem read?_byParts : P (Option Layout) (store.read? copy contract network) := by
  rw [read?, checkedPath_of_allowed store copy allowed]
  exact readFile?_byParts parts fun place onWay =>
    addressed place (addresses_of_onWay_filePath allowed.2 onWay)

/-- Writing a copy, by its parts. -/
theorem write_byParts (now : Moment) (layout : Layout) :
    P Path (store.write now copy contract network layout) := by
  have folder (place : Place) (onWay : (store.folderPath copy network).OnWay place) :
      inside place := addressed place (addresses_of_onWay_folderPath allowed.2 onWay)
  have draft (place : Place) (onWay : (store.draftPath copy contract network).OnWay place) :
      inside place := addressed place (addresses_of_onWay_draftPath allowed.2 onWay)
  have file (place : Place) (onWay : (store.filePath copy contract network).OnWay place) :
      inside place := addressed place (addresses_of_onWay_filePath allowed.2 onWay)
  rw [write_of_allowed store now copy layout allowed]
  exact parts.bind (parts.makeFolders folder) fun _ => parts.bind (parts.write draft _) fun _ =>
    parts.bind (parts.rename draft file) fun _ => parts.pure _

omit addressed in
/-- Discarding a scratch copy, by its parts. -/
theorem discardScratch_byParts
    (addressed : ∀ place, store.Addresses .scratch contract network place → inside place) :
    P Unit (store.discardScratch contract network) := by
  have file (place : Place) (onWay : (store.filePath .scratch contract network).OnWay place) :
      inside place := addressed place (addresses_of_onWay_filePath allowed.2 onWay)
  rw [discardScratch_of_allowed store allowed]
  refine parts.bind (parts.exists? file) fun there => ?_
  split
  · exact parts.remove file
  · exact parts.pure ()

omit addressed allowed in
/-- Listing a network, by its parts. -/
theorem list_byParts (given : network ≠ "") (taken : isName network = true)
    (listed : ∀ place, store.Lists network place → inside place) :
    P (List (String × String)) (store.list (some network)) := by
  have way (place : Place) (onWay : (store.networkPath network).OnWay place) : inside place :=
    listed place (lists_of_onWay_networkPath taken onWay)
  have seen (disk : Disk) :
      store.baselinesIn (disk.restrict inside) network = store.baselinesIn disk network := by
    rw [baselinesIn, baselinesIn, Disk.look_restrict way, Disk.follow_restrict_root way]
    cases looked : disk.look (store.networkPath network) with
    | error kind => rfl
    | ok found =>
      cases followed : disk.follow [] (store.networkPath network) with
      | error kind => rfl
      | ok folder =>
        have within (name : String) : inside (folder ++ [name]) := by
          rw [Disk.follow_eq_target followed, networkPath, Path.target_append, ← rootPlace,
            Path.target_of_down (by simpa using ne_up_of_isName taken), List.append_assoc]
          exact listed _ (.entry name)
        simp only [bind, Except.bind]
        rw [Disk.names_restrict within]
  rw [list_of_taken store given taken]
  exact parts.view seen fun _ _ _ => parts.pure _

end Parts

/-! ## Names are heeded -/

/-- **Names are heeded** by an operation. The first one that is not taken is refused, and the disk
is not touched; where all are taken, no value is refused and the operation stays in its places. -/
structure Heeds (names : List (NameRole × String)) (inside : Place → Prop) {α : Type}
    (task : DiskTask α) : Prop where
  refuses : ∀ role name, names.find? (!isName ·.2) = some (role, name) →
    ∀ disk, task.run.run disk = (.error (.value (.invalidName role name)), disk)
  accepts : (∀ given ∈ names, isName given.2 = true) → task.NeverRefuses α
  stays : (∀ given ∈ names, isName given.2 = true) → task.StaysIn inside α

/-- Names are heeded by an operation that goes by its parts in its places. -/
theorem Heeds.of_parts {names : List (NameRole × String)} {inside : Place → Prop} {α : Type}
    {task : DiskTask α}
    (refuses : ∀ role name, names.find? (!isName ·.2) = some (role, name) →
      ∀ disk, task.run.run disk = (.error (.value (.invalidName role name)), disk))
    (parts : (∀ given ∈ names, isName given.2 = true) →
      ∀ {P : (α : Type) → DiskTask α → Prop}, DiskTask.ByParts inside P → P α task) :
    Heeds names inside task where
  refuses := refuses
  accepts taken := parts taken (DiskTask.byParts_neverRefuses inside)
  stays taken := parts taken (DiskTask.byParts_staysIn inside)

/-- The names of a copy, in the order in which they are checked. -/
def namesOf (contract network : String) : List (NameRole × String) :=
  [(.contract, contract), (.network, network)]

/-- The first name that is not taken is refused. -/
theorem refusal?_eq (contract network : String) :
    refusal? contract network = ((namesOf contract network).find? (!isName ·.2)).map fun given =>
      .value (.invalidName given.1 given.2) := by
  rw [refusal?, namesOf, List.find?_cons, List.find?_cons]
  cases isName contract <;> cases isName network <;> rfl

/-- A name that is not taken is refused in its role. -/
theorem refusal?_of_find? {role : NameRole}
    (refused : (namesOf contract network).find? (!isName ·.2) = some (role, name)) :
    refusal? contract network = some (.value (.invalidName role name)) := by
  rw [refusal?_eq, refused]
  rfl

/-- Names that are taken are allowed. -/
theorem allowed_of_namesOf (taken : ∀ given ∈ namesOf contract network, isName given.2 = true) :
    Allowed contract network :=
  ⟨taken (.contract, contract) (by simp [namesOf]), taken (.network, network) (by simp [namesOf])⟩

theorem heeds_read? (store : LayoutStore) (copy : Copy) (contract network : String) :
    Heeds (namesOf contract network) (store.Addresses copy contract network)
      (store.read? copy contract network) := by
  refine .of_parts (fun role name refused disk => ?_) fun taken P parts => ?_
  · rw [run_read?, reading_of_refusal copy disk (refusal?_of_find? refused)]
  · exact read?_byParts parts (fun _ inside => inside) (allowed_of_namesOf taken)

theorem heeds_write (store : LayoutStore) (now : Moment) (copy : Copy) (contract network : String)
    (layout : Layout) :
    Heeds (namesOf contract network) (store.Addresses copy contract network)
      (store.write now copy contract network layout) := by
  refine .of_parts (fun role name refused disk => ?_) fun taken P parts => ?_
  · exact run_write_of_refusal now copy layout disk (refusal?_of_find? refused)
  · exact write_byParts parts (fun _ inside => inside) (allowed_of_namesOf taken) now layout

theorem heeds_discardScratch (store : LayoutStore) (contract network : String) :
    Heeds (namesOf contract network) (store.Addresses .scratch contract network)
      (store.discardScratch contract network) := by
  refine .of_parts (fun role name refused disk => ?_) fun taken P parts => ?_
  · exact run_discardScratch_of_refusal disk (refusal?_of_find? refused)
  · exact discardScratch_byParts parts (allowed_of_namesOf taken) fun _ inside => inside

theorem heeds_list (store : LayoutStore) (given : network ≠ "") :
    Heeds [(.network, network)] (store.Lists network) (store.list (some network)) := by
  refine .of_parts (fun role name refused disk => ?_) fun taken P parts => ?_
  · have one : (some network).filter (!·.isEmpty) = some network :=
      Option.filter_eq_some_iff.2 ⟨rfl, by simpa using given⟩
    rw [List.find?_singleton, Option.ite_none_right_eq_some] at refused
    obtain ⟨other, same⟩ := refused
    cases same
    exact list_refused one (by simpa using other) disk
  · have own := taken (.network, network) (List.mem_singleton.2 rfl)
    exact list_byParts parts given own fun _ inside => inside

end UpgradeGate.LayoutStore

namespace UpgradeGate.Gate

open UpgradeGate.Flow LayoutStore

variable {gate : Gate} {contract network : String} {layout : Layout} {books after : Books}
  {trace : Trace collaborators} {α : Type} {body : Flow α} {result : Except Failure α}

/-- **Holding a scratch copy**: it is written, something is done, and it is discarded, unless it
could not be written. -/
theorem ends_holding :
    (gate.holdingScratch contract network layout body).Ends books trace result after ↔
      (∃ path scratch ended middle cleaned disk,
        (gate.store.write books.now .scratch contract network layout).run.run books.disk =
          (.ok path, scratch) ∧
        body.Ends { books with disk := scratch } trace ended middle ∧
        (gate.store.discardScratch contract network).run.run middle.disk = (cleaned, disk) ∧
        after = { middle with disk := disk } ∧ result = match cleaned with
          | .ok () => ended
          | .error failure => .error failure) ∨
      ∃ failure disk,
        (gate.store.write books.now .scratch contract network layout).run.run books.disk =
          (.error failure, disk) ∧
        trace = [] ∧ result = .error failure ∧ after = { books with disk := disk } := by
  rw [holdingScratch, ends_get_bind, ends_onDisk_bind]
  refine or_congr ⟨?_, ?_⟩ Iff.rfl
  · rintro ⟨path, scratch, written, holding⟩
    obtain ⟨ended, middle, cleaned, _, _, done, cleanup, rfl, rfl⟩ := ends_ensuring.1 holding
    obtain ⟨rfl, rfl, rfl⟩ := ends_onDisk.1 cleanup
    rw [List.append_nil]
    exact ⟨path, scratch, ended, middle, _, _, written, done, rfl, rfl, rfl⟩
  · rintro ⟨path, scratch, ended, middle, cleaned, disk, written, done, removed, rfl, rfl⟩
    refine ⟨path, scratch, written, ends_ensuring.2 ⟨ended, middle, cleaned, trace, [], done,
      ends_onDisk.2 ?_, (List.append_nil _).symm, rfl⟩⟩
    rw [removed]
    exact ⟨rfl, rfl, rfl⟩

/-- A scratch copy whose names are not taken is not held: nothing is done, and nothing kept. -/
theorem settles_holdingScratch_of_refusal {failure : Failure}
    (refused : refusal? contract network = some failure) (books : Books) :
    (gate.holdingScratch contract network layout body).Settles books (.error failure) := by
  have unwritten :
      (gate.store.write books.now .scratch contract network layout).run.run books.disk =
        (.error failure, books.disk) :=
    run_write_of_refusal books.now .scratch layout books.disk refused
  intro trace result after
  rw [ends_holding, unwritten]
  constructor
  · rintro (⟨_, _, _, _, _, _, ⟨⟩, -⟩ | ⟨_, _, ⟨⟩, rfl, rfl, rfl⟩)
    exact ⟨rfl, rfl, rfl⟩
  · rintro ⟨rfl, rfl, rfl⟩
    exact .inr ⟨failure, _, rfl, rfl, rfl, rfl⟩

/-- While a scratch copy is held, no value is refused but by what is done meanwhile. -/
theorem refused_of_holding {fault : ValueFault} (allowed : Allowed contract network)
    (ended : (gate.holdingScratch contract network layout body).Ends books trace
      (.error (.value fault)) after) :
    ∃ start middle, body.Ends start trace (.error (.value fault)) middle := by
  have taken : ∀ given ∈ namesOf contract network, isName given.2 = true := by
    intro given member
    simp only [namesOf, List.mem_cons, List.not_mem_nil, or_false] at member
    rcases member with rfl | rfl
    · exact allowed.1
    · exact allowed.2
  rcases ends_holding.1 ended with
    ⟨_, scratch, ended, middle, cleaned, disk, -, done, removed, -, result⟩ |
    ⟨failure, disk, unwritten, -, result, -⟩
  · cases cleaned with
    | ok =>
      obtain rfl : Except.error (.value fault) = ended := result
      exact ⟨_, middle, done⟩
    | error failure =>
      cases result
      have clean := (gate.store.heeds_discardScratch contract network).accepts taken
      exact absurd (congrArg Prod.fst removed) (clean middle.disk fault)
  · cases result
    have clean := (gate.store.heeds_write books.now .scratch contract network layout).accepts taken
    exact absurd (congrArg Prod.fst unwritten) (clean books.disk fault)

/-- **Names are heeded** where a scratch copy is held. With a name that is not taken nothing is done
and nothing kept; with names that are taken, no value is refused but by what is done meanwhile, and
nothing but that, writing and discarding changes the disk. -/
structure HoldHeeds (gate : Gate) (contract network : String) (layout : Layout) {α : Type}
    (body : Flow α) : Prop where
  refuses : ∀ role name, (namesOf contract network).find? (!isName ·.2) = some (role, name) →
    ∀ books, (gate.holdingScratch contract network layout body).Settles books
      (.error (.value (.invalidName role name)))
  accepts : Allowed contract network → ∀ {books trace fault after},
    (gate.holdingScratch contract network layout body).Ends books trace (.error (.value fault))
      after → ∃ start middle, body.Ends start trace (.error (.value fault)) middle
  parts : ∀ {books trace result after},
    (gate.holdingScratch contract network layout body).Ends books trace result after →
    let written := (gate.store.write books.now .scratch contract network layout).run.run books.disk
    (trace = [] ∧ after = { books with disk := written.2 }) ∨
      ∃ ended middle, body.Ends { books with disk := written.2 } trace ended middle ∧
        after = { middle with
          disk := ((gate.store.discardScratch contract network).run.run middle.disk).2 }

/-- Holding a scratch copy heeds its names. -/
theorem holdHeeds (gate : Gate) (contract network : String) (layout : Layout) (body : Flow α) :
    HoldHeeds gate contract network layout body where
  refuses _ _ refused := settles_holdingScratch_of_refusal (refusal?_of_find? refused)
  accepts allowed _ _ _ _ ended := refused_of_holding allowed ended
  parts := by
    intro books trace result after held
    rcases ends_holding.1 held with
      ⟨path, scratch, ended, middle, cleaned, disk, written, done, removed, rfl, -⟩ |
      ⟨failure, disk, unwritten, rfl, -, rfl⟩
    · rw [written]
      refine .inr ⟨ended, middle, done, ?_⟩
      rw [removed]
    · rw [unwritten]
      exact .inl ⟨rfl, rfl⟩

/-- **Only names that are taken reach the disk.** These are the safe names, and safe names with a
line feed behind them. Every operation refuses the first other name and leaves the disk untouched;
with names that are taken it refuses none, neither looks at nor changes anything but the way to the
root and the places below it that the names make, and these are single steps down, none of which is
the hidden folder. -/
theorem only_taken_names_reach_the_disk (gate : Gate) :
    (∀ name, isName name = true ↔ IsSafe name ∨ ∃ body, IsSafe body ∧ name = body ++ "\n") ∧
    (∀ contract network,
      (∀ copy, Heeds (namesOf contract network) (gate.store.Addresses copy contract network)
        (gate.store.read? copy contract network)) ∧
      (∀ now copy layout,
        Heeds (namesOf contract network) (gate.store.Addresses copy contract network)
          (gate.store.write now copy contract network layout)) ∧
      Heeds (namesOf contract network) (gate.store.Addresses .scratch contract network)
        (gate.store.discardScratch contract network) ∧
      ∀ (α : Type) layout (body : Flow α), HoldHeeds gate contract network layout body) ∧
    (∀ network, network ≠ "" → Heeds [(.network, network)] (gate.store.Lists network)
      (gate.store.list (some network))) ∧
    ∀ contract network, isName contract = true → isName network = true →
      SingleSteps contract network := by
  refine ⟨fun name => isName_iff, fun contract network => ⟨fun copy => ?_,
    fun now copy layout => ?_, ?_, fun α layout body => ?_⟩,
    fun network given => gate.store.heeds_list given,
    fun contract network taken other => singleSteps_of_allowed ⟨taken, other⟩⟩
  · exact gate.store.heeds_read? copy contract network
  · exact gate.store.heeds_write now copy contract network layout
  · exact gate.store.heeds_discardScratch contract network
  · exact gate.holdHeeds contract network layout body

/-- A name with a line feed behind it is not safe, but it is taken for a baseline to be read, while
a name that leads up is refused. -/
theorem line_feed_is_taken :
    ¬ IsSafe "Token\n" ∧ isName "Token\n" = true ∧
    DiskTask.NeverRefuses _ (prepared.store.read? .baseline "Token\n" "anvil") ∧
    ∀ disk, (prepared.store.read? .baseline "../Token" "anvil").run.run disk =
      (.error (.value (.invalidName .contract "../Token")), disk) := by
  obtain ⟨-, operations, -, -⟩ := only_taken_names_reach_the_disk prepared
  have notSafe : ¬ IsSafe "Token\n" := fun safe => by
    have last := safe.safe '\n' (by decide)
    exact absurd last (by decide)
  have taken : isName "Token\n" = true := by decide
  obtain ⟨reads, -⟩ := operations "Token\n" "anvil"
  obtain ⟨refused, -⟩ := operations "../Token" "anvil"
  refine ⟨notSafe, taken, (reads .baseline).accepts ?_, (refused .baseline).refuses _ _ ?_⟩
  · decide
  · decide

end UpgradeGate.Gate
