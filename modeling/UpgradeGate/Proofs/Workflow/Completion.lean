import UpgradeGate.Proofs.Workflow.Upgrade

/-!
# Workflows that complete

A deployment and an upgrade return where every collaborator answers as it is hoped for, the log can
be read and the files can be written: a proxy is deployed over any layout
(`Gate.exists_deployProxy`), and any layout is installed behind a proxy (`Gate.exists_run`). What
could be written before can be written afterwards.
-/

namespace UpgradeGate

namespace Gate

open UpgradeGate.Flow

variable {gate : Gate} {order : UpgradeOrder} {books : Books} {rows : Ledger}
  {contract network sender name : String}

/-! ## Deployments of proxies -/

/-- A creation that the node answers with an address ends with it, and the books stand. -/
theorem exists_create [AddressRule] (contract : String) (arguments : List Argument)
    (sender : String) (address : Address) (books : Books) :
    ∃ trace, (create contract arguments sender).Ends books trace (.ok address) books :=
  ⟨_, ends_create_ok.2 ⟨rfl, default, address.text, Address.parse_text address, rfl⟩⟩

/-- A label that is taken ends well, and the books stand. -/
theorem exists_label (address name : String) (books : Books) :
    ∃ trace, (label address name).Ends books trace (.ok ()) books :=
  ⟨_, ends_label.2 ⟨rfl, .inr ⟨.ok (), rfl, rfl⟩⟩⟩

theorem exists_createdAdmin (kind : ProxyKind) (proxy : Address) (books : Books) :
    ∃ trace, (createdAdmin kind proxy).Ends books trace (.ok none) books := by
  cases kind with
  | uups => exact ⟨_, ends_pure.2 ⟨rfl, rfl, rfl⟩⟩
  | transparent => exact ⟨_, ends_ask.2 ⟨rfl, rfl⟩⟩

theorem exists_labelAdmin (contract : String) (admin : Option String) (books : Books) :
    ∃ trace, (labelAdmin contract admin).Ends books trace (.ok ()) books := by
  unfold labelAdmin
  split
  · exact exists_label _ _ books
  · exact ⟨_, ends_pure.2 ⟨rfl, rfl, rfl⟩⟩

/-- A baseline that can be written is recorded when the toolchain gives its layout. -/
theorem exists_recordBaseline (layout : Layout) (records : gate.recordsBaselines = true)
    (writable : gate.store.Writable .baseline contract network books.disk) :
    ∃ trace disk, (gate.recordBaseline contract network).Ends books trace (.ok ())
        { books with disk := disk } ∧
      exchange (.layout contract) books.disk (.ok layout) ∈ trace ∧
      gate.store.StillWritable books.disk disk := by
  obtain ⟨disk, written, still⟩ := LayoutStore.run_write_of_writable books.now layout writable
  refine ⟨_, disk, ?_, List.mem_singleton_self _, still⟩
  rw [recordBaseline, if_pos records]
  refine ends_ask_bind.2 (.inl ⟨layout, [], rfl, ?_⟩)
  rw [ends_get_bind]
  exact ends_onDisk_bind.2 (.inl ⟨_, disk, written, ends_pure.2 ⟨rfl, rfl, rfl⟩⟩)

/-- **A proxy is deployed**, with any addresses and over any layout. -/
theorem exists_deployProxy [AddressRule] {initData : Bytes} {kind : Json} {parsed : ProxyKind}
    {admin made : Option String} {owner : Option Address} {arguments : List Argument}
    {implementation proxy : Address} {administering : Trace collaborators} (layout : Layout)
    (sender : String) (records : gate.recordsBaselines = true)
    (known : ProxyKind.parse kind = .ok parsed) (owned : ownerOf contract parsed admin = .ok owner)
    (taken : parsed.constructorArguments implementation.text initData (owner.map Address.text) =
      .ok arguments)
    (administered : (createdAdmin parsed proxy).Ends books administering (.ok made) books)
    (readable : books.ledger = .ok rows)
    (writable : gate.store.Writable .baseline contract network books.disk) :
    ∃ trace disk, (gate.deployProxy contract initData kind admin network sender).Ends books trace
        (.ok proxy)
        { proxyBooks books contract network implementation proxy parsed made with disk := disk } ∧
      layout ∈ trace.filterMap compiled? ∧ gate.store.StillWritable books.disk disk := by
  obtain ⟨first, created⟩ := exists_create contract [] sender implementation books
  obtain ⟨second, created'⟩ := exists_create parsed.artifactName arguments sender proxy books
  have recorded : gate.store.StillWritable books.disk
      (proxyBooks books contract network implementation proxy parsed made).disk :=
    books.stillWritable_recorded gate.store _
  obtain ⟨middle, counted⟩ : ∃ middle, middle =
    proxyBooks books contract network implementation proxy parsed made := ⟨_, rfl⟩
  rw [← counted] at recorded ⊢
  obtain ⟨fourth, implementationNamed⟩ :=
    exists_label implementation.text (contract ++ " (implementation)") middle
  obtain ⟨fifth, proxyNamed⟩ :=
    exists_label proxy.text (contract ++ " (" ++ parsed.name ++ " proxy)") middle
  obtain ⟨sixth, adminNamed⟩ := exists_labelAdmin contract made middle
  obtain ⟨seventh, disk, keeping, compiled, still⟩ :=
    exists_recordBaseline layout records (recorded _ _ _ writable)
  refine ⟨first ++ (second ++ (administering ++ (fourth ++ (fifth ++ (sixth ++
    (exchange (.announce (.deployed contract network implementation.text (some proxy.text)))
      middle.disk (.ok ()) :: (seventh ++ []))))))), disk, ?_, ?_, recorded.trans still⟩
  · rw [deployProxy_eq]
    refine ends_lift_bind.2 (.inl ⟨parsed, known, ends_lift_bind.2 (.inl ⟨owner, owned, ?_⟩)⟩)
    refine ends_bind_ok.2 ⟨implementation, books, first, _, created, ?_, rfl⟩
    refine ends_lift_bind.2 (.inl ⟨arguments, taken, ?_⟩)
    refine ends_bind_ok.2 ⟨proxy, books, second, _, created', ?_, rfl⟩
    refine ends_bind_ok.2 ⟨made, books, administering, _, administered, ?_, rfl⟩
    rw [ends_stamped_bind]
    refine (ends_appendRecord_bind (rowOf_proxyRecord contract network implementation proxy parsed
      made books.now)).2 (.inl ⟨rows, readable, ?_⟩)
    rw [ends_count_bind]
    refine ends_bind_ok.2 ⟨(), middle, fourth, _, counted ▸ implementationNamed, ?_, rfl⟩
    refine ends_bind_ok.2 ⟨(), middle, fifth, _, proxyNamed, ?_, rfl⟩
    refine ends_bind_ok.2 ⟨(), middle, sixth, _, adminNamed, ?_, rfl⟩
    refine ends_announce_bind.2 ⟨.ok (), _, rfl, ?_⟩
    exact ends_bind_ok.2 ⟨(), _, seventh, [], keeping, ends_pure.2 ⟨rfl, rfl, rfl⟩, rfl⟩
  · refine List.mem_filterMap.2 ⟨exchange (.layout contract) middle.disk (.ok layout), ?_, rfl⟩
    simp [compiled]

/-! ## Upgrades -/

/-- The exchanges from the prediction on where nothing stops an installation, on the disks as they
then are. -/
def installationCourse (order : UpgradeOrder) (proxy implementation : Address)
    (admin : Option Address) (nonce : Int) (finished : Attempt) (entered booked kept : Disk) :
    Trace collaborators :=
  [exchange (.transactionCount order.sender) entered (.ok nonce),
    exchange (.artifact order.contract) entered (.ok default),
    exchange (.deploy default [] order.sender) entered (.ok implementation.text),
    exchange (.label implementation.text order.contract) booked (.ok ()),
    exchange (.announce (.labelled implementation.text order.contract)) booked (.ok ()),
    exchange (.announce (.deployed order.contract order.network implementation.text none)) booked
      (.ok ()),
    installCall order proxy implementation admin booked (.ok ()),
    exchange (.implementationOf proxy) booked (.ok (some implementation.text)),
    exchange (.announce (.completed finished)) kept (.ok ())]

/-- The course of an installation holds at least one upgrade call. -/
theorem countP_isUpgrade_installationCourse_pos (order : UpgradeOrder)
    (proxy implementation : Address) (admin : Option Address) (nonce : Int) (finished : Attempt)
    (entered booked kept : Disk) :
    0 < (installationCourse order proxy implementation admin nonce finished entered booked
      kept).countP isUpgrade := by
  simp only [installationCourse, List.countP_cons, isUpgrade_installCall, if_true]
  omega

/-- The fast path is completed through any administrator that it may be sent through. -/
theorem exists_fastPath [AddressRule] {proxy implementation : Address}
    {previous : Option DeploymentRecord}
    {admin : Option Address} {nonce : Int} (candidate : Layout) (compatible : Bool)
    (attempt : Attempt) (creation : gate.predictor = .creation)
    (resolves : ResolvesTo order.admin previous admin)
    (predicted : Address.predict (.string order.sender) nonce = .ok implementation)
    (readable : books.ledger = .ok rows)
    (writable : gate.store.Writable .baseline order.contract order.network books.disk) :
    ∃ checked finished booked kept after, FastPath gate order proxy previous candidate compatible
        attempt books (checked ++ installationCourse order proxy implementation admin nonce finished
          books.disk booked kept) (.ok finished) after ∧
      (administrator proxy order.admin previous).Ends books checked (.ok admin) books ∧
      gate.store.StillWritable books.disk after.disk := by
  obtain ⟨checked, resolved⟩ := resolves.exists_ends proxy books
  have created : (create order.contract [] order.sender).Ends books _ (.ok implementation) books :=
    ends_create_ok.2 ⟨rfl, default, implementation.text, Address.parse_text _, rfl⟩
  have deployed := @RawDeployment.deployed _ order.contract [] order.network order.sender books _
    implementation rows (.ok ()) (.ok ()) created readable
  have upgraded := (deployed.stillWritable gate.store).trans (stillWritable_upgradeBooks gate.store
    (rawBooks books order.contract order.network implementation) order proxy previous admin
    implementation)
  obtain ⟨disk, written, still⟩ := LayoutStore.run_write_of_writable
    (rawBooks books order.contract order.network implementation).now candidate
    (upgraded _ _ _ writable)
  have same : Address.sameAccount implementation.text implementation.text = true :=
    Address.sameAccount_text_iff.2 rfl
  have foretold : (gate.predictNext order.sender).Ends books
      [exchange (.transactionCount order.sender) books.disk (.ok nonce)] (.ok implementation.text)
        books :=
    (ends_predictNext_ok creation).2 ⟨rfl, nonce, implementation, predicted, rfl, rfl⟩
  have follows : ((some implementation.text).any fun address =>
      Address.sameAccount address implementation.text) = true := same
  exact ⟨checked, _, _, _, _,
    .completed (.ok ()) ⟨resolved, foretold⟩ deployed same follows written, resolved,
    upgraded.trans still⟩

/-- **An upgrade is installed**, with any new layout, through any administrator that it may be sent
through. -/
theorem exists_run [AddressRule] {proxy implementation : Address}
    {previous : Option DeploymentRecord}
    {admin : Option Address} {baseline : Layout} {nonce : Int} (candidate : Layout)
    (creation : gate.predictor = .creation) (override : order.override = true)
    (parsed : Address.parse order.proxy = .ok proxy)
    (latest : books.latest? proxy order.network = .ok previous)
    (live : gate.live? books.disk order.contract order.network previous = .ok baseline)
    (valid : baseline.Valid) (typed : baseline.Typed)
    (resolves : ResolvesTo order.admin previous admin)
    (predicted : Address.predict (.string order.sender) nonce = .ok implementation)
    (scratch : gate.store.Writable .scratch order.contract order.network books.disk)
    (installed : gate.store.Writable .baseline order.contract order.network books.disk)
    (apart : ∀ place ∈ books.log.place?,
      ¬ gate.store.Touches .scratch order.contract order.network place) :
    ∃ checked attempt entered booked kept after,
      (gate.run order).Ends books (exchange (.layout order.contract) entered.disk (.ok candidate) ::
        (checked ++ installationCourse order proxy implementation admin nonce attempt entered.disk
          booked kept)) (.ok attempt) after ∧
      (administrator proxy order.admin previous).Ends entered checked (.ok admin) entered ∧
      gate.store.StillWritable books.disk after.disk := by
  obtain ⟨rows, readable⟩ := Books.ledger_of_latest? latest
  obtain ⟨disk, written, still⟩ := LayoutStore.run_write_of_writable books.now baseline scratch
  have touched := LayoutStore.keeps_of_write written
  have held := ((LayoutStore.holds_of_write written).reading_eq_iff scratch.allowed valid).2 typed
  let captured := captureBooks { startBooks books with disk := disk }
  let entered : Books := { captured with stages := captured.stages ++ [Stage.fastPath] }
  have logged : entered.ledger = .ok rows := LogConnection.rows_keeps touched apart readable
  obtain ⟨checked, finished, booked, kept, last, path, resolved, stillThen⟩ :=
    @exists_fastPath gate order _ _ _ proxy _ previous admin _ candidate
      (baseline.compare candidate).compatible
      (compared (freshAttempt order proxy) baseline candidate) creation resolves predicted logged
      (still _ _ _ installed)
  have attempted : Attempted gate order proxy previous (freshAttempt order proxy)
      { startBooks books with disk := disk } _ (.ok _) last := .tried candidate held override path
  refine ⟨checked, finished, entered, booked, kept, _,
    ends_run.2 (.held parsed latest live written attempted), resolved, ?_⟩
  have discarded := Disk.Keeps.drop _ (attempted.free written)
  exact (still.trans stillThen).trans (.of_keeps discarded fun _ => Disk.node?_of_drop)

/-! ## A prepared workspace -/

/-- A gate whose store is the folder `layouts`. -/
def prepared : Gate := ⟨⟨["layouts"]⟩, .creation, true⟩

end Gate

/-- The books of a workspace in which the folders of the network `anvil` were made, with an empty
log in memory. -/
def Books.prepared : Books where
  disk := ⟨[(["layouts"], .folder), (["layouts", "anvil"], .folder),
    (["layouts", "anvil", ".scratch"], .folder)]⟩
  log := .memory []
  tally := .zero
  now := 0
  stages := []

theorem Books.file?_prepared (place : Place) : Books.prepared.disk.file? place = none := by
  refine Option.eq_none_iff_forall_ne_some.2 fun content found => ?_
  have file := Disk.file?_eq_some_iff.1 found
  simp only [Disk.node?, Books.prepared, List.lookup_cons, List.lookup_nil] at file
  grind

theorem LayoutStore.allowed_prepared : LayoutStore.Allowed "Token" "anvil" := by
  constructor <;> decide +kernel

/-- The prepared store can write on the prepared disk. -/
theorem LayoutStore.writable_prepared (copy : Copy) :
    Gate.prepared.store.Writable copy "Token" "anvil" Books.prepared.disk := by
  cases copy
  all_goals
    refine ⟨allowed_prepared, ⟨by rfl, by rfl⟩, ?_⟩
    rintro place (rfl | rfl) folder
    · cases folder
    · cases folder

/-- The files of `Token` can be written, and the log is kept in memory. -/
structure Books.IsPrepared (books : Books) (rows : Ledger) : Prop where
  writable : ∀ copy, Gate.prepared.store.Writable copy "Token" "anvil" books.disk
  memory : books.log = .memory rows

/-- Prepared books are readable, and their rows are those they are prepared with. -/
theorem Books.IsPrepared.ledger {books : Books} {rows : Ledger} (ready : books.IsPrepared rows) :
    books.ledger = .ok rows := by
  rw [Books.ledger, ready.memory]
  rfl

theorem Books.isPrepared_prepared : Books.prepared.IsPrepared [] :=
  ⟨LayoutStore.writable_prepared, rfl⟩

/-- With nothing stored and nothing recorded, the live layout is the empty one. -/
theorem Gate.live?_prepared :
    Gate.prepared.live? Books.prepared.disk "Token" "anvil" none =
      .ok (Layout.empty (some "Token")) := by
  have writable := LayoutStore.writable_prepared .baseline
  have absent : Gate.prepared.store.reading Books.prepared.disk .baseline "Token" "anvil" =
      .ok none := LayoutStore.reading_of_absent writable.allowed writable.ready.1 rfl
  rw [Gate.live?, Gate.liveName]
  simp only [Option.map_none, Option.getD_none, absent]
  rfl

/-- The account that sends transactions in the prepared workspace. -/
def Address.preparedSender : Address := ⟨List.replicate 20 1, rfl⟩

/-- An order to upgrade a proxy that the log does not know. -/
def UpgradeOrder.prepared : UpgradeOrder where
  proxy := "0x0202020202020202020202020202020202020202"
  contract := "Token"
  network := "anvil"
  sender := "0x0101010101010101010101010101010101010101"
  initData := none
  override := true
  admin := none

/-- The proxy of that order. -/
def Address.preparedProxy : Address := ⟨List.replicate 20 2, rfl⟩

theorem Address.parse_preparedProxy [AddressRule] :
    Address.parse UpgradeOrder.prepared.proxy = .ok Address.preparedProxy := by
  have spelled : UpgradeOrder.prepared.proxy = "0x" ++ Bytes.hexText preparedProxy.bytes := by
    decide +kernel
  rw [spelled, parse_hexText]

theorem Address.parse_preparedSender [AddressRule] :
    Address.parse UpgradeOrder.prepared.sender = .ok Address.preparedSender := by
  have spelled : UpgradeOrder.prepared.sender = "0x" ++ Bytes.hexText preparedSender.bytes := by
    decide +kernel
  rw [spelled, parse_hexText]

theorem Address.predict_preparedSender :
    Address.predict (.string UpgradeOrder.prepared.sender) 0 =
      .ok (Address.preparedSender.created 0) := by
  rfl

theorem Books.latest?_prepared :
    Books.prepared.latest? Address.preparedProxy "anvil" = .ok none := rfl

/-- The order can be carried out, with any layout, where an administrator is resolved or none is
needed. -/
theorem Gate.exists_run_of_resolvesTo [AddressRule] {books : Books} {rows : Ledger}
    {previous : Option DeploymentRecord} {admin : Option Address} {baseline : Layout}
    (ready : books.IsPrepared rows)
    (latest : DeploymentLog.latest? books.now rows Address.preparedProxy "anvil" = .ok previous)
    (resolves : ResolvesTo none previous admin)
    (live : Gate.prepared.live? books.disk "Token" "anvil" previous = .ok baseline)
    (valid : baseline.Valid) (typed : baseline.Typed) (candidate : Layout) :
    ∃ trace attempt after, (Gate.prepared.run .prepared).Ends books trace (.ok attempt) after ∧
      candidate ∈ trace.filterMap Flow.compiled? ∧ 0 < trace.countP Flow.isUpgrade := by
  have found : books.latest? Address.preparedProxy "anvil" = .ok previous := by
    rw [Books.latest?, Books.ledger, ready.memory]
    exact latest
  have inMemory : ∀ place ∈ books.log.place?,
      ¬ Gate.prepared.store.Touches .scratch "Token" "anvil" place := by
    rw [ready.memory]
    intro place own
    cases own
  obtain ⟨checked, attempt, entered, booked, kept, after, ended, -⟩ :=
    @Gate.exists_run Gate.prepared .prepared books _ Address.preparedProxy
      (Address.preparedSender.created 0) previous admin baseline 0 candidate rfl rfl
      Address.parse_preparedProxy found live valid typed resolves
      Address.predict_preparedSender (ready.writable .scratch) (ready.writable .baseline) inMemory
  refine ⟨_, attempt, after, ended, ?_, ?_⟩
  · simp [Flow.exchange, Flow.compiled?]
  · have asked := Gate.countP_isUpgrade_installationCourse_pos .prepared Address.preparedProxy
      (Address.preparedSender.created 0) admin 0 attempt entered.disk booked kept
    simp only [List.countP_cons, List.countP_append]
    omega

/-- The order can be carried out, with any layout, where the log does not name an administrator. -/
theorem Gate.exists_run_of_isPrepared [AddressRule] {books : Books} {rows : Ledger}
    {previous : Option DeploymentRecord} {baseline : Layout} (ready : books.IsPrepared rows)
    (latest : DeploymentLog.latest? books.now rows Address.preparedProxy "anvil" = .ok previous)
    (unowned : givenAdmin? none previous = none)
    (unneeded : previous.bind DeploymentRecord.kind ≠ some .transparent)
    (live : Gate.prepared.live? books.disk "Token" "anvil" previous = .ok baseline)
    (valid : baseline.Valid) (typed : baseline.Typed) (candidate : Layout) :
    ∃ trace attempt after, (Gate.prepared.run .prepared).Ends books trace (.ok attempt) after ∧
      candidate ∈ trace.filterMap Flow.compiled? ∧ 0 < trace.countP Flow.isUpgrade :=
  Gate.exists_run_of_resolvesTo ready latest (.inl ⟨unowned, unneeded, rfl⟩) live valid typed
    candidate

/-- The prepared gate has a run that returns, in which the candidate was compiled and the upgrade
called. -/
theorem Gate.exists_run_prepared [AddressRule] (candidate : Layout) :
    ∃ trace attempt after, (Gate.prepared.run .prepared).Ends Books.prepared trace (.ok attempt)
        after ∧ candidate ∈ trace.filterMap Flow.compiled? ∧ 0 < trace.countP Flow.isUpgrade :=
  Gate.exists_run_of_isPrepared Books.isPrepared_prepared rfl rfl nofun Gate.live?_prepared
    (Layout.valid_empty _) (Layout.typed_empty _) candidate

theorem ProxyKind.parse_uups : ProxyKind.parse (.string "uups") = .ok .uups := by
  have named : ofName? (Text.trimmed (Json.string "uups").shown).toLower = some .uups := by
    decide +kernel
  rw [parse, named]

theorem ProxyKind.parse_transparent :
    ProxyKind.parse (.string "transparent") = .ok .transparent := by
  have named : ofName? (Text.trimmed (Json.string "transparent").shown).toLower =
      some .transparent := by
    decide +kernel
  rw [parse, named]

/-- A proxy of any kind can be deployed in front of `Token`, over any layout. -/
theorem Gate.exists_deployProxy_of_parse [AddressRule] {books : Books} {rows : Ledger}
    {given : Json} {kind : ProxyKind} {admin made : Option String} {owner : Option Address}
    {arguments : List Argument} {implementation proxy : Address}
    {administering : Trace collaborators} (ready : books.IsPrepared rows)
    (known : ProxyKind.parse given = .ok kind) (owned : ownerOf "Token" kind admin = .ok owner)
    (taken : kind.constructorArguments implementation.text [] (owner.map Address.text) =
      .ok arguments)
    (administered : (createdAdmin kind proxy).Ends books administering (.ok made) books)
    (layout : Layout) :
    ∃ trace after, (Gate.prepared.deployProxy "Token" [] given admin "anvil"
        UpgradeOrder.prepared.sender).Ends books trace (.ok proxy) after ∧
      layout ∈ trace.filterMap Flow.compiled? ∧ after.IsPrepared (rows ++
        [(proxyRecord "Token" "anvil" implementation proxy kind made books.now).row]) := by
  obtain ⟨trace, disk, ended, compiled, still⟩ := @Gate.exists_deployProxy Gate.prepared books rows
    "Token" "anvil" _ [] given kind admin made owner arguments implementation proxy administering
    layout UpgradeOrder.prepared.sender rfl known owned taken administered ready.ledger
    (ready.writable .baseline)
  refine ⟨trace, _, ended, compiled, fun copy => still _ _ _ (ready.writable copy), ?_⟩
  simp only [proxyBooks, Books.recorded, ready.ledger, Books.withLedger, ready.memory,
    LogConnection.withRows]

/-- A proxy can be deployed in front of `Token`, with any addresses and over any layout. -/
theorem Gate.exists_deployProxy_of_isPrepared [AddressRule] {books : Books} {rows : Ledger}
    (ready : books.IsPrepared rows) (implementation proxy : Address) (layout : Layout) :
    ∃ trace after, (Gate.prepared.deployProxy "Token" [] (.string "uups") none "anvil"
        UpgradeOrder.prepared.sender).Ends books trace (.ok proxy) after ∧
      layout ∈ trace.filterMap Flow.compiled? ∧ after.IsPrepared (rows ++
        [(proxyRecord "Token" "anvil" implementation proxy .uups none books.now).row]) := by
  obtain ⟨_, administered⟩ := Gate.exists_createdAdmin .uups proxy books
  exact Gate.exists_deployProxy_of_parse ready ProxyKind.parse_uups rfl rfl administered layout

/-- A layout with one entry. -/
def Layout.prepared : Layout := ⟨some "Token", [⟨0, 0, "uint256", "supply"⟩]⟩

theorem Layout.valid_prepared : Layout.prepared.Valid where
  ordered := List.pairwise_singleton _ _
  withinSlots := by
    intro entry member
    cases List.mem_singleton.1 member
    exact Nat.zero_le _
  normal := by
    intro entry member
    cases List.mem_singleton.1 member
    decide +kernel

end UpgradeGate
