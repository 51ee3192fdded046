import UpgradeGate.Proofs.Gate.Installation
import UpgradeGate.Proofs.Gate.Succession
import UpgradeGate.Proofs.Workflow.Comparisons

/-!
# Transparent proxies

A transparent proxy listens to its administrator alone, which is a contract of its own. An upgrade
of such a proxy is sent through an administrator that was seen to be a contract, before anything was
deployed, and the record of the upgrade names it. So the next upgrade can be sent through it, and
where no order names another, all upgrades go through the administrator that was recorded when the
proxy was deployed (`Gate.transparent_proxies`).
-/

namespace UpgradeGate

open UpgradeGate.Flow UpgradeGate.Gate

variable {gate : Gate} {order : UpgradeOrder} {proxy : Address} {network text : String}
  {previous record last deployment : DeploymentRecord} {later : List DeploymentRecord}
  {named : Option String → Prop} {books after : Books} {trace : Trace collaborators}

/-! ## Records -/

/-- A caller names no administrator: nothing, or an empty text. -/
def Unnamed (text : Option String) : Prop := text.filter (!·.isEmpty) = none

/-- A record has the administrator of a text, as it is written or as the address that it means. -/
def DeploymentRecord.HasAdmin [AddressRule] (text : String) (record : DeploymentRecord) : Prop :=
  ∃ own, record.admin = some own ∧
    (own = text ∨ ∃ admin, Address.parse text = .ok admin ∧ own = admin.text)

/-- Where nobody names another, the administrator of an upgrade is that of the record before. -/
theorem DeploymentRecord.HasAdmin.parse_eq [AddressRule] {choice : Option String} {given : String}
    {admin : Address} (has : previous.HasAdmin text) (unnamed : Unnamed choice)
    (owned : givenAdmin? choice (some previous) = some given)
    (parsed : Address.parse given = .ok admin) : Address.parse text = .ok admin := by
  obtain ⟨own, recorded, same⟩ := has
  have chosen : (some own).filter (!·.isEmpty) = some given := by
    rwa [givenAdmin?, unnamed, Option.bind_some, recorded] at owned
  cases Option.eq_some_of_filter_eq_some chosen
  obtain rfl | ⟨meant, spelled, rfl⟩ := same
  · exact parsed
  · rw [Address.parse_text] at parsed
    cases parsed
    exact spelled

namespace Succeeds

/-- An upgrade of a transparent proxy is recorded with the administrator that was given. -/
theorem transparent [AddressRule] (succeeds : Succeeds named previous record)
    (kind : previous.kind = some .transparent) (old : record.action ≠ .deployProxy) :
    record.kind = some .transparent ∧ ∃ choice given admin, named choice ∧
      givenAdmin? choice (some previous) = some given ∧ Address.parse given = .ok admin ∧
      record.admin = some admin.text := by
  cases succeeds with
  | deployed action => exact absurd action old
  | @upgraded choice _ allowed same resolves sent =>
    refine ⟨same.trans kind, ?_⟩
    obtain ⟨-, unneeded, -⟩ | ⟨given, admin, owned, parsed, rfl⟩ := resolves
    · exact absurd kind unneeded
    · exact ⟨choice, given, admin, allowed, owned, parsed, sent⟩

/-- Where none is named, an upgrade of a transparent proxy keeps the administrator of the record
before. -/
theorem hasAdmin [AddressRule] (succeeds : Succeeds Unnamed previous record)
    (kind : previous.kind = some .transparent) (old : record.action ≠ .deployProxy)
    (has : previous.HasAdmin text) :
    ∃ admin, Address.parse text = .ok admin ∧ record.admin = some admin.text := by
  obtain ⟨-, choice, given, admin, unnamed, owned, parsed, sent⟩ := succeeds.transparent kind old
  exact ⟨admin, has.parse_eq unnamed owned parsed, sent⟩

end Succeeds

/-- All later records of a transparent proxy are of its kind and have an administrator. -/
theorem transparent_of_isChain [AddressRule]
    (chain : (deployment :: later).IsChain (Succeeds named))
    (kind : deployment.kind = some .transparent)
    (alone : ∀ record ∈ later, record.action ≠ .deployProxy) :
    ∀ record ∈ later, record.kind = some .transparent ∧
      ∃ admin : Address, record.admin = some admin.text := by
  induction later generalizing deployment with
  | nil => exact fun _ absent => absurd absent List.not_mem_nil
  | cons next rest ih =>
    obtain ⟨follows, onward⟩ := List.isChain_cons_cons.1 chain
    obtain ⟨same, _, _, admin, -, -, -, sent⟩ :=
      follows.transparent kind (alone _ List.mem_cons_self)
    intro record member
    rcases List.mem_cons.1 member with rfl | further
    · exact ⟨same, admin, sent⟩
    · exact ih onward same (fun _ member => alone _ (List.mem_cons_of_mem _ member)) _ further

/-- Where no order names another, all later records have the administrator of the first one. -/
theorem hasAdmin_of_isChain [AddressRule] (chain : (deployment :: later).IsChain (Succeeds Unnamed))
    (kind : deployment.kind = some .transparent)
    (alone : ∀ record ∈ later, record.action ≠ .deployProxy) (has : deployment.HasAdmin text) :
    ∀ record ∈ later, ∃ admin, Address.parse text = .ok admin ∧
      record.admin = some admin.text := by
  induction later generalizing deployment with
  | nil => exact fun _ absent => absurd absent List.not_mem_nil
  | cons next rest ih =>
    obtain ⟨follows, onward⟩ := List.isChain_cons_cons.1 chain
    have old := alone _ List.mem_cons_self
    obtain ⟨admin, parsed, sent⟩ := follows.hasAdmin kind old has
    intro record member
    rcases List.mem_cons.1 member with rfl | further
    · exact ⟨admin, parsed, sent⟩
    · exact ih onward (follows.transparent kind old).1
        (fun _ member => alone _ (List.mem_cons_of_mem _ member))
        ⟨_, sent, .inr ⟨admin, parsed, rfl⟩⟩ _ further

/-! ## Upgrades that are asked for -/

/-- The proxy that a question lets point elsewhere, and the administrator that the question is sent
through. -/
def Question.upgraded? : Question → Option (Address × Option Address)
  | .upgrade proxy _ _ admin => some (proxy, admin)
  | .upgradeAndCall proxy _ _ _ admin => some (proxy, admin)
  | _ => none

/-- Only an upgrade has a target. -/
theorem Question.isUpgrade_of_upgraded? {question : Question} {target : Address × Option Address}
    (upgraded : question.upgraded? = some target) : question.isUpgrade = true := by
  cases question <;> simp_all [upgraded?, isUpgrade]

namespace Gate

theorem upgraded?_installCall (order : UpgradeOrder) (proxy implementation : Address)
    (admin : Option Address) (disk : Disk) (reply : Except Failure Unit) :
    (installCall order proxy implementation admin disk reply).call.question.upgraded? =
      some (proxy, admin) := by
  unfold installCall
  cases order.initData <;> rfl

/-- An upgrade that is asked for on the fast path is one of its proxy, through the administrator
that was resolved first. -/
theorem FastPath.sent [AddressRule] {latest : Option DeploymentRecord} {candidate : Layout}
    {compatible : Bool}
    {attempt : Attempt} {result : Except Failure Attempt} {request : Exchange collaborators}
    (path : FastPath gate order proxy latest candidate compatible attempt books trace result after)
    (member : request ∈ trace) {target : Address × Option Address}
    (upgraded : request.call.question.upgraded? = some target) :
    ∃ checked rest, trace = checked ++ rest ∧ request ∈ rest ∧ target.1 = proxy ∧
      (administrator proxy order.admin latest).Ends books checked (.ok target.2) books := by
  have asks : isUpgrade request = true := Question.isUpgrade_of_upgraded? upgraded
  have silent : ∀ {part : Trace collaborators}, part.countP isUpgrade = 0 → request ∉ part :=
    fun none inside => List.countP_eq_zero.1 none _ inside asks
  rcases path.asks with unasked | ⟨checked, foretold, early, after, admin, predicted,
    implementation, middle, reply, foreseen, deployed, -, idle, rfl⟩
  · exact absurd member (silent unasked)
  have outside := silent foreseen.quiet.1.countP_isUpgrade
  have inside := (List.mem_append.1 member).resolve_left outside
  have late := (List.mem_append.1 inside).resolve_left (silent foreseen.quiet.2.countP_isUpgrade)
  have last := (List.mem_append.1 late).resolve_left (silent deployed.countP_isUpgrade)
  obtain rfl := (List.mem_cons.1 last).resolve_right (silent idle.upgrades)
  rw [upgraded?_installCall] at upgraded
  cases upgraded
  exact ⟨checked, _, rfl, inside, rfl, foreseen.resolved⟩

/-- A run whose order names or whose proxy needs an administrator sends its upgrade through one that
was seen to be a contract, right after the new layout was asked for. -/
theorem Run.sent [AddressRule] {result : Except Failure Attempt} {request : Exchange collaborators}
    {carried : Option Address} (run : Run gate order books trace result after)
    (latest : books.latest? proxy order.network = .ok (some last))
    (kind : last.kind = some .transparent) (member : request ∈ trace)
    (upgraded : request.call.question.upgraded? = some (proxy, carried)) :
    ∃ given admin candidate disk rest, givenAdmin? order.admin (some last) = some given ∧
      Address.parse given = .ok admin ∧ carried = some admin ∧
      trace = exchange (.layout order.contract) disk (.ok candidate) ::
        exchange (.hasCode admin) disk (.ok true) :: rest ∧ request ∈ rest := by
  have asks : isUpgrade request = true := Question.isUpgrade_of_upgraded? upgraded
  rcases run.follows with ⟨-, unasked⟩ | ⟨own, found, candidate, _, _, entered, trace, _, -, -,
    recorded, -, -, path, rfl⟩
  · exact absurd asks (List.countP_eq_zero.1 unasked _ member)
  have inside : request ∈ trace := by
    rcases List.mem_cons.1 member with rfl | inside
    · cases upgraded
    · exact inside
  obtain ⟨checked, rest, rfl, further, same, resolved⟩ := path.sent inside upgraded
  cases same
  cases latest.symm.trans recorded
  obtain ⟨-, ⟨-, unneeded, -⟩ | ⟨given, admin, owned, parsed, rfl, rfl⟩⟩ :=
    ends_administrator_ok.1 resolved
  · exact absurd kind unneeded
  · exact ⟨given, admin, candidate, entered.disk, rest, owned, parsed, rfl, rfl, further⟩

/-- An override run that gets past the comparison takes the fast path. -/
theorem Run.path_of_weighed [AddressRule] {result : Except Failure Attempt}
    {baseline candidate : Layout}
    (run : Run gate order books trace result after) (override : order.override = true)
    (weighed : gate.weighed? order trace = some (baseline, candidate)) :
    ∃ proxy latest compatible attempt entered rest last, Address.parse order.proxy = .ok proxy ∧
      books.latest? proxy order.network = .ok latest ∧
      FastPath gate order proxy latest candidate compatible attempt entered rest result last ∧
      trace = exchange (.layout order.contract) entered.disk (.ok candidate) :: rest := by
  cases run with
  | misaddressed => cases weighed
  | untraced => cases weighed
  | unread => cases weighed
  | unheld => cases weighed
  | held parsed latest _ _ attempted =>
    cases attempted with
    | unread => cases weighed
    | uncompiled => cases weighed
    | missing _ absent =>
      rw [weighed?_of_reading absent] at weighed
      cases weighed
    | blocked _ _ _ plain => cases plain.symm.trans override
    | @tried _ _ _ result _ read _ path =>
      rw [weighed?_of_reading read] at weighed
      cases weighed
      rw [map_fst_map_report]
      exact ⟨_, _, _, _, _, _, _, parsed, latest, path, rfl⟩

/-- **Administrators come first.** On its fast path, a run for a transparent proxy ends right away
where no administrator is known, and else asks first whether there is code at the one that is
known, and ends where there is none. -/
structure AdminFirst [AddressRule] (order : UpgradeOrder) (proxy : Address)
    (last : DeploymentRecord)
    (trace : Trace collaborators) (result : Except Failure Attempt) : Prop where
  unknown : givenAdmin? order.admin (some last) = none →
    result = .error (.deployment (.adminUnknown proxy)) ∧
      ∃ disk reply, trace = [exchange (.layout order.contract) disk reply]
  known : ∀ given admin, givenAdmin? order.admin (some last) = some given →
    Address.parse given = .ok admin → ∃ disk candidate reply rest,
      trace = exchange (.layout order.contract) disk candidate ::
        exchange (.hasCode admin) disk reply :: rest ∧
      (reply = .ok false →
        result = .error (.deployment (.notAContract admin)) ∧ rest = [])

/-- An overriding upgrade of a transparent proxy sees to the administrator first. -/
theorem Run.adminFirst [AddressRule] {result : Except Failure Attempt} {baseline candidate : Layout}
    (run : Run gate order books trace result after) (override : order.override = true)
    (weighed : gate.weighed? order trace = some (baseline, candidate))
    (parsed : Address.parse order.proxy = .ok proxy)
    (latest : books.latest? proxy order.network = .ok (some last))
    (kind : last.kind = some .transparent) : AdminFirst order proxy last trace result := by
  obtain ⟨own, found, _, _, entered, _, _, parsed', recorded, path, rfl⟩ :=
    run.path_of_weighed override weighed
  cases parsed.symm.trans parsed'
  cases latest.symm.trans recorded
  obtain ⟨checked, rest, outcome, rfl, asked, ends⟩ := path.administered
  constructor
  · intro unowned
    obtain ⟨rfl, rfl⟩ := of_ends_administrator_unowned unowned kind asked
    obtain ⟨rfl, rfl⟩ := ends _ rfl
    exact ⟨rfl, _, _, rfl⟩
  · intro given admin owned valid
    obtain ⟨reply, rfl, codeless⟩ := of_ends_administrator_given owned valid asked
    refine ⟨_, _, reply, rest, rfl, fun none => ?_⟩
    obtain ⟨rfl, rfl⟩ := ends _ (codeless none)
    exact ⟨rfl, rfl⟩

/-! ## The whole history -/

/-- What is known of a transparent proxy from its deployment on: its latest record at every time,
and that this is of its kind. -/
theorem latest_of_chained [AddressRule] (chained : books.Chained named proxy network)
    {before : List DeploymentRecord}
    (found : books.records? proxy network = .ok (before ++ deployment :: later))
    (kind : deployment.kind = some .transparent)
    (alone : ∀ record ∈ later, record.action ≠ .deployProxy) :
    (deployment :: later).IsChain (Succeeds named) ∧
      ∃ last, (deployment :: later).getLast? = some last ∧ last.kind = some .transparent ∧
        ∀ now, { books with now := now }.latest? proxy network = .ok (some last) := by
  obtain ⟨rows, readable, always, chain⟩ := chained.records found
  obtain ⟨-, onward, -⟩ := List.isChain_append.1 chain
  obtain ⟨last, ending⟩ : ∃ last, (deployment :: later).getLast? = some last :=
    ⟨_, List.getLast?_eq_some_getLast (List.cons_ne_nil _ _)⟩
  refine ⟨onward, last, ending, ?_, fun now => ?_⟩
  · rcases List.mem_cons.1 (List.mem_of_getLast? ending) with rfl | further
    · exact kind
    · exact (transparent_of_isChain onward kind alone last further).1
  · have same : { books with now := now }.latest? proxy network =
        DeploymentLog.latest? now rows proxy network := by
      change books.ledger.bind (DeploymentLog.latest? now · proxy network) = _
      rw [readable]
      rfl
    rw [same, DeploymentLog.latest?_eq, always now]
    change Except.ok (before ++ deployment :: later).getLast? = _
    rw [List.getLast?_append, ending]
    rfl

/-- **Transparent proxies are upgraded through their administrator.** Let a log without records of a
proxy be used by any calls, and let the proxy be deployed as a transparent one, and not again, as
the records tell that there are of it now. Then all later records are of that kind and have an
administrator, and every upgrade of the proxy that the next run asks for is sent through an
administrator that was just seen to be a contract, when nothing was asked but for the new layout.
Where no run named an administrator, that is always the one that was recorded at the deployment. A
run that comes to install an upgrade ends at once, where no administrator is known, and as soon as
it is told that there is no code at the one that is known. -/
theorem transparent_proxies [AddressRule] {start : Books} {calls : List CallMade}
    {before : List DeploymentRecord} (unknown : start.records? proxy network = .ok [])
    (course : Course gate start calls books)
    (found : books.records? proxy network = .ok (before ++ deployment :: later))
    (kind : deployment.kind = some .transparent)
    (alone : ∀ record ∈ later, record.action ≠ .deployProxy) :
    (∀ record ∈ later, record.kind = some .transparent ∧
      ∃ admin : Address, record.admin = some admin.text) ∧
    (∀ order now trace result after, order.network = network →
      (gate.run order).Ends { books with now := now } trace result after →
      ∀ request ∈ trace, ∀ carried, request.call.question.upgraded? = some (proxy, carried) →
        ∃ admin candidate disk rest, carried = some admin ∧
          trace = exchange (.layout order.contract) disk (.ok candidate) ::
            exchange (.hasCode admin) disk (.ok true) :: rest ∧ request ∈ rest) ∧
    ((∀ made ∈ calls, ∀ order, made.call = .run order → IsFor order proxy network →
        Unnamed order.admin) → ∀ text, deployment.admin = some text →
      (∀ record ∈ later, ∃ admin, Address.parse text = .ok admin ∧
        record.admin = some admin.text) ∧
      ∀ order now trace result after, order.network = network → Unnamed order.admin →
        (gate.run order).Ends { books with now := now } trace result after →
        ∀ request ∈ trace, ∀ carried, request.call.question.upgraded? = some (proxy, carried) →
          ∃ admin, Address.parse text = .ok admin ∧ carried = some admin) ∧
    ∃ last, (deployment :: later).getLast? = some last ∧
      ∀ order now trace result after, IsFor order proxy network → order.override = true →
        (gate.run order).Ends { books with now := now } trace result after →
        (gate.weighed? order trace).isSome = true → AdminFirst order proxy last trace result := by
  have any : books.Chained (fun _ => True) proxy network :=
    course.chained (Books.chained_of_unknown unknown) fun _ _ _ _ _ => trivial
  obtain ⟨chain, last, ending, same, latest⟩ := latest_of_chained any found kind alone
  refine ⟨transparent_of_isChain chain kind alone, ?_, ?_, last, ending, ?_⟩
  · rintro order now trace result after rfl ended request member carried upgraded
    obtain ⟨_, admin, candidate, disk, rest, -, -, sent, checked, further⟩ :=
      (ends_run.1 ended).sent (latest now) same member upgraded
    exact ⟨admin, candidate, disk, rest, sent, checked, further⟩
  · intro unnamed text recorded
    have own : books.Chained Unnamed proxy network :=
      course.chained (Books.chained_of_unknown unknown) unnamed
    have has : deployment.HasAdmin text := ⟨text, recorded, .inl rfl⟩
    have records := hasAdmin_of_isChain (latest_of_chained own found kind alone).1 kind alone has
    refine ⟨records, ?_⟩
    rintro order now trace result after rfl choice ended request member carried upgraded
    obtain ⟨given, admin, _, _, _, owned, parsed, sent, -, -⟩ :=
      (ends_run.1 ended).sent (latest now) same member upgraded
    refine ⟨admin, DeploymentRecord.HasAdmin.parse_eq ?_ choice owned parsed, sent⟩
    rcases List.mem_cons.1 (List.mem_of_getLast? ending) with rfl | further
    · exact has
    · obtain ⟨meant, spelled, written⟩ := records last further
      exact ⟨_, written, .inr ⟨meant, spelled, rfl⟩⟩
  · intro order now trace result after own override ended weighed
    obtain ⟨⟨baseline, candidate⟩, weighed⟩ := Option.isSome_iff_exists.1 weighed
    have here : { books with now := now }.latest? proxy order.network = .ok (some last) := by
      rw [own.here]
      exact latest now
    exact (ends_run.1 ended).adminFirst override weighed own.parsed here same

/-! ## In the prepared workspace -/

/-- The record of a transparent proxy in the prepared workspace. -/
def preparedRecord : DeploymentRecord :=
  proxyRecord "Token" "anvil" Address.preparedSender Address.preparedProxy .transparent
    (some Address.preparedSender.text) 0

/-- The call that deploys that proxy. -/
def preparedDeployment : GateCall :=
  .deployProxy "Token" [] (.string "transparent") (some UpgradeOrder.prepared.sender) "anvil"
    UpgradeOrder.prepared.sender

theorem rowOf_preparedRecord [AddressRule] :
    DeploymentLog.rowOf preparedRecord = .ok preparedRecord.row :=
  rowOf_proxyRecord ..

theorem recordsOn_preparedRecord [AddressRule] (now : Moment) :
    DeploymentLog.recordsOn now ([] ++ [preparedRecord.row]) Address.preparedProxy "anvil" =
      .ok [preparedRecord] :=
  (DeploymentLog.recordsOn_append_own rowOf_preparedRecord rfl rfl).trans rfl

/-- The proxy is deployed, over a layout without entries. -/
theorem exists_preparedDeployment [AddressRule] :
    ∃ made middle, made.call = preparedDeployment ∧ Course prepared .prepared [made] middle ∧
      middle.IsPrepared ([] ++ [preparedRecord.row]) ∧
      prepared.live? middle.disk "Token" "anvil" (some preparedRecord) = .ok (.empty none) := by
  have taken : ProxyKind.transparent.constructorArguments Address.preparedSender.text []
      ((some Address.preparedSender).map Address.text) =
        .ok [.text Address.preparedSender.text, .text Address.preparedSender.text, .data []] := by
    simp [ProxyKind.constructorArguments, Address.text_ne_empty]
  have owned : ownerOf "Token" .transparent (some UpgradeOrder.prepared.sender) =
      .ok (some Address.preparedSender) := by
    change some <$> Address.parse UpgradeOrder.prepared.sender = _
    rw [Address.parse_preparedSender]
    rfl
  obtain ⟨trace, middle, deployed, compiled, ready⟩ := exists_deployProxy_of_parse
    Books.isPrepared_prepared ProxyKind.parse_transparent
    owned taken
    (ends_ask.2 ⟨rfl, rfl⟩ : (createdAdmin .transparent Address.preparedProxy).Ends .prepared _
      (.ok (some Address.preparedSender.text)) .prepared) (.empty none)
  have backed := (proxyDeployment_of_ends rfl deployed).backed compiled (Layout.valid_empty none)
  refine ⟨⟨preparedDeployment, 0, trace, .ok (.address Address.preparedProxy)⟩, middle, rfl,
    .call (ends_map.2 ⟨_, deployed, rfl⟩) (.done middle), ready, ?_⟩
  exact backed.live?_eq "Token" (Layout.typed_empty none) rfl

/-- The proxy is deployed and then upgraded: the upgrade is recorded with the administrator that was
recorded before. -/
theorem transparent_proxies_prepared :
    ∃ deploying upgrading after upgrade,
      Course prepared .prepared ([deploying] ++ [upgrading]) after ∧
      upgrading.call = .run .prepared ∧
      after.records? Address.preparedProxy "anvil" = .ok ([] ++ preparedRecord :: [upgrade]) ∧
      upgrade.kind = some .transparent ∧ upgrade.admin = preparedRecord.admin := by
  obtain ⟨deploying, middle, deploys, course, ready, live⟩ := exists_preparedDeployment
  have latest : DeploymentLog.latest? middle.now ([] ++ [preparedRecord.row])
      Address.preparedProxy "anvil" = .ok (some preparedRecord) := by
    rw [DeploymentLog.latest?_eq, recordsOn_preparedRecord]
    rfl
  have owned : givenAdmin? none (some preparedRecord) = some Address.preparedSender.text := by
    simp [givenAdmin?, preparedRecord, proxyRecord, Option.filter, Address.text_ne_empty]
  obtain ⟨trace, attempt, after, ended, -, -⟩ := exists_run_of_resolvesTo ready latest
    (.inr ⟨_, _, owned, Address.parse_text _, rfl⟩) live (Layout.valid_empty none)
    (Layout.typed_empty none) .prepared
  obtain ⟨upgrading, upgrades⟩ : ∃ made, made =
    CallMade.mk (.run .prepared) middle.now trace ((Except.ok attempt).map .attempt) := ⟨_, rfl⟩
  have whole : Course prepared .prepared ([deploying] ++ [upgrading]) after :=
    course.append (upgrades ▸ .call (ends_map.2 ⟨_, ended, rfl⟩) (.done after))
  have unnamed : ∀ made ∈ [deploying] ++ [upgrading], ∀ order, made.call = .run order →
      IsFor order Address.preparedProxy "anvil" → Unnamed order.admin := by
    intro made member order runs _
    rcases List.mem_append.1 member with inside | inside
    · rw [List.mem_singleton.1 inside, deploys] at runs
      cases runs
    · rw [List.mem_singleton.1 inside, upgrades] at runs
      cases runs
      rfl
  obtain ⟨own, previous, admin, implementation, _, _, installed⟩ :=
    (ends_run.1 ended).of_override rfl rfl
  cases Address.parse_preparedProxy.symm.trans installed.parsed
  obtain ⟨upgrade, made⟩ : ∃ upgrade, upgrade = upgradeRecord .prepared Address.preparedProxy
    previous admin implementation middle.now := ⟨_, rfl⟩
  have twice : after.records? Address.preparedProxy "anvil" =
      .ok ([] ++ preparedRecord :: [upgrade]) := by
    obtain ⟨rows, readable, apart, -⟩ := installed.ledger
    cases ready.ledger.symm.trans readable
    have inMemory : ∀ place ∈ middle.log.place?,
        ¬ prepared.store.Touches .baseline "Token" "anvil" place := by
      rw [ready.memory]
      intro place own
      cases own
    have taken := rowOf_upgradeRecord .prepared Address.preparedProxy previous admin implementation
      middle.now
    have elsewhere : DeploymentLog.IsElsewhere Address.preparedProxy "anvil"
        (rawRecord UpgradeOrder.prepared.contract UpgradeOrder.prepared.network implementation
          middle.now).row := by
      refine .inl fun proxied => ?_
      cases proxied
    rw [← made] at taken
    rw [Books.records?_eq (apart inMemory), ← made, List.append_cons _ _ [upgrade.row],
      DeploymentLog.recordsOn_append_own taken (made ▸ rfl) (made ▸ rfl),
      DeploymentLog.recordsOn_append_other elsewhere, recordsOn_preparedRecord]
    rfl
  have alone : ∀ record ∈ [upgrade], record.action ≠ .deployProxy := by
    intro record inside
    rw [List.mem_singleton.1 inside, made]
    intro deployed
    cases deployed
  obtain ⟨kinds, -, recorded, -⟩ := transparent_proxies rfl whole twice rfl alone
  obtain ⟨sent, parsed, named⟩ := (recorded unnamed _ rfl).1 upgrade (List.mem_singleton_self _)
  cases (Address.parse_text _).symm.trans parsed
  exact ⟨deploying, upgrading, after, upgrade, whole, upgrades ▸ rfl, twice,
    (kinds upgrade (List.mem_singleton_self _)).1, named⟩

end Gate

end UpgradeGate
