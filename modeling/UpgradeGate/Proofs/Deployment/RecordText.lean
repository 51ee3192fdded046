import UpgradeGate.Deployment.Log
import UpgradeGate.Proofs.Chain.AddressText
import UpgradeGate.Proofs.Layout.RecordText

/-!
# Deployment records that are written and read back

The text of a record is read as that record, whatever the time (`DeploymentRecord.ofText_text`).
So a record that is appended for a proxy is from then on the latest one of the proxy on its network,
and no other proxy's or network's latest record changes (`DeploymentLog.latest?_append_own`).

A row may hold a record without a time, which then gets the time of reading. That is all that the
time of reading matters for (`DeploymentLog.map_untimed_latest?`).
-/

namespace UpgradeGate

namespace DeploymentRecord

/-- The members of a record's object. -/
theorem toJson_eq (record : DeploymentRecord) :
    record.toJson = .object [("contract_name", .string record.contract),
      ("network_id", .string record.network),
      ("implementation_address", .string record.implementation),
      ("proxy_address", .ofText? record.proxy),
      ("proxy_kind", .ofText? (record.kind.map ProxyKind.name)),
      ("admin_address", .ofText? record.admin), ("action", .string record.action.name),
      ("timestamp", .string record.timestamp)] := rfl

/-- A record's object is exact, so it is read back as it was written. -/
theorem isExact_toJson (record : DeploymentRecord) : record.toJson.IsExact := by
  simp [toJson_eq, Json.IsExact, Json.MembersExact, Json.isExact_ofText?]

/-- **Reading what was written.** The text of a record is read as the record, whatever the time. -/
theorem ofText_text (now : Moment) (record : DeploymentRecord) :
    ofText now record.text = .accepted record := by
  have text : ∀ s, Field.text (.string s) = .accepted s := fun _ => rfl
  have kind : ∀ given : Option ProxyKind, Field.nullable (Field.choice ProxyKind.ofName?)
      (.ofText? (given.map ProxyKind.name)) = .accepted given := by
    intro given
    rcases given with _ | kind
    · rfl
    · cases kind <;> rfl
  have action : Field.choice Action.ofName? (.string record.action.name) =
      .accepted record.action := by
    rw [Field.choice, Action.ofName?_name]
  rw [ofText, Field.stored, DeploymentRecord.text,
    Json.ofStoredText?_compactText record.isExact_toJson]
  dsimp only
  rw [toJson_eq, Field.object, check, Field.required_of_find? rfl (text record.contract),
    Field.required_of_find? rfl (text record.network),
    Field.required_of_find? rfl (text record.implementation),
    Field.optional_of_find? rfl (Field.nullable_ofText? record.proxy),
    Field.optional_of_find? rfl (kind record.kind),
    Field.optional_of_find? rfl (Field.nullable_ofText? record.admin),
    Field.optional_of_find? rfl action,
    Field.optional_of_find? rfl (text record.timestamp)]
  rfl

end DeploymentRecord

/-- The row of a record whose addresses are canonical. -/
def DeploymentRecord.row (record : DeploymentRecord) : Row :=
  ⟨record.contract, record.network, record.proxy, record.implementation, record.text⟩

/-! ## Searching the log -/

/-- The rows that a filter selects. -/
theorem Ledger.map_snd_select (rows : Ledger) (filter : Filter) :
    (rows.select filter).map Prod.snd = rows.filter filter.passes := by
  have shifted : ∀ first, ((numbered first rows).filter fun row => filter.passes row.2).map
      Prod.snd = rows.filter filter.passes := by
    induction rows with
    | nil => exact fun _ => rfl
    | cons row rest ih =>
      intro first
      simp only [numbered, List.filter_cons]
      split <;> simp [ih]
  exact shifted 1

namespace DeploymentLog

/-- The record in a row. -/
def recordOf (now : Moment) (row : Row) : Except Failure DeploymentRecord :=
  (DeploymentRecord.ofText now row.data).required .deploymentRecord

/-- The records of a proxy on a network. -/
def recordsOn (now : Moment) (rows : Ledger) (proxy : Address) (network : String) :
    Except Failure (List DeploymentRecord) :=
  (forProxy now rows proxy).map (·.filter (·.network == network))

/-- The latest record of a proxy on a network. -/
def latest? (now : Moment) (rows : Ledger) (proxy : Address) (network : String) :
    Except Failure (Option DeploymentRecord) :=
  (forProxy now rows proxy).map fun records => (records.filter (·.network == network)).getLast?

variable {now : Moment} {rows : Ledger} {row : Row} {record : DeploymentRecord} {proxy : Address}
  {network : String}

/-- The records of a proxy are those in the rows with its address. -/
theorem forProxy_eq (now : Moment) (rows : Ledger) (proxy : Address) :
    forProxy now rows proxy =
      (rows.filter (·.proxy == some proxy.text)).mapM (recordOf now) := by
  have passes : (Filter.mk none none (some proxy.text)).passes =
      fun row => row.proxy == some proxy.text := by
    funext row
    simp [Filter.passes]
  rw [← passes, ← Ledger.map_snd_select, List.mapM_map]
  rfl

/-- A record is read back from its row. -/
theorem recordOf_of_rowOf [AddressRule] (taken : rowOf record = .ok row) :
    recordOf now row = .ok record := by
  simp only [rowOf, bind, Except.bind, pure, Except.pure] at taken
  split at taken
  · cases taken
  split at taken
  · cases taken
  cases taken
  rw [recordOf, DeploymentRecord.ofText_text]
  rfl

/-- A record whose addresses are canonical has its own columns in its row. -/
theorem rowOf_eq_ok [AddressRule] {implementation : Address} {proxy? : Option Address}
    (deployed : record.implementation = implementation.text)
    (owned : record.proxy = proxy?.map Address.text) : rowOf record = .ok record.row := by
  have column : proxyColumn record.proxy = .ok record.proxy := by
    rw [owned]
    cases proxy? with
    | none => rfl
    | some proxy => simp [proxyColumn, Option.filter, Address.text_ne_empty, Except.map]
  rw [rowOf, column, deployed, Address.parse_text, DeploymentRecord.row, deployed]
  rfl

/-- A row without the proxy changes nothing of what is found for it. -/
theorem forProxy_append_other (other : row.proxy ≠ some proxy.text) :
    forProxy now (rows ++ [row]) proxy = forProxy now rows proxy := by
  rw [forProxy_eq, forProxy_eq, List.filter_append, List.filter_cons_of_neg (by simpa using other),
    List.filter_nil, List.append_nil]

/-- A row of the proxy is found behind all that was found before. -/
theorem forProxy_append_own [AddressRule] (taken : rowOf record = .ok row)
    (own : row.proxy = some proxy.text) :
    forProxy now (rows ++ [row]) proxy = (forProxy now rows proxy).map (· ++ [record]) := by
  rw [forProxy_eq, forProxy_eq, List.filter_append, List.filter_cons_of_pos (by simpa using own),
    List.filter_nil, List.mapM_append, List.mapM_cons, recordOf_of_rowOf taken, List.mapM_nil]
  cases (rows.filter (·.proxy == some proxy.text)).mapM (recordOf now) <;> rfl

/-- The latest record of a proxy is the last of its records. -/
theorem latest?_eq (now : Moment) (rows : Ledger) (proxy : Address) (network : String) :
    latest? now rows proxy network = (recordsOn now rows proxy network).map List.getLast? := by
  rw [latest?, recordsOn]
  cases forProxy now rows proxy <;> rfl

/-- A record of the proxy on the network comes behind its others. -/
theorem recordsOn_append_own [AddressRule] (taken : rowOf record = .ok row)
    (own : row.proxy = some proxy.text) (here : record.network = network) :
    recordsOn now (rows ++ [row]) proxy network =
      (recordsOn now rows proxy network).map (· ++ [record]) := by
  rw [recordsOn, recordsOn, forProxy_append_own taken own]
  cases forProxy now rows proxy with
  | error failure => rfl
  | ok records => simp [Except.map, List.filter_append, here]

/-- **The latest record** of a proxy on a network is the one that was appended last for it. -/
theorem latest?_append_own [AddressRule] (taken : rowOf record = .ok row)
    (own : row.proxy = some proxy.text) (here : record.network = network) :
    latest? now (rows ++ [row]) proxy network =
      (latest? now rows proxy network).map fun _ => some record := by
  rw [latest?_eq, latest?_eq, recordsOn_append_own taken own here]
  cases recordsOn now rows proxy network with
  | error failure => rfl
  | ok records => simp [Except.map]

/-- A row tells nothing of a proxy on a network. -/
def IsElsewhere [AddressRule] (proxy : Address) (network : String) (row : Row) : Prop :=
  row.proxy ≠ some proxy.text ∨ ∃ record, rowOf record = .ok row ∧ record.network ≠ network

/-- The row of another proxy, or of another network, is elsewhere. -/
theorem isElsewhere_of_rowOf [AddressRule] {other : Address} {here : String}
    (taken : rowOf record = .ok row)
    (own : row.proxy = some proxy.text) (different : ¬ (proxy = other ∧ record.network = here)) :
    IsElsewhere other here row := by
  by_cases same : proxy = other
  · exact .inr ⟨record, taken, fun there => different ⟨same, there⟩⟩
  · rw [IsElsewhere, own]
    exact .inl fun alike => same (Address.text_injective (Option.some.inj alike))

/-- A row elsewhere adds no record. -/
theorem recordsOn_append_other [AddressRule] (elsewhere : IsElsewhere proxy network row) :
    recordsOn now (rows ++ [row]) proxy network = recordsOn now rows proxy network := by
  rw [recordsOn, recordsOn]
  by_cases own : row.proxy = some proxy.text
  · obtain ⟨record, taken, away⟩ := elsewhere.resolve_left (not_not_intro own)
    rw [forProxy_append_own taken own]
    cases forProxy now rows proxy with
    | error failure => rfl
    | ok records => simp [Except.map, List.filter_append, away]
  · rw [forProxy_append_other own]

/-- Rows of other proxies and networks do not change the records of a proxy on a network. -/
theorem recordsOn_append_others [AddressRule] {more : Ledger}
    (elsewhere : ∀ row ∈ more, IsElsewhere proxy network row) :
    recordsOn now (rows ++ more) proxy network = recordsOn now rows proxy network := by
  induction more generalizing rows with
  | nil => rw [List.append_nil]
  | cons row rest ih =>
    rw [← List.singleton_append, ← List.append_assoc,
      ih fun row member => elsewhere row (List.mem_cons_of_mem _ member),
      recordsOn_append_other (elsewhere row List.mem_cons_self)]

/-- A row elsewhere does not change the latest record. -/
theorem latest?_append_other [AddressRule] (elsewhere : IsElsewhere proxy network row) :
    latest? now (rows ++ [row]) proxy network = latest? now rows proxy network := by
  rw [latest?_eq, latest?_eq, recordsOn_append_other elsewhere]

/-- Rows elsewhere do not change the latest record. -/
theorem latest?_append_others [AddressRule] {more : Ledger}
    (elsewhere : ∀ row ∈ more, IsElsewhere proxy network row) :
    latest? now (rows ++ more) proxy network = latest? now rows proxy network := by
  rw [latest?_eq, latest?_eq, recordsOn_append_others elsewhere]

end DeploymentLog

/-! ## The time of reading -/

namespace DeploymentRecord

/-- A record without its time. -/
def untimed (record : DeploymentRecord) : DeploymentRecord := { record with timestamp := "" }

/-- When a record is read shows in its time only. -/
theorem map_untimed_check (now now' : Moment) (members : Json.Members) :
    untimed <$> check now members = untimed <$> check now' members := by
  rw [check, check]
  generalize taken : (DeploymentRecord.mk <$> Field.required Field.text members "contract_name"
    <*> Field.required Field.text members "network_id"
    <*> Field.required Field.text members "implementation_address"
    <*> Field.optional none (Field.nullable Field.text) members "proxy_address"
    <*> Field.optional none (Field.nullable (Field.choice ProxyKind.ofName?)) members "proxy_kind"
    <*> Field.optional none (Field.nullable Field.text) members "admin_address"
    <*> Field.optional .deploy (Field.choice Action.ofName?) members "action") = build
  cases given : Json.find? members "timestamp" with
  | some value => rw [Field.optional, Field.optional, given]
  | none =>
    rw [Field.optional, Field.optional, given]
    refine Checked.map_seq_accepted_congr ?_ now.text now'.text
    intro g accepted early late
    rw [accepted] at taken
    obtain ⟨_, _, taken₆, -, rfl⟩ := Checked.seq_eq_accepted_iff.1 taken
    obtain ⟨_, _, taken₅, -, rfl⟩ := Checked.seq_eq_accepted_iff.1 taken₆
    obtain ⟨_, _, taken₄, -, rfl⟩ := Checked.seq_eq_accepted_iff.1 taken₅
    obtain ⟨_, _, taken₃, -, rfl⟩ := Checked.seq_eq_accepted_iff.1 taken₄
    obtain ⟨_, _, taken₂, -, rfl⟩ := Checked.seq_eq_accepted_iff.1 taken₃
    obtain ⟨_, _, taken₁, -, rfl⟩ := Checked.seq_eq_accepted_iff.1 taken₂
    obtain ⟨_, -, rfl⟩ := Checked.map_eq_accepted_iff.1 taken₁
    rfl

/-- When the text of a record is read shows in its time only. -/
theorem map_untimed_ofText (now now' : Moment) (text : String) :
    untimed <$> ofText now text = untimed <$> ofText now' text := by
  rw [ofText, ofText, Field.stored, Field.stored]
  cases Json.ofStoredText? text with
  | none => rfl
  | some document =>
    cases document with
    | object members => exact map_untimed_check now now' members
    | _ => simp only [Field.object]

end DeploymentRecord

namespace DeploymentLog

/-- When a row is read shows in the time of its record only. -/
theorem map_untimed_recordOf (now now' : Moment) (row : Row) :
    (recordOf now row).map DeploymentRecord.untimed =
      (recordOf now' row).map DeploymentRecord.untimed := by
  have same := DeploymentRecord.map_untimed_ofText now now' row.data
  rw [recordOf, recordOf]
  revert same
  generalize DeploymentRecord.ofText now row.data = read
  generalize DeploymentRecord.ofText now' row.data = read'
  intro same
  cases read <;> cases read' <;> simp_all [Functor.map, Checked.map, Checked.required, Except.map]

/-- When rows are read shows in the times of their records only. -/
theorem map_untimed_mapM (now now' : Moment) (rows : Ledger) :
    (rows.mapM (recordOf now)).map (List.map DeploymentRecord.untimed) =
      (rows.mapM (recordOf now')).map (List.map DeploymentRecord.untimed) := by
  induction rows with
  | nil => rw [List.mapM_nil, List.mapM_nil]
  | cons row rest ih =>
    have first := map_untimed_recordOf now now' row
    rw [List.mapM_cons, List.mapM_cons]
    revert first ih
    generalize recordOf now row = one
    generalize recordOf now' row = one'
    generalize rest.mapM (recordOf now) = others
    generalize rest.mapM (recordOf now') = others'
    intro first ih
    cases one <;> cases one' <;> cases others <;> cases others' <;>
      simp_all [Except.map, bind, Except.bind, pure, Except.pure]

/-- **The time** at which the log is read matters for no record but for its own time. -/
theorem map_untimed_recordsOn (now now' : Moment) (rows : Ledger) (proxy : Address)
    (network : String) :
    (recordsOn now rows proxy network).map (List.map DeploymentRecord.untimed) =
      (recordsOn now' rows proxy network).map (List.map DeploymentRecord.untimed) := by
  have kept : ∀ records : List DeploymentRecord,
      (records.filter (·.network == network)).map DeploymentRecord.untimed =
        (records.map DeploymentRecord.untimed).filter (·.network == network) := by
    intro records
    rw [List.filter_map]
    rfl
  have same := map_untimed_mapM now now' (rows.filter (·.proxy == some proxy.text))
  rw [recordsOn, recordsOn, forProxy_eq, forProxy_eq]
  revert same
  generalize (rows.filter (·.proxy == some proxy.text)).mapM (recordOf now) = found
  generalize (rows.filter (·.proxy == some proxy.text)).mapM (recordOf now') = found'
  intro same
  cases found <;> cases found' <;> simp_all [Except.map]

/-- When the latest record is looked up shows in its time only. -/
theorem map_untimed_latest? (now now' : Moment) (rows : Ledger) (proxy : Address)
    (network : String) :
    (latest? now rows proxy network).map (Option.map DeploymentRecord.untimed) =
      (latest? now' rows proxy network).map (Option.map DeploymentRecord.untimed) := by
  have same := map_untimed_recordsOn now now' rows proxy network
  rw [latest?_eq, latest?_eq]
  cases found : recordsOn now rows proxy network <;>
    cases found' : recordsOn now' rows proxy network <;>
      simp_all [Except.map, ← List.getLast?_map]

/-- Where there is no record at one time, there is none at another. -/
theorem recordsOn_eq_nil {now : Moment} {rows : Ledger} {proxy : Address} {network : String}
    (unknown : recordsOn now rows proxy network = .ok []) (now' : Moment) :
    recordsOn now' rows proxy network = .ok [] := by
  have same := map_untimed_recordsOn now now' rows proxy network
  rw [unknown] at same
  cases found : recordsOn now' rows proxy network <;> simp_all [Except.map]

end DeploymentLog

end UpgradeGate
